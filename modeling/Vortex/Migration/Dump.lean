import Mathlib.Data.List.Sort
import Vortex.Gateway.Messages
import Vortex.Migration.Transform

/-!
# Table dumps

`exportTable` pages through a table inside one snapshot and appends a line of JSON
for each row; `readRows` splits the dump into lines and parses them. Paging gives
every row once, in the order of its key. The rows come back exactly when every cell
survives (`Vortex.Migration.SourceTable.read_back_iff`): `JSON.stringify` leaves
U+2028 and U+2029 as they are, and `readline` ends lines there.
-/

variable {rows portable : List PortableRow} {query : Nat → List PgRow}

namespace Vortex.Migration

open Foundation List
open Foundation.JsString (decodeFrom decodeUtf8 encodeUtf8 endsLine lines lines_append wellFormed)
open Foundation.Json (Printable any_endsLine_stringify exactMembers parse parse_cut parse_stringify
  printed printedMembers printedMembers_eq_iff separatedMembers separatedMembers_printedMembers
  stringify wellFormed_stringify)
open Vortex.Gateway (isWhiteSpace mem_trim trim)

/-! ## Export -/

/-- `BATCH_SIZE`. -/
def batchSize : Nat := 2000

inductive ExportError
  /-- `toISOString` threw. -/
  | invalidTime
  /-- The loop was cut short. -/
  | unfinished

/-- The text of one row. -/
def rowText (row : PortableRow) : JsString := stringify (printed (.obj row))

/-- `rows.map((row) => JSON.stringify(toPortableRow(row))).join("\n") + "\n"`. -/
def pageText (rows : List PortableRow) : JsString :=
  List.intercalate [10] (rows.map rowText) ++ [10]

def portableRows (rows : List PgRow) : Except ExportError (List PortableRow) :=
  match rows.mapM toPortableRow with
  | some portable => .ok portable
  | none => .error .invalidTime

/-- The loop of `exportTable`, from an offset, with what the dump holds and the rows
counted so far. -/
def exportFrom (query : Nat → List PgRow) :
    Nat → Nat → List UInt8 × Nat → Except ExportError (List UInt8 × Nat)
  | 0, _, _ => .error .unfinished
  | fuel + 1, offset, (dump, total) =>
      let rows := query offset
      if rows.length = 0 then .ok (dump, total)
      else do
        let portable ← portableRows rows
        let dump := dump ++ encodeUtf8 (pageText portable)
        let total := total + rows.length
        if rows.length < batchSize then return (dump, total)
        else exportFrom query fuel (offset + batchSize) (dump, total)

/-- `exportTable`: the dump and the number of rows, given the answers to its queries by
their offset. -/
def exportTable (query : Nat → List PgRow) (fuel : Nat) :
    Except ExportError (List UInt8 × Nat) :=
  exportFrom query fuel 0 ([], 0)

/-! ## Import -/

/-- Parse the lines that are not blank; `none` when one is no JSON. -/
def parseLines : List JsString → Option (List Json)
  | [] => some []
  | line :: rest =>
      if (trim line).isEmpty then parseLines rest
      else do
        let row ← parse line
        let rows ← parseLines rest
        return row :: rows

/-- `readRows` on the contents of a dump; `none` when it throws. -/
def readRows (dump : Option (List UInt8)) : Option (List Json) :=
  dump.bind fun bytes => parseLines (lines (decodeUtf8 bytes))

/-! ## The text of a dump -/

/-- The lines of some rows. -/
def dumpText (rows : List PortableRow) : JsString := rows.flatMap fun row => rowText row ++ [10]

theorem dumpText_append (first second : List PortableRow) :
    dumpText (first ++ second) = dumpText first ++ dumpText second := flatMap_append

theorem pageText_eq (filled : rows ≠ []) : pageText rows = dumpText rows := by
  unfold pageText dumpText
  induction rows with
  | nil => exact absurd rfl filled
  | cons row rest ih =>
    cases rest with
    | nil => simp
    | cons next rest =>
      have later := ih (cons_ne_nil next rest)
      rw [map_cons] at later
      rw [map_cons, map_cons, intercalate_cons_cons, append_assoc, append_assoc, later]
      simp only [flatMap_cons, append_assoc]

/-- The rows whose numbers carry the text of a number. -/
def Genuine (row : PortableRow) : Prop := Printable (printed (.obj row))

theorem wellFormed_dumpText (genuine : ∀ row ∈ rows, Genuine row) :
    wellFormed (dumpText rows) = true := by
  induction rows with
  | nil => rfl
  | cons row rest ih =>
    rw [forall_mem_cons] at genuine
    rw [dumpText, flatMap_cons]
    exact JsString.wellFormed_append
      (JsString.wellFormed_append (wellFormed_stringify _ genuine.1) rfl) (ih genuine.2)

/-- A row's text opens with a brace, so its line is not blank. -/
theorem rowText_cons (row : PortableRow) : ∃ rest, rowText row = 123 :: rest := by
  unfold rowText printed stringify
  exact ⟨_, rfl⟩

theorem trim_ne_nil (line : JsString) (brace : (123 : UInt16) ∈ line) :
    ¬ (trim line).isEmpty = true := by
  intro blank
  have kept := mem_trim (show isWhiteSpace 123 = false by decide) brace
  rw [List.isEmpty_iff.mp blank] at kept
  cases kept

section

variable (genuine : ∀ row ∈ rows, Genuine row)

include genuine

/-- Rows on one line each are parsed one after the other. -/
theorem parseLines_dumpText (whole : ∀ row ∈ rows, separatedMembers row = false) :
    parseLines (lines (dumpText rows)) = some (rows.map fun row => printed (.obj row)) := by
  induction rows with
  | nil => rfl
  | cons row rest ih =>
    rw [forall_mem_cons] at genuine whole
    have line : (rowText row).any endsLine = false := by
      rw [rowText, any_endsLine_stringify _ genuine.1, printed, Json.separated,
        separatedMembers_printedMembers, whole.1]
    obtain ⟨text, opens⟩ := rowText_cons row
    have visible := trim_ne_nil (rowText row) (by rw [opens]; exact mem_cons_self)
    rw [dumpText, flatMap_cons, append_assoc, singleton_append,
      lines_append line (by decide) (by decide), parseLines, if_neg visible, rowText,
      parse_stringify genuine.1]
    have later := ih genuine.2 whole.2
    rw [dumpText] at later
    rw [later]
    rfl

/-- A separator ends the line of its row too early, and what is left of it is no JSON. -/
theorem parseLines_separated (broken : ∃ row ∈ rows, separatedMembers row = true) :
    parseLines (lines (dumpText rows)) = none := by
  induction rows with
  | nil => simp at broken
  | cons row rest ih =>
    rw [forall_mem_cons] at genuine
    have ends : (rowText row).any endsLine = separatedMembers row := by
      rw [rowText, any_endsLine_stringify _ genuine.1, printed, Json.separated,
        separatedMembers_printedMembers]
    obtain ⟨text, opens⟩ := rowText_cons row
    rw [dumpText, flatMap_cons, append_assoc, singleton_append]
    cases apart : separatedMembers row with
    | false =>
      rw [apart] at ends
      have visible := trim_ne_nil (rowText row) (by rw [opens]; exact mem_cons_self)
      have later : parseLines (lines (dumpText rest)) = none := by
        apply ih genuine.2
        obtain ⟨found, member, separator⟩ := broken
        rcases mem_cons.mp member with rfl | member
        · rw [apart] at separator
          cases separator
        · exact ⟨found, member, separator⟩
      rw [dumpText] at later
      rw [lines_append ends (by decide) (by decide), parseLines, if_neg visible, later]
      cases parse (rowText row) <;> rfl
    | true =>
      rw [apart] at ends
      obtain ⟨before, unit, after, cut, plain, ending⟩ := JsString.exists_cut ends
      have opened : before ≠ [] := by
        rintro rfl
        rw [opens, nil_append] at cut
        rw [← (cons.inj cut).1] at ending
        exact absurd ending (by decide)
      obtain ⟨first, tail, rfl⟩ := exists_cons_of_ne_nil opened
      have brace : first = 123 := by
        rw [opens, cons_append] at cut
        exact (cons.inj cut).1.symm
      subst brace
      obtain ⟨later, split⟩ := JsString.lines_cut plain ending (after ++ 10 :: List.flatMap
        (fun row => rowText row ++ [10]) rest)
      have failed := parse_cut genuine.1 cut opened (cons_ne_nil unit after)
      rw [cut, append_assoc, @List.cons_append _ unit after, split, parseLines,
        if_neg (trim_ne_nil _ mem_cons_self), failed]
      rfl

theorem readRows_dumpText :
    readRows (some (encodeUtf8 (dumpText rows))) = parseLines (lines (dumpText rows)) := by
  rw [readRows, Option.bind_some, JsString.decodeUtf8_encodeUtf8 (wellFormed_dumpText genuine)]

end

/-! ## Paging -/

/-- The portable rows of some rows. -/
def Exported (rows : List PgRow) (portable : List PortableRow) : Prop :=
  List.Forall₂ (fun row out => toPortableRow row = some out) rows portable

theorem exported_iff {rows : List PgRow} :
    rows.mapM toPortableRow = some portable ↔ Exported rows portable := by
  induction rows generalizing portable with
  | nil => simp [Exported, eq_comm]
  | cons row rest ih =>
    rw [mapM_cons]
    constructor
    · intro converted
      obtain ⟨out, first, converted⟩ := Option.bind_eq_some_iff.mp converted
      obtain ⟨later, others, converted⟩ := Option.bind_eq_some_iff.mp converted
      cases converted
      exact .cons first (ih.mp others)
    · intro exported
      cases exported with
      | cons first others => simp [first, ih.mpr others]

theorem Exported.exists_row {rows : List PgRow} (exported : Exported rows portable)
    {out : PortableRow} (member : out ∈ portable) : ∃ row ∈ rows, toPortableRow row = some out := by
  induction exported with
  | nil => cases member
  | cons first _ ih =>
    rcases mem_cons.mp member with rfl | later
    · exact ⟨_, mem_cons_self, first⟩
    · obtain ⟨row, inside, known⟩ := ih later
      exact ⟨row, mem_cons_of_mem _ inside, known⟩

theorem Exported.exists_portable {rows : List PgRow} (exported : Exported rows portable)
    {row : PgRow} (member : row ∈ rows) : ∃ out ∈ portable, toPortableRow row = some out := by
  induction exported with
  | nil => cases member
  | cons first _ ih =>
    rcases mem_cons.mp member with rfl | later
    · exact ⟨_, mem_cons_self, first⟩
    · obtain ⟨out, inside, known⟩ := ih later
      exact ⟨out, mem_cons_of_mem _ inside, known⟩

/-- Rows that can all be converted are. -/
theorem exists_exported {rows : List PgRow}
    (valid : ∀ row ∈ rows, ∃ out, toPortableRow row = some out) :
    ∃ portable, Exported rows portable := by
  induction rows with
  | nil => exact ⟨[], .nil⟩
  | cons row rest ih =>
    rw [forall_mem_cons] at valid
    obtain ⟨out, first⟩ := valid.1
    obtain ⟨portable, others⟩ := ih valid.2
    exact ⟨out :: portable, .cons first others⟩

/-- From an offset on, the loop appends a line for each row and counts it. -/
theorem exportFrom_eq {sorted : List PgRow}
    (pages : ∀ offset, query offset = (sorted.drop offset).take batchSize)
    (genuine : ∀ row ∈ sorted, ∀ out, toPortableRow row = some out → Genuine out)
    {fuel offset : Nat} (enough : (sorted.drop offset).length < fuel) (dump : List UInt8)
    (total : Nat) :
    exportFrom query fuel offset (dump, total) =
      match (sorted.drop offset).mapM toPortableRow with
      | some portable => .ok (dump ++ encodeUtf8 (dumpText portable), total + portable.length)
      | none => .error .invalidTime := by
  induction fuel generalizing offset dump total with
  | zero => exact absurd enough (Nat.not_lt_zero _)
  | succ fuel ih =>
    rw [exportFrom, pages offset]
    dsimp only
    have positive : 0 < batchSize := by decide
    by_cases finished : ((sorted.drop offset).take batchSize).length = 0
    · have nothing : sorted.drop offset = [] := by
        rw [length_take] at finished
        exact length_eq_zero_iff.mp (by omega)
      rw [if_pos finished, nothing]
      simp [dumpText, encodeUtf8]
    · rw [if_neg finished]
      have cut : sorted.drop offset =
          (sorted.drop offset).take batchSize ++ sorted.drop (offset + batchSize) := by
        rw [← drop_drop, take_append_drop]
      have converted : (sorted.drop offset).mapM toPortableRow = (do
          let page ← ((sorted.drop offset).take batchSize).mapM toPortableRow
          let later ← (sorted.drop (offset + batchSize)).mapM toPortableRow
          return page ++ later) := by
        conv_lhs => rw [cut]
        exact mapM_append
      rw [converted]
      cases page : ((sorted.drop offset).take batchSize).mapM toPortableRow with
      | none =>
        rw [portableRows, page]
        rfl
      | some portable =>
        have lengths := (exported_iff.mp page).length_eq
        have filled : portable ≠ [] := by
          rintro rfl
          exact finished lengths
        have formed : wellFormed (dumpText portable) = true := by
          apply wellFormed_dumpText
          intro out member
          obtain ⟨row, inside, known⟩ := (exported_iff.mp page).exists_row member
          exact genuine row (mem_of_mem_drop (mem_of_mem_take inside)) out known
        rw [portableRows, page]
        simp only [Option.bind_eq_bind, Option.bind_some, Option.pure_def]
        change (if _ then _ else _) = _
        rw [pageText_eq filled]
        by_cases last : ((sorted.drop offset).take batchSize).length < batchSize
        · have nothing : sorted.drop (offset + batchSize) = [] := by
            rw [length_take] at last
            apply drop_eq_nil_of_le
            rw [length_drop] at last
            omega
          rw [if_pos last, nothing]
          simp [lengths]
          rfl
        · rw [if_neg last, ih (by
            rw [length_drop] at enough ⊢
            rw [length_take, length_drop] at finished
            omega)]
          cases (sorted.drop (offset + batchSize)).mapM toPortableRow with
          | none => rfl
          | some later =>
            simp only [Option.bind_some, length_append, lengths, dumpText_append]
            rw [JsString.encodeUtf8_append formed, append_assoc, Nat.add_assoc]

/-! ## Source tables -/

/-- A table of the source: its columns, its rows, and the key its `ORDER BY` compares,
which no two rows share. -/
structure SourceTable (Key : Type) where
  columns : List JsString
  columns_distinct : columns.Nodup
  columns_own : js "__proto__" ∉ columns
  rows : List PgRow
  rows_columns : ∀ row ∈ rows, row.map Prod.fst = columns
  key : PgRow → Key
  key_unique : (rows.map key).Nodup

namespace SourceTable

section Rows

variable {Key : Type} {table : SourceTable Key} {row : PgRow} (member : row ∈ table.rows)

include member

theorem distinct : (row.map Prod.fst).Nodup := by
  rw [table.rows_columns row member]
  exact table.columns_distinct

theorem own : js "__proto__" ∉ row.map Prod.fst := by
  rw [table.rows_columns row member]
  exact table.columns_own

theorem genuine {out : PortableRow} (converted : toPortableRow row = some out) : Genuine out := by
  have printable := printable_toPortableRow (distinct member) (own member) converted
  rw [Genuine, printed]
  unfold Printable
  exact printable

end Rows

variable {Key : Type} [LinearOrder Key] (table : SourceTable Key)

/-- The rows in the order of their key. -/
structure Sorted (sorted : List PgRow) : Prop where
  perm : sorted.Perm table.rows
  ordered : sorted.Pairwise fun first second => table.key first ≤ table.key second

/-- `SELECT * … ORDER BY … LIMIT 2000 OFFSET offset` on this table: each answer is a page
of the rows in some order that sorts them. -/
def Answers (query : Nat → List PgRow) : Prop :=
  ∀ offset, ∃ sorted, table.Sorted sorted ∧ query offset = (sorted.drop offset).take batchSize

variable {table}

/-- No two rows have the same key, so the order is the same for every query. -/
theorem Sorted.unique {first second : List PgRow} (left : table.Sorted first)
    (right : table.Sorted second) : first = second := by
  refine List.Perm.eq_of_pairwise ?_ left.ordered right.ordered (left.perm.trans right.perm.symm)
  intro row other member member' below above
  have inside := left.perm.mem_iff.mp member
  have inside' := right.perm.mem_iff.mp member'
  exact inj_on_of_nodup_map table.key_unique inside inside' (le_antisymm below above)

theorem Answers.sorted (answers : table.Answers query) :
    ∃ sorted, table.Sorted sorted ∧
      ∀ offset, query offset = (sorted.drop offset).take batchSize := by
  obtain ⟨sorted, ordered, -⟩ := answers 0
  refine ⟨sorted, ordered, ?_⟩
  intro offset
  obtain ⟨other, ordered', page⟩ := answers offset
  rw [page, ordered.unique ordered']

/-- What the export writes, whatever order its queries were answered in. -/
theorem Answers.exportTable_eq (answers : table.Answers query) {fuel : Nat}
    (enough : table.rows.length < fuel) :
    ∃ sorted, table.Sorted sorted ∧ exportTable query fuel =
      match sorted.mapM toPortableRow with
      | some portable => .ok (encodeUtf8 (dumpText portable), portable.length)
      | none => .error .invalidTime := by
  obtain ⟨sorted, ordered, pages⟩ := answers.sorted
  refine ⟨sorted, ordered, ?_⟩
  have printable : ∀ row ∈ sorted, ∀ out, toPortableRow row = some out → Genuine out :=
    fun row inside out converted => genuine (ordered.perm.mem_iff.mp inside) converted
  rw [exportTable, exportFrom_eq pages printable (by
    rw [drop_zero, ordered.perm.length_eq]
    exact enough)]
  simp only [drop_zero, nil_append, Nat.zero_add]

/-- The portable rows of an order of the rows are exported, and their dump gives them back. -/
def ReadBack (query : Nat → List PgRow) (fuel : Nat) (sorted : List PgRow) : Prop :=
  ∃ portable dump, sorted.mapM toPortableRow = some portable ∧
    exportTable query fuel = .ok (dump, portable.length) ∧
    readRows (some dump) = some (portable.map .obj)

/-- Paging emits every row once, in the order of the key, and the dump gives the portable
rows back exactly when every cell survives. -/
theorem read_back_iff {query : Nat → List PgRow} (answers : table.Answers query) {fuel : Nat}
    (enough : table.rows.length < fuel) :
    ∃ sorted, table.Sorted sorted ∧
      (exportTable query fuel =
        match sorted.mapM toPortableRow with
        | some portable => .ok (encodeUtf8 (dumpText portable), portable.length)
        | none => .error .invalidTime) ∧
      (ReadBack query fuel sorted ↔
        ∀ row ∈ table.rows, ∀ entry ∈ row, survives entry = true) := by
  obtain ⟨sorted, ordered, written⟩ := answers.exportTable_eq enough
  refine ⟨sorted, ordered, written, ?_⟩
  have members : ∀ row, row ∈ table.rows ↔ row ∈ sorted := fun row => ordered.perm.mem_iff.symm
  constructor
  · rintro ⟨portable, dump, converted, succeeded, read⟩ row member
    have exported := exported_iff.mp converted
    have genuine : ∀ out ∈ portable, Genuine out := by
      intro out inside
      obtain ⟨row, inside, known⟩ := exported.exists_row inside
      exact genuine ((members row).mpr inside) known
    rw [succeeded, converted] at written
    obtain rfl := (Prod.mk.inj (Except.ok.inj written)).1
    rw [readRows_dumpText genuine] at read
    have whole : ∀ out ∈ portable, separatedMembers out = false := by
      intro out inside
      cases apart : separatedMembers out with
      | false => rfl
      | true =>
          rw [parseLines_separated genuine ⟨out, inside, apart⟩] at read
          cases read
    rw [parseLines_dumpText genuine whole] at read
    have same := List.map_inj_left.mp (Option.some.inj read)
    obtain ⟨out, inside, known⟩ := exported.exists_portable ((members row).mp member)
    refine (portable_iff_survives (distinct member) (own member)).mpr
      ⟨out, known, whole out inside, ?_⟩
    have unchanged := same out inside
    rw [printed] at unchanged
    exact (printedMembers_eq_iff out).mp (Json.obj.inj unchanged)
  · intro survive
    have kept : ∀ row ∈ sorted, ∃ out, toPortableRow row = some out ∧
        separatedMembers out = false ∧ exactMembers out = true := by
      intro row inside
      have member := (members row).mpr inside
      exact (portable_iff_survives (distinct member) (own member)).mp (survive row member)
    obtain ⟨portable, exported⟩ := exists_exported fun row inside =>
      (kept row inside).imp fun _ found => found.1
    have good : ∀ out ∈ portable, Genuine out ∧ separatedMembers out = false ∧
        exactMembers out = true := by
      intro out inside
      obtain ⟨row, inside, known⟩ := exported.exists_row inside
      obtain ⟨out', known', found⟩ := kept row inside
      obtain rfl := Option.some.inj (known.symm.trans known')
      exact ⟨genuine ((members row).mpr inside) known, found⟩
    have converted := exported_iff.mpr exported
    rw [converted] at written
    refine ⟨portable, _, converted, written, ?_⟩
    rw [readRows_dumpText fun out inside => (good out inside).1,
      parseLines_dumpText (fun out inside => (good out inside).1)
        fun out inside => (good out inside).2.1]
    refine congrArg some (List.map_inj_left.mpr ?_)
    intro out inside
    rw [printed, (printedMembers_eq_iff out).mpr (good out inside).2.2]

/-- A column of text. -/
def textValue (text : JsString) : PgValue :=
  .plain (.str text) (by
    rw [printed]
    unfold Printable
    trivial)

/-- A table with one row. -/
def notes (body : JsString) : SourceTable Nat where
  columns := [js "id", js "body"]
  columns_distinct := by decide
  columns_own := by decide
  rows := [[(js "id", textValue (js "n1")), (js "body", textValue body)]]
  rows_columns := by simp
  key := List.length
  key_unique := List.nodup_singleton _

/-- The answers of a source that holds the table. -/
def notesQuery (body : JsString) (offset : Nat) : List PgRow :=
  ((notes body).rows.drop offset).take batchSize

theorem notes_answers (body : JsString) : (notes body).Answers (notesQuery body) :=
  fun _ => ⟨(notes body).rows, ⟨List.Perm.refl _, pairwise_singleton _ _⟩, rfl⟩

/-- A plain note comes back. -/
theorem plain_note_read_back :
    ∃ sorted, (notes (js "hello")).Sorted sorted ∧
      (exportTable (notesQuery (js "hello")) 2 =
        match sorted.mapM toPortableRow with
        | some portable => .ok (encodeUtf8 (dumpText portable), portable.length)
        | none => .error .invalidTime) ∧
      (ReadBack (notesQuery (js "hello")) 2 sorted ↔
        ∀ row ∈ (notes (js "hello")).rows, ∀ entry ∈ row, survives entry = true) :=
  read_back_iff (notes_answers (js "hello")) (by decide)

/-- A note with U+2028 in it is exported as a line that `readline` breaks. -/
theorem separated_note_lost : ¬ ∃ sorted, (notes [97, 0x2028, 98]).Sorted sorted ∧
    ReadBack (notesQuery [97, 0x2028, 98]) 2 sorted := by
  rintro ⟨sorted, -, portable, dump, -, exported, read⟩
  have lost : (match exportTable (notesQuery [97, 0x2028, 98]) 2 with
      | .ok (dump, _) => (readRows (some dump)).isNone
      | .error _ => false) = true := by
    decide
  rw [exported] at lost
  dsimp only at lost
  rw [read] at lost
  cases lost

end SourceTable

end Vortex.Migration
