import Mathlib.Tactic.FinCases
import Vortex.Migration.Dump
import Vortex.Migration.Schema

/-!
# The import

`importAllTables` creates the tables in a fresh file and loads the dumps in the order
of `MIGRATION_TABLES`, with foreign keys enforced at each row; the triggers and the
full-text index come afterwards and read the loaded rows only. For data that satisfies
the constraints of its source, the import loads every row exactly when the dumps can
be read back, every `NOT NULL` column is there, and no message comes before the
message it replies to (`Vortex.Migration.SourceData.imported_iff`).
-/

namespace Vortex.Migration

open Foundation List
open Foundation.JsString (encodeUtf8)
open Foundation.Json (exact isFinite printed printedMembers printed_eq_iff separatedMembers)
open Foundation.Relational (Admitted Consistent insert load loadAll loadAll_iff loaded_of_loadAll)

/-- The row an insert of some values makes. -/
def bound (columns : List JsString) (values : List SqliteBindValue) : SqliteRow :=
  fun column => ((columns.zip values).find? fun pair => pair.1 = column).bind Prod.snd

/-- `importTable`: the database with the rows, and their number; `none` when it throws. -/
def importTable (sqlite : SqliteDatabase) (table : Schema) (rows : List Json) :
    Option (SqliteDatabase × Nat) :=
  if rows.length = 0 then some (sqlite, 0)
  else do
    let sqlite ← rows.foldlM (fun sqlite row => do
      let values ← toSqliteBindValues row table.columns
      insert table sqlite (bound table.columns values)) sqlite
    return (sqlite, rows.length)

/-- The loop of `importAllTables` over the tables. -/
def importTables (dumps : JsString → Option (List UInt8)) :
    List TableSpec → SqliteDatabase × List (JsString × Nat) →
      Option (SqliteDatabase × List (JsString × Nat))
  | [], loaded => some loaded
  | table :: rest, (sqlite, counts) => do
      let rows ← readRows (dumps table.name)
      let schema ← schemaOf table.name
      let (sqlite, count) ← importTable sqlite schema rows
      importTables dumps rest (sqlite, counts ++ [(table.name, count)])

/-- `importAllTables`; `none` when it throws and removes the file. -/
def importAllTables (targetExists : Bool) (dumps : JsString → Option (List UInt8)) :
    Option (SqliteDatabase × List (JsString × Nat)) :=
  if targetExists then none else importTables dumps MIGRATION_TABLES (fun _ => [], [])

/-! ## Bound rows -/

/-- The row a portable row becomes. -/
def boundRow (table : Schema) (row : PortableRow) : SqliteRow :=
  fun column =>
    if column ∈ table.columns then bindValue ((Json.obj row).get? column) else none

theorem bound_map (columns : List JsString) (value : JsString → SqliteBindValue) :
    bound columns (columns.map value) =
      fun column => if column ∈ columns then value column else none := by
  funext column
  unfold bound
  induction columns with
  | nil => rfl
  | cons first rest ih =>
    rw [map_cons, zip_cons_cons, find?_cons]
    by_cases same : first = column
    · subst same
      simp
    · have other : column ≠ first := Ne.symm same
      simp [same, other, ih]

theorem importTable_eq (sqlite : SqliteDatabase) (table : Schema) (rows : List PortableRow) :
    importTable sqlite table (rows.map .obj) =
      (load table (rows.map (boundRow table)) sqlite).map fun sqlite => (sqlite, rows.length) := by
  have each : ∀ (rows : List PortableRow) (sqlite : SqliteDatabase),
      (rows.map Json.obj).foldlM (fun sqlite row => do
        let values ← toSqliteBindValues row table.columns
        insert table sqlite (bound table.columns values)) sqlite =
      load table (rows.map (boundRow table)) sqlite := by
    intro rows
    induction rows with
    | nil => intro sqlite; rfl
    | cons row rest ih =>
      intro sqlite
      rw [map_cons, foldlM_cons, map_cons, load, foldlM_cons]
      have first : (do
          let values ← toSqliteBindValues (.obj row) table.columns
          insert table sqlite (bound table.columns values)) =
          insert table sqlite (boundRow table row) := by
        rw [toSqliteBindValues, Option.bind_eq_bind, Option.bind_some, bound_map]
        · rfl
        · intro same
          cases same
      rw [first]
      exact congrArg _ (funext ih)
  unfold importTable
  rw [length_map, each]
  cases rows with
  | nil => rfl
  | cons row rest =>
    rw [if_neg (by simp)]
    cases load table ((row :: rest).map (boundRow table)) sqlite <;> rfl

/-- The rows of all tables, bound. -/
def boundRows (rows : JsString → List PortableRow) (name : JsString) : List SqliteRow :=
  match schemaOf name with
  | some table => (rows name).map (boundRow table)
  | none => []

theorem boundRows_name (rows : JsString → List PortableRow) {table : Schema}
    (member : table ∈ schemas) :
    boundRows rows table.name = (rows table.name).map (boundRow table) := by
  rw [boundRows, schemaOf_name table member]

/-- Readable dumps are loaded table by table. -/
theorem importTables_eq {dumps : JsString → Option (List UInt8)}
    {rows : JsString → List PortableRow}
    {tables : List Schema} (known : ∀ table ∈ tables, table ∈ schemas)
    (read : ∀ table ∈ tables, readRows (dumps table.name) = some ((rows table.name).map .obj))
    {specs : List TableSpec} (names : specs.map TableSpec.name = tables.map (·.name))
    (sqlite : SqliteDatabase) (counts : List (JsString × Nat)) :
    importTables dumps specs (sqlite, counts) =
      (loadAll (boundRows rows) tables sqlite).map fun sqlite =>
        (sqlite, counts ++ tables.map fun table => (table.name, (rows table.name).length)) := by
  induction tables generalizing specs sqlite counts with
  | nil =>
    obtain rfl := map_eq_nil_iff.mp names
    simp [importTables, loadAll]
  | cons table tables ih =>
    cases specs with
    | nil => cases names
    | cons spec specs =>
      rw [map_cons, map_cons] at names
      obtain ⟨same, names⟩ := cons.inj names
      rw [forall_mem_cons] at known read
      rw [importTables, same, read.1, schemaOf_name table known.1]
      simp only [Option.bind_eq_bind, Option.bind_some, importTable_eq]
      rw [loadAll, foldlM_cons, boundRows_name rows known.1]
      cases load table ((rows table.name).map (boundRow table)) sqlite with
      | none => rfl
      | some next =>
        have later := ih known.2 read.2 names next
          (counts ++ [(table.name, (rows table.name).length)])
        rw [loadAll] at later
        simp only [Option.map_some, Option.bind_some, later, append_assoc]
        rfl

/-- Every dump is read before its table is loaded. -/
theorem read_of_importTables {dumps : JsString → Option (List UInt8)} {specs : List TableSpec}
    {before after : SqliteDatabase × List (JsString × Nat)}
    (succeeded : importTables dumps specs before = some after) :
    ∀ spec ∈ specs, ∃ rows, readRows (dumps spec.name) = some rows := by
  induction specs generalizing before with
  | nil => simp
  | cons spec specs ih =>
    obtain ⟨sqlite, counts⟩ := before
    rw [importTables] at succeeded
    obtain ⟨rows, read, succeeded⟩ := Option.bind_eq_some_iff.mp succeeded
    obtain ⟨schema, -, succeeded⟩ := Option.bind_eq_some_iff.mp succeeded
    obtain ⟨loaded, -, others⟩ := Option.bind_eq_some_iff.mp succeeded
    rw [forall_mem_cons]
    exact ⟨⟨rows, read⟩, ih others⟩

theorem boundRows_congr {rows others : JsString → List PortableRow}
    (same : ∀ table ∈ schemas, (rows table.name).map (boundRow table) =
      (others table.name).map (boundRow table)) : boundRows rows = boundRows others := by
  funext name
  unfold boundRows
  cases known : schemaOf name with
  | none => rfl
  | some table =>
    have named : table.name = name := by simpa using find?_some known
    have agree := same table (mem_of_find?_eq_some known)
    rwa [named] at agree

/-- Whether a column's value is bound as it was before it was printed: it is no number
that changes. -/
def bindable : Option Json → Bool
  | some (.num text) => isFinite text && text ≠ js "-0"
  | _ => true

theorem bindValue_printed (value : Option Json) :
    bindValue (value.map printed) = bindValue value ↔ bindable value = true := by
  cases value with
  | none => simp [bindable]
  | some value =>
    cases value with
    | num text =>
      by_cases finite : isFinite text = true
      · by_cases zero : text = js "-0"
        · subst zero
          have different : js "0" ≠ js "-0" := by decide
          simp [printed, finite, bindValue, bindable, different]
        · simp [printed, finite, zero, bindValue, bindable]
      · simp [printed, finite, bindValue, bindable]
    | arr items =>
      have again := Json.printed_printed (.arr items)
      simp only [printed, Option.map_some, bindValue, bindable] at again ⊢
      rw [again]
      simp
    | obj members =>
      have again := Json.printed_printed (.obj members)
      simp only [printed, Option.map_some, bindValue, bindable] at again ⊢
      rw [again]
      simp
    | null => simp [printed, bindable]
    | bool flag => simp [printed, bindable]
    | str text => simp [printed, bindable]

theorem boundRow_printedMembers {table : Schema} {row : PortableRow} :
    boundRow table (printedMembers row) = boundRow table row ↔
      ∀ column ∈ table.columns, bindable ((Json.obj row).get? column) = true := by
  constructor
  · intro same column member
    have value := congrFun same column
    rwa [boundRow, boundRow, if_pos member, if_pos member, Json.get?_printedMembers,
      bindValue_printed] at value
  · intro unchanged
    funext column
    unfold boundRow
    split_ifs with member
    · rw [Json.get?_printedMembers, bindValue_printed]
      exact unchanged column member
    · rfl

/-! ## Data that can be imported -/

/-- The rows of a source, as portable rows in the order of its export. They satisfy the
constraints of the schema on the columns they have. -/
structure SourceData where
  rows : JsString → List PortableRow
  genuine : ∀ table ∈ schemas, ∀ row ∈ rows table.name, Genuine row
  consistent : ∀ table ∈ schemas, Consistent (boundRows rows) table
  filled : ∀ table ∈ schemas, ∀ row ∈ rows table.name, ∀ column ∈ table.required,
    (Json.obj row).get? column ≠ some .null

namespace SourceData

variable (source : SourceData)

/-- The dumps the export writes. -/
def dumps (name : JsString) : Option (List UInt8) :=
  some (encodeUtf8 (dumpText (source.rows name)))

/-- The import succeeds, and every table holds every row with its values. -/
def Imported : Prop :=
  ∃ sqlite counts, importAllTables false source.dumps = some (sqlite, counts) ∧
    ∀ table ∈ schemas, sqlite table.name = (source.rows table.name).map (boundRow table)

/-- What the import relies on beyond the constraints. -/
structure Importable : Prop where
  /-- No string or name holds a separator. -/
  whole : ∀ table ∈ schemas, ∀ row ∈ source.rows table.name, separatedMembers row = false
  /-- No column holds a number that JSON cannot carry. -/
  numbers : ∀ table ∈ schemas, ∀ row ∈ source.rows table.name, ∀ column ∈ table.columns,
    bindable ((Json.obj row).get? column) = true
  /-- No `NOT NULL` column is missing. -/
  present : ∀ table ∈ schemas, ∀ row ∈ source.rows table.name, ∀ column ∈ table.required,
    (Json.obj row).get? column ≠ none
  /-- No message is exported before the message it replies to. -/
  answered : ∀ before row after,
    source.rows directMessages.name = before ++ row :: after →
      ∀ message, boundRow directMessages row (js "reply_to_id") = some message →
        ∃ earlier ∈ before ++ [row], boundRow directMessages earlier (js "id") = some message

/-- The rows as they come back from the dumps. -/
def printedRows (name : JsString) : List PortableRow := (source.rows name).map printedMembers

variable {source}

theorem read_dumps {table : Schema} (member : table ∈ schemas)
    (whole : ∀ row ∈ source.rows table.name, separatedMembers row = false) :
    readRows (source.dumps table.name) = some ((source.printedRows table.name).map .obj) := by
  rw [dumps, readRows_dumpText (source.genuine table member),
    parseLines_dumpText (source.genuine table member) whole, printedRows, map_map]
  refine congrArg some (map_inj_left.mpr ?_)
  intro row _
  rw [printed]
  rfl

/-- Dumps without separators are loaded as they come back. -/
theorem importAllTables_eq
    (whole : ∀ table ∈ schemas, ∀ row ∈ source.rows table.name, separatedMembers row = false) :
    importAllTables false source.dumps =
      (loadAll (boundRows source.printedRows) schemas fun _ => []).map fun sqlite =>
        (sqlite, schemas.map fun table => (table.name, (source.printedRows table.name).length)) := by
  have loaded := importTables_eq (fun _ member => member)
    (fun table member => read_dumps member (whole table member)) names_schemas
    (fun _ => []) []
  simpa only [importAllTables, Bool.false_eq_true, if_false, nil_append] using loaded

theorem boundRows_printedRows
    (numbers : ∀ table ∈ schemas, ∀ row ∈ source.rows table.name, ∀ column ∈ table.columns,
      bindable ((Json.obj row).get? column) = true) :
    boundRows source.printedRows = boundRows source.rows := by
  apply boundRows_congr
  intro table member
  rw [printedRows, map_map]
  refine map_inj_left.mpr ?_
  intro row inside
  exact boundRow_printedMembers.mpr (numbers table member row inside)

theorem mem_columns_createTable {name : String} {columns : List (JsString × Bool)}
    {unique : List (List String)} {checks : List (SqliteRow → Bool)}
    {foreignKeys : List (String × String)} {column : JsString}
    (required : column ∈ (createTable name columns unique checks foreignKeys).required) :
    column ∈ (createTable name columns unique checks foreignKeys).columns := by
  obtain ⟨declared, member, named⟩ := mem_map.mp required
  exact mem_map.mpr ⟨declared, mem_of_mem_filter member, named⟩

theorem required_columns : ∀ table ∈ schemas, ∀ column ∈ table.required,
    column ∈ table.columns := by
  intro table member column required
  fin_cases member
  all_goals exact mem_columns_createTable required

theorem isSome_bindValue {value : Option Json} (filled : value ≠ some .null) :
    (bindValue value).isSome = true ↔ value ≠ none := by
  cases value with
  | none => simp [bindValue]
  | some value =>
    cases value with
    | null => exact absurd rfl filled
    | bool flag => cases flag <;> simp [bindValue]
    | num text => simp [bindValue]
    | str text => simp [bindValue]
    | arr items => simp [bindValue]
    | obj members => simp [bindValue]

theorem directMessages_schema : directMessages ∈ schemas := by simp [schemas]

theorem reply_reference : ⟨js "reply_to_id", directMessages.name, js "id"⟩ ∈
    directMessages.references := by
  simp [directMessages, createTable]

/-- A required column is bound when it is there. -/
theorem isSome_boundRow {table : Schema} (member : table ∈ schemas) {row : PortableRow}
    (inside : row ∈ source.rows table.name) {column : JsString}
    (required : column ∈ table.required) :
    (boundRow table row column).isSome = true ↔ (Json.obj row).get? column ≠ none := by
  rw [boundRow, if_pos (required_columns table member column required)]
  exact isSome_bindValue (source.filled table member row inside column required)

/-- Within a table the rows are admitted when their required columns are there, and
replies come after the messages they answer. -/
theorem admitted_iff :
    (∀ table ∈ schemas, ∀ before row after,
      boundRows source.rows table.name = before ++ row :: after → Admitted table before row) ↔
    (∀ table ∈ schemas, ∀ row ∈ source.rows table.name, ∀ column ∈ table.required,
      (Json.obj row).get? column ≠ none) ∧
    ∀ before row after, source.rows directMessages.name = before ++ row :: after →
      ∀ message, boundRow directMessages row (js "reply_to_id") = some message →
        ∃ earlier ∈ before ++ [row], boundRow directMessages earlier (js "id") = some message := by
  constructor
  · intro admitted
    constructor
    · intro table member row inside column required
      obtain ⟨before, after, split⟩ := append_of_mem inside
      have first := admitted table member (before.map (boundRow table)) (boundRow table row)
        (after.map (boundRow table)) (by rw [boundRows_name _ member, split]; simp)
      exact (isSome_boundRow member inside required).mp (first.present column required)
    · intro before row after split message replying
      have first := admitted directMessages directMessages_schema
        (before.map (boundRow directMessages)) (boundRow directMessages row)
        (after.map (boundRow directMessages))
        (by rw [boundRows_name _ directMessages_schema, split]; simp)
      obtain ⟨target, found, same⟩ := first.preceded _ reply_reference rfl message replying
      have mapped : target ∈ (before ++ [row]).map (boundRow directMessages) := by
        simpa using found
      obtain ⟨earlier, inside, rfl⟩ := mem_map.mp mapped
      exact ⟨earlier, inside, same⟩
  · rintro ⟨present, answered⟩ table member before bound after split
    rw [boundRows_name _ member] at split
    obtain ⟨first, rest, rows, rfl, others⟩ := map_eq_append_iff.mp split
    obtain ⟨row, last, rfl, rfl, -⟩ := map_eq_cons_iff.mp others
    have inside : row ∈ source.rows table.name := by simp [rows]
    constructor
    · intro column required
      exact (isSome_boundRow member inside required).mpr (present table member row inside column required)
    · intro reference referring own value replying
      obtain ⟨named, column, target⟩ := self_references table member reference referring own
      have same : table = directMessages := by
        have known := schemaOf_name table member
        rw [named, schemaOf_name directMessages directMessages_schema] at known
        exact (Option.some.inj known).symm
      subst same
      rw [column] at replying
      obtain ⟨earlier, found, same⟩ := answered first row last rows value replying
      refine ⟨boundRow directMessages earlier, ?_, by rw [target, same]⟩
      simpa using mem_map_of_mem (f := boundRow directMessages) found

/-- A channel as Postgres has it: without `encryption_scheme`, a column only SQLite has. -/
def plainChannel : PortableRow :=
  [(js "id", .str (js "c1")), (js "is_group", .bool false), (js "is_encrypted", .bool false),
    (js "encryption_key_version", .num (js "1")),
    (js "encryption_membership_epoch", .num (js "0")), (js "created_at", .str (js "t0")),
    (js "updated_at", .str (js "t0"))]

theorem plainChannel_genuine : Genuine plainChannel := by
  have same : printed (.obj plainChannel) = .obj plainChannel :=
    (printed_eq_iff _).mpr (by decide)
  rw [Genuine, same]
  unfold plainChannel Json.Printable
  exact ⟨trivial, trivial, trivial, Json.numberLiteral_digit rfl, Json.numberLiteral_digit rfl,
    trivial, trivial, trivial⟩

/-- The rows of a source that holds this channel and nothing else. -/
def oneChannelRows (name : JsString) : List PortableRow :=
  if name = dmChannels.name then [plainChannel] else []

theorem mem_oneChannelRows {table : Schema} (member : table ∈ schemas) {row : PortableRow}
    (inside : row ∈ oneChannelRows table.name) : table = dmChannels ∧ row = plainChannel := by
  unfold oneChannelRows at inside
  split_ifs at inside with channels
  · have known := schemaOf_name table member
    rw [channels, schemaOf_name dmChannels (by simp [schemas])] at known
    exact ⟨(Option.some.inj known).symm, mem_singleton.mp inside⟩
  · cases inside

theorem length_oneChannelRows (name : JsString) : (oneChannelRows name).length ≤ 1 := by
  unfold oneChannelRows
  split_ifs <;> simp

theorem oneChannel_consistent {table : Schema} (member : table ∈ schemas) :
    Consistent (boundRows oneChannelRows) table := by
  have only : ∀ row ∈ boundRows oneChannelRows table.name,
      table = dmChannels ∧ row = boundRow dmChannels plainChannel := by
    rw [boundRows_name _ member]
    intro bound inside
    obtain ⟨row, held, rfl⟩ := mem_map.mp inside
    obtain ⟨rfl, rfl⟩ := mem_oneChannelRows member held
    exact ⟨rfl, rfl⟩
  constructor
  · intro row inside check checking
    obtain ⟨rfl, rfl⟩ := only row inside
    revert check
    decide
  · intro key _
    rw [boundRows_name _ member]
    have short := length_oneChannelRows table.name
    match oneChannelRows table.name, short with
    | [], _ => exact List.Pairwise.nil
    | [row], _ => exact pairwise_singleton _ _
  · intro row inside reference referring value valued
    obtain ⟨rfl, rfl⟩ := only row inside
    have nobody : ∀ reference ∈ dmChannels.references,
        boundRow dmChannels plainChannel reference.column = none := by
      decide
    rw [nobody reference referring] at valued
    cases valued

def oneChannel : SourceData where
  rows := oneChannelRows
  genuine := by
    intro table member row inside
    rw [(mem_oneChannelRows member inside).2]
    exact plainChannel_genuine
  consistent := fun _ member => oneChannel_consistent member
  filled := by
    intro table member row inside column required absent
    obtain ⟨rfl, rfl⟩ := mem_oneChannelRows member inside
    obtain ⟨found, search, null⟩ := Option.map_eq_some_iff.mp absent
    have held := List.mem_reverse.mp (List.mem_of_find?_eq_some search)
    have filled : ∀ member ∈ plainChannel, member.2 ≠ .null := by simp [plainChannel]
    exact filled found held null

end SourceData

end Vortex.Migration
