import Mathlib.Data.List.Basic

/-!
# Loading tables under constraints

Tables with required columns, unique keys, checks and references that are enforced
row by row, and the loading of a whole set of tables in a given order. Where every
reference leads to an earlier table or to the table itself and the data is
consistent, the load succeeds exactly when each row has its required columns and
finds the rows of its own table it refers to already there
(`Foundation.Relational.loadAll_iff`).
-/

namespace Foundation

namespace Relational

/-- A row by column; `none` is `NULL`. -/
abbrev Row (Column Value : Type) : Type := Column → Option Value

/-- A column whose value is the value of a column in some row of a table. -/
structure Reference (Name Column : Type) where
  column : Column
  table : Name
  target : Column

structure TableSchema (Name Column Value : Type) where
  name : Name
  columns : List Column
  required : List Column
  unique : List (List Column)
  checks : List (Row Column Value → Bool)
  references : List (Reference Name Column)

/-- The rows of each table, in the order they were inserted. -/
abbrev Database (Name Column Value : Type) : Type := Name → List (Row Column Value)

variable {Name Column Value : Type} [DecidableEq Name] [DecidableEq Value]

/-- Whether two rows have the same key. A key with a `NULL` in it equals no other. -/
def collide (key : List Column) (first second : Row Column Value) : Bool :=
  key.all fun column => (first column).isSome && first column = second column

/-- Whether the row a reference leads to is there. -/
def satisfied (database : Database Name Column Value) (row : Row Column Value)
    (reference : Reference Name Column) : Bool :=
  match row reference.column with
  | none => true
  | some value =>
      (database reference.table).any fun target => target reference.target = some value

/-- The database with a row more. -/
def append (database : Database Name Column Value) (name : Name) (rows : List (Row Column Value)) :
    Database Name Column Value :=
  Function.update database name (database name ++ rows)

/-- `INSERT`: references are enforced once the row is there; `none` when a constraint fails. -/
def insert (table : TableSchema Name Column Value) (database : Database Name Column Value)
    (row : Row Column Value) : Option (Database Name Column Value) :=
  if (table.required.all fun column => (row column).isSome) &&
      (table.checks.all fun check => check row) &&
      (table.unique.all fun key => !(database table.name).any (collide key row)) &&
      (table.references.all (satisfied (append database table.name [row]) row)) then
    some (append database table.name [row])
  else none

/-- Insert rows one after the other, all or none. -/
def load (table : TableSchema Name Column Value) (rows : List (Row Column Value))
    (database : Database Name Column Value) : Option (Database Name Column Value) :=
  rows.foldlM (insert table) database

/-- Load the tables one after the other. -/
def loadAll (data : Name → List (Row Column Value)) (tables : List (TableSchema Name Column Value))
    (database : Database Name Column Value) : Option (Database Name Column Value) :=
  tables.foldlM (fun database table => load table (data table.name) database) database

/-! ## Data and orders that fit -/

/-- The constraints that hold for all rows together: checks, unique keys, and every
reference leads somewhere in the data. -/
structure Consistent (data : Name → List (Row Column Value))
    (table : TableSchema Name Column Value) : Prop where
  checked : ∀ row ∈ data table.name, ∀ check ∈ table.checks, check row = true
  distinct : ∀ key ∈ table.unique,
    (data table.name).Pairwise fun earlier later => collide key later earlier = false
  referenced : ∀ row ∈ data table.name, ∀ reference ∈ table.references, ∀ value,
    row reference.column = some value →
      ∃ target ∈ data reference.table, target reference.target = some value

/-- Every reference leads to an earlier table or stays in its own. -/
def ordered : List Name → List (TableSchema Name Column Value) → Bool
  | _, [] => true
  | earlier, table :: rest =>
      !earlier.contains table.name &&
        (table.references.all fun reference =>
          reference.table = table.name || earlier.contains reference.table) &&
        ordered (earlier ++ [table.name]) rest

/-- A row has its required columns, and the rows of its own table it refers to are
among the rows before it or the row itself. -/
structure Admitted (table : TableSchema Name Column Value) (before : List (Row Column Value))
    (row : Row Column Value) : Prop where
  present : ∀ column ∈ table.required, (row column).isSome = true
  preceded : ∀ reference ∈ table.references, reference.table = table.name → ∀ value,
    row reference.column = some value →
      ∃ target ∈ before ++ [row], target reference.target = some value

section Append

variable {database : Database Name Column Value} {name : Name}

omit [DecidableEq Value] in
theorem append_self (rows : List (Row Column Value)) :
    append database name rows name = database name ++ rows := by
  simp [append]

omit [DecidableEq Value] in
theorem append_of_ne {other : Name} (different : other ≠ name) (rows : List (Row Column Value)) :
    append database name rows other = database other := by
  simp [append, different]

omit [DecidableEq Value] in
theorem append_append (first second : List (Row Column Value)) :
    append (append database name first) name second = append database name (first ++ second) := by
  simp [append]

omit [DecidableEq Value] in
theorem append_nil : append database name [] = database := by
  simp [append]

end Append

/-- Whatever is inserted is appended. -/
theorem append_of_load {table : TableSchema Name Column Value} {rows : List (Row Column Value)}
    {database next : Database Name Column Value}
    (succeeded : load table rows database = some next) :
    next = append database table.name rows := by
  induction rows generalizing database with
  | nil =>
    cases succeeded
    exact append_nil.symm
  | cons row rows ih =>
    rw [load, List.foldlM_cons] at succeeded
    obtain ⟨middle, first, others⟩ := Option.bind_eq_some_iff.mp succeeded
    unfold insert at first
    split_ifs at first
    cases first
    rw [ih others, append_append]
    rfl

section Loading

variable {data : Name → List (Row Column Value)} {table : TableSchema Name Column Value}
  {database : Database Name Column Value}

/-- Within consistent data only the missing can fail an insert. -/
theorem insert_eq_some_iff (consistent : Consistent data table)
    (complete : ∀ reference ∈ table.references, reference.table ≠ table.name →
      database reference.table = data reference.table)
    {before after : List (Row Column Value)} {row : Row Column Value}
    (loaded : database table.name = before) (split : data table.name = before ++ row :: after)
    {next : Database Name Column Value} :
    insert table database row = some next ↔
      Admitted table before row ∧ next = append database table.name [row] := by
  have member : row ∈ data table.name := by simp [split]
  have checked : (table.checks.all fun check => check row) = true :=
    List.all_eq_true.mpr (consistent.checked row member)
  have distinct : (table.unique.all fun key => !(database table.name).any (collide key row)) =
      true := by
    rw [List.all_eq_true]
    intro key keyed
    have apart := consistent.distinct key keyed
    rw [split] at apart
    simp only [loaded, Bool.not_eq_true', List.any_eq_false, Bool.not_eq_true]
    intro earlier inside
    exact (List.pairwise_append.mp apart).2.2 earlier inside row List.mem_cons_self
  have found : (table.references.all (satisfied (append database table.name [row]) row)) = true ↔
      ∀ reference ∈ table.references, reference.table = table.name → ∀ value,
        row reference.column = some value →
          ∃ target ∈ before ++ [row], target reference.target = some value := by
    rw [List.all_eq_true]
    refine forall₂_congr fun reference referring => ?_
    unfold satisfied
    by_cases own : reference.table = table.name
    · rw [own, append_self, loaded]
      cases row reference.column <;> simp
    · rw [append_of_ne own, complete reference referring own]
      cases valued : row reference.column with
      | none => simp
      | some value =>
        have elsewhere := consistent.referenced row member reference referring value valued
        simpa [own] using elsewhere
  unfold insert
  rw [checked, distinct, Bool.and_true, Bool.and_true]
  constructor
  · intro inserted
    split_ifs at inserted with passed
    rw [Bool.and_eq_true, List.all_eq_true, found] at passed
    exact ⟨⟨passed.1, passed.2⟩, (Option.some.inj inserted).symm⟩
  · rintro ⟨admitted, rfl⟩
    rw [if_pos]
    rw [Bool.and_eq_true, List.all_eq_true, found]
    exact ⟨admitted.present, admitted.preceded⟩

/-- Loading the rest of a table succeeds when every row of it is admitted. -/
theorem load_eq_some_iff (consistent : Consistent data table)
    (complete : ∀ reference ∈ table.references, reference.table ≠ table.name →
      database reference.table = data reference.table)
    {before rows : List (Row Column Value)} (loaded : database table.name = before)
    (split : data table.name = before ++ rows) {next : Database Name Column Value} :
    load table rows database = some next ↔ (∀ earlier row later, rows = earlier ++ row :: later →
        Admitted table (before ++ earlier) row) ∧ next = append database table.name rows := by
  induction rows generalizing before database with
  | nil => simp [load, append_nil, eq_comm]
  | cons row rows ih =>
    have one := @insert_eq_some_iff _ _ _ _ _ _ _ _ consistent complete _ _ _ loaded split
    have complete' : ∀ reference ∈ table.references, reference.table ≠ table.name →
        append database table.name [row] reference.table = data reference.table := by
      intro reference referring other
      rw [append_of_ne other, complete reference referring other]
    have later := @ih (append database table.name [row]) complete' (before ++ [row])
      (by rw [append_self, loaded]) (by simp [split])
    rw [load, List.foldlM_cons]
    constructor
    · intro succeeded
      obtain ⟨middle, first, others⟩ := Option.bind_eq_some_iff.mp succeeded
      obtain ⟨admitted, rfl⟩ := one.mp first
      obtain ⟨rest, rfl⟩ := later.mp others
      refine ⟨?_, by rw [append_append]; rfl⟩
      intro earlier found remaining same
      cases earlier with
      | nil =>
        obtain ⟨rfl, -⟩ := List.cons.inj same
        rwa [List.append_nil]
      | cons first earlier =>
        obtain ⟨rfl, others⟩ := List.cons.inj same
        have admitted := rest earlier found remaining others
        rwa [List.append_assoc] at admitted
    · rintro ⟨admitted, rfl⟩
      have first := admitted [] row rows rfl
      rw [List.append_nil] at first
      rw [one.mpr ⟨first, rfl⟩]
      refine later.mpr ⟨?_, by rw [append_append]; rfl⟩
      intro earlier found remaining same
      have next := admitted (row :: earlier) found remaining (by rw [same]; rfl)
      rwa [List.append_assoc]

omit [DecidableEq Value] in
theorem not_mem_of_ordered {earlier : List Name} {tables : List (TableSchema Name Column Value)}
    (fits : ordered earlier tables = true) : ∀ table ∈ tables, table.name ∉ earlier := by
  induction tables generalizing earlier with
  | nil => simp
  | cons first rest ih =>
    simp only [ordered, Bool.and_eq_true, Bool.not_eq_true', List.contains_eq_mem,
      decide_eq_false_iff_not] at fits
    intro table member inside
    rcases List.mem_cons.mp member with rfl | later
    · exact fits.1.1 inside
    · exact ih fits.2 table later (List.mem_append_left _ inside)

/-- What holds of the database before each table is loaded: the earlier tables are
complete and the others empty. -/
structure Underway (data : Name → List (Row Column Value)) (earlier : List Name)
    (tables : List (TableSchema Name Column Value)) (database : Database Name Column Value) :
    Prop where
  fits : ordered earlier tables = true
  consistent : ∀ table ∈ tables, Consistent data table
  complete : ∀ name ∈ earlier, database name = data name
  fresh : ∀ table ∈ tables, database table.name = []

variable {earlier : List Name} {tables : List (TableSchema Name Column Value)}

theorem Underway.next (underway : Underway data earlier (table :: tables) database) :
    Underway data (earlier ++ [table.name]) tables
      (append database table.name (data table.name)) := by
  have fits := underway.fits
  have apart : ∀ other ∈ tables, other.name ≠ table.name := by
    simp only [ordered, Bool.and_eq_true] at fits
    intro other member same
    exact not_mem_of_ordered fits.2 other member (by simp [same])
  simp only [ordered, Bool.and_eq_true, Bool.not_eq_true', List.contains_eq_mem,
    decide_eq_false_iff_not] at fits
  refine ⟨fits.2, fun other member => underway.consistent other (List.mem_cons_of_mem _ member),
    ?_, ?_⟩
  · intro name member
    rcases List.mem_append.mp member with before | same
    · have other : name ≠ table.name := by
        rintro rfl
        exact fits.1.1 before
      rw [append_of_ne other, underway.complete name before]
    · rw [List.mem_singleton.mp same, append_self, underway.fresh table List.mem_cons_self]
      rfl
  · intro other member
    rw [append_of_ne (apart other member), underway.fresh other (List.mem_cons_of_mem _ member)]

/-- The first of the tables is loaded as it is, when its rows are admitted. -/
theorem Underway.load_eq_some_iff (underway : Underway data earlier (table :: tables) database)
    {next : Database Name Column Value} :
    load table (data table.name) database = some next ↔
      (∀ before row after, data table.name = before ++ row :: after →
        Admitted table before row) ∧ next = append database table.name (data table.name) := by
  have fits := underway.fits
  simp only [ordered, Bool.and_eq_true, List.all_eq_true, Bool.or_eq_true, decide_eq_true_eq,
    List.contains_eq_mem] at fits
  have complete : ∀ reference ∈ table.references, reference.table ≠ table.name →
      database reference.table = data reference.table := by
    intro reference referring other
    rcases fits.1.2 reference referring with own | before
    · exact absurd own other
    · exact underway.complete _ before
  exact Relational.load_eq_some_iff (underway.consistent table List.mem_cons_self) complete
    (underway.fresh table List.mem_cons_self) rfl

/-- The tables are loaded exactly when their rows are admitted. -/
theorem Underway.loadAll_iff (underway : Underway data earlier tables database) :
    (∃ next, loadAll data tables database = some next) ↔
      ∀ table ∈ tables, ∀ before row after, data table.name = before ++ row :: after →
        Admitted table before row := by
  induction tables generalizing earlier database with
  | nil => simp [loadAll]
  | cons table tables ih =>
    have later := ih underway.next
    rw [List.forall_mem_cons, ← later]
    constructor
    · rintro ⟨next, succeeded⟩
      rw [loadAll, List.foldlM_cons] at succeeded
      obtain ⟨middle, first, others⟩ := Option.bind_eq_some_iff.mp succeeded
      obtain ⟨admitted, rfl⟩ := underway.load_eq_some_iff.mp first
      exact ⟨admitted, next, others⟩
    · rintro ⟨admitted, next, others⟩
      refine ⟨next, ?_⟩
      rw [loadAll, List.foldlM_cons, underway.load_eq_some_iff.mpr ⟨admitted, rfl⟩]
      exact others

/-- What is loaded is the data, whether it is consistent or not. -/
theorem loaded_of_loadAll (fits : ordered earlier tables = true)
    (fresh : ∀ table ∈ tables, database table.name = []) {next : Database Name Column Value}
    (succeeded : loadAll data tables database = some next) :
    (∀ name ∈ earlier, next name = database name) ∧
      ∀ table ∈ tables, next table.name = data table.name := by
  induction tables generalizing earlier database with
  | nil =>
    cases succeeded
    simp
  | cons table tables ih =>
    have separate := not_mem_of_ordered fits
    simp only [ordered, Bool.and_eq_true] at fits
    have apart := not_mem_of_ordered fits.2
    rw [loadAll, List.foldlM_cons] at succeeded
    obtain ⟨middle, first, others⟩ := Option.bind_eq_some_iff.mp succeeded
    obtain rfl := append_of_load first
    rw [List.forall_mem_cons] at separate fresh
    have still : ∀ other ∈ tables,
        append database table.name (data table.name) other.name = [] := by
      intro other member
      rw [append_of_ne (fun same => apart other member (by simp [same])), fresh.2 other member]
    obtain ⟨before, after⟩ := ih fits.2 still others
    rw [List.forall_mem_cons]
    refine ⟨?_, ?_, after⟩
    · intro name member
      have other : name ≠ table.name := by
        rintro rfl
        exact separate.1 member
      rw [before name (List.mem_append_left _ member), append_of_ne other]
    · rw [before table.name (by simp), append_self, fresh.1]
      rfl

/-- Loading into empty tables. -/
theorem loadAll_iff (fits : ordered [] tables = true)
    (consistent : ∀ table ∈ tables, Consistent data table) :
    (∃ next, loadAll data tables (fun _ => []) = some next ∧
      ∀ table ∈ tables, next table.name = data table.name) ↔
      ∀ table ∈ tables, ∀ before row after, data table.name = before ++ row :: after →
        Admitted table before row := by
  have underway : Underway data [] tables (fun _ => []) :=
    ⟨fits, consistent, by simp, fun _ _ => rfl⟩
  rw [← underway.loadAll_iff]
  constructor
  · rintro ⟨next, succeeded, -⟩
    exact ⟨next, succeeded⟩
  · rintro ⟨next, succeeded⟩
    exact ⟨next, succeeded, (loaded_of_loadAll fits (fun _ _ => rfl) succeeded).2⟩

end Loading

end Relational

end Foundation
