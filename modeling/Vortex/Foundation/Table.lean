import Mathlib.Data.List.Sort

/-!
# Tables with a primary key

A table is a list of rows, in insertion order, no two of which agree on the
primary key. The operations are the statements a transaction is made of:
inserting with a conflict clause, updating and deleting the rows that satisfy a
predicate, and reading rows in the order of a column.
-/

namespace Foundation

/-- A table whose rows are identified by the columns `key` reads. -/
structure Table (Row Key : Type) (key : Row → Key) where
  rows : List Row
  unique : (rows.map key).Nodup

namespace Table

variable {Row Key : Type} {key : Row → Key}

def empty : Table Row Key key := ⟨[], List.nodup_nil⟩

/-- Two rows of a table with one key are the same row. -/
theorem eq_of_key_eq (table : Table Row Key key) {first second : Row}
    (left : first ∈ table.rows) (right : second ∈ table.rows) (same : key first = key second) :
    first = second :=
  List.inj_on_of_nodup_map table.unique left right same

section Keyed

variable [DecidableEq Key]

/-- The row with a key. -/
def find? (table : Table Row Key key) (wanted : Key) : Option Row :=
  table.rows.find? fun row => key row = wanted

theorem find?_eq_some {table : Table Row Key key} {wanted : Key} {row : Row} :
    table.find? wanted = some row ↔ row ∈ table.rows ∧ key row = wanted := by
  constructor
  · intro found
    exact ⟨List.mem_of_find?_eq_some found, by simpa using List.find?_some found⟩
  · rintro ⟨member, rfl⟩
    cases found : table.find? (key row) with
    | none =>
      have absent := List.find?_eq_none.mp found row member
      simp only [decide_true, not_true_eq_false] at absent
    | some other =>
      have same : key other = key row := by simpa using List.find?_some found
      exact congrArg some (table.eq_of_key_eq (List.mem_of_find?_eq_some found) member same)

theorem find?_eq_none {table : Table Row Key key} {wanted : Key} :
    table.find? wanted = none ↔ ∀ row ∈ table.rows, key row ≠ wanted := by
  simp only [find?, List.find?_eq_none, decide_eq_true_eq, ne_eq]

/-- `INSERT ... ON CONFLICT DO NOTHING`. -/
def insertIgnore (table : Table Row Key key) (row : Row) : Table Row Key key :=
  if absent : key row ∉ table.rows.map key then
    ⟨table.rows ++ [row], by
      rw [List.map_append, List.map_singleton, List.nodup_append_comm]
      exact List.nodup_cons.mpr ⟨absent, table.unique⟩⟩
  else table

/-- What an insertion that ignores conflicts leaves in the table. -/
theorem mem_insertIgnore {table : Table Row Key key} {row other : Row} :
    other ∈ (table.insertIgnore row).rows ↔
      other ∈ table.rows ∨ (other = row ∧ ∀ stored ∈ table.rows, key stored ≠ key row) := by
  unfold insertIgnore
  split
  · rename_i absent
    have free : ∀ stored ∈ table.rows, key stored ≠ key row := by
      intro stored member same
      exact absent (List.mem_map.mpr ⟨stored, member, same⟩)
    simp only [List.mem_append, List.mem_singleton]
    exact or_congr_right (iff_self_and.mpr fun _ => free)
  · rename_i present
    obtain ⟨stored, member, same⟩ := List.mem_map.mp (not_not.mp present)
    constructor
    · exact .inl
    · rintro (kept | ⟨-, free⟩)
      · exact kept
      · exact (free stored member same).elim

theorem mem_keys_insertIgnore {table : Table Row Key key} {row : Row} {wanted : Key} :
    wanted ∈ (table.insertIgnore row).rows.map key ↔
      wanted ∈ table.rows.map key ∨ wanted = key row := by
  unfold insertIgnore
  split
  · simp only [List.map_append, List.map_singleton, List.mem_append, List.mem_singleton]
  · rename_i present
    refine ⟨.inl, fun either => either.elim id ?_⟩
    intro same
    rw [same]
    exact not_not.mp present

/-- The keys after several insertions that ignore conflicts. -/
theorem mem_keys_insertAll {table : Table Row Key key} {rows : List Row} {wanted : Key} :
    wanted ∈ (rows.foldl insertIgnore table).rows.map key ↔
      wanted ∈ table.rows.map key ∨ wanted ∈ rows.map key := by
  induction rows generalizing table with
  | nil => simp
  | cons row rows ih =>
    rw [List.foldl_cons, ih, mem_keys_insertIgnore, List.map_cons, List.mem_cons, or_assoc]

theorem rows_insertIgnore {table : Table Row Key key} {row : Row} :
    (table.insertIgnore row).rows =
      if (table.find? (key row)).isNone then table.rows ++ [row] else table.rows := by
  have either : key row ∉ table.rows.map key ↔ (table.find? (key row)).isNone = true := by
    rw [Option.isNone_iff_eq_none, find?_eq_none, List.mem_map, not_exists]
    exact forall_congr' fun stored => not_and
  unfold insertIgnore
  split
  · rename_i absent
    rw [if_pos (either.mp absent)]
  · rename_i present
    rw [if_neg fun free => present (either.mpr free)]

/-- The rows with a key are the row with that key, if there is one. -/
theorem filter_key (table : Table Row Key key) (wanted : Key) :
    (table.rows.filter fun row => key row = wanted) = (table.find? wanted).toList := by
  obtain ⟨rows, unique⟩ := table
  unfold find?
  dsimp only
  induction rows with
  | nil => rfl
  | cons row rest ih =>
    rw [List.map_cons, List.nodup_cons] at unique
    rw [List.filter_cons, List.find?_cons]
    by_cases same : key row = wanted
    · have others : (rest.filter fun row => key row = wanted) = [] := by
        rw [List.filter_eq_nil_iff]
        intro other member
        rw [decide_eq_true_eq, ← same]
        exact fun equal => unique.1 (List.mem_map.mpr ⟨other, member, equal⟩)
      simp only [same, decide_true, ↓reduceIte, others, Option.toList_some]
    · simp only [same, decide_false, Bool.false_eq_true, ↓reduceIte, ih unique.2]

/-- `INSERT ... ON CONFLICT DO UPDATE`: a conflicting row is changed by `merge`,
which does not touch the key. -/
def upsert (table : Table Row Key key) (row : Row) (merge : Row → Row)
    (keeps : ∀ stored, key (merge stored) = key stored) : Table Row Key key :=
  if absent : key row ∉ table.rows.map key then
    ⟨table.rows ++ [row], by
      rw [List.map_append, List.map_singleton, List.nodup_append_comm]
      exact List.nodup_cons.mpr ⟨absent, table.unique⟩⟩
  else
    ⟨table.rows.map fun stored => if key stored = key row then merge stored else stored, by
      have same : (table.rows.map fun stored =>
          if key stored = key row then merge stored else stored).map key =
          table.rows.map key := by
        rw [List.map_map]
        apply List.map_congr_left
        intro stored _
        simp only [Function.comp_apply]
        split
        · exact keeps stored
        · rfl
      rw [same]
      exact table.unique⟩

/-- Every row after an upsert is an untouched row, the merged row, or the new one. -/
theorem mem_upsert {table : Table Row Key key} {row other : Row} {merge : Row → Row}
    {keeps : ∀ stored, key (merge stored) = key stored}
    (member : other ∈ (table.upsert row merge keeps).rows) :
    (other ∈ table.rows ∧ key other ≠ key row) ∨
      (∃ stored ∈ table.rows, key stored = key row ∧ other = merge stored) ∨
      (other = row ∧ ∀ stored ∈ table.rows, key stored ≠ key row) := by
  unfold upsert at member
  split at member
  · rename_i absent
    have free : ∀ stored ∈ table.rows, key stored ≠ key row := by
      intro stored member same
      exact absent (List.mem_map.mpr ⟨stored, member, same⟩)
    rcases List.mem_append.mp member with kept | added
    · exact .inl ⟨kept, free other kept⟩
    · exact .inr (.inr ⟨List.mem_singleton.mp added, free⟩)
  · obtain ⟨stored, kept, rfl⟩ := List.mem_map.mp member
    by_cases same : key stored = key row
    · rw [if_pos same]
      exact .inr (.inl ⟨stored, kept, same, rfl⟩)
    · rw [if_neg same]
      exact .inl ⟨kept, same⟩

/-- An upsert keeps every other row, and keeps the conflicting row merged. -/
theorem mem_upsert_of_mem {table : Table Row Key key} {row stored : Row} {merge : Row → Row}
    {keeps : ∀ stored, key (merge stored) = key stored} (member : stored ∈ table.rows) :
    (if key stored = key row then merge stored else stored) ∈
      (table.upsert row merge keeps).rows := by
  unfold upsert
  split
  · rename_i absent
    have other : key stored ≠ key row := fun same =>
      absent (List.mem_map.mpr ⟨stored, member, same⟩)
    rw [if_neg other]
    exact List.mem_append_left _ member
  · exact List.mem_map.mpr ⟨stored, member, rfl⟩

theorem mem_upsert_new {table : Table Row Key key} {row : Row} {merge : Row → Row}
    {keeps : ∀ stored, key (merge stored) = key stored}
    (free : ∀ stored ∈ table.rows, key stored ≠ key row) :
    row ∈ (table.upsert row merge keeps).rows := by
  have absent : key row ∉ table.rows.map key := by
    intro present
    obtain ⟨stored, member, same⟩ := List.mem_map.mp present
    exact free stored member same
  simp only [upsert, absent, not_false_eq_true, ↓reduceDIte, List.mem_append, List.mem_singleton,
    or_true]

end Keyed

/-- `UPDATE ... WHERE`: the change does not touch the key. -/
def updateWhere (table : Table Row Key key) (condition : Row → Bool) (change : Row → Row)
    (keeps : ∀ row, key (change row) = key row) : Table Row Key key :=
  ⟨table.rows.map fun row => if condition row then change row else row, by
    have same : (table.rows.map fun row => if condition row then change row else row).map key =
        table.rows.map key := by
      rw [List.map_map]
      apply List.map_congr_left
      intro row _
      simp only [Function.comp_apply]
      split
      · exact keeps row
      · rfl
    rw [same]
    exact table.unique⟩

theorem mem_updateWhere {table : Table Row Key key} {condition : Row → Bool}
    {change : Row → Row} {keeps : ∀ row, key (change row) = key row} {row : Row} :
    row ∈ (table.updateWhere condition change keeps).rows ↔
      ∃ stored ∈ table.rows, (if condition stored then change stored else stored) = row :=
  List.mem_map

/-- The row with a key after an update. -/
theorem find?_updateWhere [DecidableEq Key] {table : Table Row Key key} {condition : Row → Bool}
    {change : Row → Row} {keeps : ∀ row, key (change row) = key row} {wanted : Key} :
    (table.updateWhere condition change keeps).find? wanted =
      (table.find? wanted).map fun row => if condition row then change row else row := by
  simp only [find?, updateWhere, List.find?_map]
  refine congrArg (Option.map _) (congrArg (fun wants => List.find? wants table.rows) ?_)
  funext row
  dsimp only [Function.comp]
  split
  · rw [keeps]
  · rfl

/-- `DELETE ... WHERE`. -/
def deleteWhere (table : Table Row Key key) (condition : Row → Bool) : Table Row Key key :=
  ⟨table.rows.filter fun row => !condition row,
    table.unique.sublist (List.filter_sublist.map key)⟩

theorem mem_deleteWhere {table : Table Row Key key} {condition : Row → Bool} {row : Row} :
    row ∈ (table.deleteWhere condition).rows ↔ row ∈ table.rows ∧ condition row = false := by
  simp only [deleteWhere, List.mem_filter, Bool.not_eq_eq_eq_not, Bool.not_true]

/-- The row with a key after another row has been inserted. -/
theorem find?_insertIgnore [DecidableEq Key] {table : Table Row Key key} {row : Row} {wanted : Key}
    (absent : table.find? (key row) = none) : (table.insertIgnore row).find? wanted =
      if wanted = key row then some row else table.find? wanted := by
  have free := find?_eq_none.mp absent
  apply Option.ext
  intro found
  rw [find?_eq_some, mem_insertIgnore]
  split
  · rename_i same
    subst same
    constructor
    · rintro ⟨stored | ⟨rfl, _⟩, named⟩
      · exact absurd named (free found stored)
      · rfl
    · intro same
      cases same
      exact ⟨.inr ⟨rfl, free⟩, rfl⟩
  · rename_i different
    rw [find?_eq_some]
    constructor
    · rintro ⟨stored | ⟨rfl, _⟩, named⟩
      · exact ⟨stored, named⟩
      · exact absurd named.symm different
    · exact fun stored => ⟨.inl stored.1, stored.2⟩

/-- The row with a key after the row with some key has been deleted. -/
theorem find?_deleteWhere_key [DecidableEq Key] {table : Table Row Key key} {wanted deleted : Key} :
    (table.deleteWhere fun row => key row = deleted).find? wanted =
      if wanted = deleted then none else table.find? wanted := by
  apply Option.ext
  intro found
  rw [find?_eq_some, mem_deleteWhere, decide_eq_false_iff_not]
  split
  · rename_i same
    subst same
    exact iff_of_false (fun all => all.1.2 all.2) (fun none => nomatch none)
  · rename_i different
    rw [find?_eq_some]
    constructor
    · exact fun kept => ⟨kept.1.1, kept.2⟩
    · exact fun stored => ⟨⟨stored.1, fun same => different (stored.2.symm.trans same)⟩, stored.2⟩

/-- `SELECT count(*) ... WHERE`. -/
def count (table : Table Row Key key) (condition : Row → Bool) : Nat :=
  (table.rows.filter condition).length

/-- `SELECT ... WHERE ... ORDER BY`: rows with equal values keep their insertion order. -/
def selectOrdered (table : Table Row Key key) (condition : Row → Bool) (column : Row → Nat) :
    List Row :=
  (table.rows.filter condition).insertionSort fun left right => column left ≤ column right

theorem mem_selectOrdered {table : Table Row Key key} {condition : Row → Bool}
    {column : Row → Nat} {row : Row} :
    row ∈ table.selectOrdered condition column ↔ row ∈ table.rows ∧ condition row = true := by
  unfold selectOrdered
  rw [List.mem_insertionSort, List.mem_filter]

/-- Delete, one statement after the other, what each element of a list selects. -/
def deleteEach {α : Type} (table : Table Row Key key) (selected : List α)
    (condition : α → Row → Bool) : Table Row Key key :=
  selected.foldl (fun current element => current.deleteWhere (condition element)) table

theorem mem_deleteEach {α : Type} {table : Table Row Key key} {selected : List α}
    {condition : α → Row → Bool} {row : Row} :
    row ∈ (table.deleteEach selected condition).rows ↔
      row ∈ table.rows ∧ ∀ element ∈ selected, condition element row = false := by
  induction selected generalizing table with
  | nil => simp only [deleteEach, List.foldl_nil, List.not_mem_nil, false_implies, implies_true,
      and_true]
  | cons element rest ih =>
    rw [deleteEach, List.foldl_cons, ← deleteEach, ih, mem_deleteWhere, List.forall_mem_cons,
      and_assoc]

theorem rows_deleteEach {α : Type} (table : Table Row Key key) (selected : List α)
    (condition : α → Row → Bool) :
    (table.deleteEach selected condition).rows =
      table.rows.filter fun row => selected.all fun element => !condition element row := by
  induction selected generalizing table with
  | nil => simp only [deleteEach, List.foldl_nil, List.all_nil, List.filter_true]
  | cons element rest ih =>
    rw [deleteEach, List.foldl_cons, ← deleteEach, ih, deleteWhere, List.filter_filter]
    simp only [List.all_cons, Bool.and_comm]

section Counting

variable (table : Table Row Key key) (condition : Row → Bool)

theorem count_deleteWhere_le (deleted : Row → Bool) :
    (table.deleteWhere deleted).count condition ≤ table.count condition :=
  (List.filter_sublist.filter condition).length_le

theorem count_deleteEach_le {α : Type} (selected : List α) (deleted : α → Row → Bool) :
    (table.deleteEach selected deleted).count condition ≤ table.count condition := by
  rw [count, rows_deleteEach]
  exact (List.filter_sublist.filter condition).length_le

/-- A change after which a row satisfies the condition only if it did before. -/
theorem count_updateWhere_le (updated : Row → Bool) (change : Row → Row)
    (keeps : ∀ row, key (change row) = key row)
    (gained : ∀ row, condition (change row) = true → condition row = true) :
    (table.updateWhere updated change keeps).count condition ≤ table.count condition := by
  change ((table.rows.map fun row => if updated row then change row else row).filter
    condition).length ≤ (table.rows.filter condition).length
  induction table.rows with
  | nil => exact Nat.le_refl _
  | cons row rest ih =>
    rw [List.map_cons, List.filter_cons, List.filter_cons]
    by_cases before : condition row = true
    · rw [if_pos before, List.length_cons]
      by_cases after : condition (if updated row then change row else row) = true
      · rw [if_pos after, List.length_cons]
        exact Nat.succ_le_succ ih
      · rw [if_neg after]
        exact Nat.le_succ_of_le ih
    · have after : ¬ condition (if updated row then change row else row) = true := by
        split
        · exact fun holds => before (gained row holds)
        · exact before
      rw [if_neg before, if_neg after]
      exact ih

variable [DecidableEq Key]

theorem count_insertIgnore_of_false {row : Row} (outside : condition row = false) :
    (table.insertIgnore row).count condition = table.count condition := by
  unfold insertIgnore count
  split
  · simp only [List.filter_append, List.filter_cons, outside, Bool.false_eq_true, ↓reduceIte,
      List.filter_nil, List.append_nil]
  · rfl

/-- An upsert adds a row only when there was none with its key. -/
theorem count_upsert_le (row : Row) (merge : Row → Row)
    (keeps : ∀ stored, key (merge stored) = key stored)
    (gained : ∀ stored, condition (merge stored) = true → condition stored = true) :
    (table.upsert row merge keeps).count condition ≤ table.count condition +
        if (table.find? (key row)).isNone ∧ condition row = true then 1 else 0 := by
  unfold upsert
  split
  · rename_i absent
    have none : (table.find? (key row)).isNone := by
      rw [Option.isNone_iff_eq_none, find?_eq_none]
      intro stored member same
      exact absent (List.mem_map.mpr ⟨stored, member, same⟩)
    simp only [count, List.filter_append, List.length_append, none, true_and]
    by_cases holds : condition row = true
    · simp only [List.filter_cons, holds, ↓reduceIte, List.filter_nil, List.length_cons,
        List.length_nil, Nat.zero_add, Nat.le_refl]
    · simp only [List.filter_cons, holds, Bool.false_eq_true, ↓reduceIte, List.filter_nil,
        List.length_nil, Nat.add_zero, Nat.le_refl]
  · refine Nat.le_trans ?_ (Nat.le_add_right _ _)
    have bounded := table.count_updateWhere_le condition (fun stored => key stored = key row)
      merge keeps gained
    simpa only [count, updateWhere, decide_eq_true_eq] using bounded

end Counting

/-- Of a list without repeated keys, dropping the rows whose key occurs among the
first `count` leaves exactly the others. -/
private theorem filter_take_keys [DecidableEq Key] {rows : List Row}
    (unique : (rows.map key).Nodup) (count : Nat) :
    (rows.filter fun row => decide (key row ∉ (rows.take count).map key)) = rows.drop count := by
  have split : (rows.take count).map key ++ (rows.drop count).map key = rows.map key := by
    rw [← List.map_append, List.take_append_drop]
  rw [← split] at unique
  have disjoint := (List.nodup_append.mp unique).2.2
  have dropped : (rows.take count).filter
      (fun row => decide (key row ∉ (rows.take count).map key)) = [] := by
    apply List.filter_eq_nil_iff.mpr
    intro row member
    simp only [decide_not, Bool.not_eq_eq_eq_not, Bool.not_true, decide_eq_false_iff_not, not_not]
    exact List.mem_map_of_mem member
  have kept : (rows.drop count).filter
      (fun row => decide (key row ∉ (rows.take count).map key)) = rows.drop count := by
    apply List.filter_eq_self.mpr
    intro row member
    apply decide_eq_true
    intro early
    exact disjoint _ early _ (List.mem_map_of_mem member) rfl
  calc rows.filter (fun row => decide (key row ∉ (rows.take count).map key))
      = (rows.take count ++ rows.drop count).filter
          (fun row => decide (key row ∉ (rows.take count).map key)) := by
        rw [List.take_append_drop]
    _ = rows.drop count := by rw [List.filter_append, dropped, kept, List.nil_append]

/-- Deleting by key the rows over a limit, in the order of a column, leaves as many
rows as the limit allows. -/
theorem count_deleteOverflow [DecidableEq Key] (table : Table Row Key key)
    (condition : Row → Bool) (column : Row → Nat) (limit : Nat) :
    (table.deleteEach ((table.selectOrdered condition column).take (table.count condition - limit))
      fun stale row => decide (key row = key stale) && condition row).count condition =
        min (table.count condition) limit := by
  let overflow := table.count condition - limit
  let ordered := table.selectOrdered condition column
  have perm : ordered.Perm (table.rows.filter condition) := List.perm_insertionSort _ _
  have size : ordered.length = table.count condition := perm.length_eq
  have unique : (ordered.map key).Nodup :=
    (perm.map key).nodup_iff.mpr (table.unique.sublist (List.filter_sublist.map key))
  have survivors : ((table.deleteEach (ordered.take overflow)
      fun stale row => decide (key row = key stale) && condition row).rows.filter condition) =
      (table.rows.filter condition).filter
        fun row => decide (key row ∉ (ordered.take overflow).map key) := by
    rw [rows_deleteEach, List.filter_filter, List.filter_filter]
    apply List.filter_congr
    intro row _
    cases holds : condition row with
    | false => simp only [Bool.false_and, Bool.and_false]
    | true =>
      simp only [Bool.true_and, Bool.and_true]
      rw [Bool.eq_iff_iff]
      simp only [List.all_eq_true, Bool.not_eq_eq_eq_not, Bool.not_true,
        decide_eq_false_iff_not, decide_eq_true_eq, List.mem_map, not_exists, not_and]
      exact forall_congr' fun stale => imp_congr_right fun _ => not_congr eq_comm
  have remaining : ((table.rows.filter condition).filter
      fun row => decide (key row ∉ (ordered.take overflow).map key)).length =
      (ordered.drop overflow).length := by
    rw [← (perm.filter _).length_eq, filter_take_keys unique]
  calc (table.deleteEach (ordered.take overflow)
        fun stale row => decide (key row = key stale) && condition row).count condition
      = (ordered.drop overflow).length := by rw [count, survivors, remaining]
    _ = min (table.count condition) limit := by
        rw [List.length_drop, size]
        omega

end Table

end Foundation
