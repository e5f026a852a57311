import Mathlib.Data.List.Nodup

/-!
# Lists of records with keys

Lists of records each of which has a key. `put` lets a record take the place of the one that
has its key, `change` and `erase` act on the records with a key: keys that are distinct stay so.
-/

namespace Foundation.Keyed

open List

variable {Row Key : Type*} [DecidableEq Key] (key : Row → Key)

/-- A record takes the place of the first one with its key, or the last place. -/
def put (rows : List Row) (row : Row) : List Row :=
  match rows.findIdx? fun other => key other = key row with
  | none => rows ++ [row]
  | some index => rows.set index row

/-- The records with a key are changed. -/
def change (wanted : Key) (f : Row → Row) (rows : List Row) : List Row :=
  rows.map fun row => if key row = wanted then f row else row

/-- The records with a key are left out. -/
def erase (wanted : Key) (rows : List Row) : List Row := rows.filter fun row => key row ≠ wanted

section Lemmas

variable {key} {rows : List Row} {row other : Row} {wanted : Key} {f : Row → Row}

theorem put_cons (first : Row) (rest : List Row) :
    put key (first :: rest) row =
      if key first = key row then row :: rest else first :: put key rest row := by
  unfold put
  rw [findIdx?_cons]
  by_cases same : key first = key row
  · simp only [same, decide_true, if_true, set_cons_zero]
  · simp only [same, decide_false, Bool.false_eq_true, if_false]
    cases rest.findIdx? fun other => decide (key other = key row) with
    | none => rfl
    | some index => rfl

theorem keys_put : (put key rows row).map key =
    if key row ∈ rows.map key then rows.map key else rows.map key ++ [key row] := by
  induction rows with
  | nil => rfl
  | cons first rest ih =>
    rw [put_cons]
    by_cases same : key first = key row
    · rw [if_pos same, map_cons, map_cons, same, if_pos mem_cons_self]
    · have apart : key row ∈ (first :: rest).map key ↔ key row ∈ rest.map key := by
        rw [map_cons, mem_cons, or_iff_right (Ne.symm same)]
      rw [if_neg same, map_cons, ih]
      simp only [apart]
      split <;> rfl

theorem nodup_put (distinct : (rows.map key).Nodup) : ((put key rows row).map key).Nodup := by
  rw [keys_put]
  split
  · exact distinct
  · rename_i absent
    exact distinct.append (nodup_singleton _) (disjoint_singleton.mpr absent)

theorem mem_put (distinct : (rows.map key).Nodup) :
    other ∈ put key rows row ↔ other = row ∨ other ∈ rows ∧ key other ≠ key row := by
  induction rows with
  | nil =>
    change other ∈ [row] ↔ _
    simp only [mem_singleton, not_mem_nil, false_and, or_false]
  | cons first rest ih =>
    obtain ⟨absent, distinct⟩ := nodup_cons.mp distinct
    rw [put_cons]
    by_cases same : key first = key row
    · have apart : other ∈ rest → key other ≠ key row := fun member equal =>
        absent (mem_map.mpr ⟨other, member, equal.trans same.symm⟩)
      rw [if_pos same, mem_cons, mem_cons]
      constructor
      · exact Or.imp_right fun member => ⟨.inr member, apart member⟩
      · refine Or.imp_right fun ⟨member, different⟩ => member.resolve_left ?_
        intro equal
        exact different (equal ▸ same)
    · rw [if_neg same, mem_cons, ih distinct, mem_cons]
      constructor
      · intro member
        rcases member with equal | equal | ⟨member, different⟩
        · exact .inr ⟨.inl equal, equal ▸ same⟩
        · exact .inl equal
        · exact .inr ⟨.inr member, different⟩
      · intro member
        rcases member with equal | ⟨equal | member, different⟩
        · exact .inr (.inl equal)
        · exact .inl equal
        · exact .inr (.inr ⟨member, different⟩)

theorem keys_change (keeps : ∀ row, key (f row) = key row) :
    (change key wanted f rows).map key = rows.map key := by
  rw [change, map_map]
  apply map_congr_left
  intro row _
  change key (if key row = wanted then f row else row) = key row
  split
  · exact keeps row
  · rfl

theorem mem_change :
    other ∈ change key wanted f rows ↔
      ∃ row ∈ rows, (if key row = wanted then f row else row) = other :=
  mem_map

theorem mem_erase : other ∈ erase key wanted rows ↔ other ∈ rows ∧ key other ≠ wanted := by
  rw [erase, mem_filter, decide_eq_true_eq]

theorem mem_keys_erase {found : Key} :
    found ∈ (erase key wanted rows).map key ↔ found ∈ rows.map key ∧ found ≠ wanted := by
  constructor
  · intro member
    obtain ⟨row, kept, same⟩ := mem_map.mp member
    obtain ⟨old, different⟩ := mem_erase.mp kept
    exact ⟨mem_map.mpr ⟨row, old, same⟩, same ▸ different⟩
  · intro ⟨member, different⟩
    obtain ⟨row, old, same⟩ := mem_map.mp member
    exact mem_map.mpr ⟨row, mem_erase.mpr ⟨old, same ▸ different⟩, same⟩

theorem nodup_erase (distinct : (rows.map key).Nodup) : ((erase key wanted rows).map key).Nodup :=
  distinct.sublist (filter_sublist.map key)

/-- Of records with distinct keys, there is one with the key of a record. -/
theorem filter_of_mem (distinct : (rows.map key).Nodup) (member : row ∈ rows) :
    (rows.filter fun other => key other = key row) = [row] := by
  have once : (rows.filter fun other => key other = key row).Nodup := distinct.of_map.filter _
  have only : ∀ other, other ∈ (rows.filter fun other => key other = key row) ↔ other = row := by
    intro other
    rw [mem_filter, decide_eq_true_eq]
    constructor
    · exact fun found => inj_on_of_nodup_map distinct found.1 member found.2
    · intro same
      subst same
      exact ⟨member, rfl⟩
  exact perm_singleton.mp ((perm_ext_iff_of_nodup once (nodup_singleton row)).mpr
    fun other => (only other).trans mem_singleton.symm)

end Lemmas

end Foundation.Keyed
