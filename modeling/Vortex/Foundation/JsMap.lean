import Mathlib.Data.List.Nodup

/-!
# Maps and sets of JavaScript

`Map` and `Set` keep their keys in the order of insertion, each once. A key that is set again
stays where it is, one that is deleted and set again comes last.
-/

namespace Foundation

@[ext]
structure JsMap (Key Value : Type*) where
  entries : List (Key × Value)
  distinct : (entries.map Prod.fst).Nodup

namespace JsMap

variable {Key Value Other : Type*}

def empty : JsMap Key Value := ⟨[], List.nodup_nil⟩

def keys (map : JsMap Key Value) : List Key := map.entries.map Prod.fst

def size (map : JsMap Key Value) : Nat := map.entries.length

/-- Every value is replaced or deleted. -/
def filterMap (map : JsMap Key Value) (f : Key → Value → Option Other) : JsMap Key Other where
  entries := map.entries.filterMap fun entry => (f entry.1 entry.2).map (entry.1, ·)
  distinct := by
    have sub : (map.entries.filterMap fun entry => (f entry.1 entry.2).map (entry.1, ·)).map Prod.fst =
        (map.entries.filter fun entry => (f entry.1 entry.2).isSome).map Prod.fst := by
      induction map.entries with
      | nil => rfl
      | cons entry rest ih => cases found : f entry.1 entry.2 <;> simp [found, ih]
    rw [sub]
    exact map.distinct.sublist (List.filter_sublist.map _)

variable [DecidableEq Key]

def get? (map : JsMap Key Value) (key : Key) : Option Value :=
  (map.entries.find? fun entry => entry.1 = key).map Prod.snd

def has (map : JsMap Key Value) (key : Key) : Bool := (map.get? key).isSome

def delete (map : JsMap Key Value) (key : Key) : JsMap Key Value where
  entries := map.entries.filter fun entry => entry.1 ≠ key
  distinct := map.distinct.sublist (List.filter_sublist.map _)

omit [DecidableEq Key] in
theorem distinct_snoc {map : JsMap Key Value} {key : Key} (absent : key ∉ map.keys)
    (value : Value) : ((map.entries ++ [(key, value)]).map Prod.fst).Nodup := by
  rw [List.map_append, List.nodup_append']
  refine ⟨map.distinct, List.nodup_singleton key, ?_⟩
  intro other old new
  cases List.mem_singleton.mp new
  exact absent old

def set (map : JsMap Key Value) (key : Key) (value : Value) : JsMap Key Value :=
  if found : key ∈ map.keys then
    { entries := map.entries.map fun entry => (entry.1, if entry.1 = key then value else entry.2)
      distinct := by
        rw [List.map_map]
        exact map.distinct }
  else ⟨map.entries ++ [(key, value)], distinct_snoc found value⟩

/-! ## Looking up -/

variable {map : JsMap Key Value} {key other : Key} {value : Value}

theorem find?_of_mem {entries : List (Key × Value)} (distinct : (entries.map Prod.fst).Nodup)
    (member : (key, value) ∈ entries) :
    entries.find? (fun entry => entry.1 = key) = some (key, value) := by
  induction entries with
  | nil => cases member
  | cons entry rest ih =>
    obtain ⟨absent, distinct⟩ := List.nodup_cons.mp distinct
    rcases List.mem_cons.mp member with rfl | later
    · exact List.find?_cons_of_pos (decide_eq_true rfl)
    · have different : entry.1 ≠ key := by
        rintro rfl
        exact absent (List.mem_map.mpr ⟨_, later, rfl⟩)
      rw [List.find?_cons_of_neg (by simpa using different)]
      exact ih distinct later

theorem mem_entries : (key, value) ∈ map.entries ↔ map.get? key = some value := by
  rw [get?, Option.map_eq_some_iff]
  constructor
  · exact fun member => ⟨(key, value), find?_of_mem map.distinct member, rfl⟩
  · rintro ⟨entry, found, rfl⟩
    have same : entry.1 = key := by simpa using List.find?_some found
    rw [← same]
    exact List.mem_of_find?_eq_some found

theorem mem_keys : key ∈ map.keys ↔ ∃ value, map.get? key = some value := by
  simp only [keys, List.mem_map, Prod.exists, exists_and_right, exists_eq_right, mem_entries]

theorem get?_eq_of_mem {second : JsMap Key Value} (same : ∀ value,
    (key, value) ∈ map.entries ↔ (other, value) ∈ second.entries) :
    map.get? key = second.get? other := by
  apply Option.ext
  intro value
  rw [← mem_entries, ← mem_entries, same]

theorem get?_delete_self : (map.delete key).get? key = none := by
  rw [Option.eq_none_iff_forall_ne_some]
  intro value found
  have member := mem_entries.mpr found
  exact of_decide_eq_true (List.mem_filter.mp member).2 rfl

theorem get?_delete_of_ne (different : other ≠ key) :
    (map.delete key).get? other = map.get? other := by
  apply get?_eq_of_mem
  intro value
  simp [delete, different]

theorem get?_set_self : (map.set key value).get? key = some value := by
  rw [← mem_entries, set]
  split
  · rename_i found
    obtain ⟨old, stored⟩ := mem_keys.mp found
    exact List.mem_map.mpr ⟨(key, old), mem_entries.mpr stored, by simp⟩
  · exact List.mem_append_right _ (List.mem_singleton_self _)

theorem get?_set_of_ne (different : other ≠ key) :
    (map.set key value).get? other = map.get? other := by
  apply get?_eq_of_mem
  intro old
  rw [set]
  split
  · simp [different]
  · simp [different]

theorem get?_delete :
    (map.delete key).get? other = if other = key then none else map.get? other := by
  split
  · rename_i same
    rw [same, get?_delete_self]
  · rename_i different
    exact get?_delete_of_ne different

theorem get?_set :
    (map.set key value).get? other = if other = key then some value else map.get? other := by
  split
  · rename_i same
    rw [same, get?_set_self]
  · rename_i different
    exact get?_set_of_ne different

theorem has_eq_true : map.has key = true ↔ key ∈ map.keys := by
  rw [has, Option.isSome_iff_exists, mem_keys]

theorem mem_keys_set : other ∈ (map.set key value).keys ↔ other ∈ map.keys ∨ other = key := by
  by_cases same : other = key
  · simp [mem_keys, get?_set, same]
  · simp [mem_keys, get?_set, same]

omit [DecidableEq Key] in
theorem nodup_keys (map : JsMap Key Value) : map.keys.Nodup := map.distinct

omit [DecidableEq Key] in
theorem length_keys (map : JsMap Key Value) : map.keys.length = map.size := List.length_map ..

theorem keys_delete (map : JsMap Key Value) (key : Key) :
    (map.delete key).keys = map.keys.erase key := by
  rw [List.Nodup.erase_eq_filter map.nodup_keys, keys, keys, List.filter_map]
  congr 1
  refine List.filter_congr fun entry _ => ?_
  simp [bne, beq_eq_decide]

/-- A key that is there is deleted once. -/
theorem size_delete (present : key ∈ map.keys) : (map.delete key).size + 1 = map.size := by
  rw [← length_keys, ← length_keys, keys_delete, List.length_erase_of_mem present]
  have some : 0 < map.keys.length := List.length_pos_of_mem present
  omega

theorem size_delete_le : (map.delete key).size ≤ map.size := List.length_filter_le ..

theorem keys_set_of_mem (present : key ∈ map.keys) : (map.set key value).keys = map.keys := by
  rw [set, dif_pos present, keys, List.map_map]
  rfl

theorem keys_set_of_not_mem (absent : key ∉ map.keys) :
    (map.set key value).keys = map.keys ++ [key] := by
  rw [set, dif_neg absent, keys, List.map_append]
  rfl

theorem size_set_le : (map.set key value).size ≤ map.size + 1 := by
  rw [← length_keys, ← length_keys]
  by_cases present : key ∈ map.keys
  · rw [keys_set_of_mem present]
    exact Nat.le_succ _
  · exact Nat.le_of_eq ((congrArg List.length (keys_set_of_not_mem present)).trans List.length_append)

theorem get?_filterMap (f : Key → Value → Option Other) :
    (map.filterMap f).get? key = (map.get? key).bind (f key) := by
  apply Option.ext
  intro value
  rw [← mem_entries, filterMap, List.mem_filterMap, Option.bind_eq_some_iff]
  constructor
  · rintro ⟨entry, member, mapped⟩
    obtain ⟨result, found, same⟩ := Option.map_eq_some_iff.mp mapped
    cases same
    exact ⟨entry.2, mem_entries.mp member, found⟩
  · rintro ⟨old, stored, found⟩
    exact ⟨(key, old), mem_entries.mpr stored, Option.map_eq_some_iff.mpr ⟨value, found, rfl⟩⟩

theorem size_eq_zero : map.size = 0 ↔ ∀ key, map.get? key = none := by
  rw [size, List.length_eq_zero_iff, List.eq_nil_iff_forall_not_mem]
  constructor
  · intro none key
    rw [Option.eq_none_iff_forall_ne_some]
    exact fun value found => none _ (mem_entries.mpr found)
  · intro none entry member
    have found := mem_entries.mp member
    rw [none entry.1] at found
    cases found

end JsMap

/-- A set is a map to nothing. -/
abbrev JsSet (Member : Type*) := JsMap Member Unit

namespace JsSet

variable {Member : Type*} [DecidableEq Member]

def add (set : JsSet Member) (member : Member) : JsSet Member := JsMap.set set member ()

end JsSet

end Foundation
