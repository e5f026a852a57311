import Mathlib.Order.Basic
import Vortex.Foundation.JsMap

/-!
# Maps from keys to sets

A map that lists under each key the members it is about. `Lists` says what is listed, and
`Filled` that no key is there for nothing.
-/

namespace Foundation

abbrev Postings (Key Member : Type*) := JsMap Key (JsSet Member)

namespace Postings

variable {Key Member : Type*} [DecidableEq Key]

/-- What is listed under a key, in the order in which it was listed. -/
def members (map : Postings Key Member) (key : Key) : List Member :=
  ((map.get? key).map JsMap.keys).getD []

/-- What is listed under each key. -/
def Lists (map : Postings Key Member) (holds : Key → Member → Prop) : Prop :=
  ∀ key member, member ∈ map.members key ↔ holds key member

/-- Every key lists something. -/
def Filled (map : Postings Key Member) : Prop :=
  ∀ key set, map.get? key = some set → set.keys ≠ []

variable [DecidableEq Member]

/-- A member is listed under a key, which is new at the first time. -/
def post (map : Postings Key Member) (member : Member) (key : Key) : Postings Key Member :=
  JsMap.set map key (((map.get? key).getD .empty).add member)

/-- A member is taken off a key, which stays. -/
def takeOff (map : Postings Key Member) (member : Member) (key : Key) : Postings Key Member :=
  match map.get? key with
  | none => map
  | some set => JsMap.set map key (set.delete member)

/-- A member is taken off a key, which goes with its last member. -/
def takeOut (map : Postings Key Member) (member : Member) (key : Key) : Postings Key Member :=
  match map.get? key with
  | none => map
  | some set =>
      let left := set.delete member
      if left.size = 0 then map.delete key else JsMap.set map key left

variable {map : Postings Key Member} {member other : Member} {key name : Key}

omit [DecidableEq Member] in
theorem members_of_get? {set : JsSet Member} (found : map.get? key = some set) :
    map.members key = set.keys := by
  rw [members, found]
  rfl

omit [DecidableEq Member] in
theorem members_of_none (absent : map.get? key = none) : map.members key = [] := by
  rw [members, absent]
  rfl

omit [DecidableEq Member] in
theorem members_eq_of_get? {second : Postings Key Member} (same : map.get? key = second.get? key) :
    map.members key = second.members key := by
  rw [members, members, same]

omit [DecidableEq Member] in
theorem nodup_members : (map.members key).Nodup := by
  cases found : map.get? key with
  | none =>
    rw [members_of_none found]
    exact List.nodup_nil
  | some set =>
    rw [members_of_get? found]
    exact set.nodup_keys

omit [DecidableEq Member] in
theorem members_getD : ((map.get? key).getD .empty).keys = map.members key := by
  rw [members]
  cases map.get? key with
  | none => rfl
  | some set => rfl

omit [DecidableEq Member] in
theorem members_delete : Postings.members (JsMap.delete map key) name =
    if name = key then [] else map.members name := by
  split
  · rename_i same
    rw [same, members_of_none JsMap.get?_delete_self]
  · rename_i different
    exact members_eq_of_get? (JsMap.get?_delete_of_ne different)

omit [DecidableEq Member] in
/-- A key is there exactly when something is listed under it. -/
theorem Filled.get?_isSome_iff (filled : map.Filled) :
    (map.get? key).isSome = true ↔ ∃ member, member ∈ map.members key := by
  cases found : map.get? key with
  | none => simp [members_of_none found]
  | some set =>
    simpa [members_of_get? found] using List.exists_mem_of_ne_nil _ (filled key set found)

/-! ## Each operation on one key -/

theorem members_post_of_ne (different : name ≠ key) :
    (map.post member key).members name = map.members name :=
  members_eq_of_get? (JsMap.get?_set_of_ne different)

theorem members_takeOff_of_ne (different : name ≠ key) :
    (map.takeOff member key).members name = map.members name := by
  rw [takeOff]
  split
  · rfl
  · exact members_eq_of_get? (JsMap.get?_set_of_ne different)

theorem members_takeOut_of_ne (different : name ≠ key) :
    (map.takeOut member key).members name = map.members name := by
  rw [takeOut]
  split
  · rfl
  · dsimp only
    split
    · exact members_eq_of_get? (JsMap.get?_delete_of_ne different)
    · exact members_eq_of_get? (JsMap.get?_set_of_ne different)

theorem members_post_self :
    (map.post member key).members key = (((map.get? key).getD .empty).add member).keys :=
  members_of_get? JsMap.get?_set_self

theorem members_takeOff_self :
    (map.takeOff member key).members key = (map.members key).erase member := by
  rw [takeOff]
  split
  · rename_i absent
    rw [members_of_none absent]
    rfl
  · rename_i set found
    rw [members_of_get? found, members_of_get? JsMap.get?_set_self, JsMap.keys_delete]

theorem members_takeOut_self :
    (map.takeOut member key).members key = (map.members key).erase member := by
  rw [takeOut]
  split
  · rename_i absent
    rw [members_of_none absent]
    rfl
  · rename_i set found
    dsimp only
    split
    · rename_i empty
      rw [members_of_none JsMap.get?_delete_self, members_of_get? found, ← JsMap.keys_delete]
      rw [← JsMap.length_keys] at empty
      exact (List.eq_nil_of_length_eq_zero empty).symm
    · rw [members_of_get? found, members_of_get? JsMap.get?_set_self, JsMap.keys_delete]

theorem mem_members_post :
    other ∈ (map.post member key).members name ↔
      other ∈ map.members name ∨ other = member ∧ name = key := by
  by_cases same : name = key
  · subst same
    rw [members_post_self, JsSet.add, JsMap.mem_keys_set, members_getD]
    simp only [and_true]
  · rw [members_post_of_ne same]
    simp only [same, and_false, or_false]

theorem mem_members_takeOff :
    other ∈ (map.takeOff member key).members name ↔
      other ∈ map.members name ∧ ¬ (other = member ∧ name = key) := by
  by_cases same : name = key
  · subst same
    rw [members_takeOff_self, List.Nodup.mem_erase_iff nodup_members, and_comm]
    simp only [and_true, ne_eq]
  · rw [members_takeOff_of_ne same]
    simp only [same, and_false, not_false_eq_true, and_true]

theorem mem_members_takeOut :
    other ∈ (map.takeOut member key).members name ↔
      other ∈ map.members name ∧ ¬ (other = member ∧ name = key) := by
  by_cases same : name = key
  · subst same
    rw [members_takeOut_self, List.Nodup.mem_erase_iff nodup_members, and_comm]
    simp only [and_true, ne_eq]
  · rw [members_takeOut_of_ne same]
    simp only [same, and_false, not_false_eq_true, and_true]

theorem length_post (absent : member ∉ map.members key) :
    ((map.post member key).members key).length = (map.members key).length + 1 := by
  rw [← members_getD] at absent
  rw [members_post_self, ← members_getD]
  exact (congrArg List.length (JsMap.keys_set_of_not_mem absent)).trans List.length_append

/-- At most one member more. -/
theorem length_post_le : ((map.post member key).members name).length ≤
    (map.members name).length + if name = key then 1 else 0 := by
  by_cases same : name = key
  · subst same
    rw [members_post_self, JsMap.length_keys, ← members_getD, JsMap.length_keys]
    exact JsMap.size_set_le.trans_eq (by rw [if_pos rfl])
  · rw [members_post_of_ne same]
    exact Nat.le_add_right ..

theorem length_takeOff_le :
    ((map.takeOff member key).members name).length ≤ (map.members name).length := by
  by_cases same : name = key
  · subst same
    rw [members_takeOff_self]
    exact List.length_erase_le
  · exact Nat.le_of_eq (congrArg List.length (members_takeOff_of_ne same))

/-- Exactly one member less. -/
theorem length_takeOff (listed : member ∈ map.members key) :
    ((map.takeOff member key).members key).length + 1 = (map.members key).length := by
  rw [members_takeOff_self, List.length_erase_of_mem listed]
  have some := List.length_pos_of_mem listed
  omega

theorem Filled.post (filled : map.Filled) : (map.post member key).Filled := by
  intro name set found
  by_cases same : name = key
  · subst same
    rw [Postings.post, JsMap.get?_set_self] at found
    cases found
    exact List.ne_nil_of_mem (JsMap.mem_keys_set.mpr (.inr rfl))
  · rw [Postings.post, JsMap.get?_set_of_ne same] at found
    exact filled name set found

theorem Filled.takeOut (filled : map.Filled) : (map.takeOut member key).Filled := by
  intro name set found
  rw [Postings.takeOut] at found
  split at found
  · exact filled name set found
  · rename_i old _
    dsimp only at found
    split at found
    · by_cases same : name = key
      · rw [same, JsMap.get?_delete_self] at found
        cases found
      · rw [JsMap.get?_delete_of_ne same] at found
        exact filled name set found
    · rename_i some
      by_cases same : name = key
      · rw [same, JsMap.get?_set_self] at found
        cases found
        rw [← JsMap.length_keys] at some
        exact List.length_eq_zero_iff.not.mp some
      · rw [JsMap.get?_set_of_ne same] at found
        exact filled name set found

/-! ## One member under several keys -/

theorem Filled.postAll (filled : map.Filled) (keys : List Key) :
    (keys.foldl (fun map key => Postings.post map member key) map).Filled := by
  induction keys generalizing map with
  | nil => exact filled
  | cons key keys ih => exact ih filled.post

theorem Filled.takeOutAll (filled : map.Filled) (keys : List Key) :
    (keys.foldl (fun map key => Postings.takeOut map member key) map).Filled := by
  induction keys generalizing map with
  | nil => exact filled
  | cons key keys ih => exact ih filled.takeOut

theorem mem_members_postAll {keys : List Key} :
    other ∈ Postings.members (keys.foldl (fun map key => Postings.post map member key) map) name ↔
      other ∈ map.members name ∨ other = member ∧ name ∈ keys := by
  induction keys generalizing map with
  | nil => simp
  | cons key keys ih =>
    rw [List.foldl_cons, ih, mem_members_post, List.mem_cons, and_or_left, or_assoc]

theorem mem_members_takeOutAll {keys : List Key} :
    other ∈ Postings.members (keys.foldl (fun map key => Postings.takeOut map member key) map) name ↔
      other ∈ map.members name ∧ ¬ (other = member ∧ name ∈ keys) := by
  induction keys generalizing map with
  | nil => simp
  | cons key keys ih =>
    rw [List.foldl_cons, ih, mem_members_takeOut, List.mem_cons, and_or_left, not_or, and_assoc]

end Postings

end Foundation
