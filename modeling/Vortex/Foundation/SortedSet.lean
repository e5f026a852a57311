import Mathlib.Data.List.Nodup

/-!
# Sorted sets

The sorted sets of Redis: members with scores, each member once. Of their order only the least
score is modelled.
-/

namespace Foundation

@[ext]
structure SortedSet (Member : Type*) where
  entries : List (Member × Nat)
  distinct : (entries.map Prod.fst).Nodup

namespace SortedSet

variable {Member : Type*}

def empty : SortedSet Member := ⟨[], List.nodup_nil⟩

def scores (set : SortedSet Member) : List Nat := set.entries.map Prod.snd

def zcard (set : SortedSet Member) : Nat := set.entries.length

/-- The members whose scores pass a test. -/
def restrict (set : SortedSet Member) (test : Nat → Bool) : SortedSet Member where
  entries := set.entries.filter fun entry => test entry.2
  distinct := set.distinct.sublist (List.filter_sublist.map _)

/-- `ZREMRANGEBYSCORE key -inf most`. -/
def zremrangebyscore (set : SortedSet Member) (most : Int) : SortedSet Member :=
  set.restrict fun score => most < score

/-- The score of the first member, `ZRANGE key 0 0 WITHSCORES`. -/
def least? (set : SortedSet Member) : Option Nat := set.scores.min?

variable [DecidableEq Member]

/-- A member that is there already only gets the new score. -/
def zadd (set : SortedSet Member) (score : Nat) (member : Member) : SortedSet Member where
  entries := set.entries.filter (fun entry => entry.1 ≠ member) ++ [(member, score)]
  distinct := by
    rw [List.map_append, List.nodup_append']
    refine ⟨set.distinct.sublist (List.filter_sublist.map _), List.nodup_singleton member, ?_⟩
    intro other old new
    obtain ⟨entry, kept, rfl⟩ := List.mem_map.mp old
    exact absurd (List.mem_singleton.mp new) (of_decide_eq_true (List.mem_filter.mp kept).2)

omit [DecidableEq Member] in
theorem mem_zremrangebyscore {set : SortedSet Member} {most : Int} {entry : Member × Nat} :
    entry ∈ (set.zremrangebyscore most).entries ↔ entry ∈ set.entries ∧ most < entry.2 := by
  rw [zremrangebyscore, restrict, List.mem_filter, decide_eq_true_eq]

theorem mem_zadd {set : SortedSet Member} {score : Nat} {member : Member} {entry : Member × Nat} :
    entry ∈ (set.zadd score member).entries ↔
      entry ∈ set.entries ∧ entry.1 ≠ member ∨ entry = (member, score) := by
  rw [zadd, List.mem_append, List.mem_filter, decide_eq_true_eq, List.mem_singleton]

omit [DecidableEq Member] in
/-- Nothing is removed when all scores are above the bound. -/
theorem zremrangebyscore_eq_self {set : SortedSet Member} {most : Int}
    (above : ∀ entry ∈ set.entries, most < (entry.2 : Int)) : set.zremrangebyscore most = set := by
  apply SortedSet.ext
  exact List.filter_eq_self.mpr fun entry stored => decide_eq_true (above entry stored)

omit [DecidableEq Member] in
theorem zcard_eq (set : SortedSet Member) : set.zcard = set.scores.length :=
  (List.length_map ..).symm

/-- A new member. -/
theorem scores_zadd {set : SortedSet Member} {member : Member}
    (fresh : member ∉ set.entries.map Prod.fst) (score : Nat) :
    (set.zadd score member).scores = set.scores ++ [score] := by
  have all : set.entries.filter (fun entry => entry.1 ≠ member) = set.entries := by
    rw [List.filter_eq_self]
    intro entry stored
    exact decide_eq_true fun same => fresh (same ▸ List.mem_map_of_mem stored)
  show (set.entries.filter (fun entry => entry.1 ≠ member) ++ [(member, score)]).map Prod.snd = _
  rw [all, List.map_append]
  rfl

/-- A member that is there already is not counted again. -/
theorem zcard_zadd_of_mem {set : SortedSet Member} {member : Member}
    (old : member ∈ set.entries.map Prod.fst) (score : Nat) :
    (set.zadd score member).zcard = set.zcard := by
  have once : set.entries.countP (fun entry => ¬decide (entry.1 ≠ member)) = 1 := by
    have count : (set.entries.map Prod.fst).countP (· == member) = 1 :=
      List.count_eq_one_of_mem set.distinct old
    rw [List.countP_map] at count
    rw [← count]
    apply List.countP_congr
    intro entry _
    simp
  have parts : set.entries.length = set.entries.countP (fun entry => entry.1 ≠ member) + 1 := by
    rw [← once]
    exact List.length_eq_countP_add_countP _
  show (set.entries.filter (fun entry => entry.1 ≠ member) ++ [(member, score)]).length = _
  rw [List.length_append, ← List.countP_eq_length_filter, zcard, parts]
  rfl

end SortedSet

end Foundation
