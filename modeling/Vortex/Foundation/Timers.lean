import Mathlib.Logic.Function.Basic

/-!
# Tables whose entries own a timer

A table maps keys to values, each with a timer that removes the entry when it expires.
Arming a key replaces its entry and its timer, clearing it removes both, and a timer
that expires removes the entry it was set for, whatever that is by then. While the two
maps are `Paired`, that is the entry the timer belongs to.
-/

namespace Foundation

/-- Entries with the number of their timer, and the live timers with the key and the
closure they were set with. -/
structure TimerTable (κ ε τ : Type) where
  entries : κ → Option (ε × Nat)
  timers : Nat → Option (κ × τ)
  next : Nat

namespace TimerTable

variable {κ ε τ : Type}

def empty : TimerTable κ ε τ := ⟨fun _ => none, fun _ => none, 0⟩

/-- Clear the timer of a key, if it has one. -/
def cancel (key : κ) (table : TimerTable κ ε τ) : TimerTable κ ε τ :=
  match table.entries key with
  | none => table
  | some (_, timer) => { table with timers := Function.update table.timers timer none }

section

variable [DecidableEq κ]

/-- Delete the entry of a key. -/
def delete (key : κ) (table : TimerTable κ ε τ) : TimerTable κ ε τ :=
  { table with entries := Function.update table.entries key none }

/-- Clear the timer of a key and delete its entry. -/
def clear (key : κ) (table : TimerTable κ ε τ) : TimerTable κ ε τ := (table.cancel key).delete key

/-- Clear the timer of a key, set a new one, and write the entry. -/
def arm (key : κ) (value : ε) (closure : τ) (table : TimerTable κ ε τ) : TimerTable κ ε τ where
  entries := Function.update (table.cancel key).entries key (some (value, table.next))
  timers := Function.update (table.cancel key).timers table.next (some (key, closure))
  next := table.next + 1

/-- A timer goes off and deletes the entry of its key. -/
def expire (timer : Nat) (key : κ) (table : TimerTable κ ε τ) : TimerTable κ ε τ :=
  { table with timers := Function.update table.timers timer none }.delete key

end

/-- Clear every timer an entry has, and delete all entries. -/
def clearAll (table : TimerTable κ ε τ) : TimerTable κ ε τ where
  entries _ := none
  timers timer := (table.timers timer).filter fun (key, _) =>
    (table.entries key).all fun (_, own) => own ≠ timer
  next := table.next

/-- Every entry has its timer live, every live timer its entry, and no timer is live
before it is set. -/
structure Paired (table : TimerTable κ ε τ) : Prop where
  live : ∀ key value timer, table.entries key = some (value, timer) →
    ∃ closure, table.timers timer = some (key, closure)
  owned : ∀ timer key closure, table.timers timer = some (key, closure) →
    ∃ value, table.entries key = some (value, timer)
  fresh : ∀ timer, table.next ≤ timer → table.timers timer = none

variable {table : TimerTable κ ε τ} {key other : κ} {value : ε} {closure : τ} {timer : Nat}

theorem paired_empty : (empty : TimerTable κ ε τ).Paired where
  live _ _ _ impossible := nomatch impossible
  owned _ _ _ impossible := nomatch impossible
  fresh _ _ := rfl

@[simp] theorem entries_cancel : (table.cancel key).entries = table.entries := by
  unfold cancel
  split <;> rfl

@[simp] theorem next_cancel : (table.cancel key).next = table.next := by
  unfold cancel
  split <;> rfl

/-- The timers left when a key's own is cleared are those of the other keys. -/
theorem Paired.timers_cancel (paired : table.Paired) :
    (table.cancel key).timers timer = some (other, closure) ↔
      table.timers timer = some (other, closure) ∧ other ≠ key := by
  unfold cancel
  split
  · rename_i absent
    refine ⟨fun live => ⟨live, ?_⟩, And.left⟩
    rintro rfl
    obtain ⟨value, there⟩ := paired.owned timer other closure live
    rw [absent] at there
    cases there
  · rename_i value mine there
    by_cases same : timer = mine
    · subst same
      dsimp only
      rw [Function.update_self]
      refine ⟨(nomatch ·), fun ⟨live, different⟩ => ?_⟩
      obtain ⟨closure', live'⟩ := paired.live key value timer there
      rw [live] at live'
      cases live'
      exact (different rfl).elim
    · dsimp only
      rw [Function.update_of_ne same]
      refine ⟨fun live => ⟨live, ?_⟩, And.left⟩
      rintro rfl
      obtain ⟨value', there'⟩ := paired.owned timer other closure live
      rw [there] at there'
      cases there'
      exact same rfl

/-- Clearing everything leaves no timer. -/
theorem Paired.timers_clearAll (paired : table.Paired) (timer : Nat) :
    table.clearAll.timers timer = none := by
  unfold clearAll
  dsimp only
  cases live : table.timers timer with
  | none => rfl
  | some found =>
    obtain ⟨key, closure⟩ := found
    obtain ⟨value, there⟩ := paired.owned timer key closure live
    refine Option.filter_eq_none_iff.mpr fun entry same => ?_
    cases same
    simp only [there, Option.all_some, decide_not, decide_true, Bool.not_true,
      Bool.false_eq_true, not_false_eq_true]

theorem Paired.clearAll (paired : table.Paired) : table.clearAll.Paired where
  live _ _ _ impossible := nomatch impossible
  owned timer key closure live := by
    rw [paired.timers_clearAll] at live
    cases live
  fresh timer _ := paired.timers_clearAll timer

/-- Two live timers of one key are the same. -/
theorem Paired.eq_of_live (paired : table.Paired) {second : Nat} {closure' : τ}
    (live : table.timers timer = some (key, closure))
    (other : table.timers second = some (key, closure')) : timer = second := by
  obtain ⟨value, there⟩ := paired.owned timer key closure live
  obtain ⟨value', there'⟩ := paired.owned second key closure' other
  rw [there] at there'
  cases there'
  rfl

variable [DecidableEq κ]

@[simp] theorem entries_clear (table : TimerTable κ ε τ) (key : κ) :
    (table.clear key).entries = Function.update table.entries key none := by
  unfold clear delete
  rw [entries_cancel]

@[simp] theorem entries_arm (table : TimerTable κ ε τ) (key : κ) (value : ε) (closure : τ) :
    (table.arm key value closure).entries =
      Function.update table.entries key (some (value, table.next)) := by
  unfold arm
  rw [entries_cancel]

theorem timers_arm (table : TimerTable κ ε τ) (key : κ) (value : ε) (closure : τ) :
    (table.arm key value closure).timers =
      Function.update (table.cancel key).timers table.next (some (key, closure)) := rfl

section

variable (paired : table.Paired)

include paired

theorem Paired.clear (key : κ) : (table.clear key).Paired where
  live other value timer there := by
    rw [entries_clear] at there
    by_cases same : other = key
    · subst same
      rw [Function.update_self] at there
      cases there
    · rw [Function.update_of_ne same] at there
      obtain ⟨closure, live⟩ := paired.live other value timer there
      exact ⟨closure, paired.timers_cancel.mpr ⟨live, same⟩⟩
  owned timer other closure live := by
    obtain ⟨live, different⟩ := paired.timers_cancel.mp live
    obtain ⟨value, there⟩ := paired.owned timer other closure live
    refine ⟨value, ?_⟩
    rw [entries_clear, Function.update_of_ne different, there]
  fresh timer late := by
    cases live : (table.clear key).timers timer with
    | none => rfl
    | some found =>
      obtain ⟨live, -⟩ := paired.timers_cancel.mp live
      have late : table.next ≤ timer := by rwa [← next_cancel]
      rw [paired.fresh timer late] at live
      cases live

theorem Paired.arm (key : κ) (value : ε) (closure : τ) :
    (table.arm key value closure).Paired where
  live other value' timer there := by
    rw [entries_arm] at there
    rw [timers_arm]
    by_cases same : other = key
    · subst same
      rw [Function.update_self] at there
      cases there
      exact ⟨closure, Function.update_self ..⟩
    · rw [Function.update_of_ne same] at there
      obtain ⟨closure', live⟩ := paired.live other value' timer there
      refine ⟨closure', ?_⟩
      have older : timer ≠ table.next := by
        rintro rfl
        rw [paired.fresh _ (Nat.le_refl _)] at live
        cases live
      rw [Function.update_of_ne older]
      exact paired.timers_cancel.mpr ⟨live, same⟩
  owned timer other closure' live := by
    rw [timers_arm] at live
    rw [entries_arm]
    by_cases newest : timer = table.next
    · subst newest
      rw [Function.update_self] at live
      cases live
      exact ⟨value, Function.update_self ..⟩
    · rw [Function.update_of_ne newest] at live
      obtain ⟨live, different⟩ := paired.timers_cancel.mp live
      obtain ⟨value', there⟩ := paired.owned timer other closure' live
      refine ⟨value', ?_⟩
      rw [Function.update_of_ne different, there]
  fresh timer late := by
    rw [timers_arm]
    have newer : timer ≠ table.next := Nat.ne_of_gt late
    rw [Function.update_of_ne newer]
    cases live : (table.cancel key).timers timer with
    | none => rfl
    | some found =>
      obtain ⟨live, -⟩ := paired.timers_cancel.mp live
      rw [paired.fresh timer (Nat.le_of_lt late)] at live
      cases live

/-- A timer that goes off clears the entry it belongs to. -/
theorem Paired.expire_eq (live : table.timers timer = some (key, closure)) :
    table.expire timer key = table.clear key := by
  obtain ⟨value, there⟩ := paired.owned timer key closure live
  unfold expire TimerTable.clear cancel
  rw [there]

/-- A timer that is live after a key was cleared was live before. -/
theorem Paired.live_of_clear (live : (table.clear key).timers timer = some (other, closure)) :
    table.timers timer = some (other, closure) :=
  (paired.timers_cancel.mp live).1

/-- A timer that is live after a key was armed is the new one or was live before. -/
theorem Paired.live_of_arm {closure' : τ}
    (live : (table.arm key value closure).timers timer = some (other, closure')) :
    (other = key ∧ closure' = closure) ∨ table.timers timer = some (other, closure') := by
  rw [timers_arm] at live
  by_cases newest : timer = table.next
  · subst newest
    rw [Function.update_self] at live
    cases live
    exact .inl ⟨rfl, rfl⟩
  · rw [Function.update_of_ne newest] at live
    exact .inr (paired.timers_cancel.mp live).1

end

end TimerTable

end Foundation
