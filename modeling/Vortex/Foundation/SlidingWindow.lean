import Mathlib.Data.List.Basic

/-!
# Sliding windows

An exact sliding window admits a call when fewer than `limit` of the calls it has admitted
lie within the last `window` units of time. A log whose decisions are made so never has
more than `limit` admitted calls in an interval of that length, and refuses a call only
when there are as many before it.
-/

namespace Foundation

namespace SlidingWindow

/-- A call, and whether it was admitted. -/
structure Decision where
  time : Nat
  allowed : Bool
  deriving DecidableEq

/-- The times of the admitted calls, the oldest first. -/
def allowedTimes (log : List Decision) : List Nat :=
  (log.filter Decision.allowed).map Decision.time

/-- The times that lie within the window that ends at `now`. -/
def recent (window now : Nat) (times : List Nat) : List Nat :=
  times.filter fun time => now < time + window

/-- The decision of an exact sliding window after a log. -/
def exact (window limit : Nat) (log : List Decision) (now : Nat) : Decision :=
  ⟨now, (recent window now (allowedTimes log)).length < limit⟩

/-- A log of such decisions, at times that do not decrease. -/
inductive Exact (window limit : Nat) : List Decision → Prop
  | nil : Exact window limit []
  | snoc {log : List Decision} {now : Nat} (before : Exact window limit log)
      (later : ∀ decision ∈ log, decision.time ≤ now) :
      Exact window limit (log ++ [exact window limit log now])

/-- What a limiter promises: at most `limit` admitted calls in every half-open interval of the
window's length, and as many before every refused call. -/
structure Bounded (window limit : Nat) (log : List Decision) : Prop where
  most : ∀ start, ((allowedTimes log).filter fun time =>
    start ≤ time && time < start + window).length ≤ limit
  mostAfter : ∀ start, ((allowedTimes log).filter fun time =>
    start < time && time ≤ start + window).length ≤ limit
  refused : ∀ earlier decision later, log = earlier ++ decision :: later →
    decision.allowed = false → limit ≤ (recent window decision.time (allowedTimes earlier)).length

section Lists

variable {window limit now : Nat} {log : List Decision}

theorem allowedTimes_append (first second : List Decision) :
    allowedTimes (first ++ second) = allowedTimes first ++ allowedTimes second := by
  rw [allowedTimes, List.filter_append, List.map_append]
  rfl

theorem allowedTimes_single (decision : Decision) :
    allowedTimes [decision] = if decision.allowed then [decision.time] else [] := by
  rw [allowedTimes, List.filter_singleton]
  cases decision.allowed <;> rfl

theorem allowedTimes_replicate (count : Nat) :
    allowedTimes (List.replicate count ⟨now, true⟩) = List.replicate count now := by
  rw [allowedTimes, List.filter_replicate, if_pos rfl, List.map_replicate]

theorem recent_replicate (count : Nat) (wide : 0 < window) :
    recent window now (List.replicate count now) = List.replicate count now := by
  rw [recent, List.filter_replicate, if_pos (decide_eq_true (Nat.lt_add_of_pos_right wide))]

theorem mem_allowedTimes {time : Nat} :
    time ∈ allowedTimes log ↔ ∃ decision ∈ log, decision.allowed = true ∧ decision.time = time := by
  simp only [allowedTimes, List.mem_map, List.mem_filter, and_assoc]

theorem recent_append (first second : List Nat) :
    recent window now (first ++ second) = recent window now first ++ recent window now second :=
  List.filter_append ..

/-- The times above the beginning of the window. -/
theorem filter_cutoff (times : List Nat) :
    times.filter (fun (time : Nat) => ((now : Int) - window < time)) = recent window now times := by
  apply List.filter_congr
  intro time _
  rw [decide_eq_decide]
  omega

/-- Dropping what has left a window changes nothing for a window that ends later. -/
theorem recent_recent {wider earlier : Nat} (times : List Nat)
    (order : earlier + window ≤ now + wider) :
    recent window now (recent wider earlier times) = recent window now times := by
  rw [recent, recent, recent, List.filter_filter]
  apply List.filter_congr
  intro time _
  rw [Bool.and_eq_left_iff_imp]
  intro inside
  rw [decide_eq_true_eq] at inside ⊢
  omega

theorem length_filter_le {inside : Nat → Bool} {times : List Nat}
    (close : ∀ time ∈ times, inside time = true → now < time + window) :
    (times.filter inside).length ≤ (recent window now times).length := by
  rw [recent, ← List.countP_eq_length_filter, ← List.countP_eq_length_filter]
  apply List.countP_mono_left
  intro time member within
  exact decide_eq_true (close time member within)

end Lists

section Logs

variable {window limit : Nat} {log : List Decision}

/-- No more than `limit` admitted calls lie in a set of times less than `window` apart. -/
theorem Exact.length_le (exact : Exact window limit log) {inside : Nat → Bool}
    (close : ∀ first second, inside first = true → inside second = true → second < first + window) :
    ((allowedTimes log).filter inside).length ≤ limit := by
  induction exact with
  | nil => exact Nat.zero_le limit
  | @snoc log now before later ih =>
    rw [allowedTimes_append, List.filter_append, List.length_append, allowedTimes_single]
    by_cases admitted : (SlidingWindow.exact window limit log now).allowed = true
    · rw [if_pos admitted]
      by_cases within : inside now = true
      · -- The admitted calls of the set lie in the window that ends now.
        have few : ((allowedTimes log).filter inside).length ≤
            (recent window now (allowedTimes log)).length :=
          length_filter_le fun time _ member => close time now member within
        have room := of_decide_eq_true admitted
        have last : ([now].filter inside).length ≤ 1 := List.length_filter_le inside [now]
        show _ + ([now].filter inside).length ≤ limit
        omega
      · have none : ([now].filter inside).length = 0 := by
          rw [List.filter_eq_nil_iff.mpr (by simpa using within), List.length_nil]
        show _ + ([now].filter inside).length ≤ limit
        rw [none]
        exact ih
    · rw [if_neg admitted]
      exact ih

theorem Exact.refused (exact : Exact window limit log) {earlier later : List Decision}
    {decision : Decision} (split : log = earlier ++ decision :: later)
    (refused : decision.allowed = false) :
    limit ≤ (recent window decision.time (allowedTimes earlier)).length := by
  induction exact generalizing later with
  | nil => cases List.append_ne_nil_of_right_ne_nil earlier (List.cons_ne_nil _ _) split.symm
  | @snoc log now before _ ih =>
    rcases List.eq_nil_or_concat later with rfl | ⟨rest, last, rfl⟩
    · obtain ⟨rfl, same⟩ := List.append_inj' split rfl
      cases same
      exact Nat.le_of_not_lt (of_decide_eq_false refused)
    · rw [List.concat_eq_append, ← List.cons_append, ← List.append_assoc] at split
      exact ih (List.append_inj' split rfl).1

/-- An exact sliding window keeps the promise. -/
theorem Exact.bounded (exact : Exact window limit log) : Bounded window limit log where
  most start := by
    apply exact.length_le
    intro first second left right
    simp only [Bool.and_eq_true, decide_eq_true_eq] at left right
    omega
  mostAfter start := by
    apply exact.length_le
    intro first second left right
    simp only [Bool.and_eq_true, decide_eq_true_eq] at left right
    omega
  refused _ _ _ split refused := exact.refused split refused

/-- The promise for the window that ends after the last call. -/
theorem Bounded.length_recent_le (bounded : Bounded window limit log) {now : Nat}
    (past : ∀ decision ∈ log, decision.time ≤ now) :
    (recent window now (allowedTimes log)).length ≤ limit := by
  have before : ∀ time ∈ allowedTimes log, time ≤ now := by
    intro time member
    obtain ⟨decision, logged, _, rfl⟩ := mem_allowedTimes.mp member
    exact past decision logged
  rcases Nat.lt_or_ge now window with young | old
  · convert bounded.most 0 using 2
    apply List.filter_congr
    intro time member
    have within := before time member
    rw [← Bool.decide_and, decide_eq_decide]
    omega
  · convert bounded.mostAfter (now - window) using 2
    apply List.filter_congr
    intro time member
    have within := before time member
    rw [← Bool.decide_and, decide_eq_decide]
    omega

end Logs

/-! ## What a limiter keeps -/

/-- Some stored times, in any order, say as much about the windows that end from now on as the
log does. -/
def Keeps (window now : Nat) (stored : List Nat) (log : List Decision) : Prop :=
  (recent window now stored).Perm (recent window now (allowedTimes log))

section Keeps

variable {window limit now : Nat} {stored : List Nat} {log : List Decision}

theorem keeps_nil : Keeps window now [] [] := .nil

/-- A window without length holds no time of the past. -/
theorem keeps_zero (past : ∀ decision ∈ log, decision.time ≤ now) : Keeps 0 now [] log := by
  have none : recent 0 now (allowedTimes log) = [] := by
    rw [recent, List.filter_eq_nil_iff]
    intro time member
    obtain ⟨decision, logged, _, rfl⟩ := mem_allowedTimes.mp member
    rw [decide_eq_true_eq, Nat.not_lt]
    exact past decision logged
  rw [Keeps, none]
  exact .nil

section

variable (keeps : Keeps window now stored log)

include keeps

theorem Keeps.later {later : Nat} (order : now ≤ later) : Keeps window later stored log := by
  have within : now + window ≤ later + window := Nat.add_le_add_right order window
  rw [Keeps, ← recent_recent stored within, ← recent_recent (allowedTimes log) within]
  exact keeps.filter _

/-- Times that have left a window of at least this length may be dropped. -/
theorem Keeps.prune {wider : Nat} (longer : window ≤ wider) :
    Keeps window now (recent wider now stored) log := by
  rw [Keeps, recent_recent stored (Nat.add_le_add_left longer now)]
  exact keeps

/-- All of them may be dropped when they have left the window. -/
theorem Keeps.drop (old : ∀ time ∈ stored, time + window ≤ now) : Keeps window now [] log := by
  have none : recent window now stored = [] := by
    rw [recent, List.filter_eq_nil_iff]
    intro time member
    rw [decide_eq_true_eq, Nat.not_lt]
    exact old time member
  rw [Keeps, none] at keeps
  exact keeps

theorem Keeps.admit : Keeps window now (stored ++ [now]) (log ++ [⟨now, true⟩]) := by
  rw [Keeps, recent_append, allowedTimes_append, recent_append]
  exact keeps.append_right _

theorem Keeps.refuse : Keeps window now stored (log ++ [⟨now, false⟩]) := by
  have same : allowedTimes (log ++ [⟨now, false⟩]) = allowedTimes log := by
    rw [allowedTimes_append]
    exact List.append_nil _
  rw [Keeps, same]
  exact keeps

/-- The decision made from the stored times is the exact one. -/
theorem Keeps.exact_eq :
    exact window limit log now = ⟨now, (recent window now stored).length < limit⟩ := by
  rw [exact, keeps.length_eq]

/-- What is stored after the decision. -/
theorem Keeps.decide :
    Keeps window now
      (if (recent window now stored).length < limit then recent window now stored ++ [now]
        else recent window now stored) (log ++ [exact window limit log now]) := by
  have pruned := keeps.prune (Nat.le_refl window)
  rw [keeps.exact_eq]
  split
  · rename_i room
    rw [decide_eq_true room]
    exact pruned.admit
  · rename_i full
    rw [decide_eq_false full]
    exact pruned.refuse

end

end Keeps

end SlidingWindow

end Foundation
