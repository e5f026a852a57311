import Vortex.Foundation.JsText
import Vortex.Foundation.SlidingWindow
import Vortex.Foundation.System

/-!
# The rate limiter in memory

`rate-limit.ts` without Redis: for each key the times of the admitted checks, pruned by every
check of the key, and by a scheduled cleanup that has an age limit of its own.
-/

namespace Vortex.Limits

open Foundation

structure CheckOptions where
  limit : Nat
  windowMs : Nat
  deriving DecidableEq

structure RateLimitResult where
  allowed : Bool
  remaining : Nat
  resetAt : Nat
  deriving DecidableEq

structure WindowEntry where
  timestamps : List Nat
  deriving DecidableEq

/-- `maxAgeMs` of a cleanup that is called without it, as the timer does. -/
def CLEANUP_MAX_AGE_MS : Nat := 60000

structure InMemoryRateLimiter where
  windows : JsString → Option WindowEntry

namespace InMemoryRateLimiter

def check (limiter : InMemoryRateLimiter) (now : Nat) (key : JsString) (opts : CheckOptions) :
    RateLimitResult × InMemoryRateLimiter :=
  let cutoff : Int := now - opts.windowMs
  let entry := (limiter.windows key).getD ⟨[]⟩
  let timestamps := entry.timestamps.filter fun (time : Nat) => cutoff < time
  let remaining := opts.limit - timestamps.length
  let resetAt := match timestamps with
    | [] => now + opts.windowMs
    -- The time 0 is falsy.
    | first :: _ => if first = 0 then now + opts.windowMs else first + opts.windowMs
  if opts.limit ≤ timestamps.length then
    (⟨false, 0, resetAt⟩, ⟨Function.update limiter.windows key (some ⟨timestamps⟩)⟩)
  else
    (⟨true, remaining - 1, resetAt⟩,
      ⟨Function.update limiter.windows key (some ⟨timestamps ++ [now]⟩)⟩)

def cleanup (limiter : InMemoryRateLimiter) (now maxAgeMs : Nat) : InMemoryRateLimiter :=
  let cutoff : Int := now - maxAgeMs
  ⟨fun key => (limiter.windows key).filter fun entry => !entry.timestamps.all fun (time : Nat) => time < cutoff⟩

/-- The times that are stored for a key. -/
def stored (limiter : InMemoryRateLimiter) (key : JsString) : List Nat :=
  ((limiter.windows key).getD ⟨[]⟩).timestamps

end InMemoryRateLimiter

/-- A limiter with its clock, and what it has decided for each key. -/
structure Checks where
  now : Nat
  limiter : InMemoryRateLimiter
  log : JsString → List SlidingWindow.Decision

inductive CheckEvent
  | passes (ms : Nat)
  | checks (key : JsString) (opts : CheckOptions)
  | cleansUp

namespace Checks

def next (state : Checks) : CheckEvent → Checks
  | .passes ms => { state with now := state.now + ms }
  | .checks key opts =>
      let (result, limiter) := state.limiter.check state.now key opts
      { state with
        limiter := limiter
        log := Function.update state.log key (state.log key ++ [⟨state.now, result.allowed⟩]) }
  | .cleansUp => { state with limiter := state.limiter.cleanup state.now CLEANUP_MAX_AGE_MS }

/-- Nothing has been checked. -/
structure Initial (state : Checks) : Prop where
  windows : ∀ key, state.limiter.windows key = none
  log : ∀ key, state.log key = []

end Checks

def checkSystem : System Checks CheckEvent :=
  .ofNext Checks.Initial fun state event => some (state.next event)

/-- The checks of a key all have the same options. -/
def CheckEvent.Fixed (key : JsString) (opts : CheckOptions) (_ : Checks) : CheckEvent → Prop
  | .checks other others => other = key → others = opts
  | _ => True

/-! ## One call -/

namespace InMemoryRateLimiter

variable {limiter : InMemoryRateLimiter} {now : Nat} {key : JsString} {opts : CheckOptions}

theorem check_eq : limiter.check now key opts =
    let timestamps := SlidingWindow.recent opts.windowMs now (limiter.stored key)
    let resetAt := match timestamps with
      | [] => now + opts.windowMs
      | first :: _ => if first = 0 then now + opts.windowMs else first + opts.windowMs
    if timestamps.length < opts.limit then
      (⟨true, opts.limit - timestamps.length - 1, resetAt⟩,
        ⟨Function.update limiter.windows key (some ⟨timestamps ++ [now]⟩)⟩)
    else (⟨false, 0, resetAt⟩, ⟨Function.update limiter.windows key (some ⟨timestamps⟩)⟩) := by
  simp only [check, SlidingWindow.filter_cutoff, ← Nat.not_lt, ite_not]
  rfl

theorem check_allowed : (limiter.check now key opts).1.allowed =
    decide ((SlidingWindow.recent opts.windowMs now (limiter.stored key)).length < opts.limit) := by
  rw [check_eq]
  dsimp only
  split
  · exact (decide_eq_true ‹_›).symm
  · exact (decide_eq_false ‹_›).symm

theorem stored_check : (limiter.check now key opts).2.stored key =
    if (SlidingWindow.recent opts.windowMs now (limiter.stored key)).length < opts.limit then
      SlidingWindow.recent opts.windowMs now (limiter.stored key) ++ [now]
    else SlidingWindow.recent opts.windowMs now (limiter.stored key) := by
  rw [check_eq]
  dsimp only
  split <;> simp only [stored, Function.update_self, Option.getD_some]

theorem stored_check_of_ne {other : JsString} (different : other ≠ key) :
    (limiter.check now key opts).2.stored other = limiter.stored other := by
  rw [check_eq]
  dsimp only
  split <;> simp only [stored, Function.update_of_ne different]

/-- A cleanup drops all times of a key or none. -/
theorem stored_cleanup (maxAgeMs : Nat) : (limiter.cleanup now maxAgeMs).stored key =
    if ∀ time ∈ limiter.stored key, time + maxAgeMs < now then [] else limiter.stored key := by
  have old : ((limiter.stored key).all fun (time : Nat) => time < (now : Int) - maxAgeMs) = true ↔
      ∀ time ∈ limiter.stored key, time + maxAgeMs < now := by
    simp only [List.all_eq_true, decide_eq_true_eq]
    refine forall₂_congr fun time _ => ?_
    omega
  split
  · rename_i aged
    rw [← old, stored] at aged
    rw [stored, cleanup]
    cases found : limiter.windows key with
    | none => simp only [Option.filter_none, found, Option.getD_none]
    | some entry =>
      rw [found, Option.getD_some] at aged
      simp only [found, Option.filter_some, aged, Bool.not_true, Bool.false_eq_true, if_false,
        Option.getD_none]
  · rename_i aged
    rw [← old, Bool.not_eq_true, stored] at aged
    rw [stored, stored, cleanup]
    cases found : limiter.windows key with
    | none => simp only [Option.filter_none, found]
    | some entry =>
      rw [found, Option.getD_some] at aged
      simp only [found, Option.filter_some, aged, Bool.not_false, if_true]

end InMemoryRateLimiter

/-! ## Runs -/

namespace Checks

variable {key : JsString} {opts : CheckOptions} {state : Checks}

/-- The decisions for a key are those of an exact sliding window, and the limiter still has the
times that matter for the next one. -/
structure Faithful (key : JsString) (opts : CheckOptions) (state : Checks) : Prop where
  exact : SlidingWindow.Exact opts.windowMs opts.limit (state.log key)
  past : ∀ decision ∈ state.log key, decision.time ≤ state.now
  keeps : SlidingWindow.Keeps opts.windowMs state.now (state.limiter.stored key) (state.log key)
  closed : opts.limit = 0 → state.limiter.stored key = []

theorem log_check : (state.next (.checks key opts)).log key = state.log key ++ [⟨state.now,
    (SlidingWindow.recent opts.windowMs state.now (state.limiter.stored key)).length < opts.limit⟩] := by
  rw [← InMemoryRateLimiter.check_allowed]
  exact Function.update_self ..

/-- A check of another key changes neither the log nor the times of this one. -/
theorem kept_of_ne (state : Checks) {other : JsString} (different : key ≠ other)
    (others : CheckOptions) :
    (state.next (.checks other others)).log key = state.log key ∧
      (state.next (.checks other others)).limiter.stored key = state.limiter.stored key :=
  ⟨Function.update_of_ne different _ _, InMemoryRateLimiter.stored_check_of_ne different⟩

theorem Faithful.start (start : Initial state) : Faithful key opts state where
  exact := by
    rw [start.log]
    exact .nil
  past decision member := by
    rw [start.log] at member
    cases member
  keeps := by
    rw [InMemoryRateLimiter.stored, start.windows, start.log]
    exact SlidingWindow.keeps_nil
  closed _ := by
    rw [InMemoryRateLimiter.stored, start.windows]
    rfl

section

variable (faithful : Faithful key opts state)

include faithful

theorem Faithful.wait (ms : Nat) :
    Faithful key opts (state.next (.passes ms)) where
  exact := faithful.exact
  past decision member := Nat.le_add_right_of_le (faithful.past decision member)
  keeps := faithful.keeps.later (Nat.le_add_right ..)
  closed := faithful.closed

/-- A check of the key makes the exact decision. -/
theorem Faithful.decided :
    (state.next (.checks key opts)).log key =
      state.log key ++ [SlidingWindow.exact opts.windowMs opts.limit (state.log key) state.now] := by
  rw [faithful.keeps.exact_eq]
  exact log_check

theorem Faithful.check : Faithful key opts (state.next (.checks key opts)) := by
  have decided := faithful.decided
  have stored : (state.next (.checks key opts)).limiter.stored key = _ :=
    InMemoryRateLimiter.stored_check
  constructor
  · rw [decided]
    exact .snoc faithful.exact faithful.past
  · rw [decided]
    intro decision member
    rcases List.mem_append.mp member with old | new
    · exact faithful.past decision old
    · cases List.mem_singleton.mp new
      exact Nat.le_refl state.now
  · rw [decided, stored]
    exact faithful.keeps.decide
  · intro closed
    rw [stored, faithful.closed closed, closed, if_neg (Nat.not_lt_zero _)]
    rfl

/-- A check of another key changes nothing for this one. -/
theorem Faithful.check_of_ne {other : JsString} (different : key ≠ other) (others : CheckOptions) :
    Faithful key opts (state.next (.checks other others)) := by
  obtain ⟨log, stored⟩ := kept_of_ne state different others
  constructor
  · rw [log]
    exact faithful.exact
  · rw [log]
    exact faithful.past
  · rw [log, stored]
    exact faithful.keeps
  · rw [stored]
    exact faithful.closed

/-- A cleanup does no harm when what it drops has left the window. -/
theorem Faithful.cleanup (short : opts.windowMs ≤ CLEANUP_MAX_AGE_MS + 1 ∨ opts.limit = 0) :
    Faithful key opts (state.next .cleansUp) := by
  have stored : (state.next .cleansUp).limiter.stored key = _ :=
    InMemoryRateLimiter.stored_cleanup CLEANUP_MAX_AGE_MS
  refine ⟨faithful.exact, faithful.past, ?_, ?_⟩
  · rw [stored]
    split
    · rename_i old
      apply faithful.keeps.drop
      intro time member
      rcases short with within | closed
      · have before := old time member
        omega
      · rw [faithful.closed closed] at member
        cases member
    · exact faithful.keeps
  · intro closed
    rw [stored, faithful.closed closed]
    exact ite_self _

end

theorem faithful_of_reachable (short : opts.windowMs ≤ CLEANUP_MAX_AGE_MS + 1 ∨ opts.limit = 0)
    (reached : checkSystem.Reachable (CheckEvent.Fixed key opts) state) :
    Faithful key opts state := by
  induction reached with
  | initial start => exact .start start
  | @step before after event _ fixed moved ih =>
    cases Option.some.inj moved
    cases event with
    | passes ms => exact ih.wait ms
    | checks other others =>
      by_cases same : other = key
      · cases same
        rw [fixed rfl]
        exact ih.check
      · exact ih.check_of_ne (Ne.symm same) others
    | cleansUp => exact ih.cleanup short

/-! ## A cleanup that comes too early -/

theorem next_reachable (reached : checkSystem.Reachable (CheckEvent.Fixed key opts) state)
    (event : CheckEvent) (fixed : CheckEvent.Fixed key opts state event) :
    checkSystem.Reachable (CheckEvent.Fixed key opts) (state.next event) :=
  .step reached fixed rfl

/-- Some checks of a key at the same time. -/
def burst (state : Checks) (key : JsString) (opts : CheckOptions) : Nat → Checks
  | 0 => state
  | count + 1 => (burst state key opts count).next (.checks key opts)

theorem burst_reachable (reached : checkSystem.Reachable (CheckEvent.Fixed key opts) state)
    (count : Nat) :
    checkSystem.Reachable (CheckEvent.Fixed key opts) (state.burst key opts count) := by
  induction count with
  | zero => exact reached
  | succ count ih => exact next_reachable ih (.checks key opts) fun _ => rfl

/-- Nothing has been checked when the clock starts. -/
def fresh : Checks := ⟨0, ⟨fun _ => none⟩, fun _ => []⟩

/-- The first checks are admitted. -/
theorem burst_fresh (key : JsString) (count : Nat) (room : count ≤ opts.limit)
    (wide : 0 < opts.windowMs) :
    (fresh.burst key opts count).now = 0 ∧
      (fresh.burst key opts count).limiter.stored key = List.replicate count 0 ∧
      (fresh.burst key opts count).log key = List.replicate count ⟨0, true⟩ := by
  induction count with
  | zero => exact ⟨rfl, rfl, rfl⟩
  | succ count ih =>
    obtain ⟨now, stored, log⟩ := ih (Nat.le_of_succ_le room)
    have all : SlidingWindow.recent opts.windowMs 0 (List.replicate count 0) = _ :=
      SlidingWindow.recent_replicate count wide
    refine ⟨now, ?_, ?_⟩
    · show InMemoryRateLimiter.stored (InMemoryRateLimiter.check _ _ _ _).2 _ = _
      rw [InMemoryRateLimiter.stored_check, now, stored, all, List.length_replicate,
        if_pos (Nat.lt_of_succ_le room), List.replicate_succ']
    · rw [burst, log_check, now, stored, log, all, List.length_replicate,
        decide_eq_true (Nat.lt_of_succ_le room), List.replicate_succ']

/-- The limit is used up, a cleanup runs a minute later, and the key is checked again. -/
def cleanedEarly (key : JsString) (opts : CheckOptions) : Checks :=
  (((fresh.burst key opts opts.limit).next (.passes (CLEANUP_MAX_AGE_MS + 1))).next .cleansUp).next
    (.checks key opts)

theorem cleanedEarly_reachable :
    checkSystem.Reachable (CheckEvent.Fixed key opts) (cleanedEarly key opts) :=
  have full : checkSystem.Reachable (CheckEvent.Fixed key opts) (fresh.burst key opts opts.limit) :=
    burst_reachable (.initial ⟨fun _ => rfl, fun _ => rfl⟩) opts.limit
  have waited := next_reachable full (.passes (CLEANUP_MAX_AGE_MS + 1)) trivial
  next_reachable (next_reachable waited .cleansUp trivial) (.checks key opts) fun _ => rfl

theorem log_cleanedEarly (wide : 0 < opts.windowMs) (room : 0 < opts.limit) :
    (cleanedEarly key opts).log key =
      List.replicate opts.limit ⟨0, true⟩ ++ [⟨CLEANUP_MAX_AGE_MS + 1, true⟩] := by
  obtain ⟨now, stored, log⟩ := burst_fresh key opts.limit (Nat.le_refl _) wide
  have dropped : (((fresh.burst key opts opts.limit).next (.passes (CLEANUP_MAX_AGE_MS + 1))).next
      .cleansUp).limiter.stored key = [] := by
    show InMemoryRateLimiter.stored (InMemoryRateLimiter.cleanup _ _ _) _ = []
    rw [InMemoryRateLimiter.stored_cleanup]
    apply if_pos
    intro time member
    cases List.eq_of_mem_replicate (stored ▸ member)
    show _ < (fresh.burst key opts opts.limit).now + (CLEANUP_MAX_AGE_MS + 1)
    omega
  rw [cleanedEarly, log_check, dropped]
  show (fresh.burst key opts opts.limit).log key ++ [⟨(fresh.burst key opts opts.limit).now +
    (CLEANUP_MAX_AGE_MS + 1), decide (0 < opts.limit)⟩] = _
  rw [log, now, decide_eq_true room, Nat.zero_add]

/-- The limiter keeps its promise in every run exactly for the windows that a cleanup outlives. -/
theorem bounded_of_reachable_iff (key : JsString) (opts : CheckOptions) :
    (∀ state, checkSystem.Reachable (CheckEvent.Fixed key opts) state →
      SlidingWindow.Bounded opts.windowMs opts.limit (state.log key)) ↔
    opts.windowMs ≤ CLEANUP_MAX_AGE_MS + 1 ∨ opts.limit = 0 := by
  constructor
  · intro bounded
    by_contra long
    rw [not_or] at long
    have wide : CLEANUP_MAX_AGE_MS + 1 < opts.windowMs := Nat.lt_of_not_le long.1
    have positive : 0 < opts.windowMs := Nat.lt_of_le_of_lt (Nat.zero_le _) wide
    have most := (bounded _ cleanedEarly_reachable).most 0
    rw [log_cleanedEarly positive (Nat.pos_of_ne_zero long.2),
      SlidingWindow.allowedTimes_append] at most
    rw [SlidingWindow.allowedTimes_replicate, SlidingWindow.allowedTimes_single, if_pos rfl,
      List.filter_append,
      List.filter_replicate, if_pos (by simpa using positive), List.filter_singleton] at most
    have more : opts.limit + 1 ≤ opts.limit := by simpa [wide] using most
    exact absurd more (Nat.not_succ_le_self _)
  · intro short state reached
    exact (faithful_of_reachable short reached).exact.bounded

/-- An account is exported twice within 24 hours. -/
theorem cleanedEarly_unbounded :
    checkSystem.Reachable (CheckEvent.Fixed (js "export:ana") ⟨1, 86400000⟩)
        (cleanedEarly (js "export:ana") ⟨1, 86400000⟩) ∧
      ¬SlidingWindow.Bounded 86400000 1
        ((cleanedEarly (js "export:ana") ⟨1, 86400000⟩).log (js "export:ana")) := by
  refine ⟨cleanedEarly_reachable, ?_⟩
  intro bounded
  have most := bounded.most 0
  rw [log_cleanedEarly (by decide) (by decide)] at most
  exact absurd most (by decide)

/-! ## Refusals -/

/-- Only times of admitted checks are stored. -/
theorem stored_sublist {guard : Checks → CheckEvent → Prop}
    (reached : checkSystem.Reachable guard state) :
    (state.limiter.stored key).Sublist (SlidingWindow.allowedTimes (state.log key)) := by
  induction reached with
  | initial start =>
    rw [InMemoryRateLimiter.stored, start.windows]
    exact List.nil_sublist _
  | @step before after event _ _ moved ih =>
    cases Option.some.inj moved
    cases event with
    | passes ms => exact ih
    | checks other opts =>
      by_cases same : other = key
      · subst same
        have stored : (before.next (.checks other opts)).limiter.stored other = _ :=
          InMemoryRateLimiter.stored_check
        rw [log_check, SlidingWindow.allowedTimes_append, SlidingWindow.allowedTimes_single, stored]
        split
        · rename_i room
          rw [if_pos (decide_eq_true room)]
          exact (List.filter_sublist.trans ih).append_right _
        · exact (List.filter_sublist.trans ih).trans (List.sublist_append_left ..)
      · obtain ⟨log, stored⟩ := kept_of_ne before (Ne.symm same) opts
        rwa [log, stored]
    | cleansUp =>
      have stored : (before.next .cleansUp).limiter.stored key = _ :=
        InMemoryRateLimiter.stored_cleanup CLEANUP_MAX_AGE_MS
      rw [stored]
      split
      · exact List.nil_sublist _
      · exact ih

/-- Whatever has been checked and cleaned up before, a check is refused only when admitted ones
within its window use its limit up. -/
theorem admitted_of_room {guard : Checks → CheckEvent → Prop}
    (reached : checkSystem.Reachable guard state)
    (room : (SlidingWindow.recent opts.windowMs state.now
      (SlidingWindow.allowedTimes (state.log key))).length < opts.limit) :
    (state.next (.checks key opts)).log key = state.log key ++ [⟨state.now, true⟩] := by
  have fewer : (SlidingWindow.recent opts.windowMs state.now (state.limiter.stored key)).length ≤ _ :=
    ((stored_sublist reached).filter _).length_le
  rw [log_check, decide_eq_true (Nat.lt_of_le_of_lt fewer room)]

/-- One export a second. -/
theorem exported_again :
    (((fresh.burst (js "export:ana") ⟨1, 1000⟩ 1).next (.passes 1000)).next
      (.checks (js "export:ana") ⟨1, 1000⟩)).log (js "export:ana") = [⟨0, true⟩, ⟨1000, true⟩] :=
  admitted_of_room (next_reachable (burst_reachable (.initial ⟨fun _ => rfl, fun _ => rfl⟩) 1)
    (.passes 1000) trivial) (by decide)

end Checks

end Vortex.Limits
