import Vortex.Foundation.JsMap
import Vortex.Foundation.JsText
import Vortex.Foundation.SlidingWindow
import Vortex.Foundation.System

/-!
# The rate limiter of the gateway

`rate-limiter.ts` of the signal server: for each socket and each of its actions the times of the
admitted checks, with a cleanup that also drops what has become empty.
-/

namespace Vortex.Limits

open Foundation

/-- What one action is checked with. -/
structure ActionLimit where
  limit : Nat
  windowMs : Nat
  deriving DecidableEq

abbrev SocketMap : Type := JsMap JsString (List Nat)

structure SocketRateLimiter where
  windows : JsMap JsString SocketMap

namespace SocketRateLimiter

def check (limiter : SocketRateLimiter) (now : Nat) (socketId action : JsString)
    (limit windowMs : Nat) :
    Bool × SocketRateLimiter :=
  let cutoff : Int := now - windowMs
  let socketMap := (limiter.windows.get? socketId).getD .empty
  let timestamps := ((socketMap.get? action).getD []).filter fun (time : Nat) => cutoff < time
  let keep (timestamps : List Nat) : SocketRateLimiter :=
    ⟨limiter.windows.set socketId (socketMap.set action timestamps)⟩
  if limit ≤ timestamps.length then (false, keep timestamps)
  else (true, keep (timestamps ++ [now]))

def remove (limiter : SocketRateLimiter) (socketId : JsString) : SocketRateLimiter :=
  ⟨limiter.windows.delete socketId⟩

/-- The inner loop of `cleanup`; an iteration may delete the entry it is at. -/
def cleanSocket (cutoff : Int) (socketMap : SocketMap) : SocketMap :=
  socketMap.filterMap fun _ timestamps =>
    let kept := timestamps.filter fun (time : Nat) => cutoff < time
    if kept.length = 0 then none else some kept

def cleanup (limiter : SocketRateLimiter) (now maxAgeMs : Nat) : SocketRateLimiter :=
  let cutoff : Int := now - maxAgeMs
  ⟨limiter.windows.filterMap fun _ socketMap =>
    let kept := cleanSocket cutoff socketMap
    if kept.size = 0 then none else some kept⟩

/-- The times that are stored for an action of a socket. -/
def stored (limiter : SocketRateLimiter) (socketId action : JsString) : List Nat :=
  ((((limiter.windows.get? socketId).getD .empty).get? action).getD [])

end SocketRateLimiter

/-- The limiter with its clock, and what it has decided for each action of a socket since the
socket was last removed. -/
structure SocketChecks where
  now : Nat
  limiter : SocketRateLimiter
  log : JsString → JsString → List SlidingWindow.Decision

inductive SocketEvent
  | passes (ms : Nat)
  | checks (socketId action : JsString) (opts : ActionLimit)
  | removes (socketId : JsString)
  | cleansUp (maxAgeMs : Nat)

namespace SocketChecks

/-- The answer of a check. -/
def answer (state : SocketChecks) : SocketEvent → Option Bool
  | .checks socketId action opts =>
      some (state.limiter.check state.now socketId action opts.limit opts.windowMs).1
  | _ => none

def next (state : SocketChecks) : SocketEvent → SocketChecks
  | .passes ms => { state with now := state.now + ms }
  | .checks socketId action opts =>
      let (allowed, limiter) :=
        state.limiter.check state.now socketId action opts.limit opts.windowMs
      { state with
        limiter := limiter
        log := Function.update state.log socketId (Function.update (state.log socketId) action
          (state.log socketId action ++ [⟨state.now, allowed⟩])) }
  | .removes socketId =>
      { state with
        limiter := state.limiter.remove socketId
        log := Function.update state.log socketId fun _ => [] }
  | .cleansUp maxAgeMs => { state with limiter := state.limiter.cleanup state.now maxAgeMs }

/-- The answers of the checks of a run, in their order. -/
def answers : SocketChecks → List SocketEvent → List Bool
  | _, [] => []
  | state, event :: events => (state.answer event).toList ++ answers (state.next event) events

structure Initial (state : SocketChecks) : Prop where
  windows : state.limiter.windows = .empty
  log : ∀ socketId action, state.log socketId action = []

/-- The age limit of a cleanup covers the windows in use. -/
def Covers (limits : JsString → ActionLimit) (state : SocketChecks) (maxAgeMs : Nat) : Prop :=
  ∀ socketId action, state.log socketId action ≠ [] → (limits action).windowMs ≤ maxAgeMs

end SocketChecks

def socketSystem : System SocketChecks SocketEvent :=
  .ofNext SocketChecks.Initial fun state event => some (state.next event)

/-- Each action is always checked with its own limit, and cleanups cover the windows in use. -/
def SocketEvent.Uses (limits : JsString → ActionLimit) (state : SocketChecks) : SocketEvent → Prop
  | .checks _ action opts => opts = limits action
  | .cleansUp maxAgeMs => state.Covers limits maxAgeMs
  | _ => True

/-- A list of events that are all used so. -/
def SocketEvent.AllUse (limits : JsString → ActionLimit) : SocketChecks → List SocketEvent → Prop
  | _, [] => True
  | state, event :: events => event.Uses limits state ∧ AllUse limits (state.next event) events

/-! ## One call -/

namespace SocketRateLimiter

variable {limiter : SocketRateLimiter} {now : Nat} {socketId action : JsString}
    {limit windowMs : Nat}

theorem check_eq : limiter.check now socketId action limit windowMs =
    let recent := SlidingWindow.recent windowMs now (limiter.stored socketId action)
    let socketMap := (limiter.windows.get? socketId).getD .empty
    (decide (recent.length < limit), ⟨limiter.windows.set socketId (socketMap.set action
      (if recent.length < limit then recent ++ [now] else recent))⟩) := by
  simp only [check, SlidingWindow.filter_cutoff, ← Nat.not_lt, ite_not]
  show (if _ then _ else _) = _
  split
  · rename_i room
    simp only [stored, room, decide_true, if_true]
  · rename_i full
    simp only [stored, full, decide_false, if_false]

theorem check_fst : (limiter.check now socketId action limit windowMs).1 =
    decide ((SlidingWindow.recent windowMs now (limiter.stored socketId action)).length < limit) := by
  rw [check_eq]

theorem stored_check : (limiter.check now socketId action limit windowMs).2.stored socketId action =
    if (SlidingWindow.recent windowMs now (limiter.stored socketId action)).length < limit then
      SlidingWindow.recent windowMs now (limiter.stored socketId action) ++ [now]
    else SlidingWindow.recent windowMs now (limiter.stored socketId action) := by
  rw [check_eq, stored]
  dsimp only
  rw [JsMap.get?_set_self, Option.getD_some, JsMap.get?_set_self, Option.getD_some]

/-- A check leaves the other actions and the other sockets alone. -/
theorem stored_check_of_ne {otherSocket other : JsString}
    (different : (otherSocket, other) ≠ (socketId, action)) :
    (limiter.check now socketId action limit windowMs).2.stored otherSocket other =
      limiter.stored otherSocket other := by
  rw [check_eq, stored]
  dsimp only
  by_cases same : otherSocket = socketId
  · cases same
    have differs : other ≠ action := fun equal => different (by rw [equal])
    rw [JsMap.get?_set_self, Option.getD_some, JsMap.get?_set_of_ne differs, stored]
  · rw [JsMap.get?_set_of_ne same, stored]

theorem stored_remove_self : (limiter.remove socketId).stored socketId action = [] := by
  rw [stored, remove, JsMap.get?_delete_self]
  rfl

theorem stored_remove_of_ne {other : JsString} (different : other ≠ socketId) :
    (limiter.remove socketId).stored other action = limiter.stored other action := by
  rw [stored, remove, JsMap.get?_delete_of_ne different, stored]

theorem getD_cleanSocket (cutoff : Int) (socketMap : SocketMap) :
    ((cleanSocket cutoff socketMap).get? action).getD [] =
      ((socketMap.get? action).getD []).filter fun (time : Nat) => cutoff < time := by
  rw [cleanSocket, JsMap.get?_filterMap]
  cases socketMap.get? action with
  | none => rfl
  | some timestamps =>
    simp only [Option.bind_some, Option.getD_some]
    split
    · rename_i empty
      exact (List.eq_nil_of_length_eq_zero empty).symm
    · rfl

theorem get?_cleanup (maxAgeMs : Nat) : (limiter.cleanup now maxAgeMs).windows.get? socketId =
    (limiter.windows.get? socketId).bind fun socketMap =>
      if (cleanSocket (now - maxAgeMs) socketMap).size = 0 then none
      else some (cleanSocket (now - maxAgeMs) socketMap) :=
  JsMap.get?_filterMap _

/-- The times that a cleanup leaves. -/
theorem stored_cleanup (maxAgeMs : Nat) : (limiter.cleanup now maxAgeMs).stored socketId action =
    SlidingWindow.recent maxAgeMs now (limiter.stored socketId action) := by
  rw [stored, get?_cleanup, stored, ← SlidingWindow.filter_cutoff]
  cases limiter.windows.get? socketId with
  | none => rfl
  | some socketMap =>
    rw [Option.bind_some, Option.getD_some, ← getD_cleanSocket]
    split
    · rename_i empty
      rw [JsMap.size_eq_zero.mp empty]
      rfl
    · rfl

/-- A socket that a cleanup leaves has a time. -/
theorem exists_stored_of_cleanup {maxAgeMs : Nat}
    (left : (limiter.cleanup now maxAgeMs).windows.has socketId = true) :
    ∃ action, ∃ time, time ∈ (limiter.cleanup now maxAgeMs).stored socketId action := by
  obtain ⟨kept, found⟩ := Option.isSome_iff_exists.mp left
  have cleaned := found
  rw [get?_cleanup, Option.bind_eq_some_iff] at cleaned
  obtain ⟨socketMap, _, cleaned⟩ := cleaned
  obtain ⟨some, same⟩ := Option.ite_none_left_eq_some.mp cleaned
  cases Option.some.inj same
  rw [JsMap.size_eq_zero, not_forall] at some
  obtain ⟨action, held⟩ := some
  obtain ⟨timestamps, held⟩ := Option.ne_none_iff_exists'.mp held
  have times : timestamps ≠ [] := by
    rw [cleanSocket, JsMap.get?_filterMap, Option.bind_eq_some_iff] at held
    obtain ⟨old, _, held⟩ := held
    obtain ⟨some, same⟩ := Option.ite_none_left_eq_some.mp held
    cases Option.some.inj same
    exact fun none => some (List.length_eq_zero_iff.mpr none)
  obtain ⟨time, member⟩ := List.exists_mem_of_ne_nil _ times
  refine ⟨action, time, ?_⟩
  rw [stored, found, Option.getD_some, held]
  exact member

end SocketRateLimiter

/-! ## Runs -/

namespace SocketChecks

variable {limits : JsString → ActionLimit} {state : SocketChecks}

/-- The limiter has those times of the log that matter for the next checks, and no others. -/
structure Tracks (limits : JsString → ActionLimit) (state : SocketChecks) : Prop where
  keeps : ∀ socketId action, SlidingWindow.Keeps (limits action).windowMs state.now
    (state.limiter.stored socketId action) (state.log socketId action)
  logged : ∀ socketId action, ∀ time ∈ state.limiter.stored socketId action,
    time ∈ SlidingWindow.allowedTimes (state.log socketId action)

theorem Tracks.start (start : Initial state) : Tracks limits state := by
  have none (socketId action : JsString) : state.limiter.stored socketId action = [] := by
    rw [SocketRateLimiter.stored, start.windows]
    rfl
  constructor
  · intro socketId action
    rw [none, start.log]
    exact SlidingWindow.keeps_nil
  · intro socketId action time member
    rw [none] at member
    cases member

/-- The answer is the exact one. -/
theorem Tracks.answer_eq (tracks : Tracks limits state) (socketId action : JsString) :
    (state.limiter.check state.now socketId action (limits action).limit (limits action).windowMs).1 =
      decide ((SlidingWindow.recent (limits action).windowMs state.now
        (SlidingWindow.allowedTimes (state.log socketId action))).length < (limits action).limit) := by
  rw [SocketRateLimiter.check_fst, (tracks.keeps socketId action).length_eq]

theorem log_check (socketId action : JsString) (opts : ActionLimit) :
    (state.next (.checks socketId action opts)).log =
      Function.update state.log socketId (Function.update (state.log socketId) action
        (state.log socketId action ++ [⟨state.now,
          (state.limiter.check state.now socketId action opts.limit opts.windowMs).1⟩])) :=
  rfl

theorem log_check_self (socketId action : JsString) (opts : ActionLimit) :
    (state.next (.checks socketId action opts)).log socketId action = state.log socketId action ++
      [⟨state.now, (state.limiter.check state.now socketId action opts.limit opts.windowMs).1⟩] := by
  rw [log_check, Function.update_self, Function.update_self]

theorem log_check_of_ne {socketId action otherSocket other : JsString}
    (different : (otherSocket, other) ≠ (socketId, action)) (opts : ActionLimit) :
    (state.next (.checks socketId action opts)).log otherSocket other = state.log otherSocket other := by
  rw [log_check]
  by_cases same : otherSocket = socketId
  · cases same
    have differs : other ≠ action := fun equal => different (by rw [equal])
    rw [Function.update_self, Function.update_of_ne differs]
  · rw [Function.update_of_ne same]

theorem Tracks.check (tracks : Tracks limits state) (socketId action : JsString) :
    Tracks limits (state.next (.checks socketId action (limits action))) := by
  have keeps := tracks.keeps socketId action
  have stored : (state.next (.checks socketId action (limits action))).limiter.stored socketId action =
    _ := SocketRateLimiter.stored_check
  have log : (state.next (.checks socketId action (limits action))).log socketId action =
      state.log socketId action ++ [SlidingWindow.exact (limits action).windowMs (limits action).limit
        (state.log socketId action) state.now] := by
    rw [log_check_self, keeps.exact_eq, SocketRateLimiter.check_fst]
  constructor
  · intro otherSocket other
    by_cases same : (otherSocket, other) = (socketId, action)
    · cases same
      rw [log, stored]
      exact keeps.decide
    · have untouched : (state.next (.checks socketId action (limits action))).limiter.stored otherSocket
        other = _ := SocketRateLimiter.stored_check_of_ne same
      rw [log_check_of_ne same, untouched]
      exact tracks.keeps otherSocket other
  · intro otherSocket other time member
    by_cases same : (otherSocket, other) = (socketId, action)
    · cases same
      rw [stored] at member
      rw [log, SlidingWindow.allowedTimes_append, List.mem_append, keeps.exact_eq,
        SlidingWindow.allowedTimes_single]
      split at member
      · rename_i room
        rcases List.mem_append.mp member with old | new
        · exact .inl (tracks.logged socketId action time (List.mem_of_mem_filter old))
        · exact .inr (by rw [if_pos (decide_eq_true room)]; exact new)
      · exact .inl (tracks.logged socketId action time (List.mem_of_mem_filter member))
    · have untouched : (state.next (.checks socketId action (limits action))).limiter.stored otherSocket
        other = _ := SocketRateLimiter.stored_check_of_ne same
      rw [untouched] at member
      rw [log_check_of_ne same]
      exact tracks.logged otherSocket other time member

theorem log_remove (socketId : JsString) : (state.next (.removes socketId)).log =
    Function.update state.log socketId fun _ => [] :=
  rfl

theorem Tracks.remove (tracks : Tracks limits state) (socketId : JsString) :
    Tracks limits (state.next (.removes socketId)) := by
  have stored (action : JsString) :
      (state.next (.removes socketId)).limiter.stored socketId action = [] :=
    SocketRateLimiter.stored_remove_self
  have log (action : JsString) : (state.next (.removes socketId)).log socketId action = [] := by
    rw [log_remove, Function.update_self]
  have kept {other : JsString} (different : other ≠ socketId) (action : JsString) :
      (state.next (.removes socketId)).limiter.stored other action = state.limiter.stored other action ∧
        (state.next (.removes socketId)).log other action = state.log other action :=
    ⟨SocketRateLimiter.stored_remove_of_ne different,
      by rw [log_remove, Function.update_of_ne different]⟩
  constructor
  · intro other action
    by_cases same : other = socketId
    · cases same
      rw [stored, log]
      exact SlidingWindow.keeps_nil
    · rw [(kept same action).1, (kept same action).2]
      exact tracks.keeps other action
  · intro other action time member
    by_cases same : other = socketId
    · cases same
      rw [stored] at member
      cases member
    · rw [(kept same action).1] at member
      rw [(kept same action).2]
      exact tracks.logged other action time member

/-- A cleanup drops only what has left every window in use. -/
theorem Tracks.cleanup (tracks : Tracks limits state) {maxAgeMs : Nat}
    (covers : state.Covers limits maxAgeMs) : Tracks limits (state.next (.cleansUp maxAgeMs)) := by
  have stored (socketId action : JsString) :
      (state.next (.cleansUp maxAgeMs)).limiter.stored socketId action =
        SlidingWindow.recent maxAgeMs state.now (state.limiter.stored socketId action) :=
    SocketRateLimiter.stored_cleanup maxAgeMs
  constructor
  · intro socketId action
    rw [stored]
    by_cases used : state.log socketId action = []
    · have none : state.limiter.stored socketId action = [] := by
        rw [List.eq_nil_iff_forall_not_mem]
        intro time member
        have logged := tracks.logged socketId action time member
        rw [used] at logged
        cases logged
      rw [none]
      have keeps := tracks.keeps socketId action
      rw [none] at keeps
      exact keeps
    · exact (tracks.keeps socketId action).prune (covers socketId action used)
  · intro socketId action time member
    rw [stored] at member
    exact tracks.logged socketId action time (List.mem_of_mem_filter member)

theorem Tracks.next (tracks : Tracks limits state) {event : SocketEvent}
    (uses : event.Uses limits state) : Tracks limits (state.next event) := by
  cases event with
  | passes ms => exact ⟨fun socketId action =>
    (tracks.keeps socketId action).later (Nat.le_add_right ..), tracks.logged⟩
  | checks socketId action opts =>
    cases uses
    exact tracks.check socketId action
  | removes socketId => exact tracks.remove socketId
  | cleansUp maxAgeMs => exact tracks.cleanup uses

theorem tracks_of_reachable (reached : socketSystem.Reachable (SocketEvent.Uses limits) state) :
    Tracks limits state := by
  induction reached with
  | initial start => exact .start start
  | step _ uses moved ih =>
    cases Option.some.inj moved
    exact ih.next uses

theorem Tracks.exact (tracks : Tracks limits state) (socketId action : JsString) :
    state.answer (.checks socketId action (limits action)) = some true ↔
      (SlidingWindow.recent (limits action).windowMs state.now
        (SlidingWindow.allowedTimes (state.log socketId action))).length < (limits action).limit := by
  rw [answer, tracks.answer_eq, Option.some_inj, decide_eq_true_eq]

/-- A socket that a cleanup leaves has a young admitted check. -/
theorem Tracks.young (tracks : Tracks limits state) {maxAgeMs : Nat} {socketId : JsString}
    (left : (state.next (.cleansUp maxAgeMs)).limiter.windows.has socketId = true) :
    ∃ action, ∃ time ∈ SlidingWindow.allowedTimes (state.log socketId action),
      state.now < time + maxAgeMs := by
  obtain ⟨action, time, member⟩ := SocketRateLimiter.exists_stored_of_cleanup left
  rw [SocketRateLimiter.stored_cleanup, SlidingWindow.recent, List.mem_filter] at member
  exact ⟨action, time, tracks.logged socketId action time member.1, of_decide_eq_true member.2⟩

/-! ## Two runs -/

/-- Two limiters that have decided the same. -/
structure Alike (limits : JsString → ActionLimit) (first second : SocketChecks) : Prop where
  now : first.now = second.now
  log : first.log = second.log
  first : Tracks limits first
  second : Tracks limits second

variable {first second : SocketChecks}

section

variable (alike : Alike limits first second)

include alike

theorem Alike.uses_iff (event : SocketEvent) :
    event.Uses limits first ↔ event.Uses limits second := by
  cases event with
  | cleansUp maxAgeMs =>
    show first.Covers limits maxAgeMs ↔ second.Covers limits maxAgeMs
    rw [Covers, Covers, alike.log]
  | _ => exact Iff.rfl

theorem Alike.answer_eq {event : SocketEvent}
    (uses : event.Uses limits first) : first.answer event = second.answer event := by
  cases event with
  | checks socketId action opts =>
    cases uses
    rw [answer, answer, alike.first.answer_eq, alike.second.answer_eq, alike.now, alike.log]
  | _ => rfl

theorem Alike.next {event : SocketEvent}
    (uses : event.Uses limits first) : Alike limits (first.next event) (second.next event) := by
  refine ⟨?_, ?_, alike.first.next uses, alike.second.next ((alike.uses_iff event).mp uses)⟩
  · cases event with
    | passes ms => exact congrArg (· + ms) alike.now
    | _ => exact alike.now
  · cases event with
    | checks socketId action opts =>
      have same := alike.answer_eq uses
      rw [answer, answer, Option.some_inj] at same
      rw [log_check, log_check, same, alike.log, alike.now]
    | removes socketId => exact congrArg (Function.update · socketId fun _ => []) alike.log
    | _ => exact alike.log

/-- They go on to give the same answers. -/
theorem Alike.answers_eq {events : List SocketEvent}
    (uses : SocketEvent.AllUse limits first events) :
    first.answers events = second.answers events := by
  induction events generalizing first second with
  | nil => rfl
  | cons event events ih =>
    rw [answers, answers, alike.answer_eq uses.1, ih (alike.next uses.1) uses.2]

end

/-- The limiter is an exact sliding window: every answer is the one the whole history gives, a
cleanup changes no later answer, and it leaves only sockets with a young admitted check. -/
theorem slidingWindow_of_reachable
    (reached : socketSystem.Reachable (SocketEvent.Uses limits) state) :
    (∀ socketId action, state.answer (.checks socketId action (limits action)) = some true ↔
      (SlidingWindow.recent (limits action).windowMs state.now
        (SlidingWindow.allowedTimes (state.log socketId action))).length < (limits action).limit) ∧
    ∀ maxAgeMs, state.Covers limits maxAgeMs →
      (∀ events, SocketEvent.AllUse limits state events →
        (state.next (.cleansUp maxAgeMs)).answers events = state.answers events) ∧
      ∀ socketId, (state.next (.cleansUp maxAgeMs)).limiter.windows.has socketId = true →
        ∃ action, ∃ time ∈ SlidingWindow.allowedTimes (state.log socketId action),
          state.now < time + maxAgeMs := by
  have tracks := tracks_of_reachable reached
  refine ⟨tracks.exact, fun maxAgeMs covers => ⟨?_, fun socketId => tracks.young⟩⟩
  intro events uses
  have alike : Alike limits state (state.next (.cleansUp maxAgeMs)) :=
    ⟨rfl, rfl, tracks, tracks.cleanup covers⟩
  exact (alike.answers_eq uses).symm

end SocketChecks

namespace Sample

/-- Two typing events in five seconds. -/
def typingLimits (_ : JsString) : ActionLimit := ⟨2, 5000⟩

def untouched : SocketChecks := ⟨0, ⟨.empty⟩, fun _ _ => []⟩

def typedOnce : SocketChecks := untouched.next (.checks (js "socket") (js "typing") ⟨2, 5000⟩)

theorem typedOnce_reachable : socketSystem.Reachable (SocketEvent.Uses typingLimits) typedOnce := by
  have uses : SocketEvent.Uses typingLimits untouched
    (.checks (js "socket") (js "typing") ⟨2, 5000⟩) := rfl
  exact .step (.initial ⟨rfl, fun _ _ => rfl⟩) uses rfl

end Sample

/-- A second one is admitted. -/
theorem typedOnce_admits :
    Sample.typedOnce.answer (.checks (js "socket") (js "typing") ⟨2, 5000⟩) = some true :=
  ((SocketChecks.slidingWindow_of_reachable Sample.typedOnce_reachable).1 (js "socket")
    (js "typing")).mpr (by decide)

end Vortex.Limits
