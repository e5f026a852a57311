import Vortex.Foundation.Proc
import Vortex.Foundation.System

/-!
# Pools of interleaved processes

A pool is a shared state together with processes that were started at different
times and advance one request at a time, in any order. The history keeps every
answered request with the process that issued it, newest first: it is what a
condition on a schedule can speak about, and no process ever reads it.
-/

variable {index : Nat}

namespace Foundation

open List

/-- A started process: the call it was started with and what is left of it. -/
structure Thread (I : Interface) (ε α κ : Type) : Type where
  call : κ
  rest : Proc I ε α

/-- An answered request of a pool. -/
structure Event (I : Interface) (κ : Type) : Type where
  thread : Nat
  call : κ
  request : I.Request
  answer : I.Answer request

/-- Processes over a shared state, with the history of their answered requests. -/
structure Pool (I : Interface) (ε α κ σ : Type) : Type where
  shared : σ
  threads : List (Thread I ε α κ)
  history : List (Event I κ)

/-- What the scheduler of a pool does next. -/
inductive Turn (κ : Type) : Type
  | start (call : κ)
  | advance (index : Nat)

namespace Thread

variable {I : Interface} {ε α κ : Type}

/-- A process is in flight until it has finished. -/
def InFlight (thread : Thread I ε α κ) : Prop :=
  ∃ request next, thread.rest = .await request next

/-- The way a finished process ended. -/
def result? (thread : Thread I ε α κ) : Option (Except ε α) :=
  match thread.rest with
  | .done result => some result
  | .await _ _ => none

theorem inFlight_iff_result? (thread : Thread I ε α κ) :
    thread.InFlight ↔ thread.result? = none := by
  rcases thread with ⟨call, result | ⟨request, next⟩⟩
  · simp [InFlight, result?]
  · simp [InFlight, result?]

end Thread

namespace Pool

variable {I : Interface} {ε α κ σ : Type}

/-- A pool in which nothing has been started. -/
def fresh (shared : σ) : Pool I ε α κ σ := ⟨shared, [], []⟩

/-- Start the process of a call. -/
def start (program : κ → Proc I ε α) (call : κ) (pool : Pool I ε α κ σ) : Pool I ε α κ σ :=
  { pool with threads := pool.threads ++ [⟨call, program call⟩] }

/-- Answer the pending request of one process, if it is ready. The handler may
depend on who asks. -/
def advance (handle : Nat → κ → Handler I σ) (index : Nat) (pool : Pool I ε α κ σ) :
    Option (Pool I ε α κ σ) :=
  match pool.threads[index]? with
  | some ⟨call, .await request next⟩ =>
      match handle index call request pool.shared with
      | some (answer, shared) =>
          some ⟨shared, pool.threads.set index ⟨call, next answer⟩,
            ⟨index, call, request, answer⟩ :: pool.history⟩
      | none => none
  | _ => none

/-- One turn of the scheduler. -/
def turn (program : κ → Proc I ε α) (handle : Nat → κ → Handler I σ) (pool : Pool I ε α κ σ) :
    Turn κ → Option (Pool I ε α κ σ)
  | .start call => some (pool.start program call)
  | .advance index => pool.advance handle index

/-- All interleavings of any number of calls from the given shared states. -/
def system (initial : σ → Prop) (program : κ → Proc I ε α) (handle : Nat → κ → Handler I σ) :
    System (Pool I ε α κ σ) (Turn κ) :=
  .ofNext (fun pool => ∃ shared, initial shared ∧ pool = fresh shared) (turn program handle)

/-- Everything one advance can be. -/
theorem advance_eq_some {handle : Nat → κ → Handler I σ} {before after : Pool I ε α κ σ}
    (moved : before.advance handle index = some after) :
    ∃ call request next answer shared, before.threads[index]? = some ⟨call, .await request next⟩ ∧
      handle index call request before.shared = some (answer, shared) ∧
      after = ⟨shared, before.threads.set index ⟨call, next answer⟩,
        ⟨index, call, request, answer⟩ :: before.history⟩ := by
  unfold advance at moved
  split at moved
  · rename_i call request next found
    split at moved
    · rename_i answer shared answered
      exact ⟨call, request, next, answer, shared, found, answered, (Option.some.inj moved).symm⟩
    · cases moved
  · cases moved

/-- The advanced process keeps its call, every other process is untouched. -/
theorem getElem?_set_cases {threads : List (Thread I ε α κ)} {other : Nat}
    {moved found : Thread I ε α κ} (lookup : (threads.set index moved)[other]? = some found) :
    (other = index ∧ found = moved) ∨ (other ≠ index ∧ threads[other]? = some found) := by
  by_cases same : other = index
  · subst same
    obtain ⟨bound, rfl⟩ := List.getElem?_eq_some_iff.mp lookup
    exact .inl ⟨rfl, getElem_set_self bound⟩
  · rw [getElem?_set_ne (Ne.symm same)] at lookup
    exact .inr ⟨same, lookup⟩

/-- A started process is the last one, every other process is untouched. -/
theorem getElem?_append_cases {threads : List (Thread I ε α κ)} {other : Nat}
    {started found : Thread I ε α κ} (lookup : (threads ++ [started])[other]? = some found) :
    (other = threads.length ∧ found = started) ∨ threads[other]? = some found := by
  rcases Nat.lt_trichotomy other threads.length with below | last | above
  · rw [getElem?_append_left below] at lookup
    exact .inr lookup
  · subst last
    rw [getElem?_concat_length] at lookup
    exact .inl ⟨rfl, (Option.some.inj lookup).symm⟩
  · rw [getElem?_eq_none (by simp only [length_append, length_singleton]; omega)] at lookup
    cases lookup

/-- The exchanges of one process, oldest first. -/
def exchanges (history : List (Event I κ)) (index : Nat) : List (Proc.Exchange I) :=
  (history.filterMap fun event =>
    if event.thread = index then some ⟨event.request, event.answer⟩ else none).reverse

theorem exchanges_cons_self (history : List (Event I κ)) (event : Event I κ) :
    exchanges (event :: history) event.thread =
      exchanges history event.thread ++ [⟨event.request, event.answer⟩] := by
  simp only [exchanges, filterMap_cons, ↓reduceIte, reverse_cons]

theorem exchanges_cons_other (history : List (Event I κ)) {event : Event I κ}
    (other : event.thread ≠ index) :
    exchanges (event :: history) index = exchanges history index := by
  simp only [exchanges, filterMap_cons, other, ↓reduceIte]

theorem mem_exchanges {history : List (Event I κ)} {exchange : Proc.Exchange I} :
    exchange ∈ exchanges history index ↔ ∃ event ∈ history, event.thread = index ∧
        (⟨event.request, event.answer⟩ : Proc.Exchange I) = exchange := by
  simp only [exchanges, mem_reverse, mem_filterMap]
  refine exists_congr fun event => and_congr_right fun _ => ?_
  split
  · rename_i same
    simp only [Option.some.injEq, same, true_and]
  · rename_i other
    simp only [reduceCtorEq, other, false_and]

section Runs

variable {initial : σ → Prop} {program : κ → Proc I ε α} {handle : Nat → κ → Handler I σ}
  {guard : Pool I ε α κ σ → Turn κ → Prop}

/-- What the scheduler can do to a pool: start a call, or answer one request. -/
theorem step_cases {before after : Pool I ε α κ σ} {label : Turn κ}
    (moved : (system initial program handle).step before label after) :
    (∃ call, label = .start call ∧ after = before.start program call) ∨
      (∃ index call request next answer shared, label = .advance index ∧
        before.threads[index]? = some ⟨call, .await request next⟩ ∧
        handle index call request before.shared = some (answer, shared) ∧
        after = ⟨shared, before.threads.set index ⟨call, next answer⟩,
          ⟨index, call, request, answer⟩ :: before.history⟩) := by
  cases label with
  | start call => exact .inl ⟨call, rfl, (Option.some.inj moved).symm⟩
  | advance index =>
    obtain ⟨call, request, next, answer, shared, found, answered, result⟩ := advance_eq_some moved
    exact .inr ⟨index, call, request, next, answer, shared, rfl, found, answered, result⟩

/-- Only started processes have a history, and what is left of each of them is where
its exchanges lead its program. -/
structure Consistent (program : κ → Proc I ε α) (pool : Pool I ε α κ σ) : Prop where
  leads : ∀ (index : Nat) (thread : Thread I ε α κ), pool.threads[index]? = some thread →
    (program thread.call).Leads (exchanges pool.history index) thread.rest
  started : ∀ event ∈ pool.history, ∃ thread, pool.threads[event.thread]? = some thread ∧
    thread.call = event.call

theorem Consistent.start {pool : Pool I ε α κ σ} (consistent : pool.Consistent program)
    (call : κ) : (pool.start program call).Consistent program where
  leads := by
    intro index thread found
    rcases getElem?_append_cases found with ⟨rfl, rfl⟩ | earlier
    · have silent : exchanges pool.history pool.threads.length = [] := by
        apply eq_nil_iff_forall_not_mem.mpr
        intro exchange member
        obtain ⟨event, recorded, same, -⟩ := mem_exchanges.mp member
        obtain ⟨thread, found, -⟩ := consistent.started event recorded
        rw [same, getElem?_eq_none (Nat.le_refl _)] at found
        cases found
      change (program call).Leads (exchanges pool.history pool.threads.length) (program call)
      rw [silent]
      exact .nil _
    · exact consistent.leads index thread earlier
  started := by
    intro event recorded
    obtain ⟨thread, found, same⟩ := consistent.started event recorded
    refine ⟨thread, ?_, same⟩
    obtain ⟨bound, -⟩ := List.getElem?_eq_some_iff.mp found
    change (pool.threads ++ _)[event.thread]? = some thread
    rw [getElem?_append_left bound, found]

theorem Consistent.advance {pool : Pool I ε α κ σ} (consistent : pool.Consistent program) {call : κ}
    {request : I.Request} {next : I.Answer request → Proc I ε α}
    (found : pool.threads[index]? = some ⟨call, .await request next⟩) (answer : I.Answer request)
    (shared : σ) :
    (⟨shared, pool.threads.set index ⟨call, next answer⟩,
      ⟨index, call, request, answer⟩ :: pool.history⟩ : Pool I ε α κ σ).Consistent program where
  leads := by
    intro other thread lookup
    rcases getElem?_set_cases lookup with ⟨rfl, rfl⟩ | ⟨different, lookup⟩
    · have path := (consistent.leads other _ found).snoc answer
      rwa [← exchanges_cons_self pool.history ⟨other, call, request, answer⟩] at path
    · have unchanged : exchanges (⟨index, call, request, answer⟩ :: pool.history) other = _ :=
        exchanges_cons_other pool.history (Ne.symm different)
      change (program thread.call).Leads (exchanges (_ :: pool.history) other) thread.rest
      rw [unchanged]
      exact consistent.leads other thread lookup
  started := by
    intro event recorded
    obtain ⟨bound, -⟩ := List.getElem?_eq_some_iff.mp found
    rcases mem_cons.mp recorded with rfl | earlier
    · exact ⟨_, getElem?_set_self bound, rfl⟩
    · obtain ⟨thread, lookup, same⟩ := consistent.started event earlier
      by_cases mine : event.thread = index
      · rw [mine, found] at lookup
        cases lookup
        refine ⟨⟨call, next answer⟩, ?_, same⟩
        change (pool.threads.set index _)[event.thread]? = _
        rw [mine, getElem?_set_self bound]
      · refine ⟨thread, ?_, same⟩
        change (pool.threads.set index _)[event.thread]? = _
        rw [getElem?_set_ne (Ne.symm mine), lookup]

theorem consistent_fresh (shared : σ) : (fresh shared : Pool I ε α κ σ).Consistent program where
  leads := by
    intro index thread found
    cases found
  started := by
    intro event recorded
    cases recorded

theorem consistent_of_reachable {pool : Pool I ε α κ σ}
    (reached : (system initial program handle).Reachable guard pool) : pool.Consistent program := by
  refine reached.invariant ?_ ?_
  · rintro _ ⟨shared, -, rfl⟩
    exact consistent_fresh shared
  · intro before label after _ consistent _ moved
    obtain ⟨call, -, rfl⟩ | ⟨index, call, request, next, answer, shared, -, found, -, rfl⟩ :=
      step_cases moved
    · exact consistent.start call
    · exact consistent.advance found answer shared

/-- A step adds at most one event to the history. -/
theorem history_of_step {before after : Pool I ε α κ σ} {label : Turn κ}
    (moved : (system initial program handle).step before label after) :
    after.history = before.history ∨ ∃ event, after.history = event :: before.history := by
  obtain ⟨call, -, rfl⟩ | ⟨index, call, request, next, answer, shared, -, -, -, rfl⟩ :=
    step_cases moved
  · exact .inl rfl
  · exact .inr ⟨_, rfl⟩

/-- A run only adds events to the history. -/
theorem history_of_steps {pool later : Pool I ε α κ σ}
    (path : (system initial program handle).Steps guard pool later) :
    ∃ recent, later.history = recent ++ pool.history := by
  refine path.invariant (P := fun later => ∃ recent, later.history = recent ++ pool.history) ?_ ⟨[], rfl⟩
  intro before label after ⟨recent, split⟩ _ moved
  rcases history_of_step moved with same | ⟨event, same⟩
  · exact ⟨recent, same.trans split⟩
  · exact ⟨event :: recent, same.trans (congrArg _ split)⟩

/-- A step only adds to what has been exchanged. -/
theorem exchanges_of_step {before after : Pool I ε α κ σ} {label : Turn κ}
    (moved : (system initial program handle).step before label after) {exchange : Proc.Exchange I}
    (issued : exchange ∈ exchanges before.history index) :
    exchange ∈ exchanges after.history index := by
  obtain ⟨event, recorded, mine, same⟩ := mem_exchanges.mp issued
  obtain ⟨call, -, rfl⟩ | ⟨moving, call, request, next, answer, shared, -, -, -, rfl⟩ :=
    step_cases moved
  · exact issued
  · exact mem_exchanges.mpr ⟨event, mem_cons_of_mem _ recorded, mine, same⟩

/-- What has been exchanged after a step was exchanged before, or is what the step did. -/
theorem exchanges_step_cases {before after : Pool I ε α κ σ} {label : Turn κ}
    (moved : (system initial program handle).step before label after) {request : I.Request}
    {answer : I.Answer request} (issued : ⟨request, answer⟩ ∈ exchanges after.history index) :
    ⟨request, answer⟩ ∈ exchanges before.history index ∨ ∃ call next, label = .advance index ∧
        before.threads[index]? = some ⟨call, .await request next⟩ ∧
        handle index call request before.shared = some (answer, after.shared) := by
  obtain ⟨event, recorded, mine, same⟩ := mem_exchanges.mp issued
  obtain ⟨call, -, rfl⟩ | ⟨moving, call, pending, next, reply, shared, advanced, found, answered,
    rfl⟩ := step_cases moved
  · exact .inl issued
  · rcases mem_cons.mp recorded with rfl | recorded
    · cases same
      cases mine
      exact .inr ⟨call, next, advanced, found, answered⟩
    · exact .inl (mem_exchanges.mpr ⟨event, recorded, mine, same⟩)

/-- The step of a process answers the request it waits for. -/
theorem answered_of_step {before after : Pool I ε α κ σ} {call : κ} {request : I.Request}
    {next : I.Answer request → Proc I ε α}
    (moved : (system initial program handle).step before (.advance index) after)
    (pending : before.threads[index]? = some ⟨call, .await request next⟩) :
    ∃ answer, handle index call request before.shared = some (answer, after.shared) := by
  obtain ⟨_, advanced, -⟩ | ⟨moving, _, _, _, answer, shared, advanced, found, answered, rfl⟩ :=
    step_cases moved
  · cases advanced
  · cases advanced
    rw [pending] at found
    cases found
    exact ⟨answer, answered⟩

/-- A process that waits goes on waiting, or it is the one that is answered. -/
theorem waits_of_step {before after : Pool I ε α κ σ} {label : Turn κ}
    (moved : (system initial program handle).step before label after) {call : κ}
    {request : I.Request} {next : I.Answer request → Proc I ε α}
    (waits : before.threads[index]? = some ⟨call, .await request next⟩) :
    after.threads[index]? = some ⟨call, .await request next⟩ ∨ ∃ answer, label = .advance index ∧
        handle index call request before.shared = some (answer, after.shared) ∧
        after.threads[index]? = some ⟨call, next answer⟩ ∧
        exchanges after.history index = exchanges before.history index ++ [⟨request, answer⟩] := by
  obtain ⟨bound, -⟩ := List.getElem?_eq_some_iff.mp waits
  obtain ⟨other, -, rfl⟩ | ⟨moving, caller, pending, rest, answer, shared, advanced, found, answered,
    rfl⟩ := step_cases moved
  · left
    change (before.threads ++ _)[index]? = _
    rw [getElem?_append_left bound, waits]
  · by_cases mine : moving = index
    · subst mine
      rw [waits] at found
      cases found
      exact .inr ⟨answer, advanced, answered, getElem?_set_self bound, exchanges_cons_self _ _⟩
    · left
      change (before.threads.set moving _)[index]? = _
      rw [getElem?_set_ne mine, waits]

/-- What a process waits for after a step it waited for before, or it has just been started,
or answered. -/
theorem waited_of_step {before after : Pool I ε α κ σ} {label : Turn κ}
    (moved : (system initial program handle).step before label after) {call : κ}
    {request : I.Request} {next : I.Answer request → Proc I ε α}
    (waits : after.threads[index]? = some ⟨call, .await request next⟩) :
    before.threads[index]? = some ⟨call, .await request next⟩ ∨
      (before.threads[index]? = none ∧ after.history = before.history) ∨
      ∃ earlier answer rest, label = .advance index ∧
        before.threads[index]? = some ⟨call, .await earlier rest⟩ ∧
        handle index call earlier before.shared = some (answer, after.shared) ∧
        exchanges after.history index = exchanges before.history index ++ [⟨earlier, answer⟩] := by
  obtain ⟨other, -, rfl⟩ | ⟨moving, caller, pending, rest, answer, shared, advanced, found, answered,
    rfl⟩ := step_cases moved
  · rcases getElem?_append_cases waits with ⟨rfl, -⟩ | earlier
    · exact .inr (.inl ⟨getElem?_eq_none (Nat.le_refl _), rfl⟩)
    · exact .inl earlier
  · rcases getElem?_set_cases waits with ⟨rfl, same⟩ | ⟨-, earlier⟩
    · obtain ⟨rfl, -⟩ := Thread.mk.inj same
      exact .inr (.inr ⟨pending, answer, rest, advanced, found, answered, exchanges_cons_self _ _⟩)
    · exact .inl earlier

/-- A process after a step has just been started, or was there before. -/
theorem thread_of_step {before after : Pool I ε α κ σ} {label : Turn κ}
    (moved : (system initial program handle).step before label after) {thread : Thread I ε α κ}
    (found : after.threads[index]? = some thread) :
    before.threads[index]? = none ∨ ∃ earlier, before.threads[index]? = some earlier ∧
      earlier.call = thread.call ∧ (thread.InFlight → earlier.InFlight) := by
  obtain ⟨call, -, rfl⟩ | ⟨moving, call, request, next, answer, shared, -, pending, -, rfl⟩ :=
    step_cases moved
  · rcases getElem?_append_cases found with ⟨rfl, -⟩ | earlier
    · exact .inl (getElem?_eq_none (Nat.le_refl _))
    · exact .inr ⟨thread, earlier, rfl, id⟩
  · rcases getElem?_set_cases found with ⟨rfl, rfl⟩ | ⟨-, earlier⟩
    · exact .inr ⟨_, pending, rfl, fun _ => ⟨request, next, rfl⟩⟩
    · exact .inr ⟨thread, earlier, rfl, id⟩

/-- A started process stays, with its call. -/
theorem call_of_step {before after : Pool I ε α κ σ} {label : Turn κ}
    (moved : (system initial program handle).step before label after) {thread : Thread I ε α κ}
    (found : before.threads[index]? = some thread) :
    ∃ later, after.threads[index]? = some later ∧ later.call = thread.call := by
  obtain ⟨bound, -⟩ := List.getElem?_eq_some_iff.mp found
  obtain ⟨call, -, rfl⟩ | ⟨moving, call, request, next, answer, shared, -, pending, -, rfl⟩ :=
    step_cases moved
  · refine ⟨thread, ?_, rfl⟩
    change (before.threads ++ _)[index]? = some thread
    rw [getElem?_append_left bound, found]
  · by_cases mine : moving = index
    · subst mine
      rw [found] at pending
      cases pending
      exact ⟨⟨call, next answer⟩, getElem?_set_self bound, rfl⟩
    · refine ⟨thread, ?_, rfl⟩
      change (before.threads.set moving _)[index]? = some thread
      rw [getElem?_set_ne mine, found]

/-- What is kept by the answer to every request holds of the shared state in every run. -/
theorem shared_invariant {P : σ → Prop} (start : ∀ shared, initial shared → P shared)
    (preserved : ∀ index call request before answer after, P before →
      handle index call request before = some (answer, after) → P after)
    {pool : Pool I ε α κ σ} (reached : (system initial program handle).Reachable guard pool) :
    P pool.shared := by
  refine reached.invariant (P := fun pool => P pool.shared) ?_ ?_
  · rintro _ ⟨shared, initial, rfl⟩
    exact start shared initial
  · intro before label after _ kept _ moved
    obtain ⟨call, -, rfl⟩ | ⟨index, call, request, next, answer, shared, -, -, answered, rfl⟩ :=
      step_cases moved
    · exact kept
    · exact preserved _ _ _ _ _ _ kept answered

/-- Every recorded answer was given by the handler, in a state that was reached. -/
theorem answered_of_recorded {pool : Pool I ε α κ σ}
    (reached : (system initial program handle).Reachable guard pool) {event : Event I κ}
    (recorded : event ∈ pool.history) :
    ∃ before after, (system initial program handle).Reachable guard before ∧
      handle event.thread event.call event.request before.shared = some (event.answer, after) := by
  induction reached with
  | initial fresh =>
    obtain ⟨shared, -, rfl⟩ := fresh
    cases recorded
  | @step before label after reached admitted moved ih =>
    obtain ⟨call, -, rfl⟩ | ⟨index, call, request, next, answer, shared, -, -, answered, rfl⟩ :=
      step_cases moved
    · exact ih recorded
    · rcases mem_cons.mp recorded with newest | earlier
      · subst newest
        exact ⟨before, shared, reached, answered⟩
      · exact ih earlier

/-- What an answer establishes, and every later answer keeps, holds from then on of the
exchange, of the events since and of the shared state. -/
theorem since_of_reachable (valid : σ → Prop) {P : Proc.Exchange I → List (Event I κ) → σ → Prop}
    (kept : ∀ pool, (system initial program handle).Reachable guard pool → valid pool.shared)
    (answered : ∀ index call request before answer after, valid before →
      handle index call request before = some (answer, after) → P ⟨request, answer⟩ [] after)
    (preserved : ∀ exchange recent index call request before answer after, valid before →
      P exchange recent before → handle index call request before = some (answer, after) →
      P exchange (⟨index, call, request, answer⟩ :: recent) after)
    {pool : Pool I ε α κ σ} (reached : (system initial program handle).Reachable guard pool)
    {recent earlier : List (Event I κ)} {event : Event I κ}
    (split : pool.history = recent ++ event :: earlier) :
    P ⟨event.request, event.answer⟩ recent pool.shared := by
  induction reached generalizing recent with
  | initial fresh =>
    obtain ⟨shared, -, rfl⟩ := fresh
    exact absurd split.symm (append_ne_nil_of_right_ne_nil _ (cons_ne_nil _ _))
  | @step before label after reached admitted moved ih =>
    obtain ⟨call, -, rfl⟩ | ⟨index, call, request, next, answer, shared, -, -, done, rfl⟩ :=
      step_cases moved
    · exact ih split
    · cases recent with
      | nil =>
        obtain ⟨rfl, -⟩ := cons_eq_cons.mp split
        exact answered index call request before.shared answer shared (kept before reached) done
      | cons newest recent =>
        obtain ⟨rfl, older⟩ := cons_eq_cons.mp split
        exact preserved _ recent index call request before.shared answer shared
          (kept before reached) (ih older) done

/-- What holds along every path of a program holds of what is left of it. -/
theorem along_of_reachable {good : ∀ request : I.Request, (I.Answer request → Proc I ε α) → Prop}
    {pool : Pool I ε α κ σ} (reached : (system initial program handle).Reachable guard pool)
    {thread : Thread I ε α κ} (found : pool.threads[index]? = some thread)
    (along : (program thread.call).Along good) : thread.rest.Along good :=
  along.leads ((consistent_of_reachable reached).leads index thread found)

/-- Where the guard admits only certain calls, only they are ever started. -/
theorem calls_of_reachable {allowed : κ → Prop}
    (guarded : ∀ pool call, guard pool (.start call) → allowed call) {pool : Pool I ε α κ σ}
    (reached : (system initial program handle).Reachable guard pool) {thread : Thread I ε α κ}
    (found : pool.threads[index]? = some thread) : allowed thread.call := by
  revert index thread
  refine reached.invariant (P := fun pool => ∀ {index : Nat} {thread : Thread I ε α κ},
    pool.threads[index]? = some thread → allowed thread.call) ?_ ?_
  · rintro _ ⟨shared, -, rfl⟩ index thread found
    cases found
  · intro before label after _ kept admitted moved index thread found
    obtain ⟨call, rfl, rfl⟩ | ⟨moving, call, request, next, answer, shared, -, pending, -, rfl⟩ :=
      step_cases moved
    · rcases getElem?_append_cases found with ⟨-, rfl⟩ | earlier
      · exact guarded before call admitted
      · exact kept earlier
    · rcases getElem?_set_cases found with ⟨-, rfl⟩ | ⟨-, earlier⟩
      · have same : allowed (Thread.call ⟨call, .await request next⟩) := kept pending
        exact same
      · exact kept earlier

/-- A finished process stays as it ended. -/
theorem finished_of_steps {pool later : Pool I ε α κ σ}
    (path : (system initial program handle).Steps guard pool later) {thread : Thread I ε α κ}
    (found : pool.threads[index]? = some thread) {result : Except ε α}
    (finished : thread.result? = some result) : later.threads[index]? = some thread := by
  refine path.invariant (P := fun pool => pool.threads[index]? = some thread) ?_ found
  intro before label after kept _ moved
  obtain ⟨call, -, rfl⟩ | ⟨moving, call, request, next, answer, shared, -, pending, -, rfl⟩ :=
    step_cases moved
  · obtain ⟨bound, -⟩ := List.getElem?_eq_some_iff.mp kept
    change (before.threads ++ _)[index]? = some thread
    rw [getElem?_append_left bound, kept]
  · have different : moving ≠ index := by
      rintro rfl
      rw [pending] at kept
      cases kept
      cases finished
    change (before.threads.set moving _)[index]? = some thread
    rw [getElem?_set_ne different, kept]

end Runs

/-! ## Views -/

/-- The pool as it is seen through a view of the shared state. -/
def view {τ : Type} (view : σ → τ) (pool : Pool I ε α κ σ) : Pool I ε α κ τ :=
  ⟨view pool.shared, pool.threads, pool.history⟩

section View

variable {τ : Type} {look : σ → τ} {initial : σ → Prop} {initial' : τ → Prop}
  {program : κ → Proc I ε α} {handle : Nat → κ → Handler I σ} {handle' : Nat → κ → Handler I τ}
  {guard : Pool I ε α κ σ → Turn κ → Prop} {guard' : Pool I ε α κ τ → Turn κ → Prop}

/-- A step is one of the system that answers as the view shows. -/
theorem step_view (answers : ∀ index call request before answer after,
      handle index call request before = some (answer, after) →
        handle' index call request (look before) = some (answer, look after))
    {before after : Pool I ε α κ σ} {label : Turn κ}
    (moved : (system initial program handle).step before label after) :
    (system initial' program handle').step (before.view look) label (after.view look) := by
  obtain ⟨call, rfl, rfl⟩ | ⟨index, call, request, next, answer, shared, rfl, found, answered, rfl⟩ :=
    step_cases moved
  · rfl
  · have lookup : (before.view look).threads[index]? = some ⟨call, .await request next⟩ := found
    change advance handle' index (before.view look) = _
    unfold advance
    rw [lookup]
    dsimp only
    have same : handle' index call request (before.view look).shared = some (answer, look shared) :=
      answers index call request before.shared answer shared answered
    rw [same]
    rfl

/-- What a system reaches is reached, as the view shows it, by the system that answers so. -/
theorem reachable_view (start : ∀ shared, initial shared → initial' (look shared))
    (answers : ∀ index call request before answer after,
      handle index call request before = some (answer, after) →
        handle' index call request (look before) = some (answer, look after))
    (admits : ∀ pool label, guard pool label → guard' (pool.view look) label)
    {pool : Pool I ε α κ σ} (reached : (system initial program handle).Reachable guard pool) :
    (system initial' program handle').Reachable guard' (pool.view look) := by
  induction reached with
  | initial fresh =>
    obtain ⟨shared, initial, rfl⟩ := fresh
    exact .initial ⟨look shared, start shared initial, rfl⟩
  | step _ admitted moved ih => exact .step ih (admits _ _ admitted) (step_view answers moved)

end View

/-! ## Computed runs -/

/-- Only the process that advances is in flight. -/
def Alone (pool : Pool I ε α κ σ) : Turn κ → Prop
  | .start _ => True
  | .advance index => ∀ other thread, pool.threads[other]? = some thread → thread.InFlight →
      other = index

/-- Check that every other process has finished. -/
def alone (pool : Pool I ε α κ σ) : Turn κ → Bool
  | .start _ => true
  | .advance index => (List.range pool.threads.length).all fun other =>
      other = index || (pool.threads[other]?.bind Thread.result?).isSome

theorem alone_sound {pool : Pool I ε α κ σ} {turn : Turn κ} (checked : pool.alone turn = true) :
    pool.Alone turn := by
  cases turn with
  | start call => trivial
  | advance index =>
    intro other thread found flying
    obtain ⟨bound, -⟩ := List.getElem?_eq_some_iff.mp found
    have either := all_eq_true.mp checked other (mem_range.mpr bound)
    rw [found, Option.bind_some, thread.inFlight_iff_result?.mp flying] at either
    simpa only [Option.isSome_none, Bool.or_false, decide_eq_true_eq] using either

/-- Follow the turns of a scheduler as long as a check admits them. -/
def replay (program : κ → Proc I ε α) (handle : Nat → κ → Handler I σ)
    (check : Pool I ε α κ σ → Turn κ → Bool) (shared : σ) (turns : List (Turn κ)) :
    Option (Pool I ε α κ σ) :=
  System.follow check (turn program handle) (fresh shared) turns

theorem reachable_of_replay {initial : σ → Prop} {program : κ → Proc I ε α}
    {handle : Nat → κ → Handler I σ} {guard : Pool I ε α κ σ → Turn κ → Prop}
    {check : Pool I ε α κ σ → Turn κ → Bool}
    (sound : ∀ pool turn, check pool turn = true → guard pool turn) {shared : σ}
    (start : initial shared) {turns : List (Turn κ)}
    (completed : (replay program handle check shared turns).isSome) :
    (system initial program handle).Reachable guard
      ((replay program handle check shared turns).get completed) :=
  System.reachable_of_follow sound ⟨shared, start, rfl⟩ completed

end Pool

end Foundation
