import Vortex.Foundation.Pool

/-!
# Monitors

A monitor watches the exchanges of one process. It remembers what it needs of the
requests and answers so far, says which requests are allowed next, and judges how
the process ends. `Foundation.Proc.Obeys` is computed along the process, with one
rule for a sequence, so it is proved for a program part by part; in a pool every
process then obeys its monitor at all times, whatever the others do.
-/

variable {index : Nat}

namespace Foundation

/-- What is remembered of the exchanges of a process, and what that allows next. -/
structure Monitor (I : Interface) (μ : Type) where
  allows : μ → I.Request → Prop
  next : μ → Proc.Exchange I → μ

namespace Monitor

variable {I : Interface} {μ : Type}

/-- The memory after a list of exchanges, oldest first. -/
def remember (monitor : Monitor I μ) (start : μ) (exchanges : List (Proc.Exchange I)) : μ :=
  exchanges.foldl monitor.next start

/-- The monitor that remembers the exchanges it keeps, and judges requests by them. -/
def recorder (keep : I.Request → Bool) (allows : List (Proc.Exchange I) → I.Request → Prop) :
    Monitor I (List (Proc.Exchange I)) where
  allows := allows
  next seen exchange := if keep exchange.1 then seen ++ [exchange] else seen

theorem remember_recorder (keep : I.Request → Bool)
    (allows : List (Proc.Exchange I) → I.Request → Prop) (seen exchanges : List (Proc.Exchange I)) :
    (recorder keep allows).remember seen exchanges =
      seen ++ exchanges.filter fun exchange => keep exchange.1 := by
  induction exchanges generalizing seen with
  | nil => exact (List.append_nil seen).symm
  | cons exchange rest ih =>
    change (recorder keep allows).remember
      (if keep exchange.1 then seen ++ [exchange] else seen) rest = _
    rw [ih, List.filter_cons]
    split
    · rw [List.append_assoc, List.singleton_append]
    · rfl

/-- What a process has exchanged is remembered as far as it is kept. -/
theorem mem_remember_recorder {keep : I.Request → Bool}
    {allows : List (Proc.Exchange I) → I.Request → Prop} {exchanges : List (Proc.Exchange I)}
    {exchange : Proc.Exchange I} :
    exchange ∈ (recorder keep allows).remember [] exchanges ↔
      exchange ∈ exchanges ∧ keep exchange.1 = true := by
  rw [remember_recorder, List.nil_append, List.mem_filter]

end Monitor

namespace Proc

variable {I : Interface} {ε α β μ : Type} {monitor : Monitor I μ}

/-- Along every path only allowed requests are issued, and the end is as `post` says
of the memory and the result. -/
def Obeys (monitor : Monitor I μ) (post : μ → Except ε α → Prop) : Proc I ε α → μ → Prop
  | .done result, memory => post memory result
  | .await request rest, memory =>
      monitor.allows memory request ∧
        ∀ answer, (rest answer).Obeys monitor post (monitor.next memory ⟨request, answer⟩)

/-- What is asked of the first part of a sequence: an exception is the end, a value
is followed by the second part. -/
def Then (monitor : Monitor I μ) (post : μ → Except ε β → Prop) (next : α → Proc I ε β) :
    μ → Except ε α → Prop
  | memory, .ok value => (next value).Obeys monitor post memory
  | memory, .error error => post memory (.error error)

theorem Obeys.bind {post : μ → Except ε β → Prop} {process : Proc I ε α} {next : α → Proc I ε β}
    {memory : μ} (first : process.Obeys monitor (Then monitor post next) memory) :
    (process >>= next).Obeys monitor post memory := by
  induction process generalizing memory with
  | done result =>
    cases result with
    | ok value => exact first
    | error error => exact first
  | await request rest ih => exact ⟨first.1, fun answer => ih answer (first.2 answer)⟩

/-- A finished process, where how it ended is still to be analysed. -/
theorem Obeys.done {post : μ → Except ε α → Prop} {result : Except ε α} {memory : μ}
    (ok : ∀ value, result = .ok value → post memory (.ok value))
    (error : ∀ error, result = .error error → post memory (.error error)) :
    (Proc.done result : Proc I ε α).Obeys monitor post memory := by
  cases result with
  | ok value => exact ok value rfl
  | error thrown => exact error thrown rfl

/-- A process whose requests the monitor allows and forgets. -/
theorem Obeys.of_along {post : μ → Except ε α → Prop} {process : Proc I ε α} {memory : μ}
    (along : process.Along fun request _ => monitor.allows memory request ∧
      ∀ answer, monitor.next memory ⟨request, answer⟩ = memory)
    (ends : ∀ result, post memory result) : process.Obeys monitor post memory := by
  induction process with
  | done result => exact ends result
  | await request rest ih =>
    refine ⟨along.1.1, fun answer => ?_⟩
    rw [along.1.2 answer]
    exact ih answer (along.2 answer)

/-- A process whose requests the monitor allows and forgets, followed by another. -/
theorem Obeys.bind_of_along {post : μ → Except ε β → Prop} {process : Proc I ε α}
    {next : α → Proc I ε β} {memory : μ}
    (along : process.Along fun request _ => monitor.allows memory request ∧
      ∀ answer, monitor.next memory ⟨request, answer⟩ = memory)
    (rest : ∀ value, (next value).Obeys monitor post memory)
    (throws : ∀ error, post memory (.error error)) :
    (process >>= next).Obeys monitor post memory := by
  refine .bind (.of_along along fun result => ?_)
  cases result with
  | ok value => exact rest value
  | error error => exact throws error

theorem Obeys.attempt {post : μ → Except ε (Except ε α) → Prop} {process : Proc I ε α} {memory : μ}
    (body : process.Obeys monitor (fun memory result => post memory (.ok result)) memory) :
    process.attempt.Obeys monitor post memory := by
  induction process generalizing memory with
  | done result => exact body
  | await request rest ih => exact ⟨body.1, fun answer => ih answer (body.2 answer)⟩

theorem Obeys.mono {strong weak : μ → Except ε α → Prop}
    (weaken : ∀ memory result, strong memory result → weak memory result)
    {process : Proc I ε α} {memory : μ} (obeys : process.Obeys monitor strong memory) :
    process.Obeys monitor weak memory := by
  induction process generalizing memory with
  | done result => exact weaken memory result obeys
  | await request rest ih => exact ⟨obeys.1, fun answer => ih answer (obeys.2 answer)⟩

/-- A process that obeys one monitor obeys another that follows it. -/
theorem Obeys.simulate {ν : Type} {other : Monitor I ν} (related : μ → ν → Prop)
    {post : μ → Except ε α → Prop} {post' : ν → Except ε α → Prop}
    (allowed : ∀ memory shadow request, related memory shadow → monitor.allows memory request →
      other.allows shadow request)
    (kept : ∀ memory shadow exchange, related memory shadow → monitor.allows memory exchange.1 →
      related (monitor.next memory exchange) (other.next shadow exchange))
    (ends : ∀ memory shadow result, related memory shadow → post memory result →
      post' shadow result)
    {process : Proc I ε α} {memory : μ} {shadow : ν} (start : related memory shadow)
    (obeys : process.Obeys monitor post memory) : process.Obeys other post' shadow := by
  induction process generalizing memory shadow with
  | done result => exact ends memory shadow result start obeys
  | await request rest ih =>
    refine ⟨allowed memory shadow request start obeys.1, fun answer => ?_⟩
    exact ih answer (kept memory shadow ⟨request, answer⟩ start obeys.1) (obeys.2 answer)

theorem Obeys.leads {post : μ → Except ε α → Prop} {process rest : Proc I ε α} {memory : μ}
    {exchanges : List (Exchange I)} (obeys : process.Obeys monitor post memory)
    (path : process.Leads exchanges rest) :
    rest.Obeys monitor post (monitor.remember memory exchanges) := by
  induction path generalizing memory with
  | nil process => exact obeys
  | cons _ ih => exact ih (obeys.2 _)

/-- Every request on a path was allowed by what was remembered when it was issued. -/
theorem Obeys.allowed {post : μ → Except ε α → Prop} {process rest : Proc I ε α} {memory : μ}
    {exchanges : List (Exchange I)} (obeys : process.Obeys monitor post memory)
    (path : process.Leads exchanges rest) {exchange : Exchange I} (issued : exchange ∈ exchanges) :
    ∃ earlier later, exchanges = earlier ++ exchange :: later ∧
      monitor.allows (monitor.remember memory earlier) exchange.1 := by
  induction path generalizing memory with
  | nil process => cases issued
  | @cons request next answer exchanges rest path ih =>
    rcases List.mem_cons.mp issued with rfl | issued
    · exact ⟨[], exchanges, rfl, obeys.1⟩
    · obtain ⟨earlier, later, rfl, allowed⟩ := ih (obeys.2 answer) issued
      exact ⟨⟨request, answer⟩ :: earlier, later, rfl, allowed⟩

end Proc

namespace Pool

variable {I : Interface} {ε α κ σ μ : Type}

/-- What the monitor of a process remembers. -/
def memory (monitor : Monitor I μ) (start : μ) (history : List (Event I κ)) (index : Nat) : μ :=
  monitor.remember start (exchanges history index)

theorem memory_cons_self (monitor : Monitor I μ) (start : μ) (history : List (Event I κ))
    (index : Nat) (call : κ) (request : I.Request) (answer : I.Answer request) :
    memory monitor start (⟨index, call, request, answer⟩ :: history) index =
      monitor.next (memory monitor start history index) ⟨request, answer⟩ := by
  have recorded := exchanges_cons_self history ⟨index, call, request, answer⟩
  rw [memory, recorded, Monitor.remember, List.foldl_append]
  rfl

theorem memory_cons_other (monitor : Monitor I μ) (start : μ) (history : List (Event I κ))
    {event : Event I κ} (other : index ≠ event.thread) :
    memory monitor start (event :: history) index = memory monitor start history index := by
  rw [memory, exchanges_cons_other history (Ne.symm other), memory]

/-- A recorder that keeps everything remembers the exchanges of its process. -/
theorem memory_recorder (allows : List (Proc.Exchange I) → I.Request → Prop)
    (history : List (Event I κ)) (index : Nat) :
    memory (.recorder (fun _ => true) allows) [] history index = exchanges history index := by
  rw [memory, Monitor.remember_recorder, List.nil_append]
  exact List.filter_eq_self.mpr fun _ _ => rfl

section Runs

variable {initial : σ → Prop} {program : κ → Proc I ε α} {handle : Nat → κ → Handler I σ}
  {guard : Pool I ε α κ σ → Turn κ → Prop} {pool : Pool I ε α κ σ}

/-- A process that has not been started has no exchanges. -/
theorem exchanges_eq_nil (reached : (system initial program handle).Reachable guard pool)
    (absent : pool.threads[index]? = none) : exchanges pool.history index = [] := by
  apply List.eq_nil_iff_forall_not_mem.mpr
  intro exchange member
  obtain ⟨event, recorded, same, -⟩ := mem_exchanges.mp member
  obtain ⟨thread, found, -⟩ := (consistent_of_reachable reached).started event recorded
  rw [same, absent] at found
  cases found

/-- A process that has exchanged something before a step was there before it. -/
theorem earlier_of_issued {before after : Pool I ε α κ σ} {label : Turn κ}
    (reached : (system initial program handle).Reachable guard before)
    (moved : (system initial program handle).step before label after) {thread : Thread I ε α κ}
    (found : after.threads[index]? = some thread) {exchange : Proc.Exchange I}
    (issued : exchange ∈ exchanges before.history index) :
    ∃ earlier, before.threads[index]? = some earlier ∧ earlier.call = thread.call ∧
      (thread.InFlight → earlier.InFlight) := by
  rcases thread_of_step moved found with absent | earlier
  · rw [exchanges_eq_nil reached absent] at issued
    cases issued
  · exact earlier

/-- Some process in flight has had such exchanges. -/
def Pending (kind : List (Proc.Exchange I) → Prop) (pool : Pool I ε α κ σ) : Prop :=
  ∃ index thread, pool.threads[index]? = some thread ∧ thread.InFlight ∧
    kind (exchanges pool.history index)

/-- A process of a kind was one before the step, or it becomes one by the answer it gets. -/
theorem pending_of_step {kind : List (Proc.Exchange I) → Prop} (silent : ¬ kind [])
    {before after : Pool I ε α κ σ} {label : Turn κ}
    (reached : (system initial program handle).Reachable guard before)
    (moved : (system initial program handle).step before label after)
    (pending : after.Pending kind) :
    before.Pending kind ∨ ∃ index call request next answer, label = .advance index ∧
      before.threads[index]? = some ⟨call, .await request next⟩ ∧
      handle index call request before.shared = some (answer, after.shared) ∧
      after.history = ⟨index, call, request, answer⟩ :: before.history ∧
      kind (exchanges before.history index ++ [⟨request, answer⟩]) := by
  obtain ⟨other, thread, found, flying, holds⟩ := pending
  obtain ⟨call, -, rfl⟩ | ⟨index, call, request, next, answer, shared, advanced, waiting, answered,
    rfl⟩ := step_cases moved
  · rcases getElem?_append_cases found with ⟨rfl, -⟩ | earlier
    · refine absurd ?_ silent
      rwa [← exchanges_eq_nil reached (List.getElem?_eq_none (Nat.le_refl _))]
    · exact .inl ⟨other, thread, earlier, flying, holds⟩
  · rcases getElem?_set_cases found with ⟨rfl, rfl⟩ | ⟨different, earlier⟩
    · right
      refine ⟨other, call, request, next, answer, advanced, waiting, answered, rfl, ?_⟩
      rwa [← exchanges_cons_self before.history ⟨other, call, request, answer⟩]
    · left
      refine ⟨other, thread, earlier, flying, ?_⟩
      have same : exchanges (⟨index, call, request, answer⟩ :: before.history) other = _ :=
        exchanges_cons_other before.history (Ne.symm different)
      rwa [← same]

section

variable (reached : (system initial program handle).Reachable guard pool)

include reached

/-- What is left of a process obeys its monitor from what the monitor remembers. -/
theorem obeys_of_reachable {monitor : Monitor I μ} {post : μ → Except ε α → Prop} {start : μ}
    {thread : Thread I ε α κ} (found : pool.threads[index]? = some thread)
    (obeys : (program thread.call).Obeys monitor post start) :
    thread.rest.Obeys monitor post (memory monitor start pool.history index) :=
  obeys.leads ((consistent_of_reachable reached).leads index thread found)

/-- The request a process waits for is justified by what it has exchanged. -/
theorem justified_of_pending {allows : List (Proc.Exchange I) → I.Request → Prop}
    {post : List (Proc.Exchange I) → Except ε α → Prop} {call : κ}
    {request : I.Request} {next : I.Answer request → Proc I ε α}
    (pending : pool.threads[index]? = some ⟨call, .await request next⟩)
    (obeys : (program call).Obeys (.recorder (fun _ => true) allows) post []) :
    allows (exchanges pool.history index) request := by
  have rest := obeys_of_reachable reached pending obeys
  rw [memory_recorder] at rest
  exact rest.1

/-- Whatever a process has requested was justified by some of its earlier exchanges. -/
theorem justified_of_reachable {keep : I.Request → Bool}
    {allows : List (Proc.Exchange I) → I.Request → Prop}
    {post : List (Proc.Exchange I) → Except ε α → Prop} {thread : Thread I ε α κ}
    (found : pool.threads[index]? = some thread)
    (obeys : (program thread.call).Obeys (.recorder keep allows) post [])
    {exchange : Proc.Exchange I} (issued : exchange ∈ exchanges pool.history index) :
    ∃ seen, (∀ known ∈ seen, known ∈ exchanges pool.history index) ∧ allows seen exchange.1 := by
  obtain ⟨earlier, later, split, allowed⟩ :=
    obeys.allowed ((consistent_of_reachable reached).leads index thread found) issued
  refine ⟨_, fun known member => ?_, allowed⟩
  rw [split]
  exact List.mem_append_left _ (Monitor.mem_remember_recorder.mp member).1

/-- A finished process has ended as its monitor says. -/
theorem ended_of_reachable {monitor : Monitor I μ} {post : μ → Except ε α → Prop} {start : μ}
    {thread : Thread I ε α κ} (found : pool.threads[index]? = some thread)
    (obeys : (program thread.call).Obeys monitor post start) {result : Except ε α}
    (finished : thread.result? = some result) :
    post (memory monitor start pool.history index) result := by
  have rest := obeys_of_reachable reached found obeys
  rcases thread with ⟨call, ended | ⟨request, next⟩⟩
  · cases finished
    exact rest
  · cases finished

end

end Runs

end Pool

end Foundation
