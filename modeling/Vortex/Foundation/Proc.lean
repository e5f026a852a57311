import Mathlib.Control.Basic
import Mathlib.Logic.Function.Basic

/-!
# Asynchronous processes

A process is an asynchronous computation cut at its suspension points: it either
has finished, with a value or an exception, or waits for the answer to one
request. A request is answered atomically, so the requests of concurrent
processes interleave freely and everything a process computes between two of
them is private to it. The answers are given by a handler on a shared state;
`Foundation.Proc.run` is the execution of one process without interference.
-/

namespace Foundation

/-! ## Results -/

/-- A sequence succeeds when its parts do. -/
theorem ok_of_bind {ε α β : Type} {first : Except ε α} {next : α → Except ε β} {result : β}
    (succeeded : first >>= next = .ok result) :
    ∃ value, first = .ok value ∧ next value = .ok result := by
  cases first with
  | ok value => exact ⟨value, rfl, succeeded⟩
  | error error => cases succeeded

theorem ok_of_mapError {ε ε' α : Type} {change : ε → ε'} {result : Except ε α} {value : α}
    (succeeded : result.mapError change = .ok value) : result = .ok value := by
  cases result with
  | ok found => exact congrArg Except.ok (Except.ok.inj succeeded)
  | error error => cases succeeded

/-- The requests a process can issue, with the type of the answer to each. -/
structure Interface where
  Request : Type
  Answer : Request → Type

/-- A process over an interface, with exceptions in `ε` and results in `α`. -/
inductive Proc (I : Interface) (ε α : Type) : Type
  | done (result : Except ε α)
  | await (request : I.Request) (next : I.Answer request → Proc I ε α)

/-- A handler answers a request on a shared state, or leaves it waiting. -/
abbrev Handler (I : Interface) (σ : Type) : Type :=
  (request : I.Request) → σ → Option (I.Answer request × σ)

namespace Proc

variable {I J : Interface} {ε α β γ σ : Type}

/-- Continue with the result of a process; an exception skips the continuation. -/
def bind : Proc I ε α → (α → Proc I ε β) → Proc I ε β
  | .done (.ok value), next => next value
  | .done (.error error), _ => .done (.error error)
  | .await request rest, next => .await request fun answer => (rest answer).bind next

/-- Issue one request and return its answer. -/
def request (request : I.Request) : Proc I ε (I.Answer request) :=
  .await request fun answer => .done (.ok answer)

/-- Run a process to its end and return how it ended. -/
def attempt : Proc I ε α → Proc I ε (Except ε α)
  | .done result => .done (.ok result)
  | .await request rest => .await request fun answer => (rest answer).attempt

instance : Monad (Proc I ε) where
  pure value := .done (.ok value)
  bind := bind

instance : MonadExceptOf ε (Proc I ε) where
  throw error := .done (.error error)
  tryCatch body handler := body.attempt.bind fun
    | .ok value => .done (.ok value)
    | .error error => handler error

@[simp] theorem pure_eq (value : α) : (pure value : Proc I ε α) = .done (.ok value) := rfl

@[simp] theorem throw_eq (error : ε) : (throw error : Proc I ε α) = .done (.error error) := rfl

@[simp] theorem bind_ok (value : α) (next : α → Proc I ε β) :
    (Proc.done (.ok value) : Proc I ε α) >>= next = next value := rfl

@[simp] theorem bind_error (error : ε) (next : α → Proc I ε β) :
    (Proc.done (.error error) : Proc I ε α) >>= next = .done (.error error) := rfl

@[simp] theorem bind_await (request : I.Request) (rest : I.Answer request → Proc I ε α)
    (next : α → Proc I ε β) :
    Proc.await request rest >>= next = .await request fun answer => rest answer >>= next := rfl

/-! ## Execution without interference -/

/-- Run a process alone on a shared state. `none` when a request is left waiting:
nobody else is there to make it ready. -/
def run (handle : Handler I σ) : Proc I ε α → σ → Option (Except ε α × σ)
  | .done result, state => some (result, state)
  | .await request rest, state =>
      match handle request state with
      | none => none
      | some (answer, after) => (rest answer).run handle after

section

variable (handle : Handler I σ)

include handle

@[simp] theorem run_done (result : Except ε α) (state : σ) :
    (Proc.done result : Proc I ε α).run handle state = some (result, state) := rfl

theorem run_await {request : I.Request}
    {rest : I.Answer request → Proc I ε α} {state after : σ} {answer : I.Answer request}
    (answered : handle request state = some (answer, after)) :
    (Proc.await request rest).run handle state = (rest answer).run handle after := by
  simp only [run, answered]

/-- A sequence runs its first part and then, unless that threw, its second. -/
theorem run_bind_ok {process : Proc I ε α} {next : α → Proc I ε β}
    {state after : σ} {value : α} (ran : process.run handle state = some (.ok value, after)) :
    (process >>= next).run handle state = (next value).run handle after := by
  induction process generalizing state with
  | done result =>
    cases ran
    rfl
  | await request rest ih =>
    cases answered : handle request state with
    | none => simp only [run, answered, reduceCtorEq] at ran
    | some reply =>
      simp only [bind_await, run, answered] at ran ⊢
      exact ih _ ran

theorem run_bind_error {process : Proc I ε α} {next : α → Proc I ε β}
    {state after : σ} {error : ε} (ran : process.run handle state = some (.error error, after)) :
    (process >>= next).run handle state = some (.error error, after) := by
  induction process generalizing state with
  | done result =>
    cases ran
    rfl
  | await request rest ih =>
    cases answered : handle request state with
    | none => simp only [run, answered, reduceCtorEq] at ran
    | some reply =>
      simp only [bind_await, run, answered] at ran ⊢
      exact ih _ ran

theorem run_attempt {process : Proc I ε α} {state after : σ}
    {result : Except ε α} (ran : process.run handle state = some (result, after)) :
    process.attempt.run handle state = some (.ok result, after) := by
  induction process generalizing state with
  | done ended =>
    cases ran
    rfl
  | await request rest ih =>
    cases answered : handle request state with
    | none => simp only [run, answered, reduceCtorEq] at ran
    | some reply =>
      simp only [attempt, run, answered] at ran ⊢
      exact ih _ ran

theorem run_tryCatch_ok {body : Proc I ε α} {handler : ε → Proc I ε α}
    {state after : σ} {value : α} (ran : body.run handle state = some (.ok value, after)) :
    (MonadExcept.tryCatch body handler).run handle state = some (.ok value, after) :=
  run_bind_ok handle (run_attempt handle ran)

theorem run_tryCatch_error {body : Proc I ε α} {handler : ε → Proc I ε α}
    {state after : σ} {error : ε} (ran : body.run handle state = some (.error error, after)) :
    (MonadExcept.tryCatch body handler).run handle state = (handler error).run handle after :=
  run_bind_ok handle (run_attempt handle ran)

end

/-! ## Paths -/

/-- A request with the answer it got. -/
abbrev Exchange (I : Interface) : Type := (request : I.Request) × I.Answer request

/-- `process.Leads exchanges rest`: answering the pending requests of a process in
this order, oldest first, leaves `rest` of it. -/
inductive Leads : Proc I ε α → List (Exchange I) → Proc I ε α → Prop
  | nil (process : Proc I ε α) : Leads process [] process
  | cons {request : I.Request} {next : I.Answer request → Proc I ε α}
      {answer : I.Answer request} {exchanges : List (Exchange I)} {rest : Proc I ε α}
      (later : Leads (next answer) exchanges rest) :
      Leads (.await request next) (⟨request, answer⟩ :: exchanges) rest

theorem Leads.snoc {process : Proc I ε α} {exchanges : List (Exchange I)} {request : I.Request}
    {next : I.Answer request → Proc I ε α} (path : process.Leads exchanges (.await request next))
    (answer : I.Answer request) :
    process.Leads (exchanges ++ [⟨request, answer⟩]) (next answer) := by
  generalize pending : Proc.await request next = rest at path
  induction path with
  | nil process =>
    subst pending
    exact .cons (.nil _)
  | cons _ ih => exact .cons (ih pending)

/-! ## Properties of every path -/

/-- Every request a process can come to, with the continuation that waits for its
answer, is good. -/
def Along (good : ∀ request : I.Request, (I.Answer request → Proc I ε α) → Prop) :
    Proc I ε α → Prop
  | .done _ => True
  | .await request rest => good request rest ∧ ∀ answer, (rest answer).Along good

theorem Along.mono {good fine : ∀ request : I.Request, (I.Answer request → Proc I ε α) → Prop}
    (weaken : ∀ request rest, good request rest → fine request rest) {process : Proc I ε α}
    (along : process.Along good) : process.Along fine := by
  induction process with
  | done result => trivial
  | await request rest ih => exact ⟨weaken _ _ along.1, fun answer => ih answer (along.2 answer)⟩

/-- A sequence only issues good requests when its parts do. -/
theorem Along.bind {good : I.Request → Prop} {process : Proc I ε α} {next : α → Proc I ε β}
    (first : process.Along fun request _ => good request)
    (second : ∀ value, (next value).Along fun request _ => good request) :
    (process >>= next).Along fun request _ => good request := by
  induction process with
  | done result =>
    cases result with
    | ok value => exact second value
    | error error => trivial
  | await request rest ih => exact ⟨first.1, fun answer => ih answer (first.2 answer)⟩

theorem Along.attempt {good : I.Request → Prop} {process : Proc I ε α}
    (along : process.Along fun request _ => good request) :
    process.attempt.Along fun request _ => good request := by
  induction process with
  | done result => trivial
  | await request rest ih => exact ⟨along.1, fun answer => ih answer (along.2 answer)⟩

theorem Along.tryCatch {good : I.Request → Prop} {body : Proc I ε α} {handler : ε → Proc I ε α}
    (first : body.Along fun request _ => good request)
    (second : ∀ error, (handler error).Along fun request _ => good request) :
    (MonadExcept.tryCatch body handler).Along fun request _ => good request := by
  apply Along.bind first.attempt
  intro result
  cases result with
  | ok value => trivial
  | error error => exact second error

theorem Along.leads {good : ∀ request : I.Request, (I.Answer request → Proc I ε α) → Prop}
    {process rest : Proc I ε α} {exchanges : List (Exchange I)} (along : process.Along good)
    (path : process.Leads exchanges rest) : rest.Along good := by
  induction path with
  | nil process => exact along
  | cons _ ih => exact ih (along.2 _)

end Proc

end Foundation
