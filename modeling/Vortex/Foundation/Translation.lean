import Mathlib.Data.List.Forall2
import Vortex.Foundation.Pool

/-!
# Translated processes

A translation renames requests, answers and shared states. A process translates into
another when the second issues the renamed requests and goes on alike after the renamed
answers. Where a handler answers renamed requests as it answers the original ones, up to
the renaming, every run of a pool has a renamed run.
-/

namespace Foundation

/-- A renaming of requests, with their answers, and of shared states. -/
structure Translation (I : Interface) (σ : Type) where
  request : I.Request → I.Request
  answer : ∀ request' : I.Request, I.Answer request' → I.Answer (request request')
  state : σ → σ

namespace Translation

variable {I : Interface} {ε α β κ σ : Type} (τ : Translation I σ)

/-- A request that is renamed to itself, with its answers. -/
def Fixes (request : I.Request) : Prop :=
  (⟨τ.request request, τ.answer request⟩ :
    (renamed : I.Request) × (I.Answer request → I.Answer renamed)) = ⟨request, id⟩

/-- A handler that answers renamed requests as it answers the original ones. -/
def Commutes (handle : Handler I σ) : Prop :=
  ∀ (request : I.Request) (answer : I.Answer request) (before after : σ),
    handle request before = some (answer, after) →
      handle (τ.request request) (τ.state before) = some (τ.answer request answer, τ.state after)

/-- The second process does under the translation what the first one does. -/
inductive Relates : Proc I ε α → Proc I ε α → Prop
  | done (result : Except ε α) : Relates (.done result) (.done result)
  | await {request : I.Request} {next : I.Answer request → Proc I ε α}
      {next' : I.Answer (τ.request request) → Proc I ε α}
      (rest : ∀ answer, Relates (next answer) (next' (τ.answer request answer))) :
      Relates (.await request next) (.await (τ.request request) next')

variable {τ}

/-- A request that is renamed to itself, when the processes go on alike. -/
theorem Relates.await_fixed {request : I.Request} (fixed : τ.Fixes request)
    {next next' : I.Answer request → Proc I ε α}
    (rest : ∀ answer, τ.Relates (next answer) (next' answer)) :
    τ.Relates (.await request next) (.await request next') := by
  have general : ∀ (renamed : I.Request) (change : I.Answer request → I.Answer renamed),
      (⟨renamed, change⟩ : (renamed : I.Request) × (I.Answer request → I.Answer renamed)) =
        ⟨request, id⟩ →
      (∀ image : I.Answer renamed → Proc I ε α,
        (∀ answer, τ.Relates (next answer) (image (change answer))) →
          τ.Relates (.await request next) (.await renamed image)) →
      τ.Relates (.await request next) (.await request next') := by
    intro renamed change same built
    cases same
    exact built next' rest
  exact general (τ.request request) (τ.answer request) fixed fun image => .await

/-- A process translates into itself when all its requests are fixed. -/
theorem Relates.refl {process : Proc I ε α}
    (along : process.Along fun request _ => τ.Fixes request) : τ.Relates process process := by
  induction process with
  | done result => exact .done result
  | await request rest ih => exact .await_fixed along.1 fun answer => ih answer (along.2 answer)

theorem Relates.bind {process process' : Proc I ε α} {next next' : α → Proc I ε β}
    (first : τ.Relates process process') (second : ∀ value, τ.Relates (next value) (next' value)) :
    τ.Relates (process >>= next) (process' >>= next') := by
  induction first with
  | done result =>
    cases result with
    | ok value => exact second value
    | error error => exact .done _
  | await _ ih => exact .await ih

/-! ## Pools -/

/-- The second pool is where the first one is, under the translation. -/
structure Mirrors (τ : Translation I σ) (rename : κ → κ) (pool mirror : Pool I ε α κ σ) :
    Prop where
  shared : mirror.shared = τ.state pool.shared
  threads : List.Forall₂ (fun thread image => image.call = rename thread.call ∧
    τ.Relates thread.rest image.rest) pool.threads mirror.threads

/-- The renamed turn. -/
def turn (rename : κ → κ) : Turn κ → Turn κ
  | .start call => .start (rename call)
  | .advance index => .advance index

variable {rename : κ → κ} {program : κ → Proc I ε α} {handle : Nat → κ → Handler I σ}
  {pool mirror after : Pool I ε α κ σ}

theorem forall₂_set {A B : Type} {related : A → B → Prop} {left : List A} {right : List B}
    (all : List.Forall₂ related left right) (index : Nat) (first : A) (second : B)
    (same : related first second) :
    List.Forall₂ related (left.set index first) (right.set index second) := by
  induction all generalizing index with
  | nil => exact .nil
  | cons head tail ih =>
    cases index with
    | zero => exact .cons same tail
    | succ index => exact .cons head (ih index)

theorem forall₂_getElem? {A B : Type} {related : A → B → Prop} {left : List A} {right : List B}
    (all : List.Forall₂ related left right) {index : Nat} {first : A}
    (found : left[index]? = some first) :
    ∃ second, right[index]? = some second ∧ related first second := by
  induction all generalizing index with
  | nil => cases found
  | cons head tail ih =>
    cases index with
    | zero =>
      cases found
      exact ⟨_, rfl, head⟩
    | succ index => exact ih found

/-- A turn of a pool is matched by the renamed turn of its mirror. -/
theorem Mirrors.turn (mirrors : Mirrors τ rename pool mirror)
    (commutes : ∀ index call, τ.Commutes (handle index call))
    (renamed : ∀ index call, handle index (rename call) = handle index call)
    (translates : ∀ call, τ.Relates (program call) (program (rename call))) {label : Turn κ}
    (moved : Pool.turn program handle pool label = some after) :
    ∃ image, Pool.turn program handle mirror (Translation.turn rename label) = some image ∧
      Mirrors τ rename after image := by
  cases label with
  | start call =>
    cases moved
    refine ⟨_, rfl, mirrors.shared, ?_⟩
    exact List.rel_append mirrors.threads (.cons ⟨rfl, translates call⟩ .nil)
  | advance index =>
    obtain ⟨call, request, next, answer, shared, found, answered, rfl⟩ :=
      Pool.advance_eq_some moved
    obtain ⟨⟨call', rest'⟩, found', named, related⟩ := forall₂_getElem? mirrors.threads found
    cases named
    cases related with
    | @await _ _ image rest =>
      have echoed := commutes index call request answer pool.shared shared answered
      rw [← renamed index call, ← mirrors.shared] at echoed
      have threads := forall₂_set mirrors.threads index ⟨call, next answer⟩
        ⟨rename call, image (τ.answer request answer)⟩ ⟨rfl, rest answer⟩
      refine ⟨⟨τ.state shared, mirror.threads.set index
          ⟨rename call, image (τ.answer request answer)⟩,
        ⟨index, rename call, τ.request request, τ.answer request answer⟩ :: mirror.history⟩,
        ?_, rfl, threads⟩
      simp only [Translation.turn, Pool.turn, Pool.advance, found', echoed]

/-- A run of a pool is matched by the renamed run of its mirror. -/
theorem Mirrors.follow (commutes : ∀ index call, τ.Commutes (handle index call))
    (renamed : ∀ index call, handle index (rename call) = handle index call)
    (translates : ∀ call, τ.Relates (program call) (program (rename call)))
    {turns : List (Turn κ)} (mirrors : Mirrors τ rename pool mirror)
    (followed : System.follow (fun _ _ => true) (Pool.turn program handle) pool turns = some after) :
    ∃ image, System.follow (fun _ _ => true) (Pool.turn program handle) mirror
        (turns.map (Translation.turn rename)) = some image ∧ Mirrors τ rename after image := by
  induction turns generalizing pool mirror with
  | nil =>
    cases followed
    exact ⟨mirror, rfl, mirrors⟩
  | cons label turns ih =>
    obtain ⟨middle, moved, rest⟩ := Option.bind_eq_some_iff.mp followed
    obtain ⟨image, moved', mirrors'⟩ := mirrors.turn commutes renamed translates moved
    obtain ⟨last, followed', mirrored⟩ := ih mirrors' rest
    refine ⟨last, ?_, mirrored⟩
    exact Option.bind_eq_some_iff.mpr ⟨image, moved', followed'⟩

end Translation

end Foundation
