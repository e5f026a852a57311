import Mathlib.Logic.Relation

/-!
# Guarded transition systems

A system moves between states by labelled steps; the labels carry every choice
of a scheduler and of the environment. A *guard* restricts the steps of a run by
what is known before each of them is taken, so that a property of all runs
(`Foundation.System.unguarded`) and a property of the runs whose steps all meet
a condition are instances of one notion of reachability.
-/

namespace Foundation

universe u v

/-- A labelled transition system with a set of initial states. -/
structure System (State : Type u) (Label : Type v) where
  initial : State → Prop
  step : State → Label → State → Prop

namespace System

variable {State : Type u} {Label : Type v}

/-- The guard that admits every step. -/
def unguarded : State → Label → Prop := fun _ _ => True

variable (system : System State Label) (guard : State → Label → Prop)

/-- The states reached from an initial state by steps that all meet the guard. -/
inductive Reachable : State → Prop
  | initial {state : State} (start : system.initial state) : Reachable state
  | step {before after : State} {label : Label} (reached : Reachable before)
      (admitted : guard before label) (moved : system.step before label after) : Reachable after

/-- The states reached from a given state by steps that all meet the guard. -/
inductive Steps (source : State) : State → Prop
  | refl : Steps source source
  | step {before after : State} {label : Label} (reached : Steps source before)
      (admitted : guard before label) (moved : system.step before label after) :
      Steps source after

variable {system guard}

/-- An inductive invariant holds in every reachable state. Preservation may use
that the state before the step is itself reachable. -/
theorem Reachable.invariant {P : State → Prop} (start : ∀ state, system.initial state → P state)
    (preserved : ∀ before label after, system.Reachable guard before → P before →
      guard before label → system.step before label after → P after)
    {state : State} (reached : system.Reachable guard state) : P state := by
  induction reached with
  | initial initial => exact start _ initial
  | step reached admitted moved ih => exact preserved _ _ _ reached ih admitted moved

/-- A predicate kept by every step is kept by every run. -/
theorem Steps.invariant {P : State → Prop}
    (preserved : ∀ before label after, P before → guard before label →
      system.step before label after → P after)
    {source target : State} (path : system.Steps guard source target)
    (start : P source) : P target := by
  induction path with
  | refl => exact start
  | step _ admitted moved ih => exact preserved _ _ _ ih admitted moved

theorem Steps.trans {first second third : State} (left : system.Steps guard first second)
    (right : system.Steps guard second third) : system.Steps guard first third := by
  induction right with
  | refl => exact left
  | step _ admitted moved ih => exact .step ih admitted moved

theorem Steps.single {before after : State} {label : Label} (admitted : guard before label)
    (moved : system.step before label after) : system.Steps guard before after :=
  .step .refl admitted moved

theorem Reachable.steps {source target : State} (reached : system.Reachable guard source)
    (path : system.Steps guard source target) : system.Reachable guard target := by
  induction path with
  | refl => exact reached
  | step _ admitted moved ih => exact .step ih admitted moved

/-- Every reachable state is reached by a run from an initial state. -/
theorem Reachable.from_initial {state : State} (reached : system.Reachable guard state) :
    ∃ source, system.initial source ∧ system.Steps guard source state := by
  induction reached with
  | initial start => exact ⟨_, start, .refl⟩
  | step _ admitted moved ih =>
    obtain ⟨source, start, path⟩ := ih
    exact ⟨source, start, .step path admitted moved⟩

/-- A guard may be replaced by one that admits at least the steps taken in its runs. -/
theorem Reachable.admit {wider : State → Label → Prop}
    (admits : ∀ state label, system.Reachable guard state → guard state label → wider state label)
    {state : State} (reached : system.Reachable guard state) : system.Reachable wider state := by
  induction reached with
  | initial start => exact .initial start
  | step reached admitted moved ih => exact .step ih (admits _ _ reached admitted) moved

/-! ## Systems that compute their steps -/

/-- The system of a partial step function. -/
def ofNext (initial : State → Prop) (next : State → Label → Option State) :
    System State Label where
  initial := initial
  step before label after := next before label = some after

/-- Follow a list of labels as long as a check admits them. -/
def follow (check : State → Label → Bool) (next : State → Label → Option State) :
    State → List Label → Option State
  | state, [] => some state
  | state, label :: labels =>
      if check state label then (next state label).bind fun after => follow check next after labels
      else none

/-- The check of a run that nothing restricts. -/
def unchecked : State → Label → Bool := fun _ _ => true

/-- A computed run is a run under the guard that was checked. -/
theorem steps_of_follow {initial : State → Prop} {next : State → Label → Option State}
    {check : State → Label → Bool} (sound : ∀ state label, check state label = true →
      guard state label) {source target : State} {labels : List Label}
    (followed : follow check next source labels = some target) :
    (ofNext initial next).Steps guard source target := by
  induction labels generalizing source with
  | nil =>
    cases Option.some.inj followed
    exact .refl
  | cons label labels ih =>
    unfold follow at followed
    split at followed
    · rename_i checked
      obtain ⟨middle, moved, rest⟩ := Option.bind_eq_some_iff.mp followed
      exact (Steps.single (sound source label checked) moved).trans (ih rest)
    · cases followed

theorem unchecked_sound (state : State) (label : Label) (_ : unchecked state label = true) :
    unguarded state label := trivial

theorem reachable_of_follow {initial : State → Prop} {next : State → Label → Option State}
    {check : State → Label → Bool} (sound : ∀ state label, check state label = true →
      guard state label) {source : State} (start : initial source) {labels : List Label}
    (completed : (follow check next source labels).isSome) :
    (ofNext initial next).Reachable guard ((follow check next source labels).get completed) :=
  (Reachable.initial start).steps (steps_of_follow sound (Option.some_get completed).symm)

end System

end Foundation
