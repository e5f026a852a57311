import Vortex.Foundation.Pool

/-!
# Processes under interference

A process that shares its state with others can only use what they never undo.
`grows` relates a state to those the others may leave behind; a process is secure
when, whatever happens between its requests, each of its own requests keeps the
state valid and growing, and it ends with a good result. In a pool whose programs
are all secure the states are valid, grow along every run, and every process that
has finished has a result that is good from then on.
-/

namespace Foundation

namespace Proc

variable {I : Interface} {ε α σ : Type}

/-- Secure from a state on, under interference that keeps states valid and growing. -/
def Secure (handle : Handler I σ) (valid : σ → Prop) (grows : σ → σ → Prop)
    (good : σ → Except ε α → Prop) : Proc I ε α → σ → Prop
  | .done result, state => good state result
  | .await request rest, state =>
      ∀ current answer after, grows state current → valid current →
        handle request current = some (answer, after) →
        valid after ∧ grows current after ∧ (rest answer).Secure handle valid grows good after

theorem Secure.mono {handle : Handler I σ} {valid : σ → Prop} {grows : σ → σ → Prop}
    {good : σ → Except ε α → Prop}
    (trans : ∀ first second third, grows first second → grows second third → grows first third)
    (stable : ∀ state later result, grows state later → good state result → good later result)
    {process : Proc I ε α} {state later : σ} (secure : process.Secure handle valid grows good state)
    (growth : grows state later) : process.Secure handle valid grows good later := by
  cases process with
  | done result => exact stable state later result growth secure
  | await request rest =>
    intro current answer after further kept answered
    exact secure current answer after (trans _ _ _ growth further) kept answered

end Proc

namespace Pool

variable {I : Interface} {ε α κ σ : Type} {initial : σ → Prop} {program : κ → Proc I ε α}
  {handle : Nat → κ → Handler I σ} {guard : Pool I ε α κ σ → Turn κ → Prop}

/-- A pool in which every process is secure from the present state on. -/
structure Secure (handle : Nat → κ → Handler I σ) (valid : σ → Prop) (grows : σ → σ → Prop)
    (good : κ → σ → Except ε α → Prop) (pool : Pool I ε α κ σ) : Prop where
  kept : valid pool.shared
  threads : ∀ (index : Nat) (thread : Thread I ε α κ), pool.threads[index]? = some thread →
    thread.rest.Secure (handle index thread.call) valid grows (good thread.call) pool.shared

section

variable {valid : σ → Prop} {grows : σ → σ → Prop} {good : κ → σ → Except ε α → Prop}

/-- One step of a secure pool lets the state grow. -/
theorem Secure.step_grows {before after : Pool I ε α κ σ} {label : Turn κ}
    (secure : before.Secure handle valid grows good) (refl : ∀ state, grows state state)
    (moved : (system initial program handle).step before label after) :
    grows before.shared after.shared := by
  obtain ⟨call, -, rfl⟩ | ⟨index, call, request, next, answer, shared, -, found, answered, rfl⟩ :=
    step_cases moved
  · exact refl _
  · exact (secure.threads index _ found _ _ _ (refl _) secure.kept answered).2.1

/-- The programs of the admitted calls are secure from every valid state, so every
reachable pool is secure. -/
theorem secure_of_reachable (start : ∀ shared, initial shared → valid shared)
    (refl : ∀ state, grows state state)
    (trans : ∀ first second third, grows first second → grows second third → grows first third)
    (stable : ∀ call state later result, grows state later → good call state result →
      good call later result)
    (admits : ∀ pool call index, guard pool (.start call) → valid pool.shared →
      (program call).Secure (handle index call) valid grows (good call) pool.shared)
    {pool : Pool I ε α κ σ} (reached : (system initial program handle).Reachable guard pool) :
    pool.Secure handle valid grows good := by
  refine reached.invariant ?_ ?_
  · rintro _ ⟨shared, initial, rfl⟩
    exact ⟨start shared initial, fun index thread found => nomatch found⟩
  · intro before label after _ secure admitted moved
    have growth := secure.step_grows refl moved
    obtain ⟨call, rfl, rfl⟩ | ⟨index, call, request, next, answer, shared, -, found, answered,
      rfl⟩ := step_cases moved
    · refine ⟨secure.kept, fun index thread lookup => ?_⟩
      rcases getElem?_append_cases lookup with ⟨-, rfl⟩ | earlier
      · exact admits before call index admitted secure.kept
      · exact secure.threads index thread earlier
    · obtain ⟨kept, -, rest⟩ := secure.threads index _ found _ _ _ (refl _) secure.kept answered
      refine ⟨kept, fun other thread lookup => ?_⟩
      rcases getElem?_set_cases lookup with ⟨rfl, rfl⟩ | ⟨-, earlier⟩
      · exact rest
      · exact (secure.threads other thread earlier).mono trans (stable thread.call) growth

end

end Pool

end Foundation
