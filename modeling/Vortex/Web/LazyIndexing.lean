import Vortex.Foundation.Paging
import Vortex.Foundation.System
import Vortex.Web.LocalIndex

/-!
# Indexing the history of a channel

`useLocalSearch` reads the history of a channel in the background, page by page from the newest
message down, and adds it to the index. A run of a channel is replaced by the next one, and may be
aborted whenever it waits for a page or for its pause. It stops after at most one page for each
message. What is left out are messages of one time that do not fit on a page, and, once the channel
is full, newer messages that have to make room for older ones.
-/

namespace Vortex.Web

open Foundation

inductive LazyPhase
  | loading
  | pausing
  | done
  deriving DecidableEq

/-- A background run, with the signal of its controller and the number of its calls of the
loader. -/
structure LazyRun where
  channelId : JsString
  before : Option JsString
  phase : LazyPhase
  aborted : Bool
  calls : Nat

/-- The hook over the index, with `lazyAbortRefs`. A controller has the number of its run. -/
structure LazyHook where
  index : LocalSearchIndex
  controllers : JsMap JsString Nat
  runs : Nat → Option LazyRun
  started : Nat

/-- What can happen. The index may also be used in other ways at any time. -/
inductive LazyEvent
  | startsLazyIndexing (channelId : JsString)
  | stopsLazyIndexing (channelId : JsString)
  | clearsChannel (channelId : JsString)
  | clearsAll
  | unmounts
  | loads (run : Nat) (batch : List IndexedDocument)
  | fails (run : Nat)
  | wakes (run : Nat)
  | indexes (operation : IndexOperation)

/-- The run that takes the step. -/
def LazyEvent.actor? : LazyEvent → Option Nat
  | .loads n _ | .fails n | .wakes n => some n
  | _ => none

/-- The cursor after a batch, the least `createdAt`. -/
def earliest (batch : List IndexedDocument) : Option JsString :=
  batch.foldl (fun least doc => match least with
    | none => some doc.createdAt
    | some time =>
        if doc.createdAt.codeUnits < time.codeUnits then some doc.createdAt else some time) none

namespace LazyRun

def abort (run : LazyRun) : LazyRun := { run with aborted := true }

end LazyRun

namespace LazyHook

def empty : LazyHook := ⟨.empty, .empty, fun _ => none, 0⟩

/-- The controller of a channel, if it has one, is aborted. -/
def abortChannel (hook : LazyHook) (channelId : JsString) : LazyHook :=
  match hook.controllers.get? channelId with
  | none => hook
  | some n => { hook with runs := Function.update hook.runs n ((hook.runs n).map LazyRun.abort) }

def abortAll (hook : LazyHook) : LazyHook where
  index := hook.index
  controllers := hook.controllers
  runs := fun n =>
    if hook.controllers.entries.any fun entry => entry.2 = n then (hook.runs n).map LazyRun.abort
    else hook.runs n
  started := hook.started

def setIndex (hook : LazyHook) (index : LocalSearchIndex) : LazyHook := { hook with index := index }

def setRun (hook : LazyHook) (n : Nat) (run : LazyRun) : LazyHook :=
  { hook with runs := Function.update hook.runs n (some run) }

def dropController (hook : LazyHook) (channelId : JsString) : LazyHook :=
  { hook with controllers := hook.controllers.delete channelId }

/-- The end of a run, after its loop. -/
def finish (hook : LazyHook) (n : Nat) (run : LazyRun) : LazyHook :=
  let hook := if run.aborted then hook else hook.dropController run.channelId
  hook.setRun n { run with phase := .done }

variable (unicode : Unicode)

/-- The loop of a run goes on with a batch. -/
def goOn (hook : LazyHook) (n : Nat) (run : LazyRun) (batch : List IndexedDocument) : LazyHook :=
  if run.aborted then hook.finish n run
  else if batch.isEmpty then hook.finish n run
  else
    let hook := hook.setIndex (hook.index.addDocuments unicode batch)
    let earliest := earliest batch
    if earliest.isSome && earliest = run.before then hook.finish n run
    else hook.setRun n { run with before := earliest, phase := .pausing }

def next (hook : LazyHook) : LazyEvent → Option LazyHook
  | .startsLazyIndexing channelId =>
      let n := hook.started
      let hook := hook.abortChannel channelId
      let hook := { hook with controllers := hook.controllers.set channelId n, started := n + 1 }
      some (hook.setRun n ⟨channelId, none, .loading, false, 1⟩)
  | .stopsLazyIndexing channelId =>
      some ((hook.abortChannel channelId).dropController channelId)
  | .clearsChannel channelId =>
      let hook := (hook.abortChannel channelId).dropController channelId
      some (hook.setIndex (hook.index.clearChannel unicode channelId))
  | .clearsAll =>
      some { hook.abortAll with controllers := .empty, index := LocalSearchIndex.clearAll }
  | .unmounts => some hook.abortAll
  | .loads n batch =>
      (hook.runs n).bind fun run =>
        if run.phase = .loading then some (hook.goOn unicode n run batch) else none
  | .fails n =>
      (hook.runs n).bind fun run => if run.phase = .loading then some (hook.finish n run) else none
  | .wakes n =>
      (hook.runs n).bind fun run =>
        if run.phase = .pausing then
          if run.aborted then some (hook.finish n run)
          else some (hook.setRun n { run with phase := .loading, calls := run.calls + 1 })
        else none
  | .indexes operation => some (hook.setIndex (operation.apply unicode hook.index))

end LazyHook

/-- The hook in use, from an empty index on. -/
def lazySystem (unicode : Unicode) : System LazyHook LazyEvent :=
  .ofNext (· = LazyHook.empty) (LazyHook.next unicode)

namespace LazyHook

variable {unicode : Unicode} {hook before after : LazyHook} {n m : Nat} {run : LazyRun}
  {channelId name : JsString} {event : LazyEvent}

/-! ## What a step does to the runs and their controllers -/

theorem runs_abortChannel : (hook.abortChannel channelId).runs m =
    if hook.controllers.get? channelId = some m then (hook.runs m).map LazyRun.abort
    else hook.runs m := by
  rw [abortChannel]
  split
  · rename_i none
    rw [none, if_neg (by simp)]
  · rename_i n found
    rw [found]
    by_cases same : m = n
    · subst same
      simp
    · simp [same, Ne.symm same]

theorem abortChannel_index : (hook.abortChannel channelId).index = hook.index := by
  rw [abortChannel]
  split <;> rfl

theorem abortChannel_controllers :
    (hook.abortChannel channelId).controllers = hook.controllers := by
  rw [abortChannel]
  split <;> rfl

theorem abortChannel_started : (hook.abortChannel channelId).started = hook.started := by
  rw [abortChannel]
  split <;> rfl

@[simp] theorem controllers_setIndex (index : LocalSearchIndex) :
    (hook.setIndex index).controllers = hook.controllers := rfl

@[simp] theorem controllers_setRun : (hook.setRun n run).controllers = hook.controllers := rfl

theorem runs_setRun_self : (hook.setRun n run).runs n = some run := Function.update_self ..

theorem runs_setRun_of_ne (different : m ≠ n) : (hook.setRun n run).runs m = hook.runs m :=
  Function.update_of_ne different ..

theorem runs_finish_self : (hook.finish n run).runs n = some { run with phase := .done } :=
  runs_setRun_self

theorem runs_finish_of_ne (different : m ≠ n) : (hook.finish n run).runs m = hook.runs m := by
  rw [finish]
  rw [runs_setRun_of_ne different]
  split <;> rfl

theorem index_finish : (hook.finish n run).index = hook.index := by
  rw [finish]
  split <;> rfl

theorem started_finish : (hook.finish n run).started = hook.started := by
  rw [finish]
  split <;> rfl

theorem controllers_finish : (hook.finish n run).controllers =
    if run.aborted then hook.controllers else hook.controllers.delete run.channelId := by
  rw [finish]
  split <;> rfl

/-- The steps of a run that has not ended. -/
inductive OwnStep (unicode : Unicode) (before : LazyHook) (n : Nat) (run : LazyRun) :
    LazyEvent → LazyHook → Prop
  | ends {event : LazyEvent} (why : run.aborted = true ∨ event = .loads n [] ∨ event = .fails n) :
      OwnStep unicode before n run event (before.finish n run)
  | halts {batch : List IndexedDocument} (live : run.aborted = false)
      (loading : run.phase = .loading) (nonempty : batch ≠ []) (same : earliest batch = run.before) :
      OwnStep unicode before n run (.loads n batch)
        ((before.setIndex (before.index.addDocuments unicode batch)).finish n run)
  | reads {batch : List IndexedDocument} (live : run.aborted = false)
      (loading : run.phase = .loading) (nonempty : batch ≠ []) :
      OwnStep unicode before n run (.loads n batch)
        ((before.setIndex (before.index.addDocuments unicode batch)).setRun n
          { run with before := earliest batch, phase := .pausing })
  | resumes (live : run.aborted = false) (paused : run.phase = .pausing) :
      OwnStep unicode before n run (.wakes n)
        (before.setRun n { run with phase := .loading, calls := run.calls + 1 })

theorem ownStep (moved : before.next unicode event = some after) (actor : event.actor? = some n) :
    ∃ run, before.runs n = some run ∧ run.phase ≠ .done ∧
      OwnStep unicode before n run event after := by
  cases event with
  | loads m batch =>
    cases actor
    obtain ⟨run, ran, moved⟩ := Option.bind_eq_some_iff.mp moved
    split at moved
    · rename_i loading
      cases moved
      refine ⟨run, ran, by rw [loading]; exact LazyPhase.noConfusion, ?_⟩
      rw [goOn]
      split
      · rename_i aborted
        exact .ends (.inl aborted)
      · rename_i live
        cases batch with
        | nil => exact .ends (.inr (.inl rfl))
        | cons doc docs =>
          rw [List.isEmpty_cons, if_neg Bool.false_ne_true]
          dsimp only
          split
          · rename_i same
            rw [Bool.and_eq_true, decide_eq_true_eq] at same
            exact .halts (Bool.eq_false_iff.mpr live) loading (List.cons_ne_nil _ _) same.2
          · exact .reads (Bool.eq_false_iff.mpr live) loading (List.cons_ne_nil _ _)
    · cases moved
  | fails m =>
    cases actor
    obtain ⟨run, ran, moved⟩ := Option.bind_eq_some_iff.mp moved
    split at moved
    · rename_i loading
      cases moved
      exact ⟨run, ran, by rw [loading]; exact LazyPhase.noConfusion, .ends (.inr (.inr rfl))⟩
    · cases moved
  | wakes m =>
    cases actor
    obtain ⟨run, ran, moved⟩ := Option.bind_eq_some_iff.mp moved
    split at moved
    · rename_i pausing
      refine ⟨run, ran, by rw [pausing]; exact LazyPhase.noConfusion, ?_⟩
      split at moved
      · rename_i aborted
        cases moved
        exact .ends (.inl aborted)
      · rename_i live
        cases moved
        exact .resumes (Bool.eq_false_iff.mpr live) pausing
    · cases moved
  | startsLazyIndexing channelId => cases actor
  | stopsLazyIndexing channelId => cases actor
  | clearsChannel channelId => cases actor
  | clearsAll => cases actor
  | unmounts => cases actor
  | indexes operation => cases actor

theorem OwnStep.runs_of_ne (step : OwnStep unicode before n run event after) (different : m ≠ n) :
    after.runs m = before.runs m := by
  cases step with
  | ends => exact runs_finish_of_ne different
  | halts => exact runs_finish_of_ne different
  | reads => exact runs_setRun_of_ne different
  | resumes => exact runs_setRun_of_ne different

/-- What becomes of a run by what is not a step of it: nothing, or it is aborted. -/
theorem runs_next (moved : before.next unicode event = some after) (foreign : event.actor? ≠ some m)
    (old : m < before.started) :
    after.runs m = before.runs m ∨ after.runs m = (before.runs m).map LazyRun.abort := by
  have aborted : ∀ channelId, (before.abortChannel channelId).runs m = before.runs m ∨
      (before.abortChannel channelId).runs m = (before.runs m).map LazyRun.abort := by
    intro channelId
    rw [runs_abortChannel]
    split
    · exact .inr rfl
    · exact .inl rfl
  have abortedAll : before.abortAll.runs m = before.runs m ∨
      before.abortAll.runs m = (before.runs m).map LazyRun.abort := by
    rw [abortAll]
    dsimp only
    split
    · exact .inr rfl
    · exact .inl rfl
  have other : ∀ n, event.actor? = some n → after.runs m = before.runs m := by
    intro n actor
    obtain ⟨run, _, _, step⟩ := ownStep moved actor
    exact step.runs_of_ne fun same => foreign (actor.trans (congrArg some same.symm))
  cases event with
  | startsLazyIndexing channelId =>
    cases moved
    rw [runs_setRun_of_ne old.ne]
    exact aborted channelId
  | stopsLazyIndexing channelId =>
    cases moved
    exact aborted channelId
  | clearsChannel channelId =>
    cases moved
    exact aborted channelId
  | clearsAll =>
    cases moved
    exact abortedAll
  | unmounts =>
    cases moved
    exact abortedAll
  | loads n batch => exact .inl (other n rfl)
  | fails n => exact .inl (other n rfl)
  | wakes n => exact .inl (other n rfl)
  | indexes operation =>
    cases moved
    exact .inl rfl

/-! ## Runs own their controllers -/

/-- A run that has not ended and is not aborted has its controller in place. -/
structure Owned (hook : LazyHook) : Prop where
  known : ∀ n, hook.started ≤ n → hook.runs n = none
  owned : ∀ n run, hook.runs n = some run → run.phase ≠ .done → run.aborted = false →
    hook.controllers.get? run.channelId = some n

theorem Owned.lt_started (owned : Owned hook) (ran : hook.runs n = some run) :
    n < hook.started := by
  refine not_le.mp fun late => ?_
  rw [owned.known n late] at ran
  cases ran

theorem owned_empty : Owned empty where
  known _ _ := rfl
  owned _ _ ran := by cases ran

section

variable (owned : Owned hook)

include owned

/-- What is left of the runs when the controller of a channel is aborted. -/
theorem Owned.abortChannel
    (ran : (hook.abortChannel channelId).runs n = some run)
    (underway : run.phase ≠ .done) (live : run.aborted = false) :
    run.channelId ≠ channelId ∧ hook.controllers.get? run.channelId = some n := by
  rw [runs_abortChannel] at ran
  split at ran
  · obtain ⟨old, _, rfl⟩ := Option.map_eq_some_iff.mp ran
    cases live
  · rename_i other
    have held := owned.owned n run ran underway live
    exact ⟨fun same => other (same ▸ held), held⟩

theorem Owned.abortAll (ran : hook.abortAll.runs n = some run)
    (underway : run.phase ≠ .done) : run.aborted = true := by
  rw [LazyHook.abortAll] at ran
  dsimp only at ran
  split at ran
  · obtain ⟨old, _, rfl⟩ := Option.map_eq_some_iff.mp ran
    rfl
  · rename_i foreign
    by_contra live
    have held := owned.owned n run ran underway (Bool.eq_false_iff.mpr live)
    refine foreign (List.any_eq_true.mpr ⟨(run.channelId, n), JsMap.mem_entries.mpr held, ?_⟩)
    exact decide_eq_true rfl

theorem Owned.finish (ran : hook.runs n = some run)
    (underway : run.phase ≠ .done) : Owned (hook.finish n run) where
  known m late := by
    rw [started_finish] at late
    rw [runs_finish_of_ne ((owned.lt_started ran).trans_le late).ne', owned.known m late]
  owned m other there going live := by
    by_cases same : m = n
    · subst same
      rw [runs_finish_self] at there
      cases there
      exact absurd rfl going
    · rw [runs_finish_of_ne same] at there
      have held := owned.owned m other there going live
      rw [controllers_finish]
      split
      · exact held
      · rename_i live
        have own := owned.owned n run ran underway (Bool.eq_false_iff.mpr live)
        rw [JsMap.get?_delete_of_ne]
        · exact held
        · intro channel
          rw [channel, own] at held
          exact same (Option.some.inj held).symm

/-- A live run goes on. -/
theorem Owned.setRun (ran : hook.runs n = some run)
    (underway : run.phase ≠ .done) (live : run.aborted = false) {next : LazyRun}
    (channel : next.channelId = run.channelId) : Owned (hook.setRun n next) where
  known m late := by
    rw [runs_setRun_of_ne ((owned.lt_started ran).trans_le late).ne', owned.known m late]
  owned m other there going unaborted := by
    by_cases same : m = n
    · subst same
      rw [runs_setRun_self] at there
      cases there
      rw [channel]
      exact owned.owned m run ran underway live
    · rw [runs_setRun_of_ne same] at there
      exact owned.owned m other there going unaborted

theorem Owned.setIndex (index : LocalSearchIndex) : Owned (hook.setIndex index) :=
  ⟨owned.known, owned.owned⟩

end

theorem Owned.ownStep (owned : Owned before) (ran : before.runs n = some run)
    (underway : run.phase ≠ .done) (step : OwnStep unicode before n run event after) :
    Owned after := by
  cases step with
  | ends => exact owned.finish ran underway
  | halts => exact (owned.setIndex _).finish ran underway
  | @reads batch live =>
    have kept := owned.setIndex (before.index.addDocuments unicode batch)
    refine kept.setRun ran underway live ?_
    rfl
  | resumes live =>
    refine owned.setRun ran underway live ?_
    rfl

theorem known_of_runs (owned : Owned before) (started : after.started = before.started)
    (runs : ∀ m, before.runs m = none → after.runs m = none) :
    ∀ m, after.started ≤ m → after.runs m = none := by
  intro m late
  rw [started] at late
  exact runs m (owned.known m late)

theorem runs_abortChannel_of_none (absent : hook.runs m = none) :
    (hook.abortChannel channelId).runs m = none := by
  rw [runs_abortChannel, absent, Option.map_none, ite_self]

theorem runs_abortAll_of_none (absent : hook.runs m = none) : hook.abortAll.runs m = none := by
  rw [abortAll]
  dsimp only
  rw [absent, Option.map_none, ite_self]

/-- The controller of a channel is aborted and taken away. -/
theorem Owned.dropController (owned : Owned hook) (index : LocalSearchIndex) :
    Owned (((hook.abortChannel channelId).dropController channelId).setIndex index) where
  known := known_of_runs owned abortChannel_started fun _ => runs_abortChannel_of_none
  owned m run there going live := by
    obtain ⟨other, held⟩ := owned.abortChannel there going live
    rw [controllers_setIndex, LazyHook.dropController]
    dsimp only
    rw [abortChannel_controllers, JsMap.get?_delete_of_ne other, held]

theorem Owned.abortEverything (owned : Owned hook) (index : LocalSearchIndex)
    (controllers : JsMap JsString Nat) :
    Owned { hook.abortAll with index := index, controllers := controllers } where
  known := known_of_runs owned rfl fun _ => runs_abortAll_of_none
  owned m run there going live := by
    have aborted := owned.abortAll there going
    rw [live] at aborted
    cases aborted

theorem Owned.next (owned : Owned before) (moved : before.next unicode event = some after) :
    Owned after := by
  have own : ∀ n, event.actor? = some n → Owned after := by
    intro n actor
    obtain ⟨run, ran, underway, step⟩ := LazyHook.ownStep moved actor
    exact owned.ownStep ran underway step
  cases event with
  | startsLazyIndexing channelId =>
    cases moved
    constructor
    · intro m late
      have later : before.started + 1 ≤ m := late
      rw [runs_setRun_of_ne (Nat.lt_of_succ_le later).ne']
      exact runs_abortChannel_of_none (owned.known m (Nat.le_of_succ_le later))
    · intro m run there going live
      by_cases same : m = before.started
      · subst same
        rw [runs_setRun_self] at there
        cases there
        exact JsMap.get?_set_self
      · rw [runs_setRun_of_ne same] at there
        obtain ⟨other, held⟩ := owned.abortChannel there going live
        rw [controllers_setRun]
        dsimp only
        rw [abortChannel_controllers, JsMap.get?_set_of_ne other, held]
  | stopsLazyIndexing channelId =>
    cases moved
    exact owned.dropController ((before.abortChannel channelId).dropController channelId).index
  | clearsChannel channelId =>
    cases moved
    exact owned.dropController _
  | clearsAll =>
    cases moved
    exact owned.abortEverything _ _
  | unmounts =>
    cases moved
    exact owned.abortEverything before.index before.controllers
  | loads n batch => exact own n rfl
  | fails n => exact own n rfl
  | wakes n => exact own n rfl
  | indexes operation =>
    cases moved
    exact owned.setIndex _

/-- What is not yet started begins with its first call of the loader, if at all. -/
theorem Owned.runs_new (owned : Owned before) (moved : before.next unicode event = some after)
    (late : before.started ≤ m) : after.runs m = none ∨
      ∃ channelId, after.runs m = some ⟨channelId, none, .loading, false, 1⟩ := by
  have absent := owned.known m late
  have other : ∀ n, event.actor? = some n → after.runs m = none := by
    intro n actor
    obtain ⟨run, ran, _, step⟩ := LazyHook.ownStep moved actor
    rw [step.runs_of_ne ((owned.lt_started ran).trans_le late).ne', absent]
  cases event with
  | startsLazyIndexing channelId =>
    cases moved
    by_cases same : m = before.started
    · subst same
      exact .inr ⟨channelId, runs_setRun_self⟩
    · rw [runs_setRun_of_ne same]
      exact .inl (runs_abortChannel_of_none absent)
  | stopsLazyIndexing channelId =>
    cases moved
    exact .inl (runs_abortChannel_of_none absent)
  | clearsChannel channelId =>
    cases moved
    exact .inl (runs_abortChannel_of_none absent)
  | clearsAll =>
    cases moved
    exact .inl (runs_abortAll_of_none absent)
  | unmounts =>
    cases moved
    exact .inl (runs_abortAll_of_none absent)
  | loads n batch => exact .inl (other n rfl)
  | fails n => exact .inl (other n rfl)
  | wakes n => exact .inl (other n rfl)
  | indexes operation =>
    cases moved
    exact .inl absent

theorem owned_of_reachable {guard : LazyHook → LazyEvent → Prop}
    (reached : (lazySystem unicode).Reachable guard hook) : Owned hook := by
  refine reached.invariant ?_ ?_
  · rintro _ rfl
    exact owned_empty
  · exact fun _ _ _ _ owned _ moved => owned.next moved

/-! ## Runs that are aborted or replaced -/

/-- A run that is aborted, or whose controller is not in place, does nothing to the index and to the
controllers, and no run does anything to the controller of another one. Once aborted a run remains so. -/
structure Quiet (unicode : Unicode) (hook : LazyHook) : Prop where
  silent : ∀ n run event after, hook.runs n = some run → event.actor? = some n →
    hook.next unicode event = some after →
    run.aborted = true ∨ hook.controllers.get? run.channelId ≠ some n →
    after.index = hook.index ∧ after.controllers = hook.controllers
  foreign : ∀ n event after channelId m, event.actor? = some n →
    hook.next unicode event = some after → m ≠ n → hook.controllers.get? channelId = some m →
    after.controllers.get? channelId = some m
  final : ∀ n run event after, hook.runs n = some run → run.aborted = true →
    hook.next unicode event = some after → ∃ later, after.runs n = some later ∧ later.aborted = true

theorem OwnStep.silent (step : OwnStep unicode before n run event after)
    (aborted : run.aborted = true) : after = before.finish n run := by
  have dead : run.aborted ≠ false := by
    rw [aborted]
    exact Bool.noConfusion
  cases step with
  | ends => rfl
  | halts live => exact absurd live dead
  | reads live => exact absurd live dead
  | resumes live => exact absurd live dead

theorem OwnStep.controllers (step : OwnStep unicode before n run event after) :
    after.controllers = before.controllers ∨
      run.aborted = false ∧ after.controllers = before.controllers.delete run.channelId := by
  have ended : ∀ index, ((before.setIndex index).finish n run).controllers = before.controllers ∨
      run.aborted = false ∧
        ((before.setIndex index).finish n run).controllers = before.controllers.delete run.channelId := by
    intro index
    rw [controllers_finish]
    cases run.aborted with
    | true => exact .inl rfl
    | false => exact .inr ⟨rfl, rfl⟩
  cases step with
  | ends => exact ended before.index
  | halts => exact ended _
  | reads => exact .inl rfl
  | resumes => exact .inl rfl

theorem Owned.quiet (owned : Owned hook) : Quiet unicode hook where
  silent n run event after ran actor moved replaced := by
    obtain ⟨found, there, underway, step⟩ := LazyHook.ownStep moved actor
    rw [ran] at there
    cases there
    have aborted : run.aborted = true := by
      rcases replaced with aborted | missing
      · exact aborted
      · by_contra live
        exact missing (owned.owned n run ran underway (Bool.eq_false_iff.mpr live))
    rw [step.silent aborted, index_finish, controllers_finish, if_pos aborted]
    exact ⟨rfl, rfl⟩
  foreign n event after channelId m actor moved different held := by
    obtain ⟨run, ran, underway, step⟩ := LazyHook.ownStep moved actor
    rcases step.controllers with same | ⟨live, dropped⟩
    · rw [same, held]
    · have own := owned.owned n run ran underway live
      rw [dropped, JsMap.get?_delete_of_ne, held]
      intro same
      rw [same, own] at held
      exact different (Option.some.inj held).symm
  final n run event after ran aborted moved := by
    by_cases actor : event.actor? = some n
    · obtain ⟨found, there, underway, step⟩ := LazyHook.ownStep moved actor
      rw [ran] at there
      cases there
      rw [step.silent aborted, runs_finish_self]
      exact ⟨_, rfl, aborted⟩
    · rcases runs_next moved actor (owned.lt_started ran) with same | same
      · exact ⟨run, same.trans ran, aborted⟩
      · exact ⟨run.abort, by rw [same, ran]; rfl, rfl⟩

end LazyHook

/-! ## Pages of a history -/

/-- The documents of a history before a cursor. -/
def older (history : List IndexedDocument) (before : Option JsString) : List IndexedDocument :=
  Paging.below (fun doc => doc.createdAt.codeUnits) (before.map JsString.codeUnits) history

theorem mem_older {history : List IndexedDocument} {before : Option JsString}
    {doc : IndexedDocument} :
    doc ∈ older history before ↔
      doc ∈ history ∧ ∀ time ∈ before, doc.createdAt.codeUnits < time.codeUnits := by
  rw [older, Paging.mem_below]
  cases before <;> simp

/-- The newest page of the documents before a cursor, in any order, and with any choice among
documents of one time. -/
structure NewestPage (history : List IndexedDocument) (size : Nat) (before : Option JsString)
    (page : List IndexedDocument) : Prop where
  distinct : page.Nodup
  length : page.length = min size (older history before).length
  within : ∀ doc ∈ page, doc ∈ older history before
  newest : ∀ doc ∈ page, ∀ other ∈ older history before, other ∉ page →
    other.createdAt.codeUnits ≤ doc.createdAt.codeUnits

/-- What a live run loads are the pages of a history. -/
def Pages (history : List IndexedDocument) (size n : Nat) (hook : LazyHook) (event : LazyEvent) :
    Prop :=
  ∀ run, hook.runs n = some run → run.aborted = false →
    (∀ batch, event = .loads n batch → NewestPage history size run.before batch) ∧ event ≠ .fails n

theorem earliest_eq_argmin (batch : List IndexedDocument) :
    earliest batch =
      (batch.argmin fun doc => doc.createdAt.codeUnits).map IndexedDocument.createdAt := by
  induction batch using List.reverseRecOn with
  | nil => rfl
  | append_singleton batch doc ih =>
    rw [List.argmin_concat, earliest, List.foldl_append, ← earliest, ih]
    cases batch.argmin fun doc => doc.createdAt.codeUnits with
    | none => rfl
    | some first =>
      dsimp only
      rw [apply_ite (Option.map IndexedDocument.createdAt)]
      rfl

theorem earliest_spec {batch : List IndexedDocument} (nonempty : batch ≠ []) :
    ∃ first ∈ batch, earliest batch = some first.createdAt ∧
      ∀ doc ∈ batch, first.createdAt.codeUnits ≤ doc.createdAt.codeUnits := by
  rw [earliest_eq_argmin]
  cases found : batch.argmin fun doc => doc.createdAt.codeUnits with
  | none => exact absurd (List.argmin_eq_none.mp found) nonempty
  | some first =>
    have least := fun doc (member : doc ∈ batch) =>
      List.not_lt_of_mem_argmin member (Option.mem_def.mpr found)
    exact ⟨first, List.argmin_mem found, rfl, fun doc member => not_lt.mp (least doc member)⟩

variable {history : List IndexedDocument} {size : Nat} {batch : List IndexedDocument}

/-- Behind a page there is less left than before it. -/
theorem NewestPage.length_older_lt {before : Option JsString}
    (page : NewestPage history size before batch) (nonempty : batch ≠ []) :
    (older history (earliest batch)).length < (older history before).length := by
  obtain ⟨first, listed, found, _⟩ := earliest_spec nonempty
  have member := page.within first listed
  have lower : ∀ upper ∈ before.map JsString.codeUnits, first.createdAt.codeUnits ≤ upper := by
    intro upper named
    obtain ⟨time, same, rfl⟩ := Option.mem_map.mp named
    exact ((mem_older.mp member).2 time same).le
  rw [found, older, Option.map_some, ← Paging.below_below lower]
  refine List.length_filter_lt_length_iff_exists.mpr ⟨first, member, ?_⟩
  simp

/-! ## The calls of the loader -/

/-- What a run has called and may still call. -/
def LazyRun.Counted (history : List IndexedDocument) (run : LazyRun) : Prop :=
  run.calls + (older history run.before).length ≤
    history.length + if run.phase = .pausing then 0 else 1

namespace LazyHook

variable {unicode : Unicode} {hook before after : LazyHook} {n : Nat} {run : LazyRun}
    {event : LazyEvent}

theorem length_older_le (before : Option JsString) :
    (older history before).length ≤ history.length :=
  List.length_filter_le ..

theorem OwnStep.counted (step : OwnStep unicode before n run event after)
    (ran : before.runs n = some run) (pages : Pages history size n before event)
    (counted : run.Counted history) :
    ∃ later, after.runs n = some later ∧ later.Counted history := by
  have ended : LazyRun.Counted history { run with phase := .done } := by
    rw [LazyRun.Counted] at counted ⊢
    refine counted.trans ?_
    split <;> simp
  cases step with
  | ends => exact ⟨_, runs_finish_self, ended⟩
  | halts => exact ⟨_, runs_finish_self, ended⟩
  | reads live _ nonempty =>
    refine ⟨_, runs_setRun_self, ?_⟩
    have less := ((pages run ran live).1 _ rfl).length_older_lt nonempty
    rw [LazyRun.Counted] at counted ⊢
    rw [if_pos rfl]
    dsimp only
    split at counted <;> omega
  | resumes live paused =>
    refine ⟨_, runs_setRun_self, ?_⟩
    rw [LazyRun.Counted, if_pos paused] at counted
    rw [LazyRun.Counted, if_neg LazyPhase.noConfusion]
    dsimp only
    omega

/-- A run calls its loader at most once more than its history has messages. -/
theorem counted_of_reachable (reached : (lazySystem unicode).Reachable (Pages history size n) hook)
    (ran : hook.runs n = some run) : run.Counted history := by
  induction reached generalizing run with
  | initial start =>
    cases start
    cases ran
  | @step before after event reached pages moved counted =>
    have owned := owned_of_reachable reached
    by_cases actor : event.actor? = some n
    · obtain ⟨run, running, _, step⟩ := ownStep moved actor
      obtain ⟨next, same, bounded⟩ := step.counted running pages (counted running)
      rw [ran] at same
      cases same
      exact bounded
    · by_cases old : n < before.started
      · rcases runs_next moved actor old with same | same
        · exact counted (same.symm.trans ran)
        · rw [same] at ran
          obtain ⟨run, running, rfl⟩ := Option.map_eq_some_iff.mp ran
          have bounded : run.Counted history := counted running
          exact bounded
      · rcases owned.runs_new moved (not_lt.mp old) with absent | ⟨channelId, begun⟩
        · rw [absent] at ran
          cases ran
        · rw [begun] at ran
          cases ran
          have all : (older history none).length ≤ history.length := length_older_le none
          rw [LazyRun.Counted, if_neg LazyPhase.noConfusion]
          dsimp only
          omega

end LazyHook

end Vortex.Web
