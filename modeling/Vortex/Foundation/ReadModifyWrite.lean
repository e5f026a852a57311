import Mathlib.Data.List.Nodup
import Vortex.Foundation.Monitor

/-!
# Read-modify-write updates

Processes update shared records in several requests: one opens an update by
reading the record, a later one saves the new value. The history tells from which
version of a record each saved value was derived. When no process opens an update
while another one is between its read and its save, the versions form a chain:
every saved value was derived from the value it replaces, so no update is lost and
no version is the start of two updates.
-/

variable {index : Nat}

namespace Foundation

/-- Which exchanges open an update of a record, and which requests save one. -/
structure Updating (I : Interface) (κ R : Type) where
  opens : κ → Proc.Exchange I → Option R
  saves : I.Request → Option R
  apart : ∀ {call exchange record}, opens call exchange = some record → saves exchange.1 = none

/-- The records a process has opened and not saved since, and those it has saved. -/
structure Ledger (R : Type) where
  held : R → Prop
  saved : R → Prop

def Ledger.blank (R : Type) : Ledger R := ⟨fun _ => False, fun _ => False⟩

namespace Updating

variable {I : Interface} {ε α κ σ R : Type} (updating : Updating I κ R)

/-- A process may save only a record it holds. -/
def holding (call : κ) : Monitor I (Ledger R) where
  allows ledger request := ∀ record, updating.saves request = some record → ledger.held record
  next ledger exchange :=
    { held := fun record => updating.opens call exchange = some record ∨
        (updating.saves exchange.1 ≠ some record ∧ ledger.held record)
      saved := fun record => updating.saves exchange.1 = some record ∨ ledger.saved record }

/-- A request that neither opens nor saves anything leaves the ledger alone. -/
theorem holding_quiet {call : κ} {request : I.Request} (silent : updating.saves request = none)
    (closed : ∀ answer, updating.opens call ⟨request, answer⟩ = none) (ledger : Ledger R) :
    (updating.holding call).allows ledger request ∧
      ∀ answer, (updating.holding call).next ledger ⟨request, answer⟩ = ledger := by
  refine ⟨fun record saves => ?_, fun answer => ?_⟩
  · rw [silent] at saves
    cases saves
  · simp only [holding, closed answer, silent, reduceCtorEq, false_or, ne_eq, not_false_eq_true,
      true_and]

/-- What a started process has opened and saved. -/
def ledger (call : κ) (history : List (Event I κ)) (index : Nat) : Ledger R :=
  Pool.memory (updating.holding call) (.blank R) history index

/-- A started process holds a record. -/
def Holds (pool : Pool I ε α κ σ) (index : Nat) (record : R) : Prop :=
  ∃ thread, pool.threads[index]? = some thread ∧ thread.InFlight ∧
    (updating.ledger thread.call pool.history index).held record

/-- A process that has opened a record holds it or has saved it. -/
theorem held_or_saved {call : κ} {exchange : Proc.Exchange I} {record : R}
    (opened : updating.opens call exchange = some record) {exchanges : List (Proc.Exchange I)}
    (ledger : Ledger R) (member : exchange ∈ exchanges) :
    ((updating.holding call).remember ledger exchanges).held record ∨
      ((updating.holding call).remember ledger exchanges).saved record := by
  have kept : ∀ (rest : List (Proc.Exchange I)) (ledger : Ledger R),
      ledger.held record ∨ ledger.saved record →
      ((updating.holding call).remember ledger rest).held record ∨
        ((updating.holding call).remember ledger rest).saved record := by
    intro rest
    induction rest with
    | nil => exact fun _ known => known
    | cons next rest ih =>
      intro ledger known
      refine ih _ ?_
      by_cases saves : updating.saves next.1 = some record
      · exact .inr (.inl saves)
      · exact known.imp (fun held => .inr ⟨saves, held⟩) .inr
  induction exchanges generalizing ledger with
  | nil => cases member
  | cons next rest ih =>
    rcases List.mem_cons.mp member with rfl | member
    · exact kept rest _ (.inl (.inl opened))
    · exact ih _ member

/-- What is saved was saved before or by one of the exchanges. -/
theorem saved_traced {call : κ} {record : R} {exchanges : List (Proc.Exchange I)}
    {ledger : Ledger R} (saved : ((updating.holding call).remember ledger exchanges).saved record) :
    ledger.saved record ∨ ∃ exchange ∈ exchanges, updating.saves exchange.1 = some record := by
  induction exchanges generalizing ledger with
  | nil => exact .inl saved
  | cons next rest ih =>
    rcases ih saved with (now | earlier) | ⟨exchange, member, saves⟩
    · exact .inr ⟨next, List.mem_cons_self, now⟩
    · exact .inl earlier
    · exact .inr ⟨exchange, List.mem_cons_of_mem _ member, saves⟩

/-- A process that only saves what it has read for update and not saved since obeys its
ledger. -/
theorem obeys_of_recorder {keep : I.Request → Bool}
    {allows : List (Proc.Exchange I) → I.Request → Prop} {call : κ}
    {post : List (Proc.Exchange I) → Except ε α → Prop}
    (forgotten : ∀ exchange : Proc.Exchange I, keep exchange.1 = false →
      updating.opens call exchange = none ∧ updating.saves exchange.1 = none)
    (justified : ∀ seen request record, allows seen request → updating.saves request = some record →
      (∃ exchange ∈ seen, updating.opens call exchange = some record) ∧
        ∀ exchange ∈ seen, updating.saves exchange.1 ≠ some record)
    {process : Proc I ε α} (obeys : process.Obeys (.recorder keep allows) post []) :
    process.Obeys (updating.holding call) (fun _ _ => True) (.blank R) := by
  refine obeys.simulate (fun seen ledger => ∀ record,
    (∃ exchange ∈ seen, updating.opens call exchange = some record) →
    (∀ exchange ∈ seen, updating.saves exchange.1 ≠ some record) → ledger.held record) ?_ ?_
    (fun _ _ _ _ _ => trivial) ?_
  · intro seen ledger request tracked allowed record saves
    obtain ⟨opened, unsaved⟩ := justified seen request record allowed saves
    exact tracked record opened unsaved
  · intro seen ledger exchange tracked _ record opened unsaved
    simp only [Monitor.recorder] at opened unsaved
    split at opened
    · rename_i kept
      simp only [kept, ↓reduceIte, List.mem_append, List.mem_singleton] at opened unsaved
      obtain ⟨opener, member | rfl, opens⟩ := opened
      · exact .inr ⟨unsaved exchange (.inr rfl),
          tracked record ⟨opener, member, opens⟩ fun other known => unsaved other (.inl known)⟩
      · exact .inl opens
    · rename_i dropped
      obtain ⟨-, silent⟩ := forgotten exchange (Bool.eq_false_iff.mpr dropped)
      rw [if_neg dropped] at unsaved
      refine .inr ⟨?_, tracked record opened unsaved⟩
      rw [silent]
      exact nofun
  · rintro record ⟨exchange, member, -⟩
    cases member

section Versions

variable [DecidableEq R]

/-- How often a record has been saved. -/
def version (record : R) (history : List (Event I κ)) : Nat :=
  history.countP fun event => updating.saves event.request = some record

/-- The version of a record that a process has opened last. -/
def base (record : R) (index : Nat) : List (Event I κ) → Option Nat
  | [] => none
  | event :: earlier =>
      if event.thread = index ∧
          updating.opens event.call ⟨event.request, event.answer⟩ = some record then
        some (updating.version record earlier)
      else base record index earlier

/-- The updates of a record, newest first: who saved it, and from which version. -/
def updates (record : R) : List (Event I κ) → List (Nat × Option Nat)
  | [] => []
  | event :: earlier =>
      if updating.saves event.request = some record then
        (event.thread, updating.base record event.thread earlier) :: updates record earlier
      else updates record earlier

theorem mem_updates {record : R} {event : Event I κ} {history : List (Event I κ)}
    (recorded : event ∈ history) (saved : updating.saves event.request = some record) :
    ∃ version, (event.thread, version) ∈ updating.updates record history := by
  induction history with
  | nil => cases recorded
  | cons newest earlier ih =>
    unfold updates
    rcases List.mem_cons.mp recorded with rfl | recorded
    · rw [if_pos saved]
      exact ⟨_, List.mem_cons_self⟩
    · obtain ⟨version, listed⟩ := ih recorded
      split
      · exact ⟨version, List.mem_cons_of_mem _ listed⟩
      · exact ⟨version, listed⟩

/-- What a process has saved is among the updates. -/
theorem updates_of_saved {call : κ} {record : R} {history : List (Event I κ)}
    (saved : (updating.ledger call history index).saved record) :
    ∃ version, (index, version) ∈ updating.updates record history := by
  rcases updating.saved_traced saved with never | ⟨exchange, member, saves⟩
  · exact never.elim
  · obtain ⟨event, recorded, rfl, rfl⟩ := Pool.mem_exchanges.mp member
    exact updating.mem_updates recorded saves

end Versions

/-- An update is opened only while nobody else holds the record. -/
def Exclusive (handle : Nat → κ → Handler I σ) (pool : Pool I ε α κ σ) : Turn κ → Prop
  | .start _ => True
  | .advance index => ∀ call request next answer shared record,
      pool.threads[index]? = some ⟨call, .await request next⟩ →
      handle index call request pool.shared = some (answer, shared) →
      updating.opens call ⟨request, answer⟩ = some record →
      ∀ other, updating.Holds pool other record → other = index

/-- Operations that do not overlap at all are exclusive. -/
theorem exclusive_of_alone {handle : Nat → κ → Handler I σ} {pool : Pool I ε α κ σ} {turn : Turn κ}
    (alone : pool.Alone turn) : updating.Exclusive handle pool turn := by
  cases turn with
  | start call => trivial
  | advance index =>
    rintro _ _ _ _ _ _ _ _ _ other ⟨thread, found, flying, -⟩
    exact alone other thread found flying

/-- What exclusive updates keep true. Version `n` of a record is its value after `n`
saves. -/
structure Chained [DecidableEq R] (pool : Pool I ε α κ σ) : Prop where
  exclusive : ∀ {first second record}, updating.Holds pool first record →
    updating.Holds pool second record → first = second
  current : ∀ {index record}, updating.Holds pool index record →
    updating.base record index pool.history = some (updating.version record pool.history)
  chain : ∀ record, (updating.updates record pool.history).map Prod.snd =
    (List.range (updating.version record pool.history)).reverse.map some

section Runs

variable {updating} {initial : σ → Prop} {program : κ → Proc I ε α}
  {handle : Nat → κ → Handler I σ} {guard : Pool I ε α κ σ → Turn κ → Prop}

/-- A process that has just been started holds nothing. -/
theorem holds_start {pool : Pool I ε α κ σ}
    (reached : (Pool.system initial program handle).Reachable guard pool) {call : κ} {record : R}
    (holds : updating.Holds (pool.start program call) index record) :
    updating.Holds pool index record := by
  obtain ⟨thread, found, flying, held⟩ := holds
  rcases Pool.getElem?_append_cases found with ⟨rfl, rfl⟩ | earlier
  · have silent := Pool.exchanges_eq_nil reached (List.getElem?_eq_none (Nat.le_refl _))
    change ((updating.holding call).remember _ (Pool.exchanges pool.history
      pool.threads.length)).held record at held
    rw [silent] at held
    exact held.elim
  · exact ⟨thread, earlier, flying, held⟩

section Advancing

variable [DecidableEq R] {pool : Pool I ε α κ σ} {moving : Nat} {call : κ} {request : I.Request}
  {next : I.Answer request → Proc I ε α} {answer : I.Answer request} {shared : σ} {record : R}

section

variable (pending : pool.threads[moving]? = some ⟨call, .await request next⟩)

include pending

/-- After an answer a process holds what the answer opened, and what it held before and
has not saved now. -/
theorem holds_advance
    {index : Nat} (holds : updating.Holds ⟨shared, pool.threads.set moving ⟨call, next answer⟩,
      ⟨moving, call, request, answer⟩ :: pool.history⟩ index record) :
    (index = moving ∧ updating.opens call ⟨request, answer⟩ = some record) ∨
      (updating.Holds pool index record ∧
        (index = moving → updating.opens call ⟨request, answer⟩ ≠ some record ∧
          updating.saves request ≠ some record)) := by
  obtain ⟨thread, found, flying, held⟩ := holds
  rcases Pool.getElem?_set_cases found with ⟨rfl, rfl⟩ | ⟨other, earlier⟩
  · rw [ledger, Pool.memory_cons_self] at held
    by_cases opened : updating.opens call ⟨request, answer⟩ = some record
    · exact .inl ⟨rfl, opened⟩
    · rcases held with now | ⟨unsaved, held⟩
      · exact absurd now opened
      · exact .inr ⟨⟨_, pending, ⟨request, next, rfl⟩, held⟩, fun _ => ⟨opened, unsaved⟩⟩
  · rw [ledger, Pool.memory_cons_other _ _ _ other] at held
    exact .inr ⟨⟨thread, earlier, flying, held⟩, fun same => absurd same other⟩

/-- Nobody but the opener holds a record when it is opened. -/
theorem Chained.open_alone (alone : ∀ record, updating.opens call ⟨request, answer⟩ = some record →
      ∀ other, updating.Holds pool other record → other = moving)
    (chained : updating.Chained pool) {first second : Nat}
    (left : updating.Holds ⟨shared, pool.threads.set moving ⟨call, next answer⟩,
      ⟨moving, call, request, answer⟩ :: pool.history⟩ first record)
    (right : updating.Holds ⟨shared, pool.threads.set moving ⟨call, next answer⟩,
      ⟨moving, call, request, answer⟩ :: pool.history⟩ second record) : first = second := by
  rcases holds_advance pending left with ⟨rfl, opened⟩ | ⟨held, -⟩
  · rcases holds_advance pending right with ⟨rfl, -⟩ | ⟨held, -⟩
    · rfl
    · exact (alone record opened second held).symm
  · rcases holds_advance pending right with ⟨rfl, opened⟩ | ⟨held', -⟩
    · exact alone record opened first held
    · exact chained.exclusive held held'

/-- After an answer, a held record has still been opened at its present version. -/
theorem Chained.current_advance
    (saved : ∀ record, updating.saves request = some record → updating.Holds pool moving record)
    (chained : updating.Chained pool) {index : Nat}
    (holds : updating.Holds ⟨shared, pool.threads.set moving ⟨call, next answer⟩,
      ⟨moving, call, request, answer⟩ :: pool.history⟩ index record) :
    updating.base record index (⟨moving, call, request, answer⟩ :: pool.history) =
      some (updating.version record (⟨moving, call, request, answer⟩ :: pool.history)) := by
  rcases holds_advance pending holds with ⟨rfl, opened⟩ | ⟨held, kept⟩
  · have silent : updating.saves request = none := updating.apart opened
    rw [base, if_pos ⟨rfl, opened⟩, version, version, List.countP_cons_of_neg]
    simp only [silent, reduceCtorEq, decide_false, Bool.false_eq_true, not_false_eq_true]
  · have before := chained.current held
    have unsaved : updating.saves request ≠ some record := by
      intro saves
      have mine := chained.exclusive held (saved record saves)
      exact (kept mine).2 saves
    have unopened : ¬ (moving = index ∧ updating.opens call ⟨request, answer⟩ = some record) :=
      fun opened => (kept opened.1.symm).1 opened.2
    rw [base, if_neg unopened, before, version, version, List.countP_cons_of_neg]
    simp only [unsaved, decide_false, Bool.false_eq_true, not_false_eq_true]

end

/-- A save extends the chain by the version it replaces. -/
theorem Chained.chain_advance
    (saved : ∀ record, updating.saves request = some record → updating.Holds pool moving record)
    (chained : updating.Chained pool) (record : R) :
    (updating.updates record (⟨moving, call, request, answer⟩ :: pool.history)).map Prod.snd =
      (List.range (updating.version record
        (⟨moving, call, request, answer⟩ :: pool.history))).reverse.map some := by
  by_cases saves : updating.saves request = some record
  · have newest := chained.current (saved record saves)
    have counted : updating.version record (⟨moving, call, request, answer⟩ :: pool.history) =
        updating.version record pool.history + 1 := by
      rw [version, List.countP_cons_of_pos]
      · rfl
      · exact decide_eq_true saves
    rw [updates, if_pos saves, List.map_cons, chained.chain record, newest, counted,
      List.range_succ, List.reverse_append, List.reverse_singleton, List.map_append,
      List.map_singleton, List.singleton_append]
  · have counted : updating.version record (⟨moving, call, request, answer⟩ :: pool.history) =
        updating.version record pool.history := by
      rw [version, List.countP_cons_of_neg]
      · rfl
      · simpa only [decide_eq_true_eq] using saves
    rw [updates, if_neg saves, chained.chain record, counted]

end Advancing

/-- A guard under which updates are exclusive, with the calls it admits. -/
structure Disciplined (updating : Updating I κ R) (program : κ → Proc I ε α)
    (handle : Nat → κ → Handler I σ) (guard : Pool I ε α κ σ → Turn κ → Prop)
    (allowed : κ → Prop) : Prop where
  starts : ∀ pool call, guard pool (.start call) → allowed call
  exclusive : ∀ pool turn, guard pool turn → updating.Exclusive handle pool turn
  obeys : ∀ call, allowed call →
    (program call).Obeys (updating.holding call) (fun _ _ => True) (.blank R)

/-- Who saves a record holds it. -/
theorem Disciplined.holds_of_saves {allowed : κ → Prop}
    (disciplined : updating.Disciplined program handle guard allowed) {pool : Pool I ε α κ σ}
    (reached : (Pool.system initial program handle).Reachable guard pool) {call : κ}
    {request : I.Request} {next : I.Answer request → Proc I ε α}
    (pending : pool.threads[index]? = some ⟨call, .await request next⟩) {record : R}
    (saves : updating.saves request = some record) : updating.Holds pool index record := by
  have rest := Pool.obeys_of_reachable reached pending
    (disciplined.obeys call (Pool.calls_of_reachable disciplined.starts reached pending))
  exact ⟨_, pending, ⟨request, next, rfl⟩, rest.1 record saves⟩

/-- Exclusive updates are chained in every run. -/
theorem Disciplined.chained [DecidableEq R] {allowed : κ → Prop}
    (disciplined : updating.Disciplined program handle guard allowed)
    {pool : Pool I ε α κ σ} (reached : (Pool.system initial program handle).Reachable guard pool) :
    updating.Chained pool := by
  refine reached.invariant ?_ ?_
  · rintro _ ⟨shared, -, rfl⟩
    refine ⟨?_, ?_, fun record => rfl⟩
    · rintro first second record ⟨thread, found, -⟩
      cases found
    · rintro index record ⟨thread, found, -⟩
      cases found
  · intro before turn after earlier chained admitted moved
    obtain ⟨call, -, rfl⟩ | ⟨moving, call, request, next, answer, shared, rfl, pending, answered,
      rfl⟩ := Pool.step_cases moved
    · refine ⟨?_, ?_, chained.chain⟩
      · intro first second record left right
        exact chained.exclusive (holds_start earlier left) (holds_start earlier right)
      · intro index record holds
        exact chained.current (holds_start earlier holds)
    · have alone : ∀ record, updating.opens call ⟨request, answer⟩ = some record →
          ∀ other, updating.Holds before other record → other = moving :=
        fun record => disciplined.exclusive _ _ admitted call request next answer shared record
          pending answered
      have saved : ∀ record, updating.saves request = some record →
          updating.Holds before moving record :=
        fun record => disciplined.holds_of_saves earlier pending
      exact ⟨chained.open_alone pending alone, chained.current_advance pending saved,
        chained.chain_advance saved⟩

/-- What an opening read tells of the shared state stays true while the record is held. -/
theorem Disciplined.kept [DecidableEq R] {allowed : κ → Prop}
    (disciplined : updating.Disciplined program handle guard allowed) (steady : R → σ → Prop)
    (opened : ∀ index call request before answer after record,
      handle index call request before = some (answer, after) →
        updating.opens call ⟨request, answer⟩ = some record → steady record after)
    (undisturbed : ∀ index call request before answer after record,
      handle index call request before = some (answer, after) →
        updating.saves request ≠ some record → steady record before → steady record after)
    {pool : Pool I ε α κ σ} (reached : (Pool.system initial program handle).Reachable guard pool)
    {record : R} (holds : updating.Holds pool index record) : steady record pool.shared := by
  revert index record
  refine reached.invariant (P := fun pool => ∀ {index : Nat} {record : R},
    updating.Holds pool index record → steady record pool.shared) ?_ ?_
  · rintro _ ⟨shared, -, rfl⟩ index record ⟨thread, found, -⟩
    cases found
  · intro before turn after earlier kept admitted moved index record holds
    obtain ⟨call, -, rfl⟩ | ⟨moving, call, request, next, answer, shared, rfl, pending, answered,
      rfl⟩ := Pool.step_cases moved
    · exact kept (holds_start earlier holds)
    · rcases holds_advance pending holds with ⟨rfl, opens⟩ | ⟨held, unsaved⟩
      · exact opened _ _ _ _ _ _ _ answered opens
      · refine undisturbed _ _ _ _ _ _ _ answered ?_ (kept held)
        intro saves
        have mine := (disciplined.chained earlier).exclusive held
          (disciplined.holds_of_saves earlier pending saves)
        exact (unsaved mine).2 saves

/-- Two updates of a chain do not start from one version. -/
theorem Chained.eq_of_version_eq [DecidableEq R] {pool : Pool I ε α κ σ}
    (chained : updating.Chained pool) {record : R} {first second : Nat} {version : Option Nat}
    (left : (first, version) ∈ updating.updates record pool.history)
    (right : (second, version) ∈ updating.updates record pool.history) : first = second := by
  have distinct : ((updating.updates record pool.history).map Prod.snd).Nodup := by
    rw [chained.chain record]
    exact (List.nodup_reverse.mpr List.nodup_range).map fun _ _ => Option.some.inj
  exact congrArg Prod.fst (List.inj_on_of_nodup_map distinct left right rfl)

end Runs

end Updating

end Foundation
