import Vortex.Foundation.ReadModifyWrite
import Vortex.Olm.SealRequests
import Vortex.Olm.Symbolic

/-!
# The sealed store

The wrap key, the recorded owner and the sealed records are written by transactions of
their own. They agree as long as only one operation at a time creates a wrap key, an
operation works for the recorded owner only, and the database is cleared only while no
other operation has begun to get the wrap key.
-/

variable {index : Nat} {call : StoreCall} {record : Record} {key : CryptoKey} {userId : JsString}

namespace Vortex.Olm

open Foundation

variable {olm : OlmLibrary}

/-! ## The condition on runs -/

/-- Finding no wrap key opens its creation, writing one ends it. -/
def wrapping (olm : OlmLibrary) : Updating (storeInterface olm) StoreCall Unit where
  opens _ exchange :=
    match exchange with
    | ⟨.idbGet .wrapKey, stored⟩ => if stored.isNone then some () else none
    | _ => none
  saves request :=
    match request with
    | .idbPut .wrapKey _ => some ()
    | _ => none
  apart := by
    intro call exchange key opened
    obtain ⟨request, answer⟩ := exchange
    cases request <;> first | rfl | cases opened

/-- An operation in flight that has begun to get the wrap key. -/
def Working (pool : StorePool olm) (index : Nat)
    (thread : Thread (storeInterface olm) OlmError Outcome StoreCall) : Prop :=
  pool.threads[index]? = some thread ∧ thread.InFlight ∧
    Joined (Pool.exchanges pool.history index)

/-- An operation in flight that has forgotten the owner and not yet cleared the database. -/
def Resetting (pool : StorePool olm) (index : Nat)
    (thread : Thread (storeInterface olm) OlmError Outcome StoreCall) : Prop :=
  pool.threads[index]? = some thread ∧ thread.InFlight ∧
    thread.call.operation.Forgot (Pool.exchanges pool.history index) ∧
    ⟨.idbClearAll, ()⟩ ∉ Pool.exchanges pool.history index

/-- When an operation may begin to get the wrap key: it works for the recorded owner, or
loads the identity while no owner is recorded and nobody is resetting; and nobody is
working for another user. -/
structure MayJoin (pool : StorePool olm) (index : Nat) (call : StoreCall) : Prop where
  owner : pool.shared.ownerUserId = some call.forUser ∨ (pool.shared.ownerUserId = none ∧
    (∃ userId, call.operation = .ensureOlmIdentity userId) ∧
    ∀ other thread, other ≠ index → ¬ Resetting pool other thread)
  same : ∀ other thread, other ≠ index → Working pool other thread →
    thread.call.forUser = call.forUser

/-- The runs in which wrap keys are created one at a time, operations work for the
recorded owner, and the database is cleared while nobody else is working. -/
def orderlyRuns (pool : StorePool olm) (turn : Turn StoreCall) : Prop :=
  (wrapping olm).Exclusive (fun _ call => Browser.handle call.tab) pool turn ∧
    ∀ index call request next, turn = .advance index →
      pool.threads[index]? = some ⟨call, .await request next⟩ →
      match request with
      | .joinWrapKey => MayJoin pool index call
      | .idbClearAll => ∀ other thread, other ≠ index → ¬ Working pool other thread
      | _ => True

/-- The user a record was written for since the database was last cleared. -/
def producedFor (record : Record) : List (Event (storeInterface olm) StoreCall) → Option JsString
  | [] => none
  | ⟨_, call, .idbPut written _, _⟩ :: earlier =>
      if written = record then some call.forUser else producedFor record earlier
  | ⟨_, _, .idbClearAll, _⟩ :: _ => none
  | _ :: earlier => producedFor record earlier

/-- Every sealed record opens under the stored wrap key, and was written for the recorded
owner. -/
structure SealedStore (pool : StorePool olm) : Prop where
  opens : ∀ record value key, pool.shared.idb record = some value →
    record.seal? value = some key → pool.shared.idb .wrapKey = some key
  owned : ∀ record value key owner, pool.shared.idb record = some value →
    record.seal? value = some key → pool.shared.ownerUserId = some owner →
    producedFor record pool.history = some owner

section Runs

variable {initial : Browser olm → Prop} {guard : StorePool olm → Turn StoreCall → Prop}

/-- A pending request was justified by everything the operation has seen. -/
theorem seals_of_pending {pool : StorePool olm}
    (reached : (storeSystem initial).Reachable guard pool) {request : StoreRequest olm}
    {next : (storeInterface olm).Answer request → StoreProc olm Outcome}
    (pending : pool.threads[index]? = some ⟨call, .await request next⟩) :
    call.operation.Seals (Pool.exchanges pool.history index) request := by
  have rest := Pool.obeys_of_reachable reached pending (runOperation_seals call.operation)
  have allowed := rest.1
  rw [Pool.memory, Monitor.remember_recorder, List.nil_append, List.filter_true] at allowed
  exact allowed

/-- A finished operation has ended as it should. -/
theorem sealEnds_of_finished {pool : StorePool olm}
    (reached : (storeSystem initial).Reachable guard pool)
    {thread : Thread (storeInterface olm) OlmError Outcome StoreCall}
    (found : pool.threads[index]? = some thread) (finished : ¬ thread.InFlight) :
    thread.call.operation.SealEnds (Pool.exchanges pool.history index) := by
  rw [thread.inFlight_iff_result?] at finished
  obtain ⟨result, ended⟩ := Option.ne_none_iff_exists'.mp finished
  have known := Pool.ended_of_reachable reached found
    (runOperation_seals thread.call.operation) ended
  rw [Pool.memory, Monitor.remember_recorder, List.nil_append, List.filter_true] at known
  exact known

/-- What an operation has seen was justified when it asked for it. -/
theorem seals_of_exchange {pool : StorePool olm}
    (reached : (storeSystem initial).Reachable guard pool)
    {thread : Thread (storeInterface olm) OlmError Outcome StoreCall}
    (found : pool.threads[index]? = some thread) {exchange : Proc.Exchange (storeInterface olm)}
    (issued : exchange ∈ Pool.exchanges pool.history index) :
    ∃ seen, (∀ known ∈ seen, known ∈ Pool.exchanges pool.history index) ∧
      thread.call.operation.Seals seen exchange.1 :=
  Pool.justified_of_reachable reached found (runOperation_seals thread.call.operation) issued

/-- Who has got hold of a wrap key has begun to get it. -/
theorem joined_of_knows {pool : StorePool olm}
    (reached : (storeSystem initial).Reachable guard pool)
    {thread : Thread (storeInterface olm) OlmError Outcome StoreCall}
    (found : pool.threads[index]? = some thread)
    (knows : Knows (Pool.exchanges pool.history index) key) :
    Joined (Pool.exchanges pool.history index) := by
  obtain ⟨exchange, issued, shows⟩ := knows
  obtain ⟨seen, known, justified⟩ := seals_of_exchange reached found issued
  cases shows with
  | read => exact Joined.mono justified known
  | written => exact justified.1.mono known
  | awaited flight => exact ⟨_, known _ justified⟩

/-! ## Wrap key flights -/

/-- The flights of a profile: numbers are not used twice, a flight that is open in a tab
is not settled, and it is open in no other tab than its leader's. -/
structure Flights (pool : StorePool olm) : Prop where
  below : ∀ {tab flight}, (pool.shared.tabs tab).wrapKeyPromise = some flight →
    flight < pool.shared.serial
  settled : ∀ {flight key}, pool.shared.wrapKeyFlights flight = some key →
    flight < pool.shared.serial
  unsettled : ∀ {tab flight}, (pool.shared.tabs tab).wrapKeyPromise = some flight →
    pool.shared.wrapKeyFlights flight = none
  led : ∀ {index thread flight}, pool.threads[index]? = some thread →
    ⟨.joinWrapKey, .lead flight⟩ ∈ Pool.exchanges pool.history index →
    flight < pool.shared.serial ∧ ∀ tab,
      (pool.shared.tabs tab).wrapKeyPromise = some flight → tab = thread.call.tab

/-- Profiles in which nothing has been begun. -/
def Unused (browser : Browser olm) : Prop := ∃ uuids, browser = Browser.blank uuids

/-- The tab in which a settling request settles its flight is the one it is open in. -/
theorem Flights.of_settle {pool : StorePool olm} (flights : Flights pool)
    (reached : (storeSystem initial).Reachable guard pool) {flight : Nat}
    {next : Unit → StoreProc olm Outcome}
    (pending : pool.threads[index]? = some ⟨call, .await (.settleWrapKey flight key) next⟩) :
    flight < pool.shared.serial ∧ ∀ tab,
      (pool.shared.tabs tab).wrapKeyPromise = some flight → tab = call.tab :=
  flights.led pending (seals_of_pending reached pending).1

theorem flights_of_reachable {pool : StorePool olm}
    (reached : (storeSystem Unused).Reachable guard pool) : Flights pool := by
  refine reached.invariant ?_ ?_
  · rintro _ ⟨_, ⟨uuids, rfl⟩, rfl⟩
    exact ⟨nofun, nofun, nofun, nofun⟩
  · intro before turn after earlier flights _ moved
    have later := moved
    obtain ⟨call, -, rfl⟩ | ⟨moving, call, request, next, answer, shared, rfl, pending, answered,
      rfl⟩ := Pool.step_cases moved
    · refine ⟨flights.below, flights.settled, flights.unsettled,
        fun {index thread flight} found issued => ?_⟩
      rcases Pool.getElem?_append_cases found with ⟨rfl, -⟩ | found
      · have silent := Pool.exchanges_eq_nil earlier (List.getElem?_eq_none (Nat.le_refl _))
        change _ ∈ Pool.exchanges before.history _ at issued
        rw [silent] at issued
        cases issued
      · exact flights.led found issued
    · have step := Browser.moved_of_handle answered
      have grown := step.serial
      refine ⟨fun {tab flight} running => ?_, fun {flight key} settled => ?_,
        fun {tab flight} running => ?_, fun {index thread flight} found issued => ?_⟩
      · rcases step.opened running with running | ⟨-, rfl, next, -⟩
        · have bound := flights.below running
          exact Nat.lt_of_lt_of_le bound grown
        · change before.shared.serial < shared.serial
          omega
      · rcases step.settled settled with settled | ⟨rfl, -⟩
        · exact Nat.lt_of_lt_of_le (flights.settled settled) grown
        · exact Nat.lt_of_lt_of_le (flights.of_settle earlier pending).1 grown
      · by_contra settled
        obtain ⟨key, settled⟩ := Option.ne_none_iff_exists'.mp settled
        rcases step.settled settled with settled' | ⟨rfl, closed⟩
        · rcases step.opened running with running | ⟨-, rfl, -, -⟩
          · rw [flights.unsettled running] at settled'
            cases settled'
          · exact absurd (flights.settled settled') (Nat.lt_irrefl _)
        · rcases step.opened running with running' | ⟨-, -, -, same⟩
          · have here := (flights.of_settle earlier pending).2 tab running'
            subst here
            rw [running] at closed
            cases closed
          · cases same
      · obtain ⟨earlierThread, found', same⟩ :
            ∃ thread', before.threads[index]? = some thread' ∧ thread'.call = thread.call := by
          rcases Pool.getElem?_set_cases found with ⟨rfl, rfl⟩ | ⟨-, found⟩
          · exact ⟨_, pending, rfl⟩
          · exact ⟨thread, found, rfl⟩
        rcases Pool.exchanges_step_cases moved issued with known |
            ⟨call', next', -, mine, answered'⟩
        · obtain ⟨bound, only⟩ := flights.led found' known
          refine ⟨Nat.lt_of_lt_of_le bound grown, fun tab running => ?_⟩
          rcases step.opened running with running | ⟨-, rfl, -, -⟩
          · rw [← same]
            exact only tab running
          · exact absurd bound (Nat.lt_irrefl _)
        · rw [found'] at mine
          cases mine
          rcases Browser.handle_joinWrapKey answered' with ⟨_, follows, -⟩ | ⟨leads, raised⟩
          · cases follows
          · cases leads
            refine ⟨by omega, fun tab running => ?_⟩
            rcases (Browser.moved_of_handle answered').opened running with running | ⟨here, -⟩
            · exact absurd (flights.below running) (Nat.lt_irrefl _)
            · rw [← same]
              exact here

/-! ## One wrap key -/

theorem wrapping_disciplined : (wrapping olm).Disciplined (fun call => runOperation call.operation)
    (fun _ call => Browser.handle call.tab) orderlyRuns fun _ => True where
  starts _ _ _ := trivial
  exclusive _ _ admitted := admitted.1
  obeys call _ := by
    apply (wrapping olm).obeys_of_recorder _ _ (runOperation_seals call.operation)
    · intro exchange dropped
      cases dropped
    · intro seen request record allowed saves
      cases request with
      | idbPut written value =>
        cases written with
        | wrapKey =>
          obtain ⟨-, absent, unwritten⟩ := allowed
          refine ⟨⟨_, absent, rfl⟩, fun exchange known saved => ?_⟩
          obtain ⟨request, answer⟩ := exchange
          cases request with
          | idbPut written value =>
            cases written with
            | wrapKey => exact unwritten value known
            | _ => cases saved
          | _ => cases saved
        | _ => cases saves
      | _ => cases saves

/-- While a wrap key is being created there is none. -/
theorem wrapKey_absent {pool : StorePool olm}
    (reached : (storeSystem initial).Reachable orderlyRuns pool)
    (holds : (wrapping olm).Holds pool index ()) : pool.shared.idb .wrapKey = none := by
  apply wrapping_disciplined.kept (fun _ (browser : Browser olm) => browser.idb .wrapKey = none)
    _ _ reached holds
  · intro index call request before answer after key answered opened
    cases request with
    | idbGet record =>
      obtain ⟨read, same⟩ := Browser.handle_idbGet answered
      cases record with
      | wrapKey =>
        cases answer with
        | none => rw [same, ← read]
        | some key => cases opened
      | _ => cases opened
    | _ => cases opened
  · intro index call request before answer after key answered unsaved absent
    rw [(Browser.moved_of_handle answered).idb]
    cases request with
    | idbPut record value =>
      by_cases same : record = .wrapKey
      · subst same
        exact absurd rfl unsaved
      · have kept : Record.wrapKey ≠ record := Ne.symm same
        simp only [StoreRequest.onIdb, Function.update_of_ne kept, absent]
    | idbClearAll => rfl
    | _ => exact absent

/-- A stored wrap key stays until the database is cleared. -/
theorem wrapKey_kept {pool : StorePool olm}
    (reached : (storeSystem initial).Reachable orderlyRuns pool) {request : StoreRequest olm}
    {answer : (storeInterface olm).Answer request}
    {next : (storeInterface olm).Answer request → StoreProc olm Outcome} {shared : Browser olm}
    (pending : pool.threads[index]? = some ⟨call, .await request next⟩)
    (answered : Browser.handle call.tab request pool.shared = some (answer, shared))
    (uncleared : request ≠ .idbClearAll) (stored : pool.shared.idb .wrapKey = some key) :
    shared.idb .wrapKey = some key := by
  rw [(Browser.moved_of_handle answered).idb]
  cases request with
  | idbPut record value =>
    by_cases same : record = .wrapKey
    · subst same
      have absent :=
        wrapKey_absent reached (wrapping_disciplined.holds_of_saves reached pending rfl)
      rw [stored] at absent
      cases absent
    · have kept : Record.wrapKey ≠ record := Ne.symm same
      simp only [StoreRequest.onIdb, Function.update_of_ne kept, stored]
  | idbClearAll => exact absurd rfl uncleared
  | _ => exact stored

/-- Everybody's wrap key is the stored one: that of the sealed records, that of the
operations in flight, and that of the flights they await. -/
structure Keyed (pool : StorePool olm) : Prop where
  stored : ∀ {record value key}, pool.shared.idb record = some value →
    record.seal? value = some key → pool.shared.idb .wrapKey = some key
  known : ∀ {index thread key}, pool.threads[index]? = some thread → thread.InFlight →
    Knows (Pool.exchanges pool.history index) key → pool.shared.idb .wrapKey = some key
  awaited : ∀ {index thread flight key}, pool.threads[index]? = some thread → thread.InFlight →
    ⟨.joinWrapKey, .follow flight⟩ ∈ Pool.exchanges pool.history index →
    pool.shared.wrapKeyFlights flight = some key → pool.shared.idb .wrapKey = some key

/-- When the database has just been cleared, nobody in flight has begun to get the wrap key. -/
theorem idle_after_clear {before after : StorePool olm} {moving : Nat}
    {next : Unit → StoreProc olm Outcome}
    (reached : (storeSystem initial).Reachable orderlyRuns before)
    (admitted : orderlyRuns before (.advance moving))
    (moved : (storeSystem initial).step before (.advance moving) after)
    (pending : before.threads[moving]? = some ⟨call, .await .idbClearAll next⟩)
    {thread : Thread (storeInterface olm) OlmError Outcome StoreCall} :
    ¬ Working after index thread := by
  rintro ⟨found, flying, flight, issued⟩
  have known : ⟨.joinWrapKey, flight⟩ ∈ Pool.exchanges before.history index := by
    rcases Pool.exchanges_step_cases moved issued with known | ⟨call', next', same, mine, -⟩
    · exact known
    · cases same
      rw [pending] at mine
      cases mine
  by_cases same : index = moving
  · subst same
    exact seals_of_pending reached pending ⟨flight, known⟩
  · obtain ⟨earlier, found', -, flying'⟩ := Pool.earlier_of_issued reached moved found known
    exact admitted.2 moving call .idbClearAll next rfl pending index earlier same
      ⟨found', flying' flying, flight, known⟩

theorem keyed_of_reachable {pool : StorePool olm}
    (reached : (storeSystem Unused).Reachable orderlyRuns pool) : Keyed pool := by
  refine reached.invariant ?_ ?_
  · rintro _ ⟨_, ⟨uuids, rfl⟩, rfl⟩
    exact ⟨nofun, nofun, nofun⟩
  · intro before turn after earlier keyed admitted moved
    have later : (storeSystem Unused).Reachable orderlyRuns after := .step earlier admitted moved
    have flights := flights_of_reachable earlier
    obtain ⟨call, rfl, rfl⟩ | ⟨moving, call, request, next, answer, shared, rfl, pending, answered,
      same⟩ := Pool.step_cases moved
    · refine ⟨keyed.stored, fun found flying knows => ?_, fun found flying follows settled => ?_⟩
      · obtain ⟨exchange, issued, shows⟩ := knows
        obtain ⟨thread, found', -, flying'⟩ := Pool.earlier_of_issued earlier moved found issued
        exact keyed.known found' (flying' flying) ⟨exchange, issued, shows⟩
      · obtain ⟨thread, found', -, flying'⟩ := Pool.earlier_of_issued earlier moved found follows
        exact keyed.awaited found' (flying' flying) follows settled
    · have step := Browser.moved_of_handle answered
      obtain rfl : after.shared = shared := by rw [same]
      by_cases clears : request = .idbClearAll
      · subst clears
        have idle : ∀ {index thread}, ¬ Working after index thread :=
          idle_after_clear earlier admitted moved pending
        refine ⟨fun {record value key} stored => ?_, fun found flying knows => ?_,
          fun found flying follows settled => ?_⟩
        · rw [step.idb] at stored
          cases stored
        · exact absurd ⟨found, flying, joined_of_knows later found knows⟩ idle
        · exact absurd ⟨found, flying, _, follows⟩ idle
      · have kept : ∀ {key}, before.shared.idb .wrapKey = some key →
            after.shared.idb .wrapKey = some key :=
          wrapKey_kept earlier pending answered clears
        refine ⟨fun {record value key} stored sealed => ?_,
          fun {index thread key} found flying knows => ?_,
          fun {index thread flight key} found flying follows settled => ?_⟩
        · have unwritten : before.shared.idb record = some value →
              after.shared.idb .wrapKey = some key :=
            fun stored => kept (keyed.stored stored sealed)
          rw [step.idb] at stored
          cases request with
          | idbPut written new =>
            by_cases here : record = written
            · subst here
              simp only [StoreRequest.onIdb, Function.update_self, Option.some.injEq] at stored
              subst stored
              obtain ⟨-, knows, -⟩ := (seals_of_pending earlier pending).sealing sealed
              exact kept (keyed.known pending ⟨_, _, rfl⟩ knows)
            · simp only [StoreRequest.onIdb, Function.update_of_ne here] at stored
              exact unwritten stored
          | idbClearAll => exact absurd rfl clears
          | _ => exact unwritten stored
        · obtain ⟨⟨asked, reply⟩, issued, shows⟩ := knows
          rcases Pool.exchanges_step_cases moved issued with known |
            ⟨call', next', -, mine, answered'⟩
          · obtain ⟨thread', found', -, flying'⟩ := Pool.earlier_of_issued earlier moved found known
            exact kept (keyed.known found' (flying' flying) ⟨_, known, shows⟩)
          · cases shows with
            | read =>
              obtain ⟨read, same⟩ := Browser.handle_idbGet answered'
              rw [same]
              exact read.symm
            | written =>
              rw [(Browser.moved_of_handle answered').idb, StoreRequest.onIdb, Function.update_self]
            | awaited flight =>
              obtain ⟨value, settled, reply⟩ := Option.map_eq_some_iff.mp answered'
              obtain ⟨rfl, -⟩ := Prod.mk.inj reply
              exact kept (keyed.awaited mine ⟨_, _, rfl⟩ (seals_of_pending earlier mine) settled)
        · rcases Pool.exchanges_step_cases moved follows with known |
            ⟨call', next', -, mine, answered'⟩
          · obtain ⟨thread', found', -, flying'⟩ := Pool.earlier_of_issued earlier moved found known
            rcases step.settled settled with settled | ⟨rfl, -⟩
            · exact kept (keyed.awaited found' (flying' flying) known settled)
            · have leader := (seals_of_pending earlier pending).2
              exact kept (keyed.known pending ⟨_, _, rfl⟩ leader)
          · rcases Browser.handle_joinWrapKey answered' with ⟨_, same, running, unchanged⟩ | ⟨leads, -⟩
            · cases same
              rw [unchanged, flights.unsettled running] at settled
              cases settled
            · cases leads

/-! ## One owner -/

/-- A sealed record is stored. -/
def Browser.HoldsSealed (browser : Browser olm) (record : Record) : Prop :=
  ∃ value key, browser.idb record = some value ∧ record.seal? value = some key

/-- `ensureOlmIdentity` has saved a new account and is about to record its owner. -/
def AboutToOwn (pool : StorePool olm) (index : Nat)
    (thread : Thread (storeInterface olm) OlmError Outcome StoreCall) : Prop :=
  pool.threads[index]? = some thread ∧ thread.InFlight ∧
    ∃ userId blob, thread.call.operation = .ensureOlmIdentity userId ∧
      ⟨.idbPut .account blob, ()⟩ ∈ Pool.exchanges pool.history index ∧
      ⟨.setOwnerUserId userId, ()⟩ ∉ Pool.exchanges pool.history index

/-- Everything belongs to one user: the sealed records to the recorded owner, or while
none is recorded and nobody is resetting to the user about to be recorded; and whoever is
working works for the user everything belongs to. -/
structure Owned (pool : StorePool olm) : Prop where
  recorded : ∀ {record owner}, pool.shared.HoldsSealed record →
    pool.shared.ownerUserId = some owner → producedFor record pool.history = some owner
  unrecorded : ∀ {record}, pool.shared.HoldsSealed record → pool.shared.ownerUserId = none →
    (∀ index thread, ¬ Resetting pool index thread) →
    ∃ index thread, AboutToOwn pool index thread ∧
      producedFor record pool.history = some thread.call.forUser
  owner : ∀ {index thread}, Working pool index thread →
    pool.shared.ownerUserId = none ∨ pool.shared.ownerUserId = some thread.call.forUser
  produced : ∀ {index thread record}, Working pool index thread →
    pool.shared.HoldsSealed record → producedFor record pool.history = some thread.call.forUser
  attached : ∀ {index thread}, Working pool index thread →
    (∀ userId, thread.call.operation ≠ .ensureOlmIdentity userId) →
    pool.shared.ownerUserId = some thread.call.forUser ∨
      ∃ other resetter, Resetting pool other resetter
  united : ∀ {first second thread thread'}, Working pool first thread →
    Working pool second thread' → thread.call.forUser = thread'.call.forUser

/-- Who has forgotten the owner without clearing the database is still in flight. -/
theorem resetting_of_forgot {pool : StorePool olm}
    (reached : (storeSystem initial).Reachable guard pool)
    {thread : Thread (storeInterface olm) OlmError Outcome StoreCall}
    (found : pool.threads[index]? = some thread)
    (forgot : thread.call.operation.Forgot (Pool.exchanges pool.history index))
    (uncleared : ⟨.idbClearAll, ()⟩ ∉ Pool.exchanges pool.history index) :
    Resetting pool index thread := by
  refine ⟨found, ?_, forgot, uncleared⟩
  by_contra finished
  exact uncleared ((sealEnds_of_finished reached found finished).2 forgot)

/-- Who has saved a new account without recording its owner is still in flight. -/
theorem aboutToOwn_of_saved {pool : StorePool olm}
    (reached : (storeSystem initial).Reachable guard pool)
    {thread : Thread (storeInterface olm) OlmError Outcome StoreCall}
    {blob : WrappedBlob olm.Account} (found : pool.threads[index]? = some thread)
    (kind : thread.call.operation = .ensureOlmIdentity userId)
    (saved : ⟨.idbPut .account blob, ()⟩ ∈ Pool.exchanges pool.history index)
    (unowned : ⟨.setOwnerUserId userId, ()⟩ ∉ Pool.exchanges pool.history index) :
    AboutToOwn pool index thread := by
  refine ⟨found, ?_, userId, blob, kind, saved, unowned⟩
  by_contra finished
  exact unowned ((sealEnds_of_finished reached found finished).1 userId blob kind saved)

theorem AboutToOwn.working {pool : StorePool olm}
    (reached : (storeSystem initial).Reachable guard pool)
    {thread : Thread (storeInterface olm) OlmError Outcome StoreCall}
    (about : AboutToOwn pool index thread) : Working pool index thread := by
  obtain ⟨found, flying, userId, blob, -, saved, -⟩ := about
  obtain ⟨seen, known, justified⟩ := seals_of_exchange reached found saved
  exact ⟨found, flying, justified.1.mono known⟩

section Step

variable {before after : StorePool olm} {turn : Turn StoreCall}

/-- Who is working after a step was working before, or has just joined. -/
theorem working_step (reached : (storeSystem initial).Reachable guard before)
    (moved : (storeSystem initial).step before turn after)
    {thread : Thread (storeInterface olm) OlmError Outcome StoreCall}
    (working : Working after index thread) :
    (∃ earlier, Working before index earlier ∧ earlier.call = thread.call) ∨
      ∃ next, turn = .advance index ∧
        before.threads[index]? = some ⟨thread.call, .await .joinWrapKey next⟩ := by
  obtain ⟨found, flying, flight, issued⟩ := working
  rcases Pool.exchanges_step_cases moved issued with known | ⟨call, next, advanced, mine, -⟩
  · obtain ⟨earlier, found', same, flying'⟩ := Pool.earlier_of_issued reached moved found known
    exact .inl ⟨earlier, ⟨found', flying' flying, flight, known⟩, same⟩
  · obtain ⟨later, found', same⟩ := Pool.call_of_step moved mine
    rw [found] at found'
    cases found'
    rw [same]
    exact .inr ⟨next, advanced, mine⟩

section

variable (later : (storeSystem initial).Reachable guard after)

include later

/-- A reset goes on until it clears the database. -/
theorem resetting_step (moved : (storeSystem initial).step before turn after)
    {thread : Thread (storeInterface olm) OlmError Outcome StoreCall}
    (resetting : Resetting before index thread) :
    (∃ resetter, Resetting after index resetter) ∨ ∃ call next, turn = .advance index ∧
        before.threads[index]? = some ⟨call, .await .idbClearAll next⟩ := by
  obtain ⟨found, -, forgot, uncleared⟩ := resetting
  obtain ⟨resetter, found', same⟩ := Pool.call_of_step moved found
  by_cases cleared : ⟨.idbClearAll, ()⟩ ∈ Pool.exchanges after.history index
  · rcases Pool.exchanges_step_cases moved cleared with known | ⟨call, next, advanced, mine, -⟩
    · exact absurd known uncleared
    · exact .inr ⟨call, next, advanced, mine⟩
  · rw [← same] at forgot
    exact .inl ⟨resetter, resetting_of_forgot later found'
      (forgot.mono fun _ => Pool.exchanges_of_step moved) cleared⟩

/-- Who is about to record an owner stays so until it does. -/
theorem aboutToOwn_step (moved : (storeSystem initial).step before turn after)
    {thread : Thread (storeInterface olm) OlmError Outcome StoreCall}
    (about : AboutToOwn before index thread) :
    (∃ owning, AboutToOwn after index owning ∧ owning.call = thread.call) ∨
      ∃ call userId next, turn = .advance index ∧
        before.threads[index]? = some ⟨call, .await (.setOwnerUserId userId) next⟩ := by
  obtain ⟨found, -, userId, blob, kind, saved, unowned⟩ := about
  obtain ⟨owning, found', same⟩ := Pool.call_of_step moved found
  by_cases owned : ⟨.setOwnerUserId userId, ()⟩ ∈ Pool.exchanges after.history index
  · rcases Pool.exchanges_step_cases moved owned with known | ⟨call, next, advanced, mine, -⟩
    · exact absurd known unowned
    · exact .inr ⟨call, userId, next, advanced, mine⟩
  · exact .inl ⟨owning, aboutToOwn_of_saved later found' (by rw [same, kind])
      (Pool.exchanges_of_step moved saved) owned, same⟩

/-- The recorded owner changes by being recorded, or by being forgotten. -/
theorem owner_step (reached : (storeSystem initial).Reachable guard before)
    (moved : (storeSystem initial).step before turn after) :
    after.shared.ownerUserId = before.shared.ownerUserId ∨
      (∃ index call userId next, turn = .advance index ∧
        before.threads[index]? = some ⟨call, .await (.setOwnerUserId userId) next⟩ ∧
        after.shared.ownerUserId = some userId) ∨
      (after.shared.ownerUserId = none ∧ ∃ index resetter, Resetting after index resetter) := by
  obtain ⟨call, rfl, rfl⟩ | ⟨moving, call, request, next, answer, shared, rfl, pending, answered,
    same⟩ := Pool.step_cases moved
  · exact .inl rfl
  · obtain rfl : after.shared = shared := by rw [same]
    have owner := (Browser.moved_of_handle answered).owner
    have justified := seals_of_pending reached pending
    obtain ⟨resetter, found, call'⟩ := Pool.call_of_step moved pending
    have issued : ⟨request, answer⟩ ∈ Pool.exchanges after.history moving := by
      rw [same]
      exact Pool.mem_exchanges.mpr ⟨_, List.mem_cons_self, rfl, rfl⟩
    have uncleared : ⟨.idbClearAll, ()⟩ ∉ Pool.exchanges before.history moving →
        request ≠ .idbClearAll → ⟨.idbClearAll, ()⟩ ∉ Pool.exchanges after.history moving := by
      intro absent other cleared
      rcases Pool.exchanges_step_cases moved cleared with known | ⟨_, _, -, mine, -⟩
      · exact absent known
      · rw [pending] at mine
        cases mine
        exact other rfl
    cases request with
    | setOwnerUserId userId => exact .inr (.inl ⟨moving, call, userId, next, rfl, pending, owner⟩)
    | forgetLocal =>
      obtain ⟨kind, absent⟩ := justified
      refine .inr (.inr ⟨owner, moving, resetter, resetting_of_forgot later found ?_
        (uncleared absent nofun)⟩)
      rw [call', kind]
      exact issued
    | enterIdentity userId =>
      rcases answer with ⟨flight, mustReset⟩ | flight
      · cases mustReset with
        | false => exact .inl owner
        | true =>
          obtain ⟨kind, absent⟩ := justified
          refine .inr (.inr ⟨owner, moving, resetter, resetting_of_forgot later found ?_
            (uncleared absent nofun)⟩)
          rw [call', kind]
          exact ⟨flight, issued⟩
      · exact .inl owner
    | _ => exact .inl owner

end

/-- A sealed record that is stored after a step was stored before, by the same user, or
has just been written. -/
theorem sealed_step (moved : (storeSystem initial).step before turn after)
    (sealed : after.shared.HoldsSealed record) :
    (before.shared.HoldsSealed record ∧
      producedFor record after.history = producedFor record before.history) ∨
    ∃ index call value key next, turn = .advance index ∧
      before.threads[index]? = some ⟨call, .await (.idbPut record value) next⟩ ∧
      record.seal? value = some key ∧
        ⟨.idbPut record value, ()⟩ ∈ Pool.exchanges after.history index ∧
      producedFor record after.history = some call.forUser := by
  obtain ⟨call, rfl, rfl⟩ | ⟨moving, call, request, next, answer, shared, rfl, pending, answered,
    rfl⟩ := Pool.step_cases moved
  · exact .inl ⟨sealed, rfl⟩
  · obtain ⟨value, key, stored, same⟩ := sealed
    change shared.idb record = some value at stored
    rw [(Browser.moved_of_handle answered).idb] at stored
    cases request with
    | idbPut written new =>
      by_cases here : record = written
      · subst here
        simp only [StoreRequest.onIdb, Function.update_self, Option.some.injEq] at stored
        subst stored
        exact .inr ⟨moving, call, new, key, next, rfl, pending, same,
          Pool.mem_exchanges.mpr ⟨_, List.mem_cons_self, rfl, rfl⟩,
          by simp only [producedFor, ↓reduceIte]⟩
      · simp only [StoreRequest.onIdb, Function.update_of_ne here] at stored
        have other : written ≠ record := Ne.symm here
        exact .inl ⟨⟨value, key, stored, same⟩, by simp only [producedFor, other, ↓reduceIte]⟩
    | idbClearAll => cases stored
    | _ => exact .inl ⟨⟨value, key, stored, same⟩, rfl⟩

theorem unsealed_of_clear {next : Unit → StoreProc olm Outcome}
    (moved : (storeSystem initial).step before (.advance index) after)
    (pending : before.threads[index]? = some ⟨call, .await .idbClearAll next⟩) :
    ¬ after.shared.HoldsSealed record := by
  intro ⟨value, key, stored, _⟩
  obtain ⟨answer, answered⟩ := Pool.answered_of_step moved pending
  rw [(Browser.moved_of_handle answered).idb] at stored
  cases stored

theorem owned_of_setOwner {next : Unit → StoreProc olm Outcome}
    (moved : (storeSystem initial).step before (.advance index) after)
    (pending : before.threads[index]? = some ⟨call, .await (.setOwnerUserId userId) next⟩) :
    after.shared.ownerUserId = some userId := by
  obtain ⟨answer, answered⟩ := Pool.answered_of_step moved pending
  exact (Browser.moved_of_handle answered).owner

/-- Who writes a sealed record is working. -/
theorem working_of_put (reached : (storeSystem initial).Reachable guard before)
    {value : record.Value olm} {next : Unit → StoreProc olm Outcome}
    (pending : before.threads[index]? = some ⟨call, .await (.idbPut record value) next⟩)
    (sealed : record.seal? value = some key) :
    Working before index ⟨call, .await (.idbPut record value) next⟩ :=
  ⟨pending, ⟨_, _, rfl⟩, ((seals_of_pending reached pending).sealing sealed).1⟩

/-- Who records an owner is working, for that owner. -/
theorem working_of_setOwner (reached : (storeSystem initial).Reachable guard before)
    {next : Unit → StoreProc olm Outcome}
    (pending : before.threads[index]? = some ⟨call, .await (.setOwnerUserId userId) next⟩) :
    Working before index ⟨call, .await (.setOwnerUserId userId) next⟩ ∧ call.forUser = userId := by
  obtain ⟨kind, joined⟩ := seals_of_pending reached pending
  refine ⟨⟨pending, ⟨_, _, rfl⟩, joined⟩, ?_⟩
  simp only [StoreCall.forUser, kind]

end Step

section Preserved

variable {before after : StorePool olm} {turn : Turn StoreCall}
  (reached : (storeSystem Unused).Reachable orderlyRuns before)
  (admitted : orderlyRuns before turn) (moved : (storeSystem Unused).step before turn after)
  (owned : Owned before)

include reached admitted moved owned

theorem Owned.recorded_step {owner : JsString} (sealed : after.shared.HoldsSealed record)
    (stored : after.shared.ownerUserId = some owner) :
    producedFor record after.history = some owner := by
  have later : (storeSystem Unused).Reachable orderlyRuns after := .step reached admitted moved
  rcases owner_step later reached moved with same | ⟨index, call, userId, next, rfl, pending, set⟩ |
    ⟨none, -⟩
  · rw [same] at stored
    rcases sealed_step moved sealed with ⟨sealed, kept⟩ |
      ⟨index, call, value, key, next, -, pending, sealing, -, produced⟩
    · rw [kept]
      exact owned.recorded sealed stored
    · rw [produced]
      rcases owned.owner (working_of_put reached pending sealing) with none | same
      · rw [none] at stored
        cases stored
      · rw [same] at stored
        exact stored
  · obtain ⟨working, user⟩ := working_of_setOwner reached pending
    rw [set] at stored
    cases stored
    rcases sealed_step moved sealed with ⟨sealed, kept⟩ |
      ⟨index', call', value, key, next', advanced, pending', -, -, -⟩
    · rw [kept, owned.produced working sealed]
      exact congrArg some user
    · cases advanced
      rw [pending] at pending'
      cases pending'
  · rw [none] at stored
    cases stored

theorem Owned.unrecorded_step (sealed : after.shared.HoldsSealed record)
    (unowned : after.shared.ownerUserId = none)
    (settled : ∀ index thread, ¬ Resetting after index thread) :
    ∃ index thread, AboutToOwn after index thread ∧
      producedFor record after.history = some thread.call.forUser := by
  have later : (storeSystem Unused).Reachable orderlyRuns after := .step reached admitted moved
  have settledBefore : ∀ index thread, ¬ Resetting before index thread := by
    intro index thread resetting
    rcases resetting_step later moved resetting with ⟨resetter, resetting⟩ |
      ⟨call, next, rfl, pending⟩
    · exact settled index resetter resetting
    · exact unsealed_of_clear moved pending sealed
  rcases owner_step later reached moved with same | ⟨index, call, userId, next, -, -, set⟩ |
    ⟨-, index, resetter, resetting⟩
  · rw [same] at unowned
    rcases sealed_step moved sealed with ⟨sealed, kept⟩ |
      ⟨index, call, value, key, next, advanced, pending, sealing, issued, produced⟩
    · obtain ⟨index, thread, about, produced⟩ := owned.unrecorded sealed unowned settledBefore
      rcases aboutToOwn_step later moved about with ⟨owning, about, call⟩ |
        ⟨call, userId, next, rfl, pending⟩
      · exact ⟨index, owning, about, by rw [kept, produced, call]⟩
      · rw [← same, owned_of_setOwner moved pending] at unowned
        cases unowned
    · have working := working_of_put reached pending sealing
      obtain ⟨thread, found, call'⟩ := Pool.call_of_step moved pending
      by_cases identity : ∃ userId, call.operation = .ensureOlmIdentity userId
      · obtain ⟨userId, kind⟩ := identity
        obtain ⟨-, -, only⟩ := (seals_of_pending reached pending).sealing sealing
        obtain ⟨rfl, unset⟩ := only userId kind
        refine ⟨index, thread, aboutToOwn_of_saved later found (by rw [call', kind]) issued ?_, ?_⟩
        · intro known
          rcases Pool.exchanges_step_cases moved known with known | ⟨_, _, -, mine, -⟩
          · exact unset userId known
          · rw [pending] at mine
            cases mine
        · rw [produced, call']
      · rcases owned.attached working (fun userId kind => identity ⟨userId, kind⟩) with
          same | ⟨other, resetter, resetting⟩
        · rw [unowned] at same
          cases same
        · exact absurd resetting (settledBefore other resetter)
  · rw [set] at unowned
    cases unowned
  · exact absurd resetting (settled index resetter)

theorem Owned.owner_step {thread : Thread (storeInterface olm) OlmError Outcome StoreCall}
    (working : Working after index thread) : after.shared.ownerUserId = none ∨
      after.shared.ownerUserId = some thread.call.forUser := by
  have later : (storeSystem Unused).Reachable orderlyRuns after := .step reached admitted moved
  rcases working_step reached moved working with ⟨earlier, working, call⟩ | ⟨next, rfl, pending⟩
  · rw [← call]
    rcases Olm.owner_step later reached moved with same |
      ⟨setter, call, userId, next, rfl, pending, set⟩ | ⟨none, -⟩
    · rw [same]
      exact owned.owner working
    · obtain ⟨setting, user⟩ := working_of_setOwner reached pending
      rw [set, ← user]
      exact .inr (congrArg some (owned.united setting working))
    · exact .inl none
  · obtain ⟨flight, answered⟩ := Pool.answered_of_step moved pending
    rw [(Browser.moved_of_handle answered).owner]
    rcases (admitted.2 index _ _ _ rfl pending).owner with same | ⟨none, -⟩
    · exact .inr same
    · exact .inl none

theorem Owned.produced_step {thread : Thread (storeInterface olm) OlmError Outcome StoreCall}
    (working : Working after index thread) (sealed : after.shared.HoldsSealed record) :
    producedFor record after.history = some thread.call.forUser := by
  rcases working_step reached moved working with ⟨earlier, working, call⟩ | ⟨next, rfl, pending⟩
  · rw [← call]
    rcases sealed_step moved sealed with ⟨sealed, kept⟩ |
      ⟨writer, call, value, key, next, -, pending, sealing, -, produced⟩
    · rw [kept]
      exact owned.produced working sealed
    · rw [produced]
      exact congrArg some (owned.united (working_of_put reached pending sealing) working)
  · have joins := admitted.2 index _ _ _ rfl pending
    have cleared := seals_of_pending reached pending
    rcases sealed_step moved sealed with ⟨sealed, kept⟩ |
      ⟨writer, call, value, key, next', advanced, writing, -, -, -⟩
    · rw [kept]
      rcases joins.owner with same | ⟨none, -, settled⟩
      · exact owned.recorded sealed same
      · obtain ⟨owning, thread', about, produced⟩ := owned.unrecorded sealed none (by
          intro other resetter resetting
          by_cases here : other = index
          · subst here
            obtain ⟨found, -, forgot, uncleared⟩ := resetting
            rw [pending] at found
            cases found
            exact uncleared (cleared forgot)
          · exact settled other resetter here resetting)
        rw [produced]
        by_cases here : owning = index
        · subst here
          obtain ⟨found, -⟩ := about
          rw [pending] at found
          cases found
          rfl
        · exact congrArg some (joins.same owning thread' here (about.working reached))
    · cases advanced
      rw [pending] at writing
      cases writing

theorem Owned.attached_step {thread : Thread (storeInterface olm) OlmError Outcome StoreCall}
    (working : Working after index thread)
    (other : ∀ userId, thread.call.operation ≠ .ensureOlmIdentity userId) :
    after.shared.ownerUserId = some thread.call.forUser ∨
      ∃ other resetter, Resetting after other resetter := by
  have later : (storeSystem Unused).Reachable orderlyRuns after := .step reached admitted moved
  rcases working_step reached moved working with ⟨earlier, working', call⟩ | ⟨next, rfl, pending⟩
  · rw [← call]
    rw [← call] at other
    rcases Olm.owner_step later reached moved with same |
      ⟨setter, call, userId, next, rfl, pending, set⟩ | ⟨-, resetting⟩
    · rw [same]
      rcases owned.attached working' other with same | ⟨resetting, resetter, pending⟩
      · exact .inl same
      · rcases resetting_step later moved pending with still | ⟨call, next, rfl, clearing⟩
        · exact .inr ⟨resetting, still⟩
        · exact absurd working (idle_after_clear reached admitted moved clearing)
    · obtain ⟨setting, user⟩ := working_of_setOwner reached pending
      rw [set, ← user]
      exact .inl (congrArg some (owned.united setting working'))
    · exact .inr resetting
  · obtain ⟨flight, answered⟩ := Pool.answered_of_step moved pending
    rw [(Browser.moved_of_handle answered).owner]
    rcases (admitted.2 index _ _ _ rfl pending).owner with same | ⟨-, ⟨userId, kind⟩, -⟩
    · exact .inl same
    · exact absurd kind (other userId)

theorem Owned.united_step {first second : Nat}
    {thread thread' : Thread (storeInterface olm) OlmError Outcome StoreCall}
    (working : Working after first thread) (working' : Working after second thread') :
    thread.call.forUser = thread'.call.forUser := by
  have joining : ∀ {joiner index : Nat}
      {newcomer other : Thread (storeInterface olm) OlmError Outcome StoreCall} {next},
      turn = .advance joiner →
      before.threads[joiner]? = some ⟨newcomer.call, .await .joinWrapKey next⟩ →
      Working after index other → other.call.forUser = newcomer.call.forUser := by
    rintro joiner index newcomer other next rfl pending working
    by_cases here : index = joiner
    · subst here
      obtain ⟨later, found, same⟩ := Pool.call_of_step moved pending
      rw [working.1] at found
      cases found
      rw [same]
    · rcases working_step reached moved working with ⟨earlier, working, call⟩ | ⟨_, advanced, _⟩
      · rw [← call]
        exact (admitted.2 joiner _ _ _ rfl pending).same index earlier here working
      · cases advanced
        exact absurd rfl here
  rcases working_step reached moved working with ⟨earlier, before₁, same⟩ | ⟨next, advanced, pending⟩
  · rcases working_step reached moved working' with ⟨earlier', before₂, same'⟩ |
      ⟨next, advanced, pending⟩
    · rw [← same, ← same']
      exact owned.united before₁ before₂
    · exact joining advanced pending working
  · exact (joining advanced pending working').symm

end Preserved

theorem owned_of_reachable {pool : StorePool olm}
    (reached : (storeSystem Unused).Reachable orderlyRuns pool) : Owned pool := by
  refine reached.invariant ?_ ?_
  · rintro _ ⟨_, ⟨uuids, rfl⟩, rfl⟩
    have idle : ∀ {index thread}, ¬ Working (Pool.fresh (Browser.blank uuids) : StorePool olm)
        index thread := by
      rintro index thread ⟨found, -⟩
      cases found
    have empty : ∀ {record}, ¬ (Browser.blank uuids : Browser olm).HoldsSealed record := by
      rintro record ⟨value, key, stored, -⟩
      cases stored
    exact ⟨fun sealed => absurd sealed empty, fun sealed => absurd sealed empty,
      fun working => absurd working idle, fun working => absurd working idle,
      fun working => absurd working idle, fun working => absurd working idle⟩
  · intro before turn after earlier owned admitted moved
    exact ⟨owned.recorded_step earlier admitted moved, owned.unrecorded_step earlier admitted moved,
      owned.owner_step earlier admitted moved, owned.produced_step earlier admitted moved,
      owned.attached_step earlier admitted moved, owned.united_step earlier admitted moved⟩

/-- In orderly runs from an unused profile every sealed record opens under the stored wrap
key and was written for the recorded owner. -/
theorem store_sealed {pool : StorePool olm}
    (reached : (storeSystem Unused).Reachable orderlyRuns pool) : SealedStore pool where
  opens _ _ _ stored sealed := (keyed_of_reachable reached).stored stored sealed
  owned _ _ _ _ stored sealed owner :=
    (owned_of_reachable reached).recorded ⟨_, _, stored, sealed⟩ owner

end Runs

/-! ## First runs -/

def StoreCall.loadsIdentity (call : StoreCall) : Bool :=
  match call.operation with
  | .ensureOlmIdentity _ => true
  | _ => false

/-- Check the condition on the owner, for operations that run one after the other. -/
def checkOwner (pool : StorePool olm) : Turn StoreCall → Bool
  | .start _ => true
  | .advance index =>
      match pool.threads[index]? with
      | some ⟨call, .await .joinWrapKey _⟩ =>
          pool.shared.ownerUserId = some call.forUser ||
            (pool.shared.ownerUserId = none && call.loadsIdentity)
      | _ => true

theorem orderly_of_alone {pool : StorePool olm} {turn : Turn StoreCall} (alone : pool.Alone turn)
    (checked : checkOwner pool turn = true) : orderlyRuns pool turn := by
  refine ⟨(wrapping olm).exclusive_of_alone alone, ?_⟩
  rintro index call request next rfl pending
  have idle : ∀ other thread, other ≠ index → pool.threads[other]? = some thread →
      ¬ thread.InFlight :=
    fun other thread different found flying => different (alone other thread found flying)
  cases request with
  | joinWrapKey =>
    refine ⟨?_, fun other thread different working =>
      absurd working.2.1 (idle other thread different working.1)⟩
    simp only [checkOwner, pending, Bool.or_eq_true, Bool.and_eq_true, decide_eq_true_eq] at checked
    rcases checked with same | ⟨none, loads⟩
    · exact .inl same
    · refine .inr ⟨none, ?_, fun other thread different resetting =>
        idle other thread different resetting.1 resetting.2.1⟩
      unfold StoreCall.loadsIdentity at loads
      split at loads
      · rename_i userId kind
        exact ⟨userId, kind⟩
      · cases loads
  | idbClearAll =>
    exact fun other thread different working => idle other thread different working.1 working.2.1
  | _ => trivial

def Symbolic.firstRun (tab : Nat) : StoreCall := ⟨tab, js "alice", .ensureOlmIdentity (js "alice")⟩

def Symbolic.unused : Browser Symbolic.library :=
  Browser.blank fun serial => Symbolic.digits 10 serial

/-- A first run, and a message of one's own. -/
def Symbolic.settled : StorePool Symbolic.library :=
  (replayStore (fun pool turn => pool.alone turn && checkOwner pool turn) Symbolic.unused
    ([.start (Symbolic.firstRun 0)] ++ List.replicate 12 (.advance 0) ++
      [.start ⟨0, js "alice", .saveOwnPlaintext (js "first") (js "hello")⟩] ++
      List.replicate 4 (.advance 1))).get (by decide)

theorem first_run_sealed :
    (Symbolic.settled.shared.idb (.ownPlaintext (js "first"))).isSome ∧
      SealedStore Symbolic.settled := by
  have reached : (storeSystem Unused).Reachable orderlyRuns Symbolic.settled := by
    refine Pool.reachable_of_replay (fun pool turn checked => ?_) ⟨_, rfl⟩ _
    obtain ⟨alone, owner⟩ := Bool.and_eq_true_iff.mp checked
    exact orderly_of_alone (Pool.alone_sound alone) owner
  exact ⟨by decide, store_sealed reached⟩

/-- Two tabs that have both found no wrap key: the first has saved its account when the
second stores its key. -/
def Symbolic.racing : StorePool Symbolic.library :=
  (replayStore (fun _ _ => true) Symbolic.unused
    ([.start (Symbolic.firstRun 0), .start (Symbolic.firstRun 1)] ++
      List.replicate 4 (.advance 0) ++ List.replicate 4 (.advance 1) ++
      List.replicate 6 (.advance 0) ++ List.replicate 2 (.advance 1))).get (by decide)

/-- Two first runs at once leave an account that does not open under the stored key. -/
theorem racing_first_runs_unreadable :
    ¬ ∀ pool, (storeSystem fun browser : Browser Symbolic.library => Unused browser).Reachable
      System.unguarded pool →
      SealedStore pool := by
  intro claimed
  have upheld := claimed Symbolic.racing
    (Pool.reachable_of_replay (fun _ _ _ => trivial) ⟨_, rfl⟩ _)
  have lost : ∃ value key, Symbolic.racing.shared.idb .account = some value ∧
      Record.seal? .account value = some key ∧ Symbolic.racing.shared.idb .wrapKey ≠ some key := by
    have sealedUnder : (Symbolic.racing.shared.idb .account).map WrappedBlob.sealedUnder =
        some ⟨5⟩ := by decide
    obtain ⟨value, stored, same⟩ := Option.map_eq_some_iff.mp sealedUnder
    exact ⟨value, _, stored, congrArg some same, by decide⟩
  obtain ⟨value, key, stored, sealed, different⟩ := lost
  exact different (upheld.opens .account value key stored sealed)

end Vortex.Olm
