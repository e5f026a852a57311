import Vortex.Foundation.ReadModifyWrite
import Vortex.Olm.Symbolic

/-!
# Updates of the account and session pickles

Sending, receiving, session set-up and key top-up are read-modify-writes of the
account and of a session, with awaits between the read and the save and without a
lock. Where their windows on a record do not overlap, every saved pickle was
derived from the one it replaces.
-/

namespace Vortex.Olm

open Foundation

variable {olm : OlmLibrary}

/-- The records that hold ratchet state. -/
def Record.ratchet? : Record → Option Record
  | .account => some .account
  | .session key => some (.session key)
  | _ => none

/-- Whether reading a record, which holds a value or does not, opens an update of it.
`ensureOutboundSession` only reads the account, and leaves a stored session alone. -/
def Operation.opens : Operation → Record → Bool → Bool
  | .topUpOneTimeKeys _ _ _, .account, stored => stored
  | .decryptFrom _ _ _ _, .account, stored => stored
  | .decryptFrom _ _ _ _, .session _, _ => true
  | .encryptTo _ _ _, .session _, stored => stored
  | .ensureOutboundSession _ _ _, .session _, stored => !stored
  | _, _, _ => false

/-- The records an operation has updated when it has completed. -/
def Operation.updates : Operation → List Record
  | .topUpOneTimeKeys _ _ _ => [.account]
  | .decryptFrom remoteUserId remoteDeviceId _ _ =>
      [.account, .session (targetKey ⟨remoteUserId, remoteDeviceId⟩)]
  | .encryptTo remoteUserId remoteDeviceId _ =>
      [.session (targetKey ⟨remoteUserId, remoteDeviceId⟩)]
  | _ => []

/-- The operations that work on ratchet state. -/
def Operation.Ratchets : Operation → Prop
  | .topUpOneTimeKeys _ _ _ | .ensureOutboundSession _ _ _ | .encryptTo _ _ _
  | .decryptFrom _ _ _ _ => True
  | _ => False

instance : DecidablePred Operation.Ratchets := fun operation =>
  match operation with
  | .topUpOneTimeKeys _ _ _ | .ensureOutboundSession _ _ _ | .encryptTo _ _ _
  | .decryptFrom _ _ _ _ => .isTrue trivial
  | .ensureOlmIdentity _ | .hasSessionWith _ | .saveOwnPlaintext _ _ | .loadOwnPlaintext _
  | .resetOlmIdentity => .isFalse id

/-- The updates of ratchet state. -/
def ratchet (olm : OlmLibrary) : Updating (storeInterface olm) StoreCall Record where
  opens call exchange :=
    match exchange with
    | ⟨.idbGet record, stored⟩ =>
        if call.operation.opens record stored.isSome then some record else none
    | _ => none
  saves request :=
    match request with
    | .idbPut record _ => record.ratchet?
    | _ => none
  apart := by
    rintro call ⟨request, answer⟩ record opened
    cases request <;> first | rfl | cases opened

/-- The ledger a ratchet operation keeps. -/
abbrev ratchetLedger (call : StoreCall) : Monitor (storeInterface olm) (Ledger Record) :=
  (ratchet olm).holding call

/-- Getting the wrap key does not touch ratchet state. -/
theorem wrapKey_ratchet (call : StoreCall) (ledger : Ledger Record) (request : StoreRequest olm)
    (wrap : StoreRequest.ForWrapKey request) :
    (ratchetLedger call).allows ledger request ∧
      ∀ answer, (ratchetLedger call).next ledger ⟨request, answer⟩ = ledger := by
  refine (ratchet olm).holding_quiet ?_ ?_ ledger
  · cases wrap <;> rfl
  · intro answer
    cases wrap with
    | read => cases kind : call.operation <;> simp only [ratchet, kind, Operation.opens,
        Bool.false_eq_true, ↓reduceIte]
    | _ => rfl

/-- The accesses to a pin. -/
inductive StoreRequest.ForPin : StoreRequest olm → Prop
  | read (key : JsString) : ForPin (.idbGet (.pinnedIdentity key))
  | write (key : JsString) (identity : PinnedIdentity) :
      ForPin (.idbPut (.pinnedIdentity key) identity)

/-- Pins are not ratchet state. -/
theorem pin_ratchet (call : StoreCall) (ledger : Ledger Record) (request : StoreRequest olm)
    (pin : StoreRequest.ForPin request) :
    (ratchetLedger call).allows ledger request ∧
      ∀ answer, (ratchetLedger call).next ledger ⟨request, answer⟩ = ledger := by
  refine (ratchet olm).holding_quiet ?_ ?_ ledger
  · cases pin <;> rfl
  · intro answer
    cases pin with
    | read => cases kind : call.operation <;> simp only [ratchet, kind, Operation.opens,
        Bool.false_eq_true, ↓reduceIte]
    | write => rfl

/-- A completed operation has saved what it had opened, and what it updates. -/
def Completed (operation : Operation) (ledger : Ledger Record) (result : Except OlmError Outcome) :
    Prop :=
  ∀ outcome, result = .ok outcome →
    (∀ record, ¬ ledger.held record) ∧ ∀ record ∈ operation.updates, ledger.saved record

theorem completed_error (operation : Operation) (ledger : Ledger Record) (error : OlmError) :
    Completed operation ledger (.error error) := nofun

section Operations

variable (tab : Nat) (userId remoteUserId remoteDeviceId : JsString)

theorem topUpOneTimeKeys_ratchet (owner deviceId : JsString) (count : Nat) :
    (runOperation (.topUpOneTimeKeys owner deviceId count) : StoreProc olm Outcome).Obeys
      (ratchetLedger ⟨tab, userId, .topUpOneTimeKeys owner deviceId count⟩)
      (Completed (.topUpOneTimeKeys owner deviceId count)) (.blank Record) := by
  refine .bind (.bind (getOrCreateWrapKey_obeys (wrapKey_ratchet _ _) fun wrapKey => ?_))
  refine .bind (loadAccount_obeys nofun (completed_error _ _ _)
    (fun _ => completed_error _ _ _) fun blob _ => ?_)
  refine ⟨nofun, fun seed => ⟨?_, fun _ => ?_⟩⟩
  · rintro record ⟨⟩
    exact .inr ⟨nofun, .inl rfl⟩
  · intro outcome _
    refine ⟨?_, ?_⟩
    · rintro record (opened | ⟨unsaved, opened | ⟨-, opened | ⟨-, blank⟩⟩⟩)
      · cases opened
      · cases opened
      · cases opened
        exact unsaved rfl
      · exact blank
    · intro record listed
      rw [Operation.updates, List.mem_singleton] at listed
      subst listed
      exact .inl rfl

theorem encryptTo_ratchet (plaintext : JsString) :
    (runOperation (.encryptTo remoteUserId remoteDeviceId plaintext) :
        StoreProc olm Outcome).Obeys
      (ratchetLedger ⟨tab, userId, .encryptTo remoteUserId remoteDeviceId plaintext⟩)
      (Completed (.encryptTo remoteUserId remoteDeviceId plaintext)) (.blank Record) := by
  refine .bind (.bind (getOrCreateWrapKey_obeys (wrapKey_ratchet _ _) fun wrapKey => ?_))
  refine .bind (loadSession_obeys nofun (completed_error _ _ _)
    (fun _ => completed_error _ _ _) fun blob _ => ?_)
  refine ⟨nofun, fun seed => ⟨?_, fun _ => ?_⟩⟩
  · rintro record ⟨⟩
    exact .inr ⟨nofun, .inl rfl⟩
  · intro outcome _
    refine ⟨?_, ?_⟩
    · rintro record (opened | ⟨unsaved, opened | ⟨-, opened | ⟨-, blank⟩⟩⟩)
      · cases opened
      · cases opened
      · cases opened
        exact unsaved rfl
      · exact blank
    · intro record listed
      rw [Operation.updates, List.mem_singleton] at listed
      subst listed
      exact .inl rfl

theorem ensureOutboundSession_ratchet (bundle : OlmKeyBundle) :
    (runOperation (.ensureOutboundSession remoteUserId remoteDeviceId bundle) :
        StoreProc olm Outcome).Obeys
      (ratchetLedger ⟨tab, userId, .ensureOutboundSession remoteUserId remoteDeviceId bundle⟩)
      (Completed (.ensureOutboundSession remoteUserId remoteDeviceId bundle)) (.blank Record) := by
  refine .bind (.bind (getOrCreateWrapKey_obeys (wrapKey_ratchet _ _) fun wrapKey => ?_))
  refine .bind (loadSession_obeys nofun ?_ (fun _ => completed_error _ _ _) fun blob _ => ?_)
  · change Proc.Obeys _ _ (if verifyKeyBundleSignature olm remoteUserId remoteDeviceId bundle then
      _ else _) _
    split
    · generalize opened : (ratchetLedger _).next (.blank Record) _ = ledger
      obtain ⟨-, reads⟩ := pin_ratchet
        ⟨tab, userId, .ensureOutboundSession remoteUserId remoteDeviceId bundle⟩ ledger
        (.idbGet (.pinnedIdentity (targetKey ⟨remoteUserId, remoteDeviceId⟩)) : StoreRequest olm)
        (.read _)
      obtain ⟨-, writes⟩ := pin_ratchet
        ⟨tab, userId, .ensureOutboundSession remoteUserId remoteDeviceId bundle⟩ ledger
        (.idbPut (.pinnedIdentity (targetKey ⟨remoteUserId, remoteDeviceId⟩)) bundle.identity :
          StoreRequest olm) (.write _ _)
      suffices tail : Proc.Then ((ratchet olm).holding
          ⟨tab, userId, .ensureOutboundSession remoteUserId remoteDeviceId bundle⟩) _ _ ledger
          (.ok ()) by
        refine .bind (checkAndPinIdentity_obeys nofun ⟨nofun, fun answer => ?_⟩ ?_
          fun _ _ => completed_error _ _ _)
        · rw [reads, writes]
          exact tail
        · rw [reads]
          exact tail
      subst opened
      refine .bind (loadAccount_obeys nofun (completed_error _ _ _)
        (fun _ => completed_error _ _ _) fun account _ => ⟨nofun, fun seed => ?_⟩)
      change Proc.Obeys _ _ (.done (createOutboundSession olm seed account.content bundle) >>= _) _
      refine .bind (.done (fun session _ => ⟨?_, fun _ => ?_⟩) fun _ _ => completed_error _ _ _)
      · rintro record ⟨⟩
        exact .inr ⟨nofun, .inr ⟨nofun, .inl rfl⟩⟩
      · intro outcome _
        refine ⟨?_, nofun⟩
        rintro record (opened | ⟨unsaved, opened | ⟨-, opened | ⟨-, opened | ⟨-, blank⟩⟩⟩⟩)
        · cases opened
        · cases opened
        · cases opened
        · cases opened
          exact unsaved rfl
        · exact blank
    · exact completed_error _ _ _
  · intro outcome _
    refine ⟨?_, nofun⟩
    rintro record (opened | ⟨-, blank⟩)
    · cases opened
    · exact blank

theorem decryptFrom_ratchet (ciphertext : OlmCiphertext) (identityHint : Option PinnedIdentity) :
    (runOperation (.decryptFrom remoteUserId remoteDeviceId ciphertext identityHint) :
        StoreProc olm Outcome).Obeys
      (ratchetLedger ⟨tab, userId, .decryptFrom remoteUserId remoteDeviceId ciphertext
        identityHint⟩)
      (Completed (.decryptFrom remoteUserId remoteDeviceId ciphertext identityHint))
      (.blank Record) := by
  refine .bind (.bind (getOrCreateWrapKey_obeys (wrapKey_ratchet _ _) fun wrapKey => ?_))
  refine .bind (loadAccount_obeys nofun (completed_error _ _ _)
    (fun _ => completed_error _ _ _) fun account _ => ?_)
  suffices loaded : ∀ stored session, Proc.Then ((ratchet olm).holding ⟨tab, userId,
      .decryptFrom remoteUserId remoteDeviceId ciphertext identityHint⟩) _ _
      ((ratchetLedger _).next _ ⟨.idbGet (.session (targetKey ⟨remoteUserId, remoteDeviceId⟩)),
        stored⟩) (.ok session) by
    exact .bind (loadSession_obeys nofun (loaded none none) (fun _ => completed_error _ _ _)
      fun session _ => loaded (some session) (some session.content))
  intro stored session
  refine ⟨nofun, fun pinned => ?_⟩
  change Proc.Obeys _ _ (.done (decryptMessage olm account.content session ciphertext
    ((pinned <|> identityHint).map PinnedIdentity.curve25519IdentityKey)) >>= _) _
  refine .bind (.done (fun decrypted _ => ⟨?_, fun _ => ⟨?_, fun _ => ?_⟩⟩)
    fun _ _ => completed_error _ _ _)
  · rintro record ⟨⟩
    exact .inr ⟨nofun, .inr ⟨nofun, .inl rfl⟩⟩
  · rintro record ⟨⟩
    exact .inr ⟨nofun, .inr ⟨nofun, .inl rfl⟩⟩
  · generalize written : (ratchetLedger _).next _ _ = ledger
    have complete : ∀ outcome, Completed
        (.decryptFrom remoteUserId remoteDeviceId ciphertext identityHint) ledger (.ok outcome) := by
      subst written
      intro outcome _ _
      refine ⟨?_, ?_⟩
      · rintro record (opened | ⟨unsaved, opened | ⟨unsaved', opened | ⟨-, opened | ⟨-, opened |
          ⟨-, blank⟩⟩⟩⟩⟩)
        · cases opened
        · cases opened
        · cases opened
        · cases opened
          exact unsaved rfl
        · cases opened
          exact unsaved' rfl
        · exact blank
      · intro record listed
        rw [Operation.updates, List.mem_pair] at listed
        rcases listed with rfl | rfl
        · exact .inr (.inl rfl)
        · exact .inl rfl
    rcases pinned with _ | pinned
    · rcases identityHint with _ | identity
      · exact complete _
      · obtain ⟨allowed, writes⟩ := pin_ratchet
          ⟨tab, userId, .decryptFrom remoteUserId remoteDeviceId ciphertext (some identity)⟩ ledger
          (.idbPut (.pinnedIdentity (targetKey ⟨remoteUserId, remoteDeviceId⟩)) identity :
            StoreRequest olm) (.write _ _)
        refine ⟨allowed, fun answer => ?_⟩
        rw [writes answer]
        exact complete _
    · exact complete _

end Operations

theorem runOperation_ratchet {call : StoreCall} (ratchets : call.operation.Ratchets) :
    (runOperation call.operation : StoreProc olm Outcome).Obeys (ratchetLedger call)
      (Completed call.operation) (.blank Record) := by
  rcases call with ⟨tab, userId, operation⟩
  cases operation with
  | topUpOneTimeKeys owner deviceId count => exact topUpOneTimeKeys_ratchet _ _ _ _ _
  | ensureOutboundSession remoteUserId remoteDeviceId bundle =>
    exact ensureOutboundSession_ratchet _ _ _ _ _
  | encryptTo remoteUserId remoteDeviceId plaintext => exact encryptTo_ratchet _ _ _ _ _
  | decryptFrom remoteUserId remoteDeviceId ciphertext identityHint =>
    exact decryptFrom_ratchet _ _ _ _ _ _
  | _ => exact ratchets.elim

/-- No ratchet state is used twice and no ratchet update is lost. Version `n` of a
record is its value after `n` saves. -/
structure NoLostUpdate (pool : StorePool olm) : Prop where
  distinct : ∀ record first second version,
    (first, version) ∈ (ratchet olm).updates record pool.history →
    (second, version) ∈ (ratchet olm).updates record pool.history → first = second
  chain : ∀ record, ((ratchet olm).updates record pool.history).map Prod.snd =
    (List.range ((ratchet olm).version record pool.history)).reverse.map some
  included : ∀ (index : Nat) (thread : Thread (storeInterface olm) OlmError Outcome StoreCall)
    (outcome : Outcome), pool.threads[index]? = some thread →
    thread.result? = some (.ok outcome) →
    (∀ record ∈ thread.call.operation.updates,
      ∃ version, (index, version) ∈ (ratchet olm).updates record pool.history) ∧
    ∀ record, ∀ exchange ∈ Pool.exchanges pool.history index,
      (ratchet olm).opens thread.call exchange = some record →
      ∃ version, (index, version) ∈ (ratchet olm).updates record pool.history

/-- The runs of the operations that work on ratchet state. -/
abbrev ratchetRuns : StorePool olm → Turn StoreCall → Prop := starting Operation.Ratchets

/-- The runs of these operations whose windows on a record do not overlap: none of them
reads a record for update while another one is between its read and its save. -/
def exclusiveRatchetRuns (pool : StorePool olm) (turn : Turn StoreCall) : Prop :=
  ratchetRuns pool turn ∧
    (ratchet olm).Exclusive (fun _ call => Browser.handle call.tab) pool turn

theorem no_lost_update {initial : Browser olm → Prop} {pool : StorePool olm}
    (reached : (storeSystem initial).Reachable exclusiveRatchetRuns pool) : NoLostUpdate pool := by
  have disciplined : (ratchet olm).Disciplined (fun call => runOperation call.operation)
      (fun _ call => Browser.handle call.tab) exclusiveRatchetRuns
      fun call => call.operation.Ratchets :=
    { starts := fun _ _ admitted => admitted.1
      exclusive := fun _ _ admitted => admitted.2
      obeys := fun call ratchets => (runOperation_ratchet ratchets).mono fun _ _ _ => trivial }
  have chained := disciplined.chained reached
  refine ⟨fun record first second version => chained.eq_of_version_eq, chained.chain, ?_⟩
  intro index thread outcome found finished
  have ratchets := Pool.calls_of_reachable disciplined.starts reached found
  obtain ⟨released, saved⟩ := Pool.ended_of_reachable reached found
    (runOperation_ratchet ratchets) finished outcome rfl
  refine ⟨fun record listed => ?_, fun record exchange member opened => ?_⟩
  · exact (ratchet olm).updates_of_saved (saved record listed)
  · rcases (ratchet olm).held_or_saved opened (.blank Record) member with held | saved
    · exact absurd held (released record)
    · exact (ratchet olm).updates_of_saved saved

/-! ## Two sends -/

/-- Two sends, one after the other. -/
def Symbolic.serialSends : StorePool Symbolic.library :=
  (replayStore (fun pool turn => decide (ratchetRuns pool turn) && pool.alone turn)
    Symbolic.profile
    ([.start (Symbolic.send (js "one"))] ++ List.replicate 6 (.advance 0) ++
      [.start (Symbolic.send (js "two"))] ++ List.replicate 6 (.advance 1))).get (by decide)

theorem serial_sends_lose_nothing :
    (ratchet Symbolic.library).updates (.session (targetKey ⟨js "bob", js "phone"⟩))
        Symbolic.serialSends.history = [(1, some 1), (0, some 0)] ∧
      NoLostUpdate Symbolic.serialSends := by
  have reached : (storeSystem fun _ => True).Reachable exclusiveRatchetRuns
      Symbolic.serialSends := by
    refine Pool.reachable_of_replay (fun pool turn checked => ?_) trivial _
    obtain ⟨admitted, alone⟩ := Bool.and_eq_true_iff.mp checked
    exact ⟨of_decide_eq_true admitted,
      (ratchet Symbolic.library).exclusive_of_alone (Pool.alone_sound alone)⟩
  exact ⟨by decide, no_lost_update reached⟩

/-- Two sends, the second of which loads the session before the first has saved it. -/
def Symbolic.overlappingSends : StorePool Symbolic.library :=
  (replayStore (fun pool turn => decide (ratchetRuns pool turn)) Symbolic.profile
    ([.start (Symbolic.send (js "one")), .start (Symbolic.send (js "two"))] ++
      List.replicate 4 (.advance 0) ++ List.replicate 6 (.advance 1) ++
      List.replicate 2 (.advance 0))).get (by decide)

/-- Both sends encrypt with the session as it was before them, and the second save
overwrites the first. -/
theorem overlapping_sends_reuse_state :
    ∃ pool, (storeSystem fun _ : Browser Symbolic.library => True).Reachable ratchetRuns pool ∧
      ¬ NoLostUpdate pool := by
  refine ⟨Symbolic.overlappingSends,
    Pool.reachable_of_replay (fun _ _ => of_decide_eq_true) trivial _, fun upheld => ?_⟩
  have same := upheld.distinct (.session (targetKey ⟨js "bob", js "phone"⟩)) 0 1 (some 0)
    (by decide) (by decide)
  cases same

end Vortex.Olm
