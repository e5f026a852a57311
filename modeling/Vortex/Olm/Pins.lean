import Vortex.Foundation.ReadModifyWrite
import Vortex.Olm.Pairwise
import Vortex.Olm.Symbolic

/-!
# Identity pins

Trust on first use: the first identity an operation is presented with for a device is
pinned, in a transaction of its own some awaits after the read that found no pin. Where
no two such windows overlap, a pin stays as it was written until the database is
cleared. A later operation that is presented with another identity is refused if it has
to set up a session, and otherwise works with the pin alone.
-/

variable {pinned : PinnedIdentity} {key : JsString}

namespace Vortex.Olm

open Foundation

variable {olm : OlmLibrary}

/-- Finding no pin for an identity that is presented opens a first contact, writing the
pin ends it. -/
def pinning (olm : OlmLibrary) : Updating (storeInterface olm) StoreCall JsString where
  opens call exchange :=
    match exchange with
    | ⟨.idbGet (.pinnedIdentity key), stored⟩ =>
        if stored.isNone && call.operation.presents?.isSome then some key else none
    | _ => none
  saves request :=
    match request with
    | .idbPut (.pinnedIdentity key) _ => some key
    | _ => none
  apart := by
    rintro call ⟨request, answer⟩ key opened
    cases request <;> first | rfl | cases opened

theorem pinning_opens_iff {call : StoreCall} {read : JsString} {stored : Option PinnedIdentity} :
    (pinning olm).opens call ⟨.idbGet (.pinnedIdentity read), stored⟩ = some key ↔
      stored = none ∧ call.operation.presents?.isSome = true ∧ read = key := by
  simp only [pinning, Option.ite_none_right_eq_some, Bool.and_eq_true, Option.isNone_iff_eq_none,
    Option.some.injEq, and_assoc]

/-- The runs of the operations that read and write pins, with resets. -/
abbrev pinRuns : StorePool olm → Turn StoreCall → Prop := starting Operation.HandlesPins

/-- The runs whose first contacts with a device do not overlap. -/
def exclusivePinRuns (pool : StorePool olm) (turn : Turn StoreCall) : Prop :=
  pinRuns pool turn ∧ (pinning olm).Exclusive (fun _ call => Browser.handle call.tab) pool turn

/-- Whether a turn clears the database. -/
def clearsDatabase (pool : StorePool olm) : Turn StoreCall → Bool
  | .start _ => false
  | .advance index =>
      match pool.threads[index]? with
      | some ⟨_, .await .idbClearAll _⟩ => true
      | _ => false

theorem clearing_of_clearsDatabase {pool : StorePool olm} {turn : Turn StoreCall}
    (clears : clearsDatabase pool turn = true) : ∃ index call next, turn = .advance index ∧
      pool.threads[index]? = some ⟨call, .await .idbClearAll next⟩ := by
  cases turn with
  | start call => cases clears
  | advance index =>
    simp only [clearsDatabase] at clears
    split at clears
    · rename_i call next found
      exact ⟨index, call, next, rfl, found⟩
    · cases clears

theorem pinning_disciplined : (pinning olm).Disciplined (fun call => runOperation call.operation)
    (fun _ call => Browser.handle call.tab) exclusivePinRuns
    fun call => call.operation.HandlesPins where
  starts _ _ admitted := admitted.1
  exclusive _ _ admitted := admitted.2
  obeys call handles := by
    apply (pinning olm).obeys_of_recorder _ _ (runOperation_requests olm handles)
    · intro ⟨request, answer⟩ dropped
      cases request with
      | idbGet record => cases record <;> first | exact ⟨rfl, rfl⟩ | cases dropped
      | idbPut record value => cases record <;> first | exact ⟨rfl, rfl⟩ | cases dropped
      | _ => exact ⟨rfl, rfl⟩
    · intro seen request key allowed saves
      cases request with
      | idbPut record value =>
        cases record with
        | pinnedIdentity written =>
          cases saves
          obtain ⟨-, presented, absent, unwritten⟩ := allowed
          refine ⟨⟨_, absent, ?_⟩, fun exchange known saved => ?_⟩
          · exact pinning_opens_iff.mpr ⟨rfl, by rw [presented]; rfl, rfl⟩
          · obtain ⟨request, answer⟩ := exchange
            cases request with
            | idbPut record value =>
              cases record <;> cases saved
              exact unwritten value known
            | _ => cases saved
        | _ => cases saves
      | _ => cases saves

section Runs

variable {initial : Browser olm → Prop}

/-- During a first contact there is no pin. -/
theorem pin_absent {pool : StorePool olm}
    (reached : (storeSystem initial).Reachable exclusivePinRuns pool) {index : Nat}
    (holds : (pinning olm).Holds pool index key) :
    pool.shared.idb (.pinnedIdentity key) = none := by
  apply pinning_disciplined.kept (fun key (browser : Browser olm) =>
    browser.idb (.pinnedIdentity key) = none) _ _ reached holds
  · intro index call request before answer after key answered opened
    cases request with
    | idbGet record =>
      obtain ⟨read, same⟩ := Browser.handle_idbGet answered
      cases record with
      | pinnedIdentity asked =>
        obtain ⟨absent, -, rfl⟩ := pinning_opens_iff.mp opened
        rw [same, ← read, absent]
      | _ => cases opened
    | _ => cases opened
  · intro index call request before answer after key answered unsaved absent
    rw [(Browser.moved_of_handle answered).idb]
    cases request with
    | idbPut record value =>
      by_cases same : record = .pinnedIdentity key
      · subst same
        exact absurd rfl unsaved
      · have kept : Record.pinnedIdentity key ≠ record := Ne.symm same
        simp only [StoreRequest.onIdb, Function.update_of_ne kept, absent]
    | idbClearAll => rfl
    | _ => exact absent

/-- A step that does not clear the database keeps every pin. -/
theorem pin_kept {before after : StorePool olm} {turn : Turn StoreCall}
    (reached : (storeSystem initial).Reachable exclusivePinRuns before)
    (moved : (storeSystem initial).step before turn after)
    (uncleared : clearsDatabase before turn = false)
    (stored : before.shared.idb (.pinnedIdentity key) = some pinned) :
    after.shared.idb (.pinnedIdentity key) = some pinned := by
  obtain ⟨call, -, rfl⟩ | ⟨index, call, request, next, answer, shared, rfl, pending, answered,
    rfl⟩ := Pool.step_cases moved
  · exact stored
  · change shared.idb _ = _
    rw [(Browser.moved_of_handle answered).idb]
    cases request with
    | idbPut record value =>
      by_cases same : record = .pinnedIdentity key
      · subst same
        have absent := pin_absent reached (pinning_disciplined.holds_of_saves reached pending rfl)
        rw [stored] at absent
        cases absent
      · have kept : Record.pinnedIdentity key ≠ record := Ne.symm same
        simp only [StoreRequest.onIdb, Function.update_of_ne kept, stored]
    | idbClearAll => simp [clearsDatabase, pending] at uncleared
    | _ => exact stored

/-- An exchange that shows what is pinned. -/
inductive ShowsPin (key : JsString) (pinned : PinnedIdentity) :
    Proc.Exchange (storeInterface olm) → Prop
  | read : ShowsPin key pinned ⟨.idbGet (.pinnedIdentity key), some pinned⟩
  | written : ShowsPin key pinned ⟨.idbPut (.pinnedIdentity key) pinned, ()⟩

/-- What an exchange shows is pinned right after it. -/
theorem ShowsPin.stored {tab : Nat} {request : StoreRequest olm} {before after : Browser olm}
    {answer : (storeInterface olm).Answer request}
    (shows : ShowsPin key pinned (⟨request, answer⟩ : Proc.Exchange (storeInterface olm)))
    (answered : Browser.handle tab request before = some (answer, after)) :
    after.idb (.pinnedIdentity key) = some pinned := by
  cases shows with
  | read =>
    obtain ⟨read, rfl⟩ := Browser.handle_idbGet answered
    exact read.symm
  | written =>
    rw [(Browser.moved_of_handle answered).idb]
    exact Function.update_self _ _ _

/-- The pins on a path without clearing: those there at its start are still there, and
so is every pin that an operation started on the path has read or written. -/
structure PinsSince (origin pool : StorePool olm) : Prop where
  kept : ∀ key pinned, origin.shared.idb (.pinnedIdentity key) = some pinned →
    pool.shared.idb (.pinnedIdentity key) = some pinned
  shown : ∀ index, origin.threads.length ≤ index →
    ∀ exchange ∈ Pool.exchanges pool.history index, ∀ key pinned, ShowsPin key pinned exchange →
      pool.shared.idb (.pinnedIdentity key) = some pinned

/-- The runs on which the database is not cleared. -/
def unclearedPinRuns (pool : StorePool olm) (turn : Turn StoreCall) : Prop :=
  exclusivePinRuns pool turn ∧ clearsDatabase pool turn = false

theorem pins_since {origin pool : StorePool olm}
    (reached : (storeSystem initial).Reachable exclusivePinRuns origin)
    (path : (storeSystem initial).Steps unclearedPinRuns origin pool) :
    (storeSystem initial).Reachable exclusivePinRuns pool ∧ PinsSince origin pool := by
  refine path.invariant (P := fun pool => (storeSystem initial).Reachable exclusivePinRuns pool ∧
    PinsSince origin pool) ?_ ⟨reached, fun _ _ stored => stored, ?_⟩
  · intro before turn after ⟨earlier, since⟩ ⟨admitted, uncleared⟩ moved
    refine ⟨.step earlier admitted moved,
      fun key pinned stored => pin_kept earlier moved uncleared (since.kept key pinned stored), ?_⟩
    rintro index young ⟨request, answer⟩ issued key pinned shows
    rcases Pool.exchanges_step_cases moved issued with known | ⟨call, next, -, -, answered⟩
    · exact pin_kept earlier moved uncleared (since.shown index young _ known key pinned shows)
    · exact shows.stored answered
  · intro index young exchange issued
    rw [Pool.exchanges_eq_nil reached (List.getElem?_eq_none young)] at issued
    cases issued

/-- Pins since a point of a run. A finished operation that was started since and was
presented with another identity than the pinned one has done nothing with it: set-up
was refused unless it found a stored session, and saved none; receiving worked with the
pinned key in its place. -/
structure PinsUpheld (origin pool : StorePool olm) : Prop where
  immutable : ∀ key pinned, origin.shared.idb (.pinnedIdentity key) = some pinned →
    pool.shared.idb (.pinnedIdentity key) = some pinned
  outbound : ∀ index thread result remoteUserId remoteDeviceId bundle pinned,
    origin.threads.length ≤ index → pool.threads[index]? = some thread →
    thread.call.operation = .ensureOutboundSession remoteUserId remoteDeviceId bundle →
    thread.result? = some result →
    pool.shared.idb (.pinnedIdentity (targetKey ⟨remoteUserId, remoteDeviceId⟩)) = some pinned →
    pinned ≠ bundle.identity →
      (∀ key blob, ⟨.idbPut (.session key) blob, ()⟩ ∉ Pool.exchanges pool.history index) ∧
        (⟨.idbGet (.session (targetKey ⟨remoteUserId, remoteDeviceId⟩)), none⟩ ∈
            Pool.exchanges pool.history index →
          result = .error (if verifyKeyBundleSignature olm remoteUserId remoteDeviceId bundle then
              .identityMismatch remoteUserId remoteDeviceId
            else .message (js "Untrusted key bundle signature for " ++
              targetKey ⟨remoteUserId, remoteDeviceId⟩)))
  inbound : ∀ index thread result remoteUserId remoteDeviceId ciphertext identity pinned,
    origin.threads.length ≤ index → pool.threads[index]? = some thread →
    thread.call.operation = .decryptFrom remoteUserId remoteDeviceId ciphertext (some identity) →
    thread.result? = some result →
    pool.shared.idb (.pinnedIdentity (targetKey ⟨remoteUserId, remoteDeviceId⟩)) = some pinned →
    pinned ≠ identity →
      ∀ key blob, ⟨.idbPut (.session key) blob, ()⟩ ∈ Pool.exchanges pool.history index →
        ∃ (account : WrappedBlob olm.Account) (stored : Option (WrappedBlob olm.Session))
          (used : olm.Account) (plaintext : JsString),
          ⟨.idbGet .account, some account⟩ ∈ Pool.exchanges pool.history index ∧
          ⟨.idbGet (.session key), stored⟩ ∈ Pool.exchanges pool.history index ∧
          decryptMessage olm account.content (stored.map WrappedBlob.content) ciphertext
            (some pinned.curve25519IdentityKey) = .ok (used, blob.content, plaintext)

theorem outbound_upheld {origin pool : StorePool olm}
    (reached : (storeSystem initial).Reachable exclusivePinRuns pool)
    (since : PinsSince origin pool) {index : Nat}
    {thread : Thread (storeInterface olm) OlmError Outcome StoreCall}
    (young : origin.threads.length ≤ index) (found : pool.threads[index]? = some thread)
    {remoteUserId remoteDeviceId : JsString} {bundle : OlmKeyBundle}
    (kind : thread.call.operation = .ensureOutboundSession remoteUserId remoteDeviceId bundle)
    {pinned : PinnedIdentity}
    (stored : pool.shared.idb (.pinnedIdentity (targetKey ⟨remoteUserId, remoteDeviceId⟩)) =
      some pinned) (different : pinned ≠ bundle.identity) :
    (∀ key blob, ⟨.idbPut (.session key) blob, ()⟩ ∉ Pool.exchanges pool.history index) ∧
      ∀ result, thread.result? = some result →
        ⟨.idbGet (.session (targetKey ⟨remoteUserId, remoteDeviceId⟩)), none⟩ ∈
          Pool.exchanges pool.history index →
        result = .error (if verifyKeyBundleSignature olm remoteUserId remoteDeviceId bundle then
            .identityMismatch remoteUserId remoteDeviceId
          else .message (js "Untrusted key bundle signature for " ++
            targetKey ⟨remoteUserId, remoteDeviceId⟩)) := by
  have handles : thread.call.operation.HandlesPins := .inl (by rw [kind]; trivial)
  have obeys := runOperation_requests olm handles
  have unshown : ∀ exchange ∈ Pool.exchanges pool.history index,
      ¬ ShowsPin (targetKey ⟨remoteUserId, remoteDeviceId⟩) bundle.identity exchange := by
    intro exchange issued shows
    have known := since.shown index young exchange issued _ _ shows
    rw [stored] at known
    exact different (Option.some.inj known)
  refine ⟨fun key blob issued => ?_, fun result finished absent => ?_⟩
  · obtain ⟨seen, known, allowed⟩ := Pool.justified_of_reachable reached found obeys issued
    rw [kind] at allowed
    obtain ⟨same, -, shown | shown⟩ := allowed
    · cases same
      exact unshown _ (known _ shown) .read
    · cases same
      exact unshown _ (known _ shown) .written
  · have ended := Pool.ended_of_reachable reached found obeys finished
    rw [kind] at ended
    have read := ended (Monitor.mem_remember_recorder.mpr ⟨absent, rfl⟩)
    by_cases verified : verifyKeyBundleSignature olm remoteUserId remoteDeviceId bundle = true
    · rw [if_pos verified] at read
      obtain ⟨answer, known, written, refused⟩ := read
      cases answer with
      | none =>
        have wrote := Monitor.mem_remember_recorder.mp (written rfl)
        exact absurd .written (unshown _ wrote.1)
      | some identity =>
        have shown :=
          since.shown index young _ (Monitor.mem_remember_recorder.mp known).1 _ _ .read
        rw [stored] at shown
        cases shown
        rw [if_pos verified]
        exact refused pinned rfl different
    · rw [if_neg verified] at read ⊢
      exact read

theorem inbound_upheld {origin pool : StorePool olm}
    (reached : (storeSystem initial).Reachable exclusivePinRuns pool)
    (since : PinsSince origin pool) {index : Nat}
    {thread : Thread (storeInterface olm) OlmError Outcome StoreCall}
    {result : Except OlmError Outcome}
    (young : origin.threads.length ≤ index) (found : pool.threads[index]? = some thread)
    {remoteUserId remoteDeviceId : JsString} {ciphertext : OlmCiphertext}
    {identity pinned : PinnedIdentity} (kind : thread.call.operation =
      .decryptFrom remoteUserId remoteDeviceId ciphertext (some identity))
    (finished : thread.result? = some result)
    (stored : pool.shared.idb (.pinnedIdentity (targetKey ⟨remoteUserId, remoteDeviceId⟩)) =
      some pinned) (different : pinned ≠ identity) {key : JsString} {blob : WrappedBlob olm.Session}
    (issued : ⟨.idbPut (.session key) blob, ()⟩ ∈ Pool.exchanges pool.history index) :
    ∃ (account : WrappedBlob olm.Account) (stored : Option (WrappedBlob olm.Session))
      (used : olm.Account) (plaintext : JsString),
      ⟨.idbGet .account, some account⟩ ∈ Pool.exchanges pool.history index ∧
      ⟨.idbGet (.session key), stored⟩ ∈ Pool.exchanges pool.history index ∧
      decryptMessage olm account.content (stored.map WrappedBlob.content) ciphertext
        (some pinned.curve25519IdentityKey) = .ok (used, blob.content, plaintext) := by
  have handles : thread.call.operation.HandlesPins := .inl (by rw [kind]; trivial)
  have obeys := runOperation_requests olm handles
  obtain ⟨seen, known, allowed⟩ := Pool.justified_of_reachable reached found obeys issued
  rw [kind] at allowed
  obtain ⟨same, account, session, read, used, plaintext, opened, loaded, checked, decrypted⟩ :=
    allowed
  cases same
  cases read with
  | some shown =>
    have agrees := since.shown index young _ (known _ checked) _ _ .read
    rw [stored] at agrees
    cases agrees
    exact ⟨account, session, used, plaintext, known _ opened, known _ loaded, decrypted⟩
  | none =>
    -- It has pinned the identity itself, so that is what is pinned.
    have ended := Pool.ended_of_reachable reached found obeys finished
    rw [kind] at ended
    have wrote := ended identity blob rfl (Monitor.mem_remember_recorder.mpr ⟨issued, rfl⟩)
      (Monitor.mem_remember_recorder.mpr ⟨known _ checked, rfl⟩)
    have agrees :=
      since.shown index young _ (Monitor.mem_remember_recorder.mp wrote).1 _ _ .written
    rw [stored] at agrees
    exact absurd (Option.some.inj agrees) different

/-- Where first contacts do not overlap, pins do not change until the database is
cleared, and no operation acts on an identity that differs from the pinned one. -/
theorem pins_upheld {origin pool : StorePool olm}
    (reached : (storeSystem initial).Reachable exclusivePinRuns origin)
    (path : (storeSystem initial).Steps unclearedPinRuns origin pool) : PinsUpheld origin pool := by
  obtain ⟨arrived, since⟩ := pins_since reached path
  refine ⟨since.kept, ?_, ?_⟩
  · intro index thread result remoteUserId remoteDeviceId bundle pinned young found kind finished
      stored different
    obtain ⟨unsaved, refused⟩ := outbound_upheld arrived since young found kind stored different
    exact ⟨unsaved, refused result finished⟩
  · intro index thread result remoteUserId remoteDeviceId ciphertext identity pinned young found
      kind finished stored different key blob issued
    exact inbound_upheld arrived since young found kind finished stored different issued

end Runs

/-! ## Changed identities -/

/-- Set-up with identity 3 in a profile that has pinned identity 2. -/
def Symbolic.substituted : StorePool Symbolic.library :=
  (replayStore (fun pool turn => decide (pinRuns pool turn) && pool.alone turn &&
      !clearsDatabase pool turn)
    (Symbolic.registered.put (.pinnedIdentity (targetKey Symbolic.peer))
      (Symbolic.bundle 2).identity)
    ([.start (Symbolic.setUp 3)] ++ List.replicate 5 (.advance 0))).get (by decide +kernel)

theorem substituted_identity_refused :
    (Symbolic.substituted.threads[0]?.bind Thread.result?) =
        some (.error (.identityMismatch Symbolic.peer.userId Symbolic.peer.deviceId)) ∧
      PinsUpheld (Pool.fresh (Symbolic.registered.put (.pinnedIdentity (targetKey Symbolic.peer))
        (Symbolic.bundle 2).identity)) Symbolic.substituted := by
  have start : (storeSystem fun _ : Browser Symbolic.library => True).Reachable exclusivePinRuns
      (Pool.fresh (Symbolic.registered.put (.pinnedIdentity (targetKey Symbolic.peer))
        (Symbolic.bundle 2).identity)) := .initial ⟨_, trivial, rfl⟩
  refine ⟨by decide +kernel, pins_upheld start
    (System.steps_of_follow (fun pool turn checked => ?_) (Option.some_get _).symm)⟩
  obtain ⟨both, uncleared⟩ := Bool.and_eq_true_iff.mp checked
  obtain ⟨admitted, alone⟩ := Bool.and_eq_true_iff.mp both
  exact ⟨⟨of_decide_eq_true admitted, (pinning Symbolic.library).exclusive_of_alone
    (Pool.alone_sound alone)⟩, Bool.not_eq_true' _ |>.mp uncleared⟩

/-- Set-up with identity 2, then again with identity 3. -/
def Symbolic.reused : StorePool Symbolic.library :=
  (replayStore (fun pool turn => decide (pinRuns pool turn)) Symbolic.registered
    ([.start (Symbolic.setUp 2)] ++ List.replicate 9 (.advance 0) ++
      [.start (Symbolic.setUp 3)] ++ List.replicate 4 (.advance 1))).get (by decide +kernel)

/-- Two set-ups that have both found no pin, the first of which has then written its own. -/
def Symbolic.overlapping : StorePool Symbolic.library :=
  (replayStore (fun pool turn => decide (pinRuns pool turn)) Symbolic.registered
    ([.start (Symbolic.setUp 2), .start (Symbolic.setUp 3)] ++ List.replicate 5 (.advance 0) ++
      List.replicate 5 (.advance 1) ++ [.advance 0])).get (by decide +kernel)

/-- The second of them has written its own as well. -/
def Symbolic.overwritten : StorePool Symbolic.library :=
  (Symbolic.overlapping.advance (fun _ call => Browser.handle call.tab) 1).get (by decide +kernel)

/-- Overlapping first contacts overwrite each other's pins, and set-up that finds a
session does not look at the identity it is presented with. -/
theorem pins_not_always_upheld :
    (¬ ∀ pool later, (storeSystem fun _ : Browser Symbolic.library => True).Reachable pinRuns pool →
      (storeSystem fun _ => True).Steps (fun pool turn => pinRuns pool turn ∧
        clearsDatabase pool turn = false) pool later →
      ∀ key pinned, pool.shared.idb (.pinnedIdentity key) = some pinned →
        later.shared.idb (.pinnedIdentity key) = some pinned) ∧
    ¬ ∀ pool, (storeSystem fun _ : Browser Symbolic.library => True).Reachable pinRuns pool →
      ∀ (index : Nat) (thread : Thread (storeInterface Symbolic.library) OlmError Outcome StoreCall)
        (result : Except OlmError Outcome) (identity pinned : PinnedIdentity) (key : JsString),
        pool.threads[index]? = some thread → thread.result? = some result →
        thread.call.operation.peer? = some key →
        thread.call.operation.presents? = some identity →
        pool.shared.idb (.pinnedIdentity key) = some pinned → pinned ≠ identity →
          ∃ remoteUserId remoteDeviceId,
            result = .error (.identityMismatch remoteUserId remoteDeviceId) := by
  refine ⟨fun claimed => ?_, fun claimed => ?_⟩
  · have reached : (storeSystem fun _ : Browser Symbolic.library => True).Reachable pinRuns
        Symbolic.overlapping :=
      Pool.reachable_of_replay (fun _ _ => of_decide_eq_true) trivial _
    have moved : (storeSystem fun _ : Browser Symbolic.library => True).step Symbolic.overlapping
        (.advance 1) Symbolic.overwritten := (Option.some_get _).symm
    have admitted : pinRuns Symbolic.overlapping (.advance 1) ∧
        clearsDatabase Symbolic.overlapping (.advance 1) = false := ⟨trivial, by decide +kernel⟩
    have kept := claimed _ _ reached (.single admitted moved) (targetKey Symbolic.peer)
      (Symbolic.bundle 2).identity (by decide +kernel)
    have lost : Symbolic.overwritten.shared.idb (.pinnedIdentity (targetKey Symbolic.peer)) ≠
        some (Symbolic.bundle 2).identity := by decide +kernel
    exact lost kept
  · have reached : (storeSystem fun _ : Browser Symbolic.library => True).Reachable pinRuns
        Symbolic.reused :=
      Pool.reachable_of_replay (fun _ _ => of_decide_eq_true) trivial _
    have second : Symbolic.reused.threads[1]?.map (fun thread =>
        (thread.result?, thread.call.operation.peer?, thread.call.operation.presents?)) =
        some (some (.ok .finished), some (targetKey Symbolic.peer),
          some (Symbolic.bundle 3).identity) := by decide +kernel
    obtain ⟨thread, found, same⟩ := Option.map_eq_some_iff.mp second
    simp only [Prod.mk.injEq] at same
    obtain ⟨finished, peer, presented⟩ := same
    obtain ⟨_, _, refused⟩ := claimed _ reached 1 thread _ (Symbolic.bundle 3).identity
      (Symbolic.bundle 2).identity (targetKey Symbolic.peer) found finished peer presented
      (by decide +kernel) (by decide)
    cases refused

end Vortex.Olm
