import Vortex.Olm.Pins

/-!
# Stored sessions and pinned identities

A session is built with the identity key of its remote device. Set-up checks that key
against the pin before it saves; receiving takes it from the pin, or from the identity
the directory claims, which it pins after it has saved the session. Receiving with
neither accepts the message on trust. So every stored session is with the pinned
identity, or with one that is about to be pinned, or with one accepted on trust.
-/

namespace Vortex.Olm

open Foundation

/-- What the library documents of the remote identity key a session is built with. -/
structure RemoteKeys (olm : OlmLibrary) (remote : olm.Session → JsString) : Prop where
  createOutbound : ∀ {seed account identityKey oneTimeKey session},
    olm.createOutbound seed account identityKey oneTimeKey = .ok session →
      remote session = identityKey
  createInboundFrom : ∀ {account identityKey body session},
    olm.createInboundFrom account identityKey body = .ok session → remote session = identityKey
  encrypt : ∀ seed session plaintext,
    remote (olm.encrypt seed session plaintext).1 = remote session
  decrypt : ∀ {session ciphertext advanced plaintext},
    olm.decrypt session ciphertext = .ok (advanced, plaintext) → remote advanced = remote session

variable {olm : OlmLibrary} {remote : olm.Session → JsString}

/-- The remote identity of the session that decrypting leaves behind. -/
theorem RemoteKeys.decryptMessage (keys : RemoteKeys olm remote) {account used : olm.Account}
    {stored : Option olm.Session} {advanced : olm.Session} {ciphertext : OlmCiphertext}
    {expected : Option JsString} {plaintext : JsString}
    (decrypted : decryptMessage olm account stored ciphertext expected =
      .ok (used, advanced, plaintext)) :
    (∃ session, stored = some session ∧ remote advanced = remote session) ∨
      (∃ key, expectedKey expected = some key ∧ remote advanced = key) ∨
      (expectedKey expected = none ∧ ∃ created,
        olm.createInbound account ciphertext.body = .ok created ∧
          remote advanced = remote created) := by
  obtain ⟨current, opened, ⟨same, -, -⟩ | ⟨established, -⟩⟩ := decryptMessage_eq_ok decrypted
  · exact .inl ⟨current, same, keys.decrypt opened⟩
  · obtain ⟨-, -, created⟩ := establishInbound_eq_ok established
    cases expectation : expectedKey expected with
    | some key =>
      rw [expectation] at created
      have built := keys.createInboundFrom created
      exact .inr (.inl ⟨key, rfl, (keys.decrypt opened).trans built⟩)
    | none =>
      rw [expectation] at created
      exact .inr (.inr ⟨rfl, current, created, keys.decrypt opened⟩)

variable (remote)

/-- A receive has saved a session made from its message while it had neither a pin nor a
usable identity from the directory to check the message against. -/
def AcceptedOnTrust (pool : StorePool olm) (key identityKey : JsString) : Prop :=
  ∃ index thread remoteUserId remoteDeviceId ciphertext identityHint,
    pool.threads[index]? = some thread ∧
    thread.call.operation = .decryptFrom remoteUserId remoteDeviceId ciphertext identityHint ∧
    thread.call.operation.peer? = some key ∧
    ∃ (account : WrappedBlob olm.Account) (pinned : Option PinnedIdentity)
      (created : olm.Session) (saved : WrappedBlob olm.Session),
      ⟨.idbGet .account, some account⟩ ∈ Pool.exchanges pool.history index ∧
      ⟨.idbGet (.pinnedIdentity key), pinned⟩ ∈ Pool.exchanges pool.history index ∧
      expectedKey ((pinned <|> identityHint).map PinnedIdentity.curve25519IdentityKey) = none ∧
      olm.createInbound account.content ciphertext.body = .ok created ∧
      remote created = identityKey ∧
      ⟨.idbPut (.session key) saved, ()⟩ ∈ Pool.exchanges pool.history index ∧
      remote saved.content = identityKey

/-- A receive that found no pin has saved a session and is about to pin the identity that
the directory claimed. -/
def AboutToPin (pool : StorePool olm) (key identityKey : JsString) : Prop :=
  ∃ index thread remoteUserId remoteDeviceId ciphertext identity,
    pool.threads[index]? = some thread ∧ thread.InFlight ∧
    thread.call.operation =
      .decryptFrom remoteUserId remoteDeviceId ciphertext (some identity) ∧
    thread.call.operation.peer? = some key ∧ identity.curve25519IdentityKey = identityKey ∧
    ⟨.idbGet (.pinnedIdentity key), none⟩ ∈ Pool.exchanges pool.history index ∧
    (∃ blob, ⟨.idbPut (.session key) blob, ()⟩ ∈ Pool.exchanges pool.history index) ∧
    ⟨.idbPut (.pinnedIdentity key) identity, ()⟩ ∉ Pool.exchanges pool.history index

/-- A remote identity key that a session stored under a key may have. -/
def Checked (pool : StorePool olm) (key identityKey : JsString) : Prop :=
  (∃ pinned, pool.shared.idb (.pinnedIdentity key) = some pinned ∧
      pinned.curve25519IdentityKey = identityKey) ∨
    AboutToPin pool key identityKey ∨ AcceptedOnTrust remote pool key identityKey

/-- Every stored session is checked, and so is every session that an operation has
loaded, in particular to encrypt with it. -/
structure SessionsChecked (pool : StorePool olm) : Prop where
  stored : ∀ key blob, pool.shared.idb (.session key) = some blob →
    Checked remote pool key (remote blob.content)
  loaded : ∀ index key blob,
    ⟨.idbGet (.session key), some blob⟩ ∈ Pool.exchanges pool.history index →
    Checked remote pool key (remote blob.content)

/-- The runs of set-up, sending and receiving whose first contacts do not overlap. -/
def pairwiseRuns (pool : StorePool olm) (turn : Turn StoreCall) : Prop :=
  starting Operation.Pairwise pool turn ∧
    (pinning olm).Exclusive (fun _ call => Browser.handle call.tab) pool turn

/-- Profiles whose sessions, if any, are with the pinned identities. -/
def SessionsPinned (browser : Browser olm) : Prop :=
  ∀ key blob, browser.idb (.session key) = some blob →
    ∃ pinned, browser.idb (.pinnedIdentity key) = some pinned ∧
      pinned.curve25519IdentityKey = remote blob.content

variable {remote}

section Runs

variable {initial : Browser olm → Prop}

/-- None of the three operations clears the database. -/
theorem uncleared_of_pairwise {pool : StorePool olm}
    (reached : (storeSystem initial).Reachable pairwiseRuns pool) {turn : Turn StoreCall}
    (admitted : pairwiseRuns pool turn) : unclearedPinRuns pool turn := by
  have starts : ∀ (pool : StorePool olm) call, pairwiseRuns pool (.start call) →
      call.operation.Pairwise := fun _ _ admitted => admitted.1
  have uncleared : clearsDatabase pool turn = false := by
    by_contra clears
    obtain ⟨index, call, next, rfl, found⟩ :=
      clearing_of_clearsDatabase (eq_true_of_ne_false clears)
    have pairwise : call.operation.Pairwise := Pool.calls_of_reachable starts reached found
    have rest := Pool.obeys_of_reachable reached found (runOperation_requests olm (.inl pairwise))
    have reset : call.operation = .resetOlmIdentity := rest.1
    rw [reset] at pairwise
    exact pairwise
  cases turn with
  | start call => exact ⟨⟨.inl (starts _ _ admitted), admitted.2⟩, uncleared⟩
  | advance index => exact ⟨⟨trivial, admitted.2⟩, uncleared⟩

/-- The pins seen since the start of such a run are those that are stored. -/
theorem pinsSince_start {pool : StorePool olm}
    (reached : (storeSystem initial).Reachable pairwiseRuns pool) :
    (storeSystem initial).Reachable exclusivePinRuns pool ∧
      ∀ index, ∀ exchange ∈ Pool.exchanges pool.history index, ∀ key pinned,
        ShowsPin key pinned exchange → pool.shared.idb (.pinnedIdentity key) = some pinned := by
  have uncleared : (storeSystem initial).Reachable unclearedPinRuns pool :=
    reached.admit fun _ _ earlier admitted => uncleared_of_pairwise earlier admitted
  obtain ⟨source, start, path⟩ := uncleared.from_initial
  obtain ⟨arrived, since⟩ := pins_since (.initial start) path
  obtain ⟨shared, -, rfl⟩ := start
  exact ⟨arrived, fun index => since.shown index (Nat.zero_le _)⟩

/-- A receive that has saved a session without a pin has written one, or is about to. -/
theorem checked_of_hint {pool : StorePool olm}
    (reached : (storeSystem initial).Reachable pairwiseRuns pool) {index : Nat}
    {thread : Thread (storeInterface olm) OlmError Outcome StoreCall}
    (found : pool.threads[index]? = some thread) {remoteUserId remoteDeviceId key : JsString}
    {ciphertext : OlmCiphertext} {identity : PinnedIdentity} (kind : thread.call.operation =
      .decryptFrom remoteUserId remoteDeviceId ciphertext (some identity))
    (peer : thread.call.operation.peer? = some key)
    (absent : ⟨.idbGet (.pinnedIdentity key), none⟩ ∈ Pool.exchanges pool.history index)
    {blob : WrappedBlob olm.Session}
    (saved : ⟨.idbPut (.session key) blob, ()⟩ ∈ Pool.exchanges pool.history index) :
    Checked remote pool key identity.curve25519IdentityKey := by
  by_cases written : ⟨.idbPut (.pinnedIdentity key) identity, ()⟩ ∈
      Pool.exchanges pool.history index
  · have stored := (pinsSince_start reached).2 index _ written key identity .written
    exact .inl ⟨identity, stored, rfl⟩
  · refine .inr (.inl ⟨index, thread, remoteUserId, remoteDeviceId, ciphertext, identity, found,
      ?_, kind, peer, rfl, absent, ⟨blob, saved⟩, written⟩)
    rw [thread.inFlight_iff_result?]
    by_contra finished
    obtain ⟨result, finished⟩ := Option.ne_none_iff_exists'.mp finished
    have handles : thread.call.operation.HandlesPins := .inl (by rw [kind]; trivial)
    have obeys := runOperation_requests olm handles
    have ended := Pool.ended_of_reachable reached found obeys finished
    rw [kind] at ended peer
    cases peer
    have wrote := ended identity blob rfl (Monitor.mem_remember_recorder.mpr ⟨saved, rfl⟩)
      (Monitor.mem_remember_recorder.mpr ⟨absent, rfl⟩)
    exact written (Monitor.mem_remember_recorder.mp wrote).1

/-- What a session may be with, it may be with ever after. -/
theorem Checked.of_step {before after : StorePool olm} {turn : Turn StoreCall}
    (reached : (storeSystem initial).Reachable pairwiseRuns before)
    (admitted : pairwiseRuns before turn) (moved : (storeSystem initial).step before turn after)
    {key identityKey : JsString} (checked : Checked remote before key identityKey) :
    Checked remote after key identityKey := by
  rcases checked with ⟨pinned, stored, same⟩ | pending | trusted
  · have uncleared := (uncleared_of_pairwise reached admitted).2
    exact .inl ⟨pinned, pin_kept (pinsSince_start reached).1 moved uncleared stored, same⟩
  · obtain ⟨index, thread, remoteUserId, remoteDeviceId, ciphertext, identity, found, -, kind, peer,
      rfl, absent, ⟨blob, saved⟩, -⟩ := pending
    obtain ⟨thread', found', call⟩ := Pool.call_of_step moved found
    rw [← call] at kind peer
    exact checked_of_hint (.step reached admitted moved) found' kind peer
      (Pool.exchanges_of_step moved absent) (Pool.exchanges_of_step moved saved)
  · obtain ⟨index, thread, remoteUserId, remoteDeviceId, ciphertext, identityHint, found, kind, peer,
      account, pinned, created, blob, opened, checked, unexpected, made, named, saved, same⟩ := trusted
    obtain ⟨thread', found', call⟩ := Pool.call_of_step moved found
    rw [← call] at kind peer
    exact .inr (.inr ⟨index, thread', remoteUserId, remoteDeviceId, ciphertext, identityHint, found',
      kind, peer, account, pinned, created, blob, Pool.exchanges_of_step moved opened,
      Pool.exchanges_of_step moved checked, unexpected, made, named,
      Pool.exchanges_of_step moved saved, same⟩)

/-- A session that an operation has saved may be with what it is with, if that was so of
every session the operation had loaded. -/
theorem checked_of_saved (keys : RemoteKeys olm remote) {pool : StorePool olm}
    (reached : (storeSystem initial).Reachable pairwiseRuns pool) {index : Nat}
    {thread : Thread (storeInterface olm) OlmError Outcome StoreCall}
    (found : pool.threads[index]? = some thread) {key : JsString} {blob : WrappedBlob olm.Session}
    (saved : ⟨.idbPut (.session key) blob, ()⟩ ∈ Pool.exchanges pool.history index)
    (loaded : ∀ stored, ⟨.idbGet (.session key), some stored⟩ ∈ Pool.exchanges pool.history index →
      Checked remote pool key (remote stored.content)) :
    Checked remote pool key (remote blob.content) := by
  have starts : ∀ (pool : StorePool olm) call, pairwiseRuns pool (.start call) →
      call.operation.Pairwise := fun _ _ admitted => admitted.1
  have handles : thread.call.operation.HandlesPins :=
    .inl (Pool.calls_of_reachable starts reached found)
  have obeys := runOperation_requests olm handles
  obtain ⟨seen, known, peer, origin⟩ := Pool.justified_of_reachable reached found obeys saved
  have pins := (pinsSince_start reached).2 index
  cases kind : thread.call.operation with
  | ensureOutboundSession remoteUserId remoteDeviceId bundle =>
    rw [kind] at origin
    obtain ⟨⟨seed, account, created⟩, checked⟩ := origin
    have built := keys.createOutbound (ok_of_mapError created)
    rcases checked with read | written
    · exact .inl ⟨_, pins _ (known _ read) key _ .read, built.symm⟩
    · exact .inl ⟨_, pins _ (known _ written) key _ .written, built.symm⟩
  | encryptTo remoteUserId remoteDeviceId plaintext =>
    rw [kind] at origin
    obtain ⟨seed, stored, read, advanced⟩ := origin
    have same : remote blob.content = remote stored.content := by
      rw [advanced]
      exact keys.encrypt seed stored.content plaintext
    rw [same]
    exact loaded stored (known _ read)
  | decryptFrom remoteUserId remoteDeviceId ciphertext identityHint =>
    rw [kind] at origin
    obtain ⟨account, stored, pinned, used, plaintext, opened, read, checked, decrypted⟩ := origin
    rcases keys.decryptMessage decrypted with ⟨session, same, kept⟩ | ⟨identityKey, expected, built⟩ |
      ⟨unexpected, created, made, built⟩
    · obtain ⟨blob', rfl, rfl⟩ := Option.map_eq_some_iff.mp same
      rw [kept]
      exact loaded blob' (known _ read)
    · obtain ⟨usable, -⟩ := Option.filter_eq_some_iff.mp expected
      obtain ⟨identity, resolved, rfl⟩ := Option.map_eq_some_iff.mp usable
      rw [built]
      cases pinned with
      | some shown =>
        cases resolved
        exact .inl ⟨_, pins _ (known _ checked) key _ .read, rfl⟩
      | none =>
        cases resolved
        exact checked_of_hint reached found kind peer (known _ checked) saved
    · exact .inr (.inr ⟨index, thread, remoteUserId, remoteDeviceId, ciphertext, identityHint, found,
        kind, peer, account, pinned, created, blob, known _ opened, known _ checked, unexpected, made,
        built.symm, saved, rfl⟩)
  | _ =>
    rw [kind] at origin
    exact origin.elim

/-- Where first contacts do not overlap, every stored session, and every session that is
encrypted with, is with the pinned identity, one about to be pinned, or one accepted on
trust. -/
theorem sessions_checked (keys : RemoteKeys olm remote) {pool : StorePool olm}
    (reached : (storeSystem (SessionsPinned remote)).Reachable pairwiseRuns pool) :
    SessionsChecked remote pool := by
  refine reached.invariant ?_ ?_
  · rintro _ ⟨browser, pinned, rfl⟩
    exact ⟨fun key blob stored => .inl (pinned key blob stored), nofun⟩
  · intro before turn after earlier checked admitted moved
    have later : (storeSystem (SessionsPinned remote)).Reachable pairwiseRuns after :=
      .step earlier admitted moved
    have loaded : ∀ index key blob,
        ⟨.idbGet (.session key), some blob⟩ ∈ Pool.exchanges after.history index →
        Checked remote after key (remote blob.content) := by
      intro index key blob issued
      rcases Pool.exchanges_step_cases moved issued with known | ⟨call, next, -, -, answered⟩
      · exact (checked.loaded index key blob known).of_step earlier admitted moved
      · obtain ⟨read, -⟩ := Browser.handle_idbGet answered
        exact (checked.stored key blob read.symm).of_step earlier admitted moved
    refine ⟨fun key blob stored => ?_, loaded⟩
    have known : before.shared.idb (.session key) = some blob →
        Checked remote after key (remote blob.content) :=
      fun stored => (checked.stored key blob stored).of_step earlier admitted moved
    obtain ⟨call, -, rfl⟩ | ⟨index, call, request, next, answer, shared, rfl, pending, answered,
      rfl⟩ := Pool.step_cases moved
    · exact known stored
    · change shared.idb _ = _ at stored
      rw [(Browser.moved_of_handle answered).idb] at stored
      cases request with
      | idbPut record value =>
          by_cases same : record = .session key
          · subst same
            rw [StoreRequest.onIdb, Function.update_self] at stored
            cases stored
            obtain ⟨bound, -⟩ := List.getElem?_eq_some_iff.mp pending
            exact checked_of_saved keys later (List.getElem?_set_self bound)
              (Pool.mem_exchanges.mpr ⟨_, List.mem_cons_self, rfl, rfl⟩) (loaded index key)
          · have other : Record.session key ≠ record := Ne.symm same
            rw [StoreRequest.onIdb, Function.update_of_ne other] at stored
            exact known stored
      | idbClearAll => cases stored
      | _ => exact known stored

end Runs

/-! ## A checked session, and one accepted on trust -/

theorem Symbolic.remoteKeys : RemoteKeys Symbolic.library Symbolic.Session.remote where
  createOutbound created := by
    cases created
    rfl
  createInboundFrom {account identityKey body session} created := by
    obtain ⟨made, -, chosen⟩ := ok_of_bind created
    by_cases expected : made.remote = identityKey
    · rw [if_pos expected] at chosen
      cases chosen
      exact expected
    · rw [if_neg expected] at chosen
      cases chosen
  encrypt _ _ _ := rfl
  decrypt {session ciphertext _ _} decrypted := by
    change Symbolic.decrypt session ciphertext = _ at decrypted
    unfold Symbolic.decrypt at decrypted
    split at decrypted
    · cases decrypted
    · split at decrypted <;> cases decrypted
      rfl

/-- Set-up and one message. -/
def Symbolic.established : StorePool Symbolic.library :=
  (replayStore (fun pool turn => decide (starting Operation.Pairwise pool turn) && pool.alone turn) Symbolic.registered
    ([.start (Symbolic.setUp 2)] ++ List.replicate 9 (.advance 0) ++
      [.start (Symbolic.send (js "hello"))] ++ List.replicate 6 (.advance 1))).get
    (by decide +kernel)

theorem established_session_checked :
    (Symbolic.established.shared.idb (.session (targetKey Symbolic.peer))).map
        (fun blob => blob.content.remote) = some (Symbolic.bundle 2).curve25519IdentityKey ∧
      SessionsChecked Symbolic.Session.remote Symbolic.established := by
  refine ⟨by decide +kernel, sessions_checked Symbolic.remoteKeys
    (Pool.reachable_of_replay (fun pool turn checked => ?_) ?_ _)⟩
  · obtain ⟨pairwise, alone⟩ := Bool.and_eq_true_iff.mp checked
    exact ⟨of_decide_eq_true pairwise, (pinning Symbolic.library).exclusive_of_alone
      (Pool.alone_sound alone)⟩
  · intro key blob stored
    cases stored

/-- One received message, without an identity from the directory. -/
def Symbolic.trusting : StorePool Symbolic.library :=
  (replayStore (fun pool turn => decide (starting Operation.Pairwise pool turn)) Symbolic.registered
    ([.start (Symbolic.receive Symbolic.greeting none)] ++ List.replicate 8 (.advance 0))).get
    (by decide)

/-- A message received without an identity to check it against leaves a session and no pin. -/
theorem trusted_session_unpinned :
    ¬ ∀ pool, (storeSystem fun browser : Browser Symbolic.library =>
        SessionsPinned Symbolic.Session.remote browser).Reachable
          (starting Operation.Pairwise) pool →
      ∀ key blob, pool.shared.idb (.session key) = some blob →
        ∃ pinned, pool.shared.idb (.pinnedIdentity key) = some pinned ∧
          pinned.curve25519IdentityKey = blob.content.remote := by
  intro claimed
  have stored : (Symbolic.trusting.shared.idb (.session (targetKey Symbolic.peer))).isSome := by
    decide
  have unpinned : Symbolic.trusting.shared.idb (.pinnedIdentity (targetKey Symbolic.peer)) =
      none := by
    decide
  obtain ⟨blob, found⟩ := Option.isSome_iff_exists.mp stored
  obtain ⟨pinned, present, -⟩ := claimed Symbolic.trusting
    (Pool.reachable_of_replay (fun _ _ => of_decide_eq_true) (fun _ _ stored => nomatch stored) _)
    _ blob found
  rw [unpinned] at present
  cases present

end Vortex.Olm
