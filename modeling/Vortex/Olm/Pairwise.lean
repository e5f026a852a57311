import Vortex.Olm.Operations

/-!
# What the pairwise operations request

Session set-up, sending and receiving read the account, a session and a pin, and write
sessions and pins. For each of these operations this module says what every write is
derived from, in terms of what the operation has read, and how the operation ends.
-/

namespace Vortex.Olm

open Foundation

variable {olm : OlmLibrary}

/-- What an operation has exchanged with the store, oldest first. -/
abbrev Seen (olm : OlmLibrary) : Type := List (Proc.Exchange (storeInterface olm))

/-- Every request that is not about the wrap key. -/
def StoreRequest.pastWrapKey : StoreRequest olm → Bool
  | .joinWrapKey | .awaitWrapKey _ | .settleWrapKey _ _ | .generateKey | .idbGet .wrapKey
  | .idbPut .wrapKey _ => false
  | _ => true

namespace Operation

/-- The operations between this device and one other device. -/
def Pairwise : Operation → Prop
  | .ensureOutboundSession _ _ _ | .encryptTo _ _ _ | .decryptFrom _ _ _ _ => True
  | _ => False

instance : DecidablePred Operation.Pairwise := fun operation =>
  match operation with
  | .ensureOutboundSession _ _ _ | .encryptTo _ _ _ | .decryptFrom _ _ _ _ => .isTrue trivial
  | .ensureOlmIdentity _ | .topUpOneTimeKeys _ _ _ | .hasSessionWith _ | .saveOwnPlaintext _ _
  | .loadOwnPlaintext _ | .resetOlmIdentity => .isFalse id

/-- The operations that read or write pins, and the one that clears them. -/
def HandlesPins (operation : Operation) : Prop :=
  operation.Pairwise ∨ operation = .resetOlmIdentity

instance : DecidablePred Operation.HandlesPins := fun operation =>
  match operation with
  | .ensureOutboundSession _ _ _ | .encryptTo _ _ _ | .decryptFrom _ _ _ _ =>
      .isTrue (.inl trivial)
  | .resetOlmIdentity => .isTrue (.inr rfl)
  | .ensureOlmIdentity _ | .topUpOneTimeKeys _ _ _ | .hasSessionWith _ | .saveOwnPlaintext _ _
  | .loadOwnPlaintext _ => .isFalse (Or.rec id nofun)

/-- The key of the device an operation is about. -/
def peer? : Operation → Option JsString
  | .ensureOutboundSession remoteUserId remoteDeviceId _
  | .encryptTo remoteUserId remoteDeviceId _
  | .decryptFrom remoteUserId remoteDeviceId _ _ => some (targetKey ⟨remoteUserId, remoteDeviceId⟩)
  | _ => none

/-- The identity an operation is presented with for that device. -/
def presents? : Operation → Option PinnedIdentity
  | .ensureOutboundSession _ _ bundle => some bundle.identity
  | .decryptFrom _ _ _ identityHint => identityHint
  | _ => none

/-- What a session that an operation saves under a key is derived from. -/
def SessionFrom (seen : Seen olm) (key : JsString) (session : olm.Session) : Operation → Prop
  | .ensureOutboundSession _ _ bundle =>
      (∃ seed account, createOutboundSession olm seed account bundle = .ok session) ∧
        (⟨.idbGet (.pinnedIdentity key), some bundle.identity⟩ ∈ seen ∨
          ⟨.idbPut (.pinnedIdentity key) bundle.identity, ()⟩ ∈ seen)
  | .encryptTo _ _ plaintext => ∃ seed loaded, ⟨.idbGet (.session key), some loaded⟩ ∈ seen ∧
      session = (encryptMessage olm seed loaded.content plaintext).1
  | .decryptFrom _ _ ciphertext identityHint =>
      ∃ (account : WrappedBlob olm.Account) (stored : Option (WrappedBlob olm.Session))
        (pinned : Option PinnedIdentity) (used : olm.Account) (plaintext : JsString),
        ⟨.idbGet .account, some account⟩ ∈ seen ∧ ⟨.idbGet (.session key), stored⟩ ∈ seen ∧
        ⟨.idbGet (.pinnedIdentity key), pinned⟩ ∈ seen ∧
        decryptMessage olm account.content (stored.map WrappedBlob.content) ciphertext
          ((pinned <|> identityHint).map PinnedIdentity.curve25519IdentityKey) =
            .ok (used, session, plaintext)
  | _ => False

/-- What an operation may request after what it has seen. -/
def Requests (operation : Operation) (seen : Seen olm) : StoreRequest olm → Prop
  | .idbPut (.session key) blob =>
      operation.peer? = some key ∧ operation.SessionFrom seen key blob.content
  | .idbPut (.pinnedIdentity key) identity =>
      operation.peer? = some key ∧ operation.presents? = some identity ∧
        ⟨.idbGet (.pinnedIdentity key), none⟩ ∈ seen ∧
        ∀ pinned, ⟨.idbPut (.pinnedIdentity key) pinned, ()⟩ ∉ seen
  | .idbClearAll => operation = .resetOlmIdentity
  | _ => True

/-- How an operation ends after what it has seen. -/
def Ends (seen : Seen olm) (result : Except OlmError Outcome) : Operation → Prop
  | .ensureOutboundSession remoteUserId remoteDeviceId bundle =>
      let key := targetKey ⟨remoteUserId, remoteDeviceId⟩
      ⟨.idbGet (.session key), none⟩ ∈ seen →
        if verifyKeyBundleSignature olm remoteUserId remoteDeviceId bundle then
          ∃ pinned, ⟨.idbGet (.pinnedIdentity key), pinned⟩ ∈ seen ∧
            (pinned = none → ⟨.idbPut (.pinnedIdentity key) bundle.identity, ()⟩ ∈ seen) ∧
            ∀ identity, pinned = some identity → identity ≠ bundle.identity →
              result = .error (.identityMismatch remoteUserId remoteDeviceId)
        else result = .error (.message (js "Untrusted key bundle signature for " ++ key))
  | .decryptFrom remoteUserId remoteDeviceId _ identityHint =>
      let key := targetKey ⟨remoteUserId, remoteDeviceId⟩
      ∀ identity blob, identityHint = some identity → ⟨.idbPut (.session key) blob, ()⟩ ∈ seen →
        ⟨.idbGet (.pinnedIdentity key), none⟩ ∈ seen →
          ⟨.idbPut (.pinnedIdentity key) identity, ()⟩ ∈ seen
  | _ => True

end Operation

/-- The monitor of an operation: what it exchanges past the wrap key. -/
abbrev requestLog (operation : Operation) : Monitor (storeInterface olm) (Seen olm) :=
  .recorder StoreRequest.pastWrapKey operation.Requests

theorem wrapKey_requestLog (operation : Operation) (seen : Seen olm) (request : StoreRequest olm)
    (wrap : StoreRequest.ForWrapKey request) :
    (requestLog operation).allows seen request ∧
      ∀ answer, (requestLog operation).next seen ⟨request, answer⟩ = seen := by
  cases wrap <;> exact ⟨trivial, fun _ => rfl⟩

section Operations

variable (remoteUserId remoteDeviceId : JsString)

theorem encryptTo_requests (plaintext : JsString) :
    (runOperation (.encryptTo remoteUserId remoteDeviceId plaintext) : StoreProc olm Outcome).Obeys
      (requestLog (.encryptTo remoteUserId remoteDeviceId plaintext))
      (fun seen result => (Operation.encryptTo remoteUserId remoteDeviceId plaintext).Ends
        seen result) [] := by
  refine .bind (.bind (getOrCreateWrapKey_obeys (wrapKey_requestLog _ _) fun wrapKey => ?_))
  refine .bind (loadSession_obeys trivial trivial (fun _ => trivial) fun loaded _ => ?_)
  refine ⟨trivial, fun seed => ⟨⟨rfl, ?_⟩, fun _ => trivial⟩⟩
  exact ⟨seed, loaded, List.mem_cons_self, rfl⟩

/-- Set-up has checked the identity of its bundle: it was pinned already, or is pinned now. -/
def CheckedIn (seen : Seen olm) (key : JsString) (identity : PinnedIdentity) : Prop :=
  ⟨.idbGet (.pinnedIdentity key), some identity⟩ ∈ seen ∨
    (⟨.idbGet (.pinnedIdentity key), none⟩ ∈ seen ∧
      ⟨.idbPut (.pinnedIdentity key) identity, ()⟩ ∈ seen)

theorem CheckedIn.append {seen : Seen olm} {key : JsString} {identity : PinnedIdentity}
    (checked : CheckedIn seen key identity) (later : Seen olm) :
    CheckedIn (seen ++ later) key identity :=
  checked.imp (List.mem_append_left _) (And.imp (List.mem_append_left _) (List.mem_append_left _))

/-- Once the identity is checked, set-up may end in any way. -/
theorem CheckedIn.ends {remoteUserId remoteDeviceId : JsString} {bundle : OlmKeyBundle}
    (verified : verifyKeyBundleSignature olm remoteUserId remoteDeviceId bundle = true)
    {seen : Seen olm}
    (checked : CheckedIn seen (targetKey ⟨remoteUserId, remoteDeviceId⟩) bundle.identity)
    (result : Except OlmError Outcome) :
    (Operation.ensureOutboundSession remoteUserId remoteDeviceId bundle).Ends seen result := by
  intro _
  rw [if_pos verified]
  rcases checked with known | ⟨absent, written⟩
  · refine ⟨_, known, nofun, fun identity same different => ?_⟩
    cases same
    exact absurd rfl different
  · exact ⟨none, absent, fun _ => written, nofun⟩

theorem ensureOutboundSession_requests (bundle : OlmKeyBundle) :
    (runOperation (.ensureOutboundSession remoteUserId remoteDeviceId bundle) :
        StoreProc olm Outcome).Obeys
      (requestLog (.ensureOutboundSession remoteUserId remoteDeviceId bundle))
      (fun seen result => (Operation.ensureOutboundSession remoteUserId remoteDeviceId bundle).Ends
        seen result) [] := by
  refine .bind (.bind (getOrCreateWrapKey_obeys (wrapKey_requestLog _ _) fun wrapKey => ?_))
  have reuses : ∀ (blob : WrappedBlob olm.Session) result,
      (Operation.ensureOutboundSession remoteUserId remoteDeviceId bundle).Ends
        [⟨.idbGet (.session (targetKey ⟨remoteUserId, remoteDeviceId⟩)), some blob⟩] result := by
    intro blob result absent
    cases List.mem_singleton.mp absent
  refine .bind (loadSession_obeys trivial ?_ (fun blob => reuses blob _) fun blob _ => reuses blob _)
  change Proc.Obeys _ _ (if verifyKeyBundleSignature olm remoteUserId remoteDeviceId bundle then
    _ else _) _
  by_cases verified : verifyKeyBundleSignature olm remoteUserId remoteDeviceId bundle = true
  · rw [if_pos verified]
    suffices tail : ∀ seen : Seen olm,
        CheckedIn seen (targetKey ⟨remoteUserId, remoteDeviceId⟩) bundle.identity →
        Proc.Then (requestLog (.ensureOutboundSession remoteUserId remoteDeviceId bundle))
          _ _ seen (.ok ()) by
      refine .bind (checkAndPinIdentity_obeys trivial ⟨⟨rfl, rfl, ?_, ?_⟩, fun _ => tail _ ?_⟩
        (tail _ ?_) ?_)
      · exact List.mem_cons_of_mem _ List.mem_cons_self
      · intro pinned written
        have either := List.mem_pair.mp written
        rcases either with same | same <;> cases same
      · exact .inr ⟨List.mem_cons_of_mem _ List.mem_cons_self,
          List.mem_cons_of_mem _ (List.mem_cons_of_mem _ List.mem_cons_self)⟩
      · exact .inl (List.mem_cons_of_mem _ List.mem_cons_self)
      · intro pinned different _
        rw [if_pos verified]
        refine ⟨_, List.mem_cons_of_mem _ List.mem_cons_self, nofun, fun identity _ _ => rfl⟩
    intro seen checked
    refine .bind (loadAccount_obeys trivial ((checked.append _).ends verified _)
      (fun _ => (checked.append _).ends verified _) fun account _ => ?_)
    refine ⟨trivial, fun seed => ?_⟩
    change Proc.Obeys _ _ (.done (createOutboundSession olm seed account.content bundle) >>= _) _
    refine .bind (.done (fun session created => ⟨⟨rfl, ⟨seed, account.content, created⟩, ?_⟩,
      fun _ => ?_⟩) fun error _ => ?_)
    · exact ((checked.append _).append _).imp id And.right
    · exact (((checked.append _).append _).append _).ends verified _
    · exact ((checked.append _).append _).ends verified _
  · rw [if_neg verified]
    intro _
    rw [if_neg verified]

theorem decryptFrom_requests (ciphertext : OlmCiphertext) (identityHint : Option PinnedIdentity) :
    (runOperation (.decryptFrom remoteUserId remoteDeviceId ciphertext identityHint) :
        StoreProc olm Outcome).Obeys
      (requestLog (.decryptFrom remoteUserId remoteDeviceId ciphertext identityHint))
      (fun seen result => (Operation.decryptFrom remoteUserId remoteDeviceId ciphertext
        identityHint).Ends seen result) [] := by
  refine .bind (.bind (getOrCreateWrapKey_obeys (wrapKey_requestLog _ _) fun wrapKey => ?_))
  have unsaved : ∀ (seen : Seen olm) result,
      (∀ blob, ⟨.idbPut (.session (targetKey ⟨remoteUserId, remoteDeviceId⟩)) blob, ()⟩ ∉ seen) →
      (Operation.decryptFrom remoteUserId remoteDeviceId ciphertext identityHint).Ends
        seen result := by
    intro seen result absent identity blob _ saved
    exact absurd saved (absent blob)
  refine .bind (loadAccount_obeys trivial
    (unsaved _ (.error (.message (js "No local Olm identity"))) ?_)
    (fun blob => unsaved _ (.error .sealBroken) ?_) fun account _ => ?_)
  · simp [Monitor.recorder, StoreRequest.pastWrapKey]
  · simp [Monitor.recorder, StoreRequest.pastWrapKey]
  suffices loaded : ∀ stored session, stored.map WrappedBlob.content = session → Proc.Then
      (requestLog (.decryptFrom remoteUserId remoteDeviceId ciphertext identityHint)) _ _
      ((requestLog (.decryptFrom remoteUserId remoteDeviceId ciphertext identityHint)).next
        [⟨.idbGet .account, some account⟩]
        ⟨.idbGet (.session (targetKey ⟨remoteUserId, remoteDeviceId⟩)), stored⟩) (.ok session) by
    refine .bind (loadSession_obeys trivial (loaded none none rfl) (fun blob =>
      unsaved _ (.error .sealBroken) ?_) fun session _ => loaded (some session) (some session.content) rfl)
    simp [Monitor.recorder, StoreRequest.pastWrapKey]
  rintro stored session rfl
  refine ⟨trivial, fun pinned => ?_⟩
  change Proc.Obeys _ _ (.done (decryptMessage olm account.content _ ciphertext
    ((pinned <|> identityHint).map PinnedIdentity.curve25519IdentityKey)) >>= _) _
  refine .bind (.done (fun decrypted same => ⟨trivial, fun _ => ⟨⟨rfl, ?_⟩, fun _ => ?_⟩⟩)
    fun error _ => unsaved _ (.error error) ?_)
  · refine ⟨account, stored, pinned, decrypted.1, decrypted.2.2, ?_, ?_, ?_, same⟩
    all_goals simp [Monitor.recorder, StoreRequest.pastWrapKey]
  · rcases pinned with _ | pinned
    · rcases identityHint with _ | identity
      · exact nofun
      · refine ⟨⟨rfl, rfl, ?_, ?_⟩, fun _ => ?_⟩
        · simp [Monitor.recorder, StoreRequest.pastWrapKey]
        · simp [Monitor.recorder, StoreRequest.pastWrapKey]
        · intro other blob same _ _
          cases same
          simp [Monitor.recorder, StoreRequest.pastWrapKey]
    · intro identity blob _ _ absent
      simp [Monitor.recorder, StoreRequest.pastWrapKey] at absent
  · simp [Monitor.recorder, StoreRequest.pastWrapKey]

theorem resetOlmIdentity_requests :
    (runOperation .resetOlmIdentity : StoreProc olm Outcome).Obeys (requestLog .resetOlmIdentity)
      (fun seen result => Operation.resetOlmIdentity.Ends seen result) [] :=
  ⟨trivial, fun _ => ⟨rfl, fun _ => trivial⟩⟩

end Operations

theorem runOperation_requests (olm : OlmLibrary) {operation : Operation}
    (handles : operation.HandlesPins) :
    (runOperation operation : StoreProc olm Outcome).Obeys (requestLog operation)
      (fun seen result => operation.Ends seen result) [] := by
  cases operation with
  | ensureOutboundSession remoteUserId remoteDeviceId bundle =>
    exact ensureOutboundSession_requests _ _ _
  | encryptTo remoteUserId remoteDeviceId plaintext => exact encryptTo_requests _ _ _
  | decryptFrom remoteUserId remoteDeviceId ciphertext identityHint =>
    exact decryptFrom_requests _ _ _ _
  | resetOlmIdentity => exact resetOlmIdentity_requests
  | _ =>
    rcases handles with pairwise | same
    · exact pairwise.elim
    · cases same

end Vortex.Olm
