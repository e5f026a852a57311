import Vortex.Foundation.Monitor
import Vortex.Olm.Store

/-!
# The operations of the Olm store

The exported operations of `lib/olm-protocol-store.ts` as the calls of a pool:
each is started in a tab by the user signed in there, and its requests interleave
with those of every other operation on the profile.
-/

namespace Vortex.Olm

open Foundation

inductive Operation
  | ensureOlmIdentity (userId : JsString)
  | topUpOneTimeKeys (userId deviceId : JsString) (count : Nat)
  | hasSessionWith (target : OlmTarget)
  | ensureOutboundSession (remoteUserId remoteDeviceId : JsString) (bundle : OlmKeyBundle)
  | encryptTo (remoteUserId remoteDeviceId plaintext : JsString)
  | decryptFrom (remoteUserId remoteDeviceId : JsString) (ciphertext : OlmCiphertext)
      (identityHint : Option PinnedIdentity)
  | saveOwnPlaintext (messageId plaintext : JsString)
  | loadOwnPlaintext (messageId : JsString)
  | resetOlmIdentity

/-- What the operations resolve to. -/
inductive Outcome
  | identity (ensured : EnsuredIdentity)
  | oneTimeKeys (keys : List OlmOneTimeKey)
  | hasSession (stored : Bool)
  | finished
  | ciphertext (ciphertext : OlmCiphertext)
  | plaintext (text : JsString)
  | ownPlaintext (cached : Option JsString)
  deriving DecidableEq

/-- An operation started in a tab. `userId` is who is signed in there; the operations
themselves only know it where they take it as an argument. -/
structure StoreCall where
  tab : Nat
  userId : JsString
  operation : Operation

variable {olm : OlmLibrary}

def runOperation : Operation → StoreProc olm Outcome
  | .ensureOlmIdentity userId => do return .identity (← ensureOlmIdentity userId)
  | .topUpOneTimeKeys userId deviceId count => do
      return .oneTimeKeys (← topUpOneTimeKeys userId deviceId count)
  | .hasSessionWith target => do return .hasSession (← hasSessionWith target)
  | .ensureOutboundSession remoteUserId remoteDeviceId bundle => do
      ensureOutboundSession remoteUserId remoteDeviceId bundle
      return .finished
  | .encryptTo remoteUserId remoteDeviceId plaintext => do
      return .ciphertext (← encryptTo remoteUserId remoteDeviceId plaintext)
  | .decryptFrom remoteUserId remoteDeviceId ciphertext identityHint => do
      return .plaintext (← decryptFrom remoteUserId remoteDeviceId ciphertext identityHint)
  | .saveOwnPlaintext messageId plaintext => do
      saveOwnPlaintext messageId plaintext
      return .finished
  | .loadOwnPlaintext messageId => do return .ownPlaintext (← loadOwnPlaintext messageId)
  | .resetOlmIdentity => do
      resetOlmIdentity
      return .finished

/-- A browser profile with the operations in flight. -/
abbrev StorePool (olm : OlmLibrary) : Type :=
  Pool (storeInterface olm) OlmError Outcome StoreCall (Browser olm)

/-- Every interleaving of operations, from the given profiles on. -/
def storeSystem (initial : Browser olm → Prop) : System (StorePool olm) (Turn StoreCall) :=
  Pool.system initial (fun call => runOperation call.operation) fun _ call => Browser.handle call.tab

/-- The runs in which only certain operations are started. -/
def starting (admits : Operation → Prop) : StorePool olm → Turn StoreCall → Prop
  | _, .start call => admits call.operation
  | _, .advance _ => True

instance (admits : Operation → Prop) [DecidablePred admits] (pool : StorePool olm)
    (turn : Turn StoreCall) : Decidable (starting admits pool turn) :=
  match turn with
  | .start call => inferInstanceAs (Decidable (admits call.operation))
  | .advance _ => .isTrue trivial

/-- Follow the turns of a scheduler on one profile. -/
def replayStore (check : StorePool olm → Turn StoreCall → Bool) (browser : Browser olm)
    (turns : List (Turn StoreCall)) : Option (StorePool olm) :=
  Pool.replay (fun call => runOperation call.operation) (fun _ call => Browser.handle call.tab)
    check browser turns

/-! ## What a request does to a profile -/

/-- What a request does to the database. -/
def StoreRequest.onIdb (idb : (record : Record) → Option (record.Value olm)) :
    StoreRequest olm → (record : Record) → Option (record.Value olm)
  | .idbPut record value => Function.update idb record (some value)
  | .idbClearAll => fun _ => none
  | _ => idb

/-- What a request does to the recorded owner. -/
def StoreRequest.onOwner (owner : Option JsString) :
    (request : StoreRequest olm) → (storeInterface olm).Answer request → Option JsString
  | .setOwnerUserId userId, _ => some userId
  | .forgetLocal, _ => none
  | .enterIdentity _, .lead _ true => none
  | _, _ => owner

/-- What a request does to a profile: to the database, the recorded owner and the wrap key
flights. A flight that is open in a tab was open before or has just been begun; one that
is settled was settled before, or has just been settled and is not open any more. -/
structure Browser.Moved (tab : Nat) (request : StoreRequest olm)
    (answer : (storeInterface olm).Answer request) (before after : Browser olm) : Prop where
  idb : after.idb = request.onIdb before.idb
  owner : after.ownerUserId = request.onOwner before.ownerUserId answer
  serial : before.serial ≤ after.serial
  opened : ∀ {other flight}, (after.tabs other).wrapKeyPromise = some flight →
    (before.tabs other).wrapKeyPromise = some flight ∨
      (other = tab ∧ flight = before.serial ∧ after.serial = before.serial + 1 ∧
        (⟨request, answer⟩ : Proc.Exchange (storeInterface olm)) = ⟨.joinWrapKey, .lead flight⟩)
  settled : ∀ {flight key}, after.wrapKeyFlights flight = some key →
    before.wrapKeyFlights flight = some key ∨
      (request = .settleWrapKey flight key ∧ (after.tabs tab).wrapKeyPromise = none)

/-- Requests that leave the module variables of the tabs alone. -/
theorem Browser.Moved.quiet {tab : Nat} {request : StoreRequest olm}
    {answer : (storeInterface olm).Answer request} {before after : Browser olm}
    (idb : after.idb = request.onIdb before.idb)
    (owner : after.ownerUserId = request.onOwner before.ownerUserId answer)
    (serial : before.serial ≤ after.serial)
    (tabs : ∀ other flight, (after.tabs other).wrapKeyPromise = some flight →
      (before.tabs other).wrapKeyPromise = some flight)
    (flights : after.wrapKeyFlights = before.wrapKeyFlights) :
    Browser.Moved tab request answer before after where
  idb := idb
  owner := owner
  serial := serial
  opened running := .inl (tabs _ _ running)
  settled done := .inl (by rwa [flights] at done)

theorem Browser.promise_setTab {browser : Browser olm} {tab other flight : Nat} {state : Tab}
    (running : ((browser.setTab tab state).tabs other).wrapKeyPromise = some flight) :
    (other = tab ∧ state.wrapKeyPromise = some flight) ∨
      (browser.tabs other).wrapKeyPromise = some flight := by
  by_cases same : other = tab
  · subst same
    simp only [setTab, Function.update_self] at running
    exact .inl ⟨rfl, running⟩
  · simp only [setTab, Function.update_of_ne same] at running
    exact .inr running

theorem Browser.moved_of_handle {tab : Nat} {request : StoreRequest olm}
    {before after : Browser olm} {answer : (storeInterface olm).Answer request}
    (answered : Browser.handle tab request before = some (answer, after)) :
    Browser.Moved tab request answer before after := by
  cases request with
  | idbPut | idbClearAll | setOwnerUserId | idbGet =>
    cases answered
    exact .quiet rfl rfl (Nat.le_refl _) (fun _ _ => id) rfl
  | generateKey | getRandomValues =>
    cases answered
    exact .quiet rfl rfl (Nat.le_succ _) (fun _ _ => id) rfl
  | awaitWrapKey | awaitIdentity =>
    obtain ⟨_, -, same⟩ := Option.map_eq_some_iff.mp answered
    cases same
    exact .quiet rfl rfl (Nat.le_refl _) (fun _ _ => id) rfl
  | getOrCreateOlmDeviceId =>
    cases existing : before.deviceId with
    | some id =>
      simp only [handle, existing] at answered
      cases answered
      exact .quiet rfl rfl (Nat.le_refl _) (fun _ _ => id) rfl
    | none =>
      simp only [handle, existing] at answered
      cases answered
      exact .quiet rfl rfl (Nat.le_succ _) (fun _ _ => id) rfl
  | forgetLocal =>
    cases answered
    refine .quiet rfl rfl (Nat.le_refl _) (fun other flight running => ?_) rfl
    rcases promise_setTab running with ⟨-, loaded⟩ | running
    · cases loaded
    · exact running
  | settleIdentity userId flight result =>
    cases answered
    refine .quiet rfl rfl (Nat.le_refl _) (fun other flight running => ?_) rfl
    rcases promise_setTab running with ⟨rfl, kept⟩ | running
    · exact kept
    · exact running
  | settleWrapKey flight key =>
    cases answered
    refine ⟨rfl, rfl, Nat.le_refl _, fun running => ?_, fun {other} {value} settled => ?_⟩
    · rcases promise_setTab running with ⟨-, cleared⟩ | running
      · cases cleared
      · exact .inl running
    · by_cases same : other = flight
      · subst same
        simp only [Function.update_self, Option.some.injEq] at settled
        subst settled
        exact .inr ⟨rfl, by simp only [setTab, Function.update_self]⟩
      · simp only [Function.update_of_ne same] at settled
        exact .inl settled
  | joinWrapKey =>
    cases running : (before.tabs tab).wrapKeyPromise with
    | some flight =>
      simp only [handle, running] at answered
      cases answered
      exact .quiet rfl rfl (Nat.le_refl _) (fun _ _ => id) rfl
    | none =>
      simp only [handle, running] at answered
      cases answered
      refine ⟨rfl, rfl, Nat.le_succ _, fun running => ?_, fun settled => .inl settled⟩
      rcases promise_setTab running with ⟨same, begun⟩ | running
      · cases begun
        exact .inr ⟨same, rfl, rfl, rfl⟩
      · exact .inl running
  | enterIdentity userId =>
    cases running : (before.tabs tab).identityPromises userId with
    | some flight =>
      simp only [handle, running] at answered
      cases answered
      exact .quiet rfl rfl (Nat.le_refl _) (fun _ _ => id) rfl
    | none =>
      simp only [handle, running] at answered
      cases answered
      cases before.ownedByOther userId with
      | false =>
        refine .quiet rfl rfl (Nat.le_succ _) (fun other flight running => ?_) rfl
        rcases promise_setTab running with ⟨rfl, kept⟩ | running
        · exact kept
        · exact running
      | true =>
        refine .quiet rfl rfl (Nat.le_succ _) (fun other flight running => ?_) rfl
        rcases promise_setTab running with ⟨rfl, kept⟩ | running
        · simp [forgetLocal, setTab, Tab.loaded] at kept
        · rcases promise_setTab running with ⟨-, loaded⟩ | running
          · cases loaded
          · exact running

/-- Joining the wrap key flight of a tab follows the open flight, or begins one. -/
theorem Browser.handle_joinWrapKey {tab : Nat} {before after : Browser olm} {flight : Flight}
    (answered : Browser.handle tab .joinWrapKey before = some (flight, after)) :
    (∃ running, flight = .follow running ∧
        (before.tabs tab).wrapKeyPromise = some running ∧ after = before) ∨
      (flight = .lead before.serial ∧ after.serial = before.serial + 1) := by
  cases running : (before.tabs tab).wrapKeyPromise with
  | some number =>
    simp only [handle, running] at answered
    cases answered
    exact .inl ⟨number, rfl, rfl, rfl⟩
  | none =>
    simp only [handle, running] at answered
    cases answered
    exact .inr ⟨rfl, rfl⟩

/-- Reading a record does not change the profile. -/
theorem Browser.handle_idbGet {tab : Nat} {record : Record} {before after : Browser olm}
    {stored : Option (record.Value olm)}
    (answered : Browser.handle tab (.idbGet record) before = some (stored, after)) :
    stored = before.idb record ∧ after = before := by
  cases answered
  exact ⟨rfl, rfl⟩

/-! ## Rules for the parts of an operation -/

/-- The requests `getOrCreateWrapKey` issues. -/
inductive StoreRequest.ForWrapKey : StoreRequest olm → Prop
  | join : ForWrapKey .joinWrapKey
  | follow (flight : Nat) : ForWrapKey (.awaitWrapKey flight)
  | read : ForWrapKey (.idbGet .wrapKey)
  | generate : ForWrapKey .generateKey
  | write (key : CryptoKey) : ForWrapKey (.idbPut .wrapKey key)
  | settle (flight : Nat) (key : CryptoKey) : ForWrapKey (.settleWrapKey flight key)

section Rules

variable {μ : Type} {monitor : Monitor (storeInterface olm) μ} {memory : μ}

/-- A monitor that does not look at the wrap key only sees that one is got. -/
theorem getOrCreateWrapKey_obeys {post : μ → Except OlmError CryptoKey → Prop}
    (quiet : ∀ request, StoreRequest.ForWrapKey request → monitor.allows memory request ∧
      ∀ answer, monitor.next memory ⟨request, answer⟩ = memory)
    (ends : ∀ key, post memory (.ok key)) :
    (getOrCreateWrapKey : StoreProc olm CryptoKey).Obeys monitor post memory := by
  obtain ⟨allowed, forgets⟩ := quiet .joinWrapKey .join
  refine ⟨allowed, fun flight => ?_⟩
  rw [forgets flight]
  cases flight with
  | follow flight =>
    obtain ⟨allowed, forgets⟩ := quiet _ (.follow flight)
    refine ⟨allowed, fun key => ?_⟩
    rw [forgets key]
    exact ends key
  | lead flight =>
    have settled : ∀ key, monitor.allows memory (.settleWrapKey flight key) ∧
        ∀ answer, post (monitor.next memory ⟨.settleWrapKey flight key, answer⟩) (.ok key) := by
      intro key
      obtain ⟨allowed, forgets⟩ := quiet _ (.settle flight key)
      refine ⟨allowed, fun answer => ?_⟩
      rw [forgets answer]
      exact ends key
    obtain ⟨allowed, forgets⟩ := quiet _ .read
    refine ⟨allowed, fun stored => ?_⟩
    rw [forgets stored]
    cases stored with
    | some existing => exact settled existing
    | none =>
      obtain ⟨allowed, forgets⟩ := quiet _ .generate
      refine ⟨allowed, fun key => ?_⟩
      rw [forgets key]
      obtain ⟨allowed, forgets⟩ := quiet _ (.write key)
      refine ⟨allowed, fun answer => ?_⟩
      rw [forgets answer]
      exact settled key

theorem loadAccount_obeys {post : μ → Except OlmError (Option olm.Account) → Prop}
    {wrapKey : CryptoKey} (allowed : monitor.allows memory (.idbGet .account))
    (absent : post (monitor.next memory ⟨.idbGet .account, none⟩) (.ok none))
    (broken : ∀ blob, post (monitor.next memory ⟨.idbGet .account, some blob⟩) (.error .sealBroken))
    (opened : ∀ blob : WrappedBlob olm.Account, blob.sealedUnder = wrapKey →
      post (monitor.next memory ⟨.idbGet .account, some blob⟩) (.ok (some blob.content))) :
    (loadAccount wrapKey).Obeys monitor post memory := by
  refine ⟨allowed, fun stored => ?_⟩
  cases stored with
  | none => exact absent
  | some blob =>
    change (some <$> Proc.done (unwrapPickle blob wrapKey)).Obeys monitor post _
    unfold unwrapPickle
    by_cases matching : blob.sealedUnder = wrapKey
    · rw [if_pos matching]
      exact opened blob matching
    · rw [if_neg matching]
      exact broken blob

theorem loadSession_obeys {post : μ → Except OlmError (Option olm.Session) → Prop}
    {target : OlmTarget} {wrapKey : CryptoKey}
    (allowed : monitor.allows memory (.idbGet (.session (targetKey target))))
    (absent : post (monitor.next memory ⟨.idbGet (.session (targetKey target)), none⟩) (.ok none))
    (broken : ∀ blob, post (monitor.next memory
      ⟨.idbGet (.session (targetKey target)), some blob⟩) (.error .sealBroken))
    (opened : ∀ blob : WrappedBlob olm.Session, blob.sealedUnder = wrapKey →
      post (monitor.next memory ⟨.idbGet (.session (targetKey target)), some blob⟩)
        (.ok (some blob.content))) : (loadSession target wrapKey).Obeys monitor post memory := by
  refine ⟨allowed, fun stored => ?_⟩
  cases stored with
  | none => exact absent
  | some blob =>
    change (some <$> Proc.done (unwrapPickle blob wrapKey)).Obeys monitor post _
    unfold unwrapPickle
    by_cases matching : blob.sealedUnder = wrapKey
    · rw [if_pos matching]
      exact opened blob matching
    · rw [if_neg matching]
      exact broken blob

/-- Pinning writes on first contact, accepts the pinned identity, and refuses any other. -/
theorem checkAndPinIdentity_obeys {post : μ → Except OlmError Unit → Prop} {target : OlmTarget}
    {identity : PinnedIdentity}
    (allowed : monitor.allows memory (.idbGet (.pinnedIdentity (targetKey target))))
    (first : (monitor.allows (monitor.next memory
        ⟨.idbGet (.pinnedIdentity (targetKey target)), none⟩)
        (.idbPut (.pinnedIdentity (targetKey target)) identity)) ∧
      ∀ answer, post (monitor.next (monitor.next memory
        ⟨.idbGet (.pinnedIdentity (targetKey target)), none⟩)
        ⟨.idbPut (.pinnedIdentity (targetKey target)) identity, answer⟩) (.ok ()))
    (same : post (monitor.next memory
      ⟨.idbGet (.pinnedIdentity (targetKey target)), some identity⟩) (.ok ()))
    (changed : ∀ pinned, pinned ≠ identity → post (monitor.next memory
      ⟨.idbGet (.pinnedIdentity (targetKey target)), some pinned⟩)
      (.error (.identityMismatch target.userId target.deviceId))) :
    (checkAndPinIdentity target identity).Obeys monitor post memory := by
  refine ⟨allowed, fun stored => ?_⟩
  rcases stored with _ | pinned
  · exact first
  · obtain ⟨curve, ed⟩ := pinned
    change Proc.Obeys monitor post (if curve ≠ identity.curve25519IdentityKey ∨
      ed ≠ identity.ed25519IdentityKey then _ else _) _
    split
    · rename_i mismatch
      refine changed _ ?_
      rintro rfl
      exact mismatch.elim (absurd rfl) (absurd rfl)
    · rename_i matching
      obtain ⟨rfl, rfl⟩ := not_or.mp matching |>.imp not_not.mp not_not.mp
      exact same

end Rules

end Vortex.Olm
