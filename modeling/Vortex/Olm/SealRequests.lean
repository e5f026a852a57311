import Vortex.Olm.Pairwise

/-!
# What the operations request of a sealed store

Every operation that writes first gets the wrap key, and then seals what it writes under
that key. Only `ensureOlmIdentity` records an owner, and only it and `resetOlmIdentity`
forget one; both then clear the database before they do anything else.
-/

variable {userId : JsString} {operation : Operation} {key : CryptoKey}

namespace Vortex.Olm

open Foundation List

variable {olm : OlmLibrary}

/-- The key a value is sealed under, if its record is a sealed one. -/
def Record.seal? : (record : Record) → record.Value olm → Option CryptoKey
  | .account, blob => some blob.sealedUnder
  | .session _, blob => some blob.sealedUnder
  | .ownPlaintext _, blob => some blob.sealedUnder
  | .wrapKey, _ => none
  | .pinnedIdentity _, _ => none

/-- The user an operation works for. -/
def StoreCall.forUser (call : StoreCall) : JsString :=
  match call.operation with
  | .ensureOlmIdentity userId => userId
  | .topUpOneTimeKeys userId _ _ => userId
  | _ => call.userId

/-- An exchange by which an operation gets hold of a wrap key. -/
inductive ShowsKey (key : CryptoKey) : Proc.Exchange (storeInterface olm) → Prop
  | read : ShowsKey key ⟨.idbGet .wrapKey, some key⟩
  | written : ShowsKey key ⟨.idbPut .wrapKey key, ()⟩
  | awaited (flight : Nat) : ShowsKey key ⟨.awaitWrapKey flight, key⟩

/-- An operation has got hold of a wrap key. -/
def Knows (seen : Seen olm) (key : CryptoKey) : Prop := ∃ exchange ∈ seen, ShowsKey key exchange

/-- An operation has begun to get the wrap key. -/
def Joined (seen : Seen olm) : Prop := ∃ flight, ⟨.joinWrapKey, flight⟩ ∈ seen

theorem Knows.mono {seen later : Seen olm} (knows : Knows seen key)
    (subset : ∀ exchange ∈ seen, exchange ∈ later) : Knows later key := by
  obtain ⟨exchange, member, shows⟩ := knows
  exact ⟨exchange, subset exchange member, shows⟩

theorem Joined.mono {seen later : Seen olm} (joined : Joined seen)
    (subset : ∀ exchange ∈ seen, exchange ∈ later) : Joined later := by
  obtain ⟨flight, member⟩ := joined
  exact ⟨flight, subset _ member⟩

namespace Operation

/-- An operation has made the browser forget its owner. -/
def Forgot (seen : Seen olm) : Operation → Prop
  | .resetOlmIdentity => ⟨.forgetLocal, ()⟩ ∈ seen
  | .ensureOlmIdentity userId => ∃ flight, ⟨.enterIdentity userId, .lead flight true⟩ ∈ seen
  | _ => False

/-- What an operation may request after what it has seen. -/
def Seals (operation : Operation) (seen : Seen olm) : StoreRequest olm → Prop
  | .joinWrapKey => operation.Forgot seen → ⟨.idbClearAll, ()⟩ ∈ seen
  | .idbGet .wrapKey => Joined seen
  | .idbPut .wrapKey _ => Joined seen ∧ ⟨.idbGet .wrapKey, none⟩ ∈ seen ∧
      ∀ key, ⟨.idbPut .wrapKey key, ()⟩ ∉ seen
  | .idbPut record value => Joined seen ∧
      (∀ key, record.seal? value = some key → Knows seen key) ∧
      ∀ userId, operation = .ensureOlmIdentity userId →
        record = .account ∧ ∀ owner, ⟨.setOwnerUserId owner, ()⟩ ∉ seen
  | .awaitWrapKey flight => ⟨.joinWrapKey, .follow flight⟩ ∈ seen
  | .settleWrapKey flight key => ⟨.joinWrapKey, .lead flight⟩ ∈ seen ∧ Knows seen key
  | .setOwnerUserId userId => operation = .ensureOlmIdentity userId ∧ Joined seen
  | .idbClearAll => ¬ Joined seen
  | .forgetLocal => operation = .resetOlmIdentity ∧ ⟨.idbClearAll, ()⟩ ∉ seen
  | .enterIdentity userId => operation = .ensureOlmIdentity userId ∧ ⟨.idbClearAll, ()⟩ ∉ seen
  | _ => True

/-- How an operation ends: the owner is recorded when an account has been saved, and the
database cleared when the owner was forgotten. -/
def SealEnds (seen : Seen olm) (operation : Operation) : Prop :=
  (∀ userId blob, operation = .ensureOlmIdentity userId →
      ⟨.idbPut .account blob, ()⟩ ∈ seen → ⟨.setOwnerUserId userId, ()⟩ ∈ seen) ∧
    (operation.Forgot seen → ⟨.idbClearAll, ()⟩ ∈ seen)

end Operation

theorem Operation.Forgot.mono {seen later : Seen olm} (forgot : operation.Forgot seen)
    (subset : ∀ exchange ∈ seen, exchange ∈ later) : operation.Forgot later := by
  cases operation with
  | resetOlmIdentity => exact subset _ forgot
  | ensureOlmIdentity userId =>
    obtain ⟨flight, member⟩ := forgot
    exact ⟨flight, subset _ member⟩
  | _ => exact forgot

/-- What justifies a write to a sealed record. -/
theorem Operation.Seals.sealing {seen : Seen olm} {record : Record} {value : record.Value olm}
    (justified : operation.Seals seen (.idbPut record value))
    (sealed : record.seal? value = some key) :
    Joined seen ∧ Knows seen key ∧ ∀ userId, operation = .ensureOlmIdentity userId →
      record = .account ∧ ∀ owner, ⟨.setOwnerUserId owner, ()⟩ ∉ seen := by
  cases record with
  | wrapKey => cases sealed
  | pinnedIdentity => cases sealed
  | account | session | ownPlaintext =>
    obtain ⟨joined, knows, identity⟩ := justified
    exact ⟨joined, knows key sealed, identity⟩

/-- The monitor of an operation: everything it exchanges. -/
abbrev sealLog (operation : Operation) : Monitor (storeInterface olm) (Seen olm) :=
  .recorder (fun _ => true) operation.Seals

/-! ## Getting the wrap key -/

/-- What getting the wrap key adds to what an operation has seen. -/
structure GotKey (added : Seen olm) (key : CryptoKey) : Prop where
  joined : Joined added
  knows : Knows added key
  about : ∀ exchange ∈ added, StoreRequest.ForWrapKey exchange.1

theorem GotKey.append {added : Seen olm} (got : GotKey added key)
    (exchange : Proc.Exchange (storeInterface olm)) (wrap : StoreRequest.ForWrapKey exchange.1) :
    GotKey (added ++ [exchange]) key where
  joined := got.joined.mono fun _ => mem_append_left _
  knows := got.knows.mono fun _ => mem_append_left _
  about other member := by
    rcases mem_append.mp member with member | last
    · exact got.about other member
    · rw [mem_singleton.mp last]
      exact wrap

/-- The leader of a flight settles it with the key it has got. -/
theorem settleWrapKey_seals (operation : Operation) {seen read : Seen olm} {flight : Nat}
    {post : Seen olm → Except OlmError CryptoKey → Prop}
    (ends : ∀ added key, GotKey added key → post (seen ++ added) (.ok key))
    (got : GotKey (⟨.joinWrapKey, .lead flight⟩ :: read) key) :
    Proc.Obeys (sealLog operation) post (do
      .request (I := storeInterface olm) (.settleWrapKey flight key)
      return key) (seen ++ ⟨.joinWrapKey, .lead flight⟩ :: read) := by
  refine ⟨⟨mem_append_right _ mem_cons_self,
    got.knows.mono fun _ => mem_append_right _⟩, fun answer => ?_⟩
  have ended := ends _ key (got.append ⟨.settleWrapKey flight key, answer⟩ (.settle flight key))
  rw [← append_assoc] at ended
  exact ended

theorem getOrCreateWrapKey_seals {seen : Seen olm}
    {post : Seen olm → Except OlmError CryptoKey → Prop}
    (cleared : operation.Forgot seen → ⟨.idbClearAll, ()⟩ ∈ seen)
    (unwritten : ∀ key, ⟨.idbPut .wrapKey key, ()⟩ ∉ seen)
    (ends : ∀ added key, GotKey added key → post (seen ++ added) (.ok key)) :
    (getOrCreateWrapKey : StoreProc olm CryptoKey).Obeys (sealLog operation) post seen := by
  refine ⟨cleared, fun flight => ?_⟩
  cases flight with
  | follow flight =>
    refine ⟨mem_append_right _ (mem_singleton.mpr rfl), fun key => ?_⟩
    have got : GotKey ([⟨.joinWrapKey, .follow flight⟩, ⟨.awaitWrapKey flight, key⟩] :
        Seen olm) key :=
      { joined := ⟨_, mem_cons_self⟩
        knows := ⟨_, mem_cons_of_mem _ mem_cons_self, .awaited flight⟩
        about := by
          intro exchange member
          rcases mem_pair.mp member with rfl | rfl
          · exact .join
          · exact .follow flight }
    have ended := ends _ key got
    rw [append_cons] at ended
    exact ended
  | lead flight =>
    have joined : Joined ([⟨.joinWrapKey, .lead flight⟩] : Seen olm) :=
      ⟨_, mem_cons_self⟩
    refine ⟨joined.mono fun _ => mem_append_right _, fun stored => ?_⟩
    cases stored with
    | some existing =>
      have got : GotKey ([⟨.joinWrapKey, .lead flight⟩, ⟨.idbGet .wrapKey, some existing⟩] :
          Seen olm) existing :=
        { joined := joined.mono fun _ => mem_append_left [_]
          knows := ⟨_, mem_cons_of_mem _ mem_cons_self, .read⟩
          about := by
            intro exchange member
            rcases mem_pair.mp member with rfl | rfl
            · exact .join
            · exact .read }
      have next := settleWrapKey_seals operation ends got
      rw [append_cons] at next
      exact next
    | none =>
      refine ⟨trivial, fun key => ⟨⟨?_, ?_, ?_⟩, fun _ => ?_⟩⟩
      · exact joined.mono fun exchange member =>
          mem_append_left _ (mem_append_left _ (mem_append_right _ member))
      · exact mem_append_left _ (mem_append_right _ mem_cons_self)
      · intro other written
        simp only [Monitor.recorder, ↓reduceIte, append_assoc, cons_append,
          nil_append, mem_append, mem_cons, Sigma.mk.injEq, reduceCtorEq,
          false_and, not_mem_nil, or_false] at written
        exact unwritten other written
      · have got : GotKey ([⟨.joinWrapKey, .lead flight⟩, ⟨.idbGet .wrapKey, none⟩,
            ⟨.generateKey, key⟩, ⟨.idbPut .wrapKey key, ()⟩] : Seen olm) key := by
          have about : ∀ exchange ∈ ([⟨.joinWrapKey, .lead flight⟩, ⟨.idbGet .wrapKey, none⟩,
              ⟨.generateKey, key⟩, ⟨.idbPut .wrapKey key, ()⟩] : Seen olm),
              StoreRequest.ForWrapKey exchange.1 := by
            intro exchange member
            simp only [mem_cons, not_mem_nil, or_false] at member
            rcases member with rfl | rfl | rfl | rfl
            · exact .join
            · exact .read
            · exact .generate
            · exact .write key
          exact ⟨joined.mono fun _ => mem_append_left [_, _, _],
            ⟨⟨.idbPut .wrapKey key, ()⟩, by simp, .written⟩, about⟩
        have next := settleWrapKey_seals operation ends got
        have shape : seen ++ [⟨.joinWrapKey, .lead flight⟩, ⟨.idbGet .wrapKey, none⟩,
            ⟨.generateKey, key⟩, ⟨.idbPut .wrapKey key, ()⟩] =
            seen ++ [⟨.joinWrapKey, .lead flight⟩] ++ [⟨.idbGet .wrapKey, none⟩] ++
              [⟨.generateKey, key⟩] ++ [⟨.idbPut .wrapKey key, ()⟩] := by
          simp only [append_assoc, cons_append, nil_append]
        rw [shape] at next
        exact next

/-! ## Working under the wrap key -/

/-- The requests of an operation that has got the wrap key and seals under it. -/
def StoreRequest.Under (wrapKey : CryptoKey) : StoreRequest olm → Prop
  | .idbGet record => record ≠ .wrapKey
  | .idbPut record value =>
      record ≠ .wrapKey ∧ ∀ key, record.seal? value = some key → key = wrapKey
  | .getRandomValues => True
  | _ => False

/-- A process that only issues such requests. -/
abbrev SealsUnder {α : Type} (wrapKey : CryptoKey) (process : StoreProc olm α) : Prop :=
  process.Along fun request _ => StoreRequest.Under wrapKey request

variable {wrapKey : CryptoKey}

theorem loadAccount_under : SealsUnder wrapKey (loadAccount wrapKey : StoreProc olm _) := by
  refine ⟨nofun, fun stored => ?_⟩
  cases stored with
  | none => trivial
  | some blob =>
    change SealsUnder wrapKey (some <$> Proc.done (unwrapPickle blob wrapKey))
    cases unwrapPickle blob wrapKey <;> trivial

theorem loadSession_under (target : OlmTarget) :
    SealsUnder wrapKey (loadSession target wrapKey : StoreProc olm _) := by
  refine ⟨nofun, fun stored => ?_⟩
  cases stored with
  | none => trivial
  | some blob =>
    change SealsUnder wrapKey (some <$> Proc.done (unwrapPickle blob wrapKey))
    cases unwrapPickle blob wrapKey <;> trivial

theorem saveAccount_under (account : olm.Account) :
    SealsUnder wrapKey (saveAccount account wrapKey) :=
  ⟨⟨nofun, fun _ same => (Option.some.inj same).symm⟩, fun _ => trivial⟩

theorem saveSession_under (target : OlmTarget) (session : olm.Session) :
    SealsUnder wrapKey (saveSession target session wrapKey) :=
  ⟨⟨nofun, fun _ same => (Option.some.inj same).symm⟩, fun _ => trivial⟩

theorem pinIdentity_under (target : OlmTarget) (identity : PinnedIdentity) :
    SealsUnder wrapKey (pinIdentity target identity : StoreProc olm _) :=
  ⟨⟨nofun, nofun⟩, fun _ => trivial⟩

theorem checkAndPinIdentity_under (target : OlmTarget) (identity : PinnedIdentity) :
    SealsUnder wrapKey (checkAndPinIdentity target identity : StoreProc olm _) := by
  refine ⟨nofun, fun pinned => ?_⟩
  cases pinned with
  | none => exact pinIdentity_under target identity
  | some pinned =>
    change SealsUnder wrapKey (if _ then _ else _)
    split <;> trivial

/-- Once an operation has the wrap key, working under it obeys the log. -/
theorem obeys_of_under {α : Type} {process : StoreProc olm α}
    {post : Seen olm → Except OlmError α → Prop} {seen : Seen olm}
    (other : ∀ userId, operation ≠ .ensureOlmIdentity userId) (under : SealsUnder wrapKey process)
    (joined : Joined seen) (knows : Knows seen wrapKey) (ends : ∀ seen result, post seen result) :
    process.Obeys (sealLog operation) post seen := by
  induction process generalizing seen with
  | done result => exact ends _ _
  | await request rest ih =>
    refine ⟨?_, fun answer => ih answer (under.2 answer)
      (joined.mono fun _ => mem_append_left _) (knows.mono fun _ => mem_append_left _)⟩
    have good := under.1
    cases request with
    | idbGet record =>
      cases record with
      | wrapKey => exact absurd rfl good
      | _ => trivial
    | idbPut record value =>
      have sealing : Joined seen ∧ (∀ key, record.seal? value = some key → Knows seen key) ∧
          ∀ userId, operation = .ensureOlmIdentity userId →
            record = .account ∧ ∀ owner, ⟨.setOwnerUserId owner, ()⟩ ∉ seen := by
        refine ⟨joined, fun key same => ?_, fun userId same => absurd same (other userId)⟩
        rw [good.2 key same]
        exact knows
      cases record with
      | wrapKey => exact absurd rfl good.1
      | _ => exact sealing
    | getRandomValues => trivial
    | _ => exact good.elim

/-! ## The operations -/

/-- The operations that get the wrap key first and then work under it. -/
theorem sealed_obeys {α : Type} {body : CryptoKey → StoreProc olm α}
    (other : ∀ userId, operation ≠ .ensureOlmIdentity userId)
    (unforgetful : ∀ seen : Seen olm, ¬ operation.Forgot seen)
    (under : ∀ wrapKey, SealsUnder wrapKey (body wrapKey)) :
    (getOrCreateWrapKey >>= body).Obeys (sealLog operation)
      (fun seen _ => operation.SealEnds seen) [] := by
  refine .bind (getOrCreateWrapKey_seals (fun forgot => absurd forgot (unforgetful []))
    (fun _ => not_mem_nil) fun added key got => ?_)
  refine obeys_of_under other (under key) got.joined got.knows fun seen _ => ⟨?_, ?_⟩
  · intro userId blob same
    exact absurd same (other userId)
  · intro forgot
    exact absurd forgot (unforgetful seen)

section Operations

theorem topUpOneTimeKeys_seals (userId deviceId : JsString) (count : Nat) :
    (topUpOneTimeKeys userId deviceId count : StoreProc olm _).Obeys
      (sealLog (.topUpOneTimeKeys userId deviceId count))
      (fun seen _ => (Operation.topUpOneTimeKeys userId deviceId count).SealEnds seen) [] := by
  refine sealed_obeys nofun (fun _ => id) fun wrapKey => ?_
  refine loadAccount_under.bind fun account => ?_
  cases account with
  | none => trivial
  | some account =>
    exact ⟨trivial, fun seed => (saveAccount_under _).bind fun _ => trivial⟩

theorem encryptTo_seals (remoteUserId remoteDeviceId plaintext : JsString) :
    (encryptTo remoteUserId remoteDeviceId plaintext : StoreProc olm _).Obeys
      (sealLog (.encryptTo remoteUserId remoteDeviceId plaintext))
      (fun seen _ => (Operation.encryptTo remoteUserId remoteDeviceId plaintext).SealEnds seen)
      [] := by
  refine sealed_obeys nofun (fun _ => id) fun wrapKey => ?_
  refine (loadSession_under _).bind fun session => ?_
  cases session with
  | none => trivial
  | some session =>
    exact ⟨trivial, fun seed => (saveSession_under _ _).bind fun _ => trivial⟩

theorem hasSessionWith_seals (target : OlmTarget) :
    (hasSessionWith target : StoreProc olm _).Obeys (sealLog (.hasSessionWith target))
      (fun seen _ => (Operation.hasSessionWith target).SealEnds seen) [] :=
  sealed_obeys nofun (fun _ => id) fun _ => (loadSession_under target).bind fun _ => trivial

theorem ensureOutboundSession_seals (remoteUserId remoteDeviceId : JsString)
    (bundle : OlmKeyBundle) :
    (ensureOutboundSession remoteUserId remoteDeviceId bundle : StoreProc olm _).Obeys
      (sealLog (.ensureOutboundSession remoteUserId remoteDeviceId bundle))
      (fun seen _ => (Operation.ensureOutboundSession remoteUserId remoteDeviceId bundle).SealEnds
        seen) [] := by
  refine sealed_obeys nofun (fun _ => id) fun wrapKey => ?_
  refine (loadSession_under _).bind fun session => ?_
  cases session with
  | some session => trivial
  | none =>
    change SealsUnder wrapKey (if verifyKeyBundleSignature olm remoteUserId remoteDeviceId bundle
      then _ else _)
    split
    · refine (checkAndPinIdentity_under _ _).bind fun _ => ?_
      refine loadAccount_under.bind fun account => ?_
      cases account with
      | none => trivial
      | some account =>
        refine ⟨trivial, fun seed => ?_⟩
        change SealsUnder wrapKey (.done (createOutboundSession olm seed account bundle) >>= _)
        cases createOutboundSession olm seed account bundle with
        | error error => trivial
        | ok session => exact saveSession_under _ session
    · trivial

theorem decryptFrom_seals (remoteUserId remoteDeviceId : JsString) (ciphertext : OlmCiphertext)
    (identityHint : Option PinnedIdentity) :
    (decryptFrom remoteUserId remoteDeviceId ciphertext identityHint : StoreProc olm _).Obeys
      (sealLog (.decryptFrom remoteUserId remoteDeviceId ciphertext identityHint))
      (fun seen _ => (Operation.decryptFrom remoteUserId remoteDeviceId ciphertext
        identityHint).SealEnds seen) [] := by
  refine sealed_obeys nofun (fun _ => id) fun wrapKey => ?_
  refine loadAccount_under.bind fun account => ?_
  cases account with
  | none => trivial
  | some account =>
    refine (loadSession_under _).bind fun session => ⟨nofun, fun pinned => ?_⟩
    change SealsUnder wrapKey (.done (decryptMessage olm account session ciphertext
      ((pinned <|> identityHint).map PinnedIdentity.curve25519IdentityKey)) >>= _)
    cases decryptMessage olm account session ciphertext
        ((pinned <|> identityHint).map PinnedIdentity.curve25519IdentityKey) with
    | error error => trivial
    | ok decrypted =>
      refine (saveAccount_under _).bind fun _ => (saveSession_under _ _).bind fun _ => ?_
      rcases pinned with _ | pinned
      · rcases identityHint with _ | identity
        · trivial
        · exact (pinIdentity_under _ identity).bind fun _ => trivial
      · trivial

theorem saveOwnPlaintext_seals (messageId plaintext : JsString) :
    (saveOwnPlaintext messageId plaintext : StoreProc olm _).Obeys
      (sealLog (.saveOwnPlaintext messageId plaintext))
      (fun seen _ => (Operation.saveOwnPlaintext messageId plaintext).SealEnds seen) [] :=
  sealed_obeys nofun (fun _ => id) fun _ =>
    ⟨⟨nofun, fun _ same => (Option.some.inj same).symm⟩, fun _ => trivial⟩

theorem loadOwnPlaintext_seals (messageId : JsString) :
    (loadOwnPlaintext messageId : StoreProc olm _).Obeys (sealLog (.loadOwnPlaintext messageId))
      (fun seen _ => (Operation.loadOwnPlaintext messageId).SealEnds seen) [] := by
  refine sealed_obeys nofun (fun _ => id) fun wrapKey => ⟨nofun, fun stored => ?_⟩
  cases stored with
  | none => trivial
  | some blob =>
    change SealsUnder wrapKey (some <$> Proc.done (unwrapPickle blob wrapKey))
    cases unwrapPickle blob wrapKey <;> trivial

theorem resetOlmIdentity_seals :
    (resetOlmIdentity : StoreProc olm _).Obeys (sealLog .resetOlmIdentity)
      (fun seen _ => Operation.resetOlmIdentity.SealEnds seen) [] := by
  refine ⟨⟨rfl, not_mem_nil⟩, fun _ => ⟨?_, fun _ => ⟨nofun, fun _ => ?_⟩⟩⟩
  · rintro ⟨flight, member⟩
    cases mem_singleton.mp member
  · exact mem_append_right _ (mem_singleton.mpr rfl)

/-- What `ensureOlmIdentity` has seen before it saves an account or records an owner. -/
structure Settling (userId : JsString) (seen : Seen olm) : Prop where
  cleared : (Operation.ensureOlmIdentity userId).Forgot seen → ⟨.idbClearAll, ()⟩ ∈ seen
  unsaved : ∀ blob, ⟨.idbPut .account blob, ()⟩ ∉ seen
  unowned : ∀ owner, ⟨.setOwnerUserId owner, ()⟩ ∉ seen

/-- The requests that do not change that. -/
def StoreRequest.BeforeSaving : StoreRequest olm → Prop
  | .enterIdentity _ | .idbPut .account _ | .setOwnerUserId _ => False
  | _ => True

theorem StoreRequest.ForWrapKey.beforeSaving {request : StoreRequest olm}
    (wrap : StoreRequest.ForWrapKey request) : request.BeforeSaving := by
  cases wrap <;> trivial

theorem forgot_append {seen added : Seen olm}
    (quiet : ∀ exchange ∈ added, ∀ other, exchange.1 ≠ .enterIdentity other)
    (forgot : (Operation.ensureOlmIdentity userId).Forgot (seen ++ added)) :
    (Operation.ensureOlmIdentity userId).Forgot seen := by
  obtain ⟨flight, member⟩ := forgot
  rcases mem_append.mp member with known | new
  · exact ⟨flight, known⟩
  · exact absurd rfl (quiet _ new userId)

theorem Settling.append {seen added : Seen olm} (settling : Settling userId seen)
    (quiet : ∀ exchange ∈ added, exchange.1.BeforeSaving) : Settling userId (seen ++ added) where
  cleared forgot := by
    refine mem_append_left _ (settling.cleared (forgot_append ?_ forgot))
    rintro ⟨request, answer⟩ member other rfl
    exact quiet _ member
  unsaved blob member := by
    rcases mem_append.mp member with known | new
    · exact settling.unsaved blob known
    · exact quiet _ new
  unowned owner member := by
    rcases mem_append.mp member with known | new
    · exact settling.unowned owner known
    · exact quiet _ new

theorem Settling.snoc {seen : Seen olm} (settling : Settling userId seen)
    (exchange : Proc.Exchange (storeInterface olm)) (quiet : exchange.1.BeforeSaving) :
    Settling userId (seen ++ [exchange]) := by
  apply settling.append
  intro other member
  rw [mem_singleton.mp member]
  exact quiet

theorem Settling.ends {seen : Seen olm} (settling : Settling userId seen) :
    (Operation.ensureOlmIdentity userId).SealEnds seen := by
  refine ⟨fun other blob _ saved => ?_, settling.cleared⟩
  exact absurd saved (settling.unsaved blob)

/-- Recording the owner completes what was missing. -/
theorem recorded_ends {seen : Seen olm}
    (cleared : (Operation.ensureOlmIdentity userId).Forgot seen → ⟨.idbClearAll, ()⟩ ∈ seen) :
    (Operation.ensureOlmIdentity userId).SealEnds (seen ++ [⟨.setOwnerUserId userId, ()⟩]) := by
  refine ⟨fun other blob same _ => ?_, fun forgot => ?_⟩
  · cases same
    exact mem_append_right _ (mem_singleton.mpr rfl)
  · refine mem_append_left _ (cleared (forgot_append (fun exchange member other => ?_) forgot))
    rw [mem_singleton.mp member]
    exact nofun

/-- Once another user's state has been cleared, the identity is loaded, or created, saved
and recorded. -/
theorem loadOrCreate_seals {seen : Seen olm} (settling : Settling userId seen)
    (unwritten : ∀ key, ⟨.idbPut .wrapKey key, ()⟩ ∉ seen) :
    (ensureOlmIdentityInner userId false : StoreProc olm _).Obeys
      (sealLog (.ensureOlmIdentity userId))
      (fun seen _ => (Operation.ensureOlmIdentity userId).SealEnds seen) seen := by
  refine ⟨trivial, fun deviceId => ?_⟩
  have entered := settling.snoc ⟨.getOrCreateOlmDeviceId, deviceId⟩ trivial
  change Proc.Obeys _ _ (getOrCreateWrapKey >>= _) (seen ++ [⟨.getOrCreateOlmDeviceId, deviceId⟩])
  refine .bind (getOrCreateWrapKey_seals entered.cleared (fun key written => ?_)
    fun added wrapKey got => ?_)
  · rcases mem_append.mp written with known | new
    · exact unwritten key known
    · cases mem_singleton.mp new
  have keyed := entered.append fun exchange member => (got.about exchange member).beforeSaving
  have joined : Joined (seen ++ [⟨.getOrCreateOlmDeviceId, deviceId⟩] ++ added) :=
    got.joined.mono fun _ => mem_append_right _
  have knows : Knows (seen ++ [⟨.getOrCreateOlmDeviceId, deviceId⟩] ++ added) wrapKey :=
    got.knows.mono fun _ => mem_append_right _
  generalize seen ++ [⟨.getOrCreateOlmDeviceId, deviceId⟩] ++ added = seen at keyed joined knows
  refine .bind (loadAccount_obeys trivial ?_
    (fun blob => (keyed.snoc ⟨.idbGet .account, some blob⟩ trivial).ends) ?_)
  · have read := keyed.snoc ⟨.idbGet .account, none⟩ trivial
    refine ⟨trivial, fun seed => ?_⟩
    have seeded := read.snoc ⟨.getRandomValues, seed⟩ trivial
    change Proc.Obeys _ _ (.done (createIdentity olm seed userId deviceId 20) >>= _) _
    refine .bind (.done (fun created _ => ⟨⟨?_, fun key same => ?_, fun other _ => ?_⟩,
      fun _ => ⟨⟨rfl, ?_⟩, fun _ => ?_⟩⟩) fun _ _ => seeded.ends)
    · exact (joined.mono fun _ => mem_append_left _).mono fun _ => mem_append_left _
    · cases same
      exact (knows.mono fun _ => mem_append_left _).mono fun _ => mem_append_left _
    · exact ⟨rfl, seeded.unowned⟩
    · exact ((joined.mono fun _ => mem_append_left _).mono
        fun _ => mem_append_left _).mono fun _ => mem_append_left _
    · apply recorded_ends
      intro forgot
      refine mem_append_left _ (seeded.cleared (forgot_append (fun exchange member other => ?_)
        forgot))
      rw [mem_singleton.mp member]
      exact nofun
  · intro blob _
    have read := keyed.snoc ⟨.idbGet .account, some blob⟩ trivial
    exact ⟨⟨rfl, joined.mono fun _ => mem_append_left _⟩, fun _ => recorded_ends read.cleared⟩

/-- The identity is loaded or created after another user's state has been cleared. -/
theorem ensureOlmIdentityInner_seals (userId : JsString) (flight : Nat) (mustReset : Bool) :
    (ensureOlmIdentityInner userId mustReset : StoreProc olm _).Obeys
      (sealLog (.ensureOlmIdentity userId))
      (fun seen _ => (Operation.ensureOlmIdentity userId).SealEnds seen)
      [⟨.enterIdentity userId, .lead flight mustReset⟩] := by
  cases mustReset with
  | false =>
    refine loadOrCreate_seals ⟨?_, by simp, by simp⟩ (by simp)
    rintro ⟨_, entered⟩
    cases mem_singleton.mp entered
  | true =>
    refine ⟨?_, fun _ => loadOrCreate_seals ⟨fun _ => ?_, ?_, ?_⟩ ?_⟩
    · rintro ⟨_, joined⟩
      cases mem_singleton.mp joined
    · exact mem_append_right _ (mem_singleton.mpr rfl)
    · simp [Monitor.recorder]
    · simp [Monitor.recorder]
    · simp [Monitor.recorder]

theorem ensureOlmIdentity_seals (userId : JsString) :
    (ensureOlmIdentity userId : StoreProc olm _).Obeys (sealLog (.ensureOlmIdentity userId))
      (fun seen _ => (Operation.ensureOlmIdentity userId).SealEnds seen) [] := by
  refine ⟨⟨rfl, not_mem_nil⟩, fun flight => ?_⟩
  cases flight with
  | follow flight =>
    refine ⟨trivial, fun result => ?_⟩
    have settling : Settling userId ([⟨.enterIdentity userId, .follow flight⟩,
        ⟨.awaitIdentity flight, result⟩] : Seen olm) :=
      ⟨by rintro ⟨_, member⟩; simp at member, by simp, by simp⟩
    cases result with
    | ok ensured => exact settling.ends
    | error error => exact settling.ends
  | lead flight mustReset =>
    change Proc.Obeys _ _ ((ensureOlmIdentityInner userId mustReset).attempt >>= _)
      ([⟨.enterIdentity userId, .lead flight mustReset⟩] : Seen olm)
    apply Proc.Obeys.bind
    apply Proc.Obeys.attempt
    refine .mono (fun seen result ends => ?_) (ensureOlmIdentityInner_seals userId flight mustReset)
    refine ⟨trivial, fun _ => ?_⟩
    have settled : (Operation.ensureOlmIdentity userId).SealEnds
        (seen ++ [⟨.settleIdentity userId flight result, ()⟩]) := by
      refine ⟨fun other blob same saved => ?_, fun forgot => ?_⟩
      · cases same
        rcases mem_append.mp saved with known | new
        · exact mem_append_left _ (ends.1 userId blob rfl known)
        · cases mem_singleton.mp new
      · refine mem_append_left _ (ends.2 (forgot_append (fun exchange member other => ?_) forgot))
        rw [mem_singleton.mp member]
        exact nofun
    cases result with
    | ok ensured => exact settled
    | error error => exact settled

end Operations

theorem runOperation_seals (operation : Operation) :
    (runOperation operation : StoreProc olm Outcome).Obeys (sealLog operation)
      (fun seen _ => operation.SealEnds seen) [] := by
  have finish : ∀ {α : Type} {process : StoreProc olm α} (f : α → Outcome),
      process.Obeys (sealLog operation) (fun seen _ => operation.SealEnds seen) [] →
      (do return f (← process) : StoreProc olm Outcome).Obeys (sealLog operation)
        (fun seen _ => operation.SealEnds seen) [] := by
    intro α process f obeys
    refine .bind (obeys.mono fun seen result ends => ?_)
    cases result with
    | ok value => exact ends
    | error error => exact ends
  cases operation with
  | ensureOlmIdentity userId => exact finish _ (ensureOlmIdentity_seals userId)
  | topUpOneTimeKeys userId deviceId count => exact finish _ (topUpOneTimeKeys_seals _ _ _)
  | hasSessionWith target => exact finish _ (hasSessionWith_seals target)
  | ensureOutboundSession remoteUserId remoteDeviceId bundle =>
    exact finish (fun _ => .finished) (ensureOutboundSession_seals _ _ _)
  | encryptTo remoteUserId remoteDeviceId plaintext => exact finish _ (encryptTo_seals _ _ _)
  | decryptFrom remoteUserId remoteDeviceId ciphertext identityHint =>
    exact finish _ (decryptFrom_seals _ _ _ _)
  | saveOwnPlaintext messageId plaintext =>
    exact finish (fun _ => .finished) (saveOwnPlaintext_seals _ _)
  | loadOwnPlaintext messageId => exact finish _ (loadOwnPlaintext_seals _)
  | resetOlmIdentity => exact finish (fun _ => .finished) resetOlmIdentity_seals

end Vortex.Olm
