import Vortex.Foundation.JsText
import Vortex.Foundation.Proc

/-!
# The pure Olm layer

The types and functions of `lib/olm-protocol.ts`: serialized accounts and
sessions go in and come out, nothing is stored. The Olm library itself is the
parameter `OlmLibrary`, whose randomness is an explicit seed. Pickling under the fixed
pickle key is inverted by unpickling under it, so a serialized account or
session is represented by the state it pickles.
-/

namespace Vortex.Olm

open Foundation

/-- The long-lived public keys of a device (`PinnedIdentity` in the source). -/
structure PinnedIdentity where
  curve25519IdentityKey : JsString
  ed25519IdentityKey : JsString
  deriving DecidableEq, Repr

/-- The two Olm message types. -/
inductive MessageType
  | preKey
  | normal
  deriving DecidableEq, Repr

structure OlmCiphertext where
  type : MessageType
  body : JsString
  deriving DecidableEq, Repr

structure OlmOneTimeKey where
  keyId : JsString
  publicKey : JsString
  signature : JsString
  deriving DecidableEq, Repr

/-- What a device publishes to the server. -/
structure OlmPublishBundle where
  deviceId : JsString
  curve25519IdentityKey : JsString
  ed25519IdentityKey : JsString
  fallbackKeyId : JsString
  fallbackPublicKey : JsString
  fallbackSignature : JsString
  oneTimeKeys : List OlmOneTimeKey
  deriving DecidableEq, Repr

/-- What a claiming client fetches to start a session with a remote device. -/
structure OlmKeyBundle where
  curve25519IdentityKey : JsString
  ed25519IdentityKey : JsString
  keyId : JsString
  publicKey : JsString
  signature : JsString
  isFallback : Bool
  deriving DecidableEq, Repr

/-- The identity a bundle claims. -/
def OlmKeyBundle.identity (bundle : OlmKeyBundle) : PinnedIdentity :=
  ⟨bundle.curve25519IdentityKey, bundle.ed25519IdentityKey⟩

structure OlmTarget where
  userId : JsString
  deviceId : JsString
  deriving DecidableEq, Repr

/-- Everything a store operation can throw. -/
inductive OlmError
  | message (text : JsString)
  | identityMismatch (userId deviceId : JsString)
  | olm (code : JsString)
  | sealBroken
  deriving DecidableEq, Repr

/-- The interface of `@matrix-org/olm` the protocol layer uses. -/
structure OlmLibrary where
  Account : Type
  Session : Type
  create : Nat → Account
  generateFallbackKey : Nat → Account → Account
  unpublishedFallbackKey : Account → List (JsString × JsString)
  identityKeys : Account → PinnedIdentity
  sign : Account → JsString → JsString
  generateOneTimeKeys : Nat → Nat → Account → Account
  oneTimeKeys : Account → List (JsString × JsString)
  markKeysAsPublished : Account → Account
  removeOneTimeKeys : Account → Session → Except JsString Account
  createOutbound : Nat → Account → JsString → JsString → Except JsString Session
  createInbound : Account → JsString → Except JsString Session
  createInboundFrom : Account → JsString → JsString → Except JsString Session
  matchesInbound : Session → JsString → Except JsString Bool
  matchesInboundFrom : Session → JsString → JsString → Except JsString Bool
  encrypt : Nat → Session → JsString → Session × OlmCiphertext
  decrypt : Session → OlmCiphertext → Except JsString (Session × JsString)
  ed25519Verify : JsString → JsString → JsString → Bool

/-- The key of a (user, device) pair in the stores of the database. -/
def targetKey (target : OlmTarget) : JsString :=
  target.userId ++ js ":" ++ target.deviceId

def canonicalOneTimeKeyPayload (userId deviceId keyId publicKey : JsString) : JsString :=
  JsString.stringifyObject [(js "userId", userId), (js "deviceId", deviceId),
    (js "keyId", keyId), (js "publicKey", publicKey)]

def canonicalFallbackKeyPayload (userId deviceId keyId publicKey : JsString) : JsString :=
  JsString.stringifyObject [(js "userId", userId), (js "deviceId", deviceId),
    (js "keyId", keyId), (js "publicKey", publicKey), (js "kind", js "fallback")]

variable (olm : OlmLibrary)

/-- Generate, publish-mark and sign a batch of one-time keys on an account. -/
def generateOneTimeKeysOnAccount (seed : Nat) (account : olm.Account)
    (userId deviceId : JsString) (count : Nat) : olm.Account × List OlmOneTimeKey :=
  let filled := olm.generateOneTimeKeys seed count account
  let generated := olm.oneTimeKeys filled
  let published := olm.markKeysAsPublished filled
  (published, generated.map fun (keyId, publicKey) =>
    { keyId, publicKey
      signature := olm.sign published
        (canonicalOneTimeKeyPayload userId deviceId keyId publicKey) })

/-- Create a device identity with everything it has to publish. -/
def createIdentity (seed : Nat) (userId deviceId : JsString) (oneTimeKeyCount : Nat) :
    Except OlmError (olm.Account × OlmPublishBundle) :=
  let account := olm.generateFallbackKey seed (olm.create seed)
  match olm.unpublishedFallbackKey account with
  | [] => .error (.message (js "Failed to generate fallback key"))
  | (fallbackKeyId, fallbackPublicKey) :: _ =>
      let identity := olm.identityKeys account
      let fallbackSignature := olm.sign account
        (canonicalFallbackKeyPayload userId deviceId fallbackKeyId fallbackPublicKey)
      let (filled, oneTimeKeys) :=
        generateOneTimeKeysOnAccount olm seed account userId deviceId oneTimeKeyCount
      .ok (filled,
        { deviceId
          curve25519IdentityKey := identity.curve25519IdentityKey
          ed25519IdentityKey := identity.ed25519IdentityKey
          fallbackKeyId, fallbackPublicKey, fallbackSignature, oneTimeKeys })

def getIdentityKeys (account : olm.Account) : PinnedIdentity := olm.identityKeys account

def generateOneTimeKeyBatch (seed : Nat) (account : olm.Account) (userId deviceId : JsString)
    (count : Nat) : olm.Account × List OlmOneTimeKey :=
  generateOneTimeKeysOnAccount olm seed account userId deviceId count

/-- Verify a bundle's signature against the identity key the bundle itself claims. -/
def verifyKeyBundleSignature (remoteUserId remoteDeviceId : JsString) (bundle : OlmKeyBundle) :
    Bool :=
  let payload :=
    if bundle.isFallback then
      canonicalFallbackKeyPayload remoteUserId remoteDeviceId bundle.keyId bundle.publicKey
    else canonicalOneTimeKeyPayload remoteUserId remoteDeviceId bundle.keyId bundle.publicKey
  olm.ed25519Verify bundle.ed25519IdentityKey payload bundle.signature

def createOutboundSession (seed : Nat) (account : olm.Account) (bundle : OlmKeyBundle) :
    Except OlmError olm.Session :=
  (olm.createOutbound seed account bundle.curve25519IdentityKey bundle.publicKey).mapError .olm

def encryptMessage (seed : Nat) (session : olm.Session) (plaintext : JsString) :
    olm.Session × OlmCiphertext :=
  olm.encrypt seed session plaintext

/-- An expected identity key counts only when it is a non-empty string. -/
def expectedKey (expectedIdentityKey : Option JsString) : Option JsString :=
  expectedIdentityKey.filter fun key => !key.isEmpty

/-- Whether a stored session takes a message: anything that is not a PreKey
message, and a PreKey message that was sent on this very session. -/
def matchesExisting (session : olm.Session) (ciphertext : OlmCiphertext)
    (expectedIdentityKey : Option JsString) : Except OlmError Bool :=
  match ciphertext.type with
  | .normal => .ok true
  | .preKey =>
      match expectedKey expectedIdentityKey with
      | some key => (olm.matchesInboundFrom session key ciphertext.body).mapError .olm
      | none => (olm.matchesInbound session ciphertext.body).mapError .olm

/-- A session for a PreKey message without a stored session, and the account
without the one-time key it used. -/
def establishInbound (account : olm.Account) (ciphertext : OlmCiphertext)
    (expectedIdentityKey : Option JsString) : Except OlmError (olm.Account × olm.Session) := do
  match ciphertext.type with
  | .normal => throw (.message (js "No session for non-PreKey message"))
  | .preKey =>
      let session ← match expectedKey expectedIdentityKey with
        | some key => (olm.createInboundFrom account key ciphertext.body).mapError .olm
        | none => (olm.createInbound account ciphertext.body).mapError .olm
      let remaining ← (olm.removeOneTimeKeys account session).mapError .olm
      return (remaining, session)

/-- The account and session a message is decrypted with: the stored session when
it takes the message, an inbound session made from the message otherwise. -/
def sessionForMessage (account : olm.Account) (session : Option olm.Session)
    (ciphertext : OlmCiphertext) (expectedIdentityKey : Option JsString) :
    Except OlmError (olm.Account × olm.Session) := do
  match session with
  | none => establishInbound olm account ciphertext expectedIdentityKey
  | some stored =>
      if ← matchesExisting olm stored ciphertext expectedIdentityKey then return (account, stored)
      else establishInbound olm account ciphertext expectedIdentityKey

/-- Decrypt a ciphertext from a remote device. -/
def decryptMessage (account : olm.Account) (session : Option olm.Session)
    (ciphertext : OlmCiphertext) (expectedIdentityKey : Option JsString) :
    Except OlmError (olm.Account × olm.Session × JsString) := do
  let (used, current) ← sessionForMessage olm account session ciphertext expectedIdentityKey
  let (advanced, plaintext) ← (olm.decrypt current ciphertext).mapError .olm
  return (used, advanced, plaintext)

/-! ## Successful results -/

variable {olm}

/-- An inbound session is made from a PreKey message, with the expected identity key if
there is one, and its one-time key is taken from the account. -/
theorem establishInbound_eq_ok {account used : olm.Account} {session : olm.Session}
    {ciphertext : OlmCiphertext} {expected : Option JsString}
    (established : establishInbound olm account ciphertext expected = .ok (used, session)) :
    ciphertext.type = .preKey ∧ olm.removeOneTimeKeys account session = .ok used ∧
      match expectedKey expected with
      | some key => olm.createInboundFrom account key ciphertext.body = .ok session
      | none => olm.createInbound account ciphertext.body = .ok session := by
  unfold establishInbound at established
  cases kind : ciphertext.type with
  | normal =>
    rw [kind] at established
    cases established
  | preKey =>
    rw [kind] at established
    cases expectation : expectedKey expected with
    | some key =>
      simp only [expectation] at established
      obtain ⟨created, made, established⟩ := ok_of_bind established
      obtain ⟨remaining, removed, same⟩ := ok_of_bind established
      cases same
      exact ⟨rfl, ok_of_mapError removed, ok_of_mapError made⟩
    | none =>
      simp only [expectation] at established
      obtain ⟨created, made, established⟩ := ok_of_bind established
      obtain ⟨remaining, removed, same⟩ := ok_of_bind established
      cases same
      exact ⟨rfl, ok_of_mapError removed, ok_of_mapError made⟩

/-- A decrypted message was taken by the stored session, or by an inbound session made
from it because the stored session, if any, did not take it. -/
theorem decryptMessage_eq_ok {account used : olm.Account} {stored : Option olm.Session}
    {advanced : olm.Session} {ciphertext : OlmCiphertext} {expected : Option JsString}
    {plaintext : JsString}
    (decrypted : decryptMessage olm account stored ciphertext expected =
      .ok (used, advanced, plaintext)) :
    ∃ current, olm.decrypt current ciphertext = .ok (advanced, plaintext) ∧
      ((stored = some current ∧ used = account ∧
          matchesExisting olm current ciphertext expected = .ok true) ∨
        (establishInbound olm account ciphertext expected = .ok (used, current) ∧
          ∀ session, stored = some session →
            matchesExisting olm session ciphertext expected = .ok false)) := by
  obtain ⟨⟨remaining, current⟩, chosen, decrypted⟩ := ok_of_bind decrypted
  obtain ⟨⟨next, text⟩, opened, same⟩ := ok_of_bind decrypted
  cases same
  refine ⟨current, ok_of_mapError opened, ?_⟩
  cases stored with
  | none => exact .inr ⟨chosen, nofun⟩
  | some session =>
    obtain ⟨takes, asked, chosen⟩ := ok_of_bind chosen
    cases takes with
    | true =>
      cases chosen
      exact .inl ⟨rfl, rfl, asked⟩
    | false =>
      refine .inr ⟨chosen, fun other same => ?_⟩
      cases same
      exact asked

end Vortex.Olm
