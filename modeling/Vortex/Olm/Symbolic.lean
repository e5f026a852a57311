import Mathlib.Algebra.Group.Nat.Defs
import Vortex.KeyDirectory.Validation
import Vortex.Olm.Operations

/-!
# A symbolic Olm

An instance of the library interface that can be evaluated. A session is the name
of its handshake, a message names its session, its side and its position in clear,
and a signature is a checksum under the name of its key. Nothing here is secret; the
instance only does what the library documents of accounts, sessions and signatures.
-/

namespace Vortex.Olm.Symbolic

open Foundation
open Vortex.KeyDirectory (NodeCrypto verifyEd25519)

/-! ## Base64 -/

def base64Value (unit : UInt16) : Nat :=
  if 65 ≤ unit && unit ≤ 90 then unit.toNat - 65
  else if 97 ≤ unit && unit ≤ 122 then unit.toNat - 71
  else if 48 ≤ unit && unit ≤ 57 then unit.toNat + 4
  else if unit = 43 then 62
  else 63

def base64Unit (value : Nat) : UInt16 :=
  if value < 26 then (value + 65).toUInt16
  else if value < 52 then (value + 71).toUInt16
  else if value < 62 then (value - 4).toUInt16
  else if value = 62 then 43
  else 47

def base64Decode : JsString → List UInt8
  | a :: b :: c :: d :: rest =>
      (base64Value a * 4 + base64Value b / 16).toUInt8 ::
        (base64Value b * 16 + base64Value c / 4).toUInt8 ::
          (base64Value c * 64 + base64Value d).toUInt8 :: base64Decode rest
  | [a, b, c] =>
      [(base64Value a * 4 + base64Value b / 16).toUInt8,
        (base64Value b * 16 + base64Value c / 4).toUInt8]
  | [a, b] => [(base64Value a * 4 + base64Value b / 16).toUInt8]
  | _ => []

def base64Encode : List UInt8 → JsString
  | a :: b :: c :: rest =>
      base64Unit (a.toNat / 4) :: base64Unit (a.toNat % 4 * 16 + b.toNat / 16) ::
        base64Unit (b.toNat % 16 * 4 + c.toNat / 64) :: base64Unit (c.toNat % 64) ::
          base64Encode rest
  | [a, b] =>
      [base64Unit (a.toNat / 4), base64Unit (a.toNat % 4 * 16 + b.toNat / 16),
        base64Unit (b.toNat % 16 * 4)]
  | [a] => [base64Unit (a.toNat / 4), base64Unit (a.toNat % 4 * 16)]
  | [] => []

/-! ## Names of keys and signatures -/

/-- The decimal digits of a number, in a field of the given width. -/
def digits : Nat → Nat → JsString
  | 0, _ => []
  | width + 1, number => digits width (number / 10) ++ [(48 + number % 10).toUInt16]

/-- A public key: 43 letters of the alphabet, which stand for 32 bytes. -/
def publicKey (kind : UInt16) (serial index : Nat) : JsString :=
  kind :: digits 20 serial ++ digits 22 index

def checksum (message : List UInt8) : List UInt8 :=
  base64Decode (digits 43 (message.foldl (fun sum byte => (sum * 31 + byte.toNat) % 10 ^ 40) 7))

/-- The signature primitive: the signature of a message is its key and its checksum. -/
def node : NodeCrypto where
  fromBase64 := base64Decode
  fromUtf8 text := text.map UInt16.toUInt8
  verify key message signature := some (signature = key.drop 12 ++ checksum message)

def signature (ed25519IdentityKey message : JsString) : JsString :=
  base64Encode (node.fromBase64 ed25519IdentityKey ++ checksum (node.fromUtf8 message))

/-! ## Messages -/

/-- A number in unary. -/
def writeNat : Nat → JsString
  | 0 => [48]
  | number + 1 => 49 :: writeNat number

def readNat : JsString → Option (Nat × JsString)
  | [] => none
  | unit :: rest =>
      if unit = 48 then some (0, rest)
      else if unit = 49 then (readNat rest).map fun (number, rest) => (number + 1, rest)
      else none

/-- A text after its length. -/
def writeText (text : JsString) : JsString := writeNat text.length ++ text

def readText (input : JsString) : Option (JsString × JsString) :=
  (readNat input).map fun (length, rest) => (rest.take length, rest.drop length)

@[simp] theorem readNat_writeNat (number : Nat) (rest : JsString) :
    readNat (writeNat number ++ rest) = some (number, rest) := by
  induction number with
  | zero => rfl
  | succ number ih =>
    change (readNat (writeNat number ++ rest)).map (fun (number, rest) => (number + 1, rest)) = _
    rw [ih]
    rfl

/-- The handshake a session comes from. -/
structure Handshake where
  identityKey : JsString
  ephemeral : Nat
  oneTimeKey : JsString
  deriving DecidableEq, Repr

/-- A message: the handshake of its session, whether the initiator sent it, how many
messages its side had sent before, and its text. -/
structure Message where
  handshake : Handshake
  fromInitiator : Bool
  index : Nat
  text : JsString
  deriving DecidableEq, Repr

def Message.encode (message : Message) : JsString :=
  writeText message.handshake.identityKey ++ (writeNat message.handshake.ephemeral ++
    (writeText message.handshake.oneTimeKey ++ (writeNat message.fromInitiator.toNat ++
      (writeNat message.index ++ message.text))))

def Message.decode (body : JsString) : Option Message := do
  let (identityKey, rest) ← readText body
  let (ephemeral, rest) ← readNat rest
  let (oneTimeKey, rest) ← readText rest
  let (side, rest) ← readNat rest
  let (index, text) ← readNat rest
  return ⟨⟨identityKey, ephemeral, oneTimeKey⟩, side = 1, index, text⟩

/-! ## The library -/

/-- An account: its serial number, how many keys it has made, the keys that wait to be
published, the one-time keys it holds, and its fallback key. -/
structure Account where
  serial : Nat
  made : Nat
  unpublished : List (JsString × JsString)
  held : List JsString
  fallback : Option (JsString × JsString)
  deriving DecidableEq, Repr

def Account.identity (account : Account) : PinnedIdentity :=
  ⟨publicKey 67 account.serial 0, publicKey 69 account.serial 0⟩

/-- Make one-time keys, numbered on from the last key made. -/
def Account.generate : Nat → Account → Account
  | 0, account => account
  | count + 1, account =>
      let key := publicKey 79 account.serial account.made
      generate count
        { account with
          made := account.made + 1
          unpublished := account.unpublished ++ [(digits 10 account.made, key)]
          held := account.held ++ [key] }

/-- The keys an inbound session can be made with. -/
def Account.Holds (account : Account) (key : JsString) : Prop :=
  key ∈ account.held ∨ account.fallback.map Prod.snd = some key

instance (account : Account) (key : JsString) : Decidable (account.Holds key) :=
  inferInstanceAs (Decidable (_ ∨ _))

/-- A session: its handshake, the side it is, the peer's identity key, and how many
messages it has sent and received. -/
structure Session where
  handshake : Handshake
  initiator : Bool
  remote : JsString
  sent : Nat
  received : Nat
  deriving DecidableEq, Repr

def createInbound (account : Account) (body : JsString) : Except JsString Session :=
  match Message.decode body with
  | none => .error (js "BAD_MESSAGE_FORMAT")
  | some message =>
      if account.Holds message.handshake.oneTimeKey then
        .ok ⟨message.handshake, false, message.handshake.identityKey, 0, 0⟩
      else .error (js "BAD_MESSAGE_KEY_ID")

def matchesInbound (session : Session) (body : JsString) : Except JsString Bool :=
  match Message.decode body with
  | none => .error (js "BAD_MESSAGE_FORMAT")
  | some message => .ok (message.handshake = session.handshake)

/-- An initiator sends PreKey messages until it has received an answer. -/
def encrypt (session : Session) (text : JsString) : Session × OlmCiphertext :=
  ({ session with sent := session.sent + 1 },
    { type := if session.initiator && session.received = 0 then .preKey else .normal
      body := Message.encode ⟨session.handshake, session.initiator, session.sent, text⟩ })

/-- A session decrypts the other side's messages of its own handshake, each of them
once and in order. -/
def decrypt (session : Session) (ciphertext : OlmCiphertext) :
    Except JsString (Session × JsString) :=
  match Message.decode ciphertext.body with
  | none => .error (js "BAD_MESSAGE_FORMAT")
  | some message =>
      if message.handshake = session.handshake ∧ message.fromInitiator ≠ session.initiator ∧
          session.received ≤ message.index then
        .ok ({ session with received := message.index + 1 }, message.text)
      else .error (js "BAD_MESSAGE_MAC")

/-- The symbolic library. -/
def library : OlmLibrary where
  Account := Account
  Session := Session
  create seed := ⟨seed, 0, [], [], none⟩
  generateFallbackKey _ account :=
    { account with
      made := account.made + 1
      fallback := some (digits 10 account.made, publicKey 70 account.serial account.made) }
  unpublishedFallbackKey account := account.fallback.toList
  identityKeys := Account.identity
  sign account payload := signature account.identity.ed25519IdentityKey payload
  generateOneTimeKeys _ count account := account.generate count
  oneTimeKeys := Account.unpublished
  markKeysAsPublished account := { account with unpublished := [] }
  removeOneTimeKeys account session :=
    if account.Holds session.handshake.oneTimeKey then
      .ok { account with held := account.held.erase session.handshake.oneTimeKey }
    else .error (js "BAD_MESSAGE_KEY_ID")
  createOutbound seed account identityKey oneTimeKey :=
    .ok ⟨⟨account.identity.curve25519IdentityKey, seed, oneTimeKey⟩, true, identityKey, 0, 0⟩
  createInbound := createInbound
  createInboundFrom account identityKey body := do
    let session ← createInbound account body
    if session.remote = identityKey then return session else throw (js "BAD_MESSAGE_KEY_ID")
  matchesInbound := matchesInbound
  matchesInboundFrom session identityKey body := do
    return (← matchesInbound session body) && session.remote = identityKey
  encrypt _ := encrypt
  decrypt := decrypt
  ed25519Verify := verifyEd25519 node

/-! ## A device and its peer -/

/-- The device that the samples are in contact with. -/
def peer : OlmTarget := ⟨js "bob", js "phone"⟩

/-- A bundle for that device under the identity with the given number. -/
def bundle (serial : Nat) : OlmKeyBundle :=
  let account : Account := ⟨serial, 1, [], [publicKey 79 serial 0], none⟩
  { curve25519IdentityKey := account.identity.curve25519IdentityKey
    ed25519IdentityKey := account.identity.ed25519IdentityKey
    keyId := digits 10 0
    publicKey := publicKey 79 serial 0
    signature := library.sign account (canonicalOneTimeKeyPayload peer.userId peer.deviceId
      (digits 10 0) (publicKey 79 serial 0))
    isFallback := false }

/-- A profile with an account, which holds one one-time key, and no contacts. -/
def registered : Browser library :=
  ((Browser.blank fun serial => digits 10 serial).put .wrapKey ⟨0⟩).put .account
    ⟨⟨0⟩, ⟨1, 1, [], [publicKey 79 1 0], none⟩⟩

/-- A profile with a session for the peer. -/
def profile : Browser library :=
  registered.put (.session (targetKey peer))
    ⟨⟨0⟩, ⟨publicKey 67 1 0, 0, publicKey 79 2 0⟩, true, publicKey 67 2 0, 0, 0⟩

/-- The first message of a peer that has set up a session with the held one-time key. -/
def greeting : OlmCiphertext :=
  (encrypt ⟨⟨publicKey 67 2 0, 0, publicKey 79 1 0⟩, true, publicKey 67 1 0, 0, 0⟩ (js "hello")).2

def setUp (serial : Nat) : StoreCall :=
  ⟨0, js "alice", .ensureOutboundSession peer.userId peer.deviceId (bundle serial)⟩

def send (text : JsString) : StoreCall :=
  ⟨0, js "alice", .encryptTo peer.userId peer.deviceId text⟩

def receive (ciphertext : OlmCiphertext) (identityHint : Option PinnedIdentity) : StoreCall :=
  ⟨0, js "alice", .decryptFrom peer.userId peer.deviceId ciphertext identityHint⟩

end Vortex.Olm.Symbolic
