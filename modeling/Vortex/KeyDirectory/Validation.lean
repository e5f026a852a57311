import Vortex.Foundation.Json
import Vortex.Olm.Protocol

/-!
# Validation of published key material

The checks of `lib/olm-key-validation.ts`: bounds and character sets of the
fields of a request, and Ed25519 signatures of one-time and fallback keys under
a device's identity key. Node's `Buffer` and `crypto` are parameters.
-/

namespace Vortex.KeyDirectory

open Foundation
open Vortex.Olm (OlmOneTimeKey)

/-- A code unit of the standard base64 alphabet. -/
def isBase64Unit (unit : UInt16) : Bool :=
  (65 ≤ unit && unit ≤ 90) || (97 ≤ unit && unit ≤ 122) || (48 ≤ unit && unit ≤ 57) ||
    unit = 43 || unit = 47

/-- `BASE64_RE`: one or more letters of the alphabet, then up to two `=`. -/
def matchesBase64 (text : JsString) : Bool :=
  let padding := text.dropWhile isBase64Unit
  padding.length < text.length && padding.length ≤ 2 && padding.all (· = 61)

def isBase64String (value : Option Json) (minLen maxLen : Nat) : Bool :=
  match Json.string? value with
  | some text => minLen ≤ text.length && text.length ≤ maxLen && matchesBase64 text
  | none => false

def isValidOlmPublicKey (value : Option Json) : Bool := isBase64String value 32 64

def isValidOlmSignature (value : Option Json) : Bool := isBase64String value 40 128

def isValidOlmKeyId (value : Option Json) : Bool :=
  match Json.string? value with
  | some text => 1 ≤ text.length && text.length ≤ 32 && text.all fun unit => 48 ≤ unit && unit ≤ 57
  | none => false

def isValidDeviceId (value : Option Json) : Bool :=
  match Json.string? value with
  | some text => 1 ≤ text.length && text.length ≤ 128
  | none => false

/-- The `as string` cast of a field that was validated to be one. -/
def asString (value : Option Json) : JsString := (Json.string? value).getD []

/-- A one-time key of a request, when it is an object with three valid fields. -/
def validateOneTimeKeyEntry (entry : Json) : Option OlmOneTimeKey :=
  let keyId := entry.get? (js "keyId")
  let publicKey := entry.get? (js "publicKey")
  let signature := entry.get? (js "signature")
  if isValidOlmKeyId keyId && isValidOlmPublicKey publicKey && isValidOlmSignature signature then
    some ⟨asString keyId, asString publicKey, asString signature⟩
  else none

/-- What the signature check uses of Node: `Buffer.from` for base64 and UTF-8, and
`verify` for a DER public key, a message and a signature (`none` when it throws). -/
structure NodeCrypto where
  fromBase64 : JsString → List UInt8
  fromUtf8 : JsString → List UInt8
  verify : List UInt8 → List UInt8 → List UInt8 → Option Bool

/-- The DER prefix of a raw 32-byte Ed25519 public key. -/
def ED25519_SPKI_PREFIX : List UInt8 :=
  [0x30, 0x2a, 0x30, 0x05, 0x06, 0x03, 0x2b, 0x65, 0x70, 0x03, 0x21, 0x00]

variable (node : NodeCrypto)

def verifyEd25519 (ed25519IdentityKey payload signature : JsString) : Bool :=
  let raw := node.fromBase64 ed25519IdentityKey
  if raw.length = 32 then
    (node.verify (ED25519_SPKI_PREFIX ++ raw) (node.fromUtf8 payload)
      (node.fromBase64 signature)).getD false
  else false

def verifyOneTimeKeySignature (ed25519IdentityKey userId deviceId : JsString)
    (key : OlmOneTimeKey) : Bool :=
  verifyEd25519 node ed25519IdentityKey
    (JsString.stringifyObject [(js "userId", userId), (js "deviceId", deviceId),
      (js "keyId", key.keyId), (js "publicKey", key.publicKey)])
    key.signature

def verifyFallbackKeySignature
    (ed25519IdentityKey userId deviceId keyId publicKey signature : JsString) : Bool :=
  verifyEd25519 node ed25519IdentityKey
    (JsString.stringifyObject [(js "userId", userId), (js "deviceId", deviceId),
      (js "keyId", keyId), (js "publicKey", publicKey), (js "kind", js "fallback")])
    signature

end Vortex.KeyDirectory
