import Vortex.KeyDirectory.Directory
import Vortex.Olm.Symbolic

/-!
# The client's side of the key directory

The bodies `dm-channel-area.tsx` posts to the directory and the bundle it makes of
the response to a claim.
-/

namespace Vortex.KeyDirectory

open Foundation
open Vortex.Olm (OlmKeyBundle OlmOneTimeKey OlmPublishBundle OlmTarget createIdentity)

def oneTimeKeyBody (key : OlmOneTimeKey) : Json :=
  .obj [(js "keyId", .str key.keyId), (js "publicKey", .str key.publicKey),
    (js "signature", .str key.signature)]

/-- `JSON.stringify(publish)`, as the server parses it. -/
def publishBody (publish : OlmPublishBundle) : Json :=
  .obj [(js "deviceId", .str publish.deviceId),
    (js "curve25519IdentityKey", .str publish.curve25519IdentityKey),
    (js "ed25519IdentityKey", .str publish.ed25519IdentityKey),
    (js "fallbackKeyId", .str publish.fallbackKeyId),
    (js "fallbackPublicKey", .str publish.fallbackPublicKey),
    (js "fallbackSignature", .str publish.fallbackSignature),
    (js "oneTimeKeys", .arr (publish.oneTimeKeys.map oneTimeKeyBody))]

def claimBody (target : OlmTarget) : Json :=
  .obj [(js "targetUserId", .str target.userId), (js "targetDeviceId", .str target.deviceId)]

/-- The bundle a client makes of a response (`encryptOlmText`). -/
def bundleOfClaim (claimed : ClaimResponse) : OlmKeyBundle where
  curve25519IdentityKey := claimed.curve25519_identity_key
  ed25519IdentityKey := claimed.ed25519_identity_key
  keyId := claimed.key_id
  publicKey := claimed.public_key
  signature := claimed.signature
  isFallback := claimed.is_fallback

/-! ## Sample requests -/

namespace Sample

open Vortex.Olm (Symbolic.library)

def phone : OlmTarget := ⟨js "bob", js "phone"⟩

/-- What a new device with two one-time keys publishes. -/
def publish : OlmPublishBundle :=
  match createIdentity Symbolic.library 7 phone.userId phone.deviceId 2 with
  | .ok (_, publish) => publish
  | .error _ => ⟨[], [], [], [], [], [], []⟩

def incoming (userId : JsString) (body : Json) : Incoming := ⟨.ok userId, false, some body⟩

def publishPhone : DirectoryCall :=
  .postDevice (incoming phone.userId (publishBody publish)) 1 id false

def claimPhone : DirectoryCall :=
  .postClaim (incoming (js "alice") (claimBody phone)) 5 false false

end Sample

end Vortex.KeyDirectory
