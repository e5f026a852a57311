import Mathlib.Data.List.TakeWhile
import Vortex.KeyDirectory.Client

/-!
# The texts a client publishes

The Olm library writes keys and signatures in base64, and so it writes the ids of
keys: the four bytes of a counter. The validation of a request expects ids in
decimal digits. No id of the library is one, so no bundle and no top-up passes.
-/

namespace Vortex.KeyDirectory

open Foundation List
open Vortex.Olm
open Vortex.Olm.Symbolic (base64Encode base64Unit)

/-- The body of a top-up (`maybeTopUpOlmKeys`), as the server parses it. -/
def topUpBody (deviceId : JsString) (oneTimeKeys : List OlmOneTimeKey) : Json :=
  .obj [(js "deviceId", .str deviceId), (js "oneTimeKeys", .arr (oneTimeKeys.map oneTimeKeyBody))]

/-! ## Base64 -/

theorem isBase64Unit_base64Unit {value : Nat} (small : value < 64) :
    isBase64Unit (base64Unit value) = true := by
  have every : ∀ letter : Fin 64, isBase64Unit (base64Unit letter.val) = true := by decide
  exact every ⟨value, small⟩

theorem isBase64Unit_of_mem {bytes : List UInt8} {unit : UInt16}
    (member : unit ∈ base64Encode bytes) : isBase64Unit unit = true := by
  have bound : ∀ byte : UInt8, byte.toNat < 256 := fun byte => byte.toNat_lt
  induction bytes using Symbolic.base64Encode.induct with
  | case1 a b c rest ih =>
    have first := bound a
    have second := bound b
    have third := bound c
    simp only [base64Encode, mem_cons] at member
    rcases member with rfl | rfl | rfl | rfl | member
    · exact isBase64Unit_base64Unit (by omega)
    · exact isBase64Unit_base64Unit (by omega)
    · exact isBase64Unit_base64Unit (by omega)
    · exact isBase64Unit_base64Unit (by omega)
    · exact ih member
  | case2 a b =>
    have first := bound a
    have second := bound b
    simp only [base64Encode, mem_cons, not_mem_nil, or_false] at member
    rcases member with rfl | rfl | rfl
    · exact isBase64Unit_base64Unit (by omega)
    · exact isBase64Unit_base64Unit (by omega)
    · exact isBase64Unit_base64Unit (by omega)
  | case3 a =>
    have first := bound a
    simp only [base64Encode, mem_cons, not_mem_nil, or_false] at member
    rcases member with rfl | rfl
    · exact isBase64Unit_base64Unit (by omega)
    · exact isBase64Unit_base64Unit (by omega)
  | case4 => cases member

theorem length_base64Encode (bytes : List UInt8) :
    (base64Encode bytes).length = (4 * bytes.length + 2) / 3 := by
  induction bytes using Symbolic.base64Encode.induct with
  | case1 a b c rest ih =>
    simp only [base64Encode, length_cons, ih]
    omega
  | case2 a b => simp only [base64Encode, length_cons, length_nil, Nat.reduceAdd,
      Nat.reduceMul, Nat.reduceDiv]
  | case3 a => simp only [base64Encode, length_cons, length_nil, Nat.reduceAdd,
      Nat.reduceMul, Nat.reduceDiv]
  | case4 => rfl

/-- Base64 of a suitable length is accepted. -/
theorem isBase64String_base64Encode {bytes : List UInt8} {minLen maxLen : Nat}
    (low : minLen ≤ (4 * bytes.length + 2) / 3) (high : (4 * bytes.length + 2) / 3 ≤ maxLen)
    (some_byte : 0 < bytes.length) :
    isBase64String (some (.str (base64Encode bytes))) minLen maxLen = true := by
  have length := length_base64Encode bytes
  have nothing_left : (base64Encode bytes).dropWhile isBase64Unit = [] :=
    dropWhile_eq_nil_iff.mpr fun unit member => isBase64Unit_of_mem member
  have positive : 0 < (base64Encode bytes).length := by omega
  simp only [isBase64String, Json.string?, matchesBase64, nothing_left, length_nil,
    all_nil, Bool.and_true, Nat.zero_le, decide_true, Bool.and_eq_true, decide_eq_true_eq]
  omega

/-! ## The formats of the library -/

/-- The id of a key: the big-endian bytes of a counter. -/
def keyIdText (counter : UInt32) : JsString :=
  base64Encode [(counter.toNat / 16777216).toUInt8, (counter.toNat / 65536).toUInt8,
    (counter.toNat / 256).toUInt8, counter.toNat.toUInt8]

example : keyIdText 1 = js "AAAAAQ" := by decide

/-- Unpadded base64 of a number of bytes. -/
def Encodes (length : Nat) (text : JsString) : Prop :=
  ∃ bytes : List UInt8, bytes.length = length ∧ text = base64Encode bytes

/-- The id and the public half of a generated key. -/
def Encodes.Key (entry : JsString × JsString) : Prop :=
  (∃ counter, entry.1 = keyIdText counter) ∧ Encodes 32 entry.2

/-- How the library renders what it hands out. -/
structure OlmFormats (olm : OlmLibrary) : Prop where
  identity : ∀ account, Encodes 32 (olm.identityKeys account).curve25519IdentityKey ∧
    Encodes 32 (olm.identityKeys account).ed25519IdentityKey
  fallbackKey : ∀ account, ∀ entry ∈ olm.unpublishedFallbackKey account, Encodes.Key entry
  oneTimeKey : ∀ account, ∀ entry ∈ olm.oneTimeKeys account, Encodes.Key entry
  signature : ∀ account payload, Encodes 64 (olm.sign account payload)

theorem isValidOlmPublicKey_of_encodes {text : JsString} (encodes : Encodes 32 text) :
    isValidOlmPublicKey (some (.str text)) = true := by
  obtain ⟨bytes, length, rfl⟩ := encodes
  exact isBase64String_base64Encode (by omega) (by omega) (by omega)

theorem isValidOlmSignature_of_encodes {text : JsString} (encodes : Encodes 64 text) :
    isValidOlmSignature (some (.str text)) = true := by
  obtain ⟨bytes, length, rfl⟩ := encodes
  exact isBase64String_base64Encode (by omega) (by omega) (by omega)

/-- The last letter of a key id stands for two bits and four zeros, which no digit does. -/
theorem isValidOlmKeyId_keyIdText (counter : UInt32) :
    isValidOlmKeyId (some (.str (keyIdText counter))) = false := by
  have every : ∀ bits : Fin 4, (48 ≤ base64Unit (bits.val * 16) &&
      base64Unit (bits.val * 16) ≤ 57) = false := by decide
  have last := every ⟨counter.toNat.toUInt8.toNat % 4, Nat.mod_lt _ (by decide)⟩
  simp only [isValidOlmKeyId, Json.string?, keyIdText, base64Encode, all_cons, all_nil,
    last, Bool.false_and, Bool.and_false]

/-! ## Bodies -/

/-- The fields of a published key other than its id are as the validation wants them. -/
def WellEncoded (key : OlmOneTimeKey) : Prop := Encodes 32 key.publicKey ∧ Encodes 64 key.signature

theorem validateOneTimeKeyEntry_isNone {key : OlmOneTimeKey} (encoded : WellEncoded key) :
    (validateOneTimeKeyEntry (oneTimeKeyBody key)).isNone =
      !isValidOlmKeyId (some (.str key.keyId)) := by
  have keyId : (oneTimeKeyBody key).get? (js "keyId") = some (.str key.keyId) := by rfl
  have publicKey : (oneTimeKeyBody key).get? (js "publicKey") = some (.str key.publicKey) := by rfl
  have signature : (oneTimeKeyBody key).get? (js "signature") = some (.str key.signature) := by rfl
  rw [validateOneTimeKeyEntry, keyId, publicKey, signature,
    isValidOlmPublicKey_of_encodes encoded.1, isValidOlmSignature_of_encodes encoded.2]
  cases isValidOlmKeyId (some (.str key.keyId)) <;> rfl

/-- Well-encoded keys are accepted when there are some, not too many, and all their ids
are valid. -/
theorem validateOneTimeKeys_eq_none {body : Json} {keys : List OlmOneTimeKey}
    (listed : body.get? (js "oneTimeKeys") = some (.arr (keys.map oneTimeKeyBody)))
    (encoded : ∀ key ∈ keys, WellEncoded key) :
    validateOneTimeKeys body = none ↔ keys ≠ [] ∧ keys.length ≤ MAX_ONE_TIME_KEYS_PER_REQUEST ∧
        ∀ key ∈ keys, isValidOlmKeyId (some (.str key.keyId)) = true := by
  have refused : ((keys.map oneTimeKeyBody).any fun entry =>
      (validateOneTimeKeyEntry entry).isNone) =
        keys.any fun key => !isValidOlmKeyId (some (.str key.keyId)) := by
    rw [any_map, Bool.eq_iff_iff, any_eq_true, any_eq_true]
    refine exists_congr fun key => and_congr_right fun member => ?_
    rw [Function.comp_apply, validateOneTimeKeyEntry_isNone (encoded key member)]
  rw [validateOneTimeKeys, listed]
  cases keys with
  | nil => simp [Json.array?]
  | cons key rest =>
    simp only [Json.array?, map_cons] at refused ⊢
    rw [refused, length_cons, length_map]
    by_cases many : (key :: rest).length > MAX_ONE_TIME_KEYS_PER_REQUEST
    · rw [length_cons] at many
      rw [if_pos many]
      constructor
      · intro accepted
        cases accepted
      · rintro ⟨-, few, -⟩
        rw [length_cons] at few
        omega
    · rw [length_cons] at many
      rw [if_neg many]
      by_cases bad : ((key :: rest).any fun key => !isValidOlmKeyId (some (.str key.keyId))) = true
      · rw [if_pos bad]
        constructor
        · intro accepted
          cases accepted
        · rintro ⟨-, -, valid⟩
          obtain ⟨wrong, member, invalid⟩ := any_eq_true.mp bad
          rw [valid wrong member] at invalid
          cases invalid
      · rw [if_neg bad]
        refine ⟨fun _ => ⟨cons_ne_nil _ _, by rw [length_cons]; omega, ?_⟩, fun _ => rfl⟩
        intro candidate member
        have good := any_eq_false.mp (Bool.not_eq_true _ ▸ bad) candidate member
        simpa using good

/-- A bundle passes exactly when its device id and the ids of its keys do. -/
theorem validateBody_publishBody {publish : OlmPublishBundle}
    (identity : Encodes 32 publish.curve25519IdentityKey ∧ Encodes 32 publish.ed25519IdentityKey)
    (fallback : Encodes 32 publish.fallbackPublicKey ∧ Encodes 64 publish.fallbackSignature)
    (encoded : ∀ key ∈ publish.oneTimeKeys, WellEncoded key) :
    validateBody (publishBody publish) = none ↔
      isValidDeviceId (some (.str publish.deviceId)) = true ∧
        isValidOlmKeyId (some (.str publish.fallbackKeyId)) = true ∧ publish.oneTimeKeys ≠ [] ∧
        publish.oneTimeKeys.length ≤ MAX_ONE_TIME_KEYS_PER_REQUEST ∧
        ∀ key ∈ publish.oneTimeKeys, isValidOlmKeyId (some (.str key.keyId)) = true := by
  have listed : (publishBody publish).get? (js "oneTimeKeys") =
      some (.arr (publish.oneTimeKeys.map oneTimeKeyBody)) := by rfl
  have fields : validateBody (publishBody publish) =
      if !isValidDeviceId (some (.str publish.deviceId)) then some (js "Invalid deviceId")
      else if !isValidOlmPublicKey (some (.str publish.curve25519IdentityKey)) then
        some (js "Invalid curve25519IdentityKey")
      else if !isValidOlmPublicKey (some (.str publish.ed25519IdentityKey)) then
        some (js "Invalid ed25519IdentityKey")
      else if !isValidOlmKeyId (some (.str publish.fallbackKeyId)) then
        some (js "Invalid fallbackKeyId")
      else if !isValidOlmPublicKey (some (.str publish.fallbackPublicKey)) then
        some (js "Invalid fallbackPublicKey")
      else if !isValidOlmSignature (some (.str publish.fallbackSignature)) then
        some (js "Invalid fallbackSignature")
      else validateOneTimeKeys (publishBody publish) := by rfl
  rw [fields, ← validateOneTimeKeys_eq_none listed encoded,
    isValidOlmPublicKey_of_encodes identity.1, isValidOlmPublicKey_of_encodes identity.2,
    isValidOlmPublicKey_of_encodes fallback.1, isValidOlmSignature_of_encodes fallback.2]
  cases isValidDeviceId (some (.str publish.deviceId)) <;>
    cases isValidOlmKeyId (some (.str publish.fallbackKeyId)) <;> simp

/-- A top-up passes exactly when its device id and the ids of its keys do. -/
theorem validateBody_topUpBody {deviceId : JsString} {keys : List OlmOneTimeKey}
    (encoded : ∀ key ∈ keys, WellEncoded key) :
    validateBody (topUpBody deviceId keys) = none ↔
      isValidDeviceId (some (.str deviceId)) = true ∧ keys ≠ [] ∧
        keys.length ≤ MAX_ONE_TIME_KEYS_PER_REQUEST ∧
        ∀ key ∈ keys, isValidOlmKeyId (some (.str key.keyId)) = true := by
  have listed : (topUpBody deviceId keys).get? (js "oneTimeKeys") =
      some (.arr (keys.map oneTimeKeyBody)) := by rfl
  have fields : validateBody (topUpBody deviceId keys) =
      if !isValidDeviceId (some (.str deviceId)) then some (js "Invalid deviceId")
      else validateOneTimeKeys (topUpBody deviceId keys) := by rfl
  rw [fields, ← validateOneTimeKeys_eq_none listed encoded]
  cases isValidDeviceId (some (.str deviceId)) <;> simp

/-! ## What the client makes -/

variable {olm : OlmLibrary}

/-- A batch of one-time keys is well encoded, and its ids are ids of the library. -/
theorem generateOneTimeKeyBatch_formats (formats : OlmFormats olm) (seed : Nat)
    (account : olm.Account) (userId deviceId : JsString) (count : Nat) :
    ∀ key ∈ (generateOneTimeKeyBatch olm seed account userId deviceId count).2,
      WellEncoded key ∧ ∃ counter, key.keyId = keyIdText counter := by
  intro key member
  obtain ⟨entry, generated, rfl⟩ := mem_map.mp member
  obtain ⟨counter, publicKey⟩ := formats.oneTimeKey _ entry generated
  exact ⟨⟨publicKey, formats.signature _ _⟩, counter⟩

/-- With the library's key ids the validation accepts neither the bundle of a new
identity nor any top-up, whatever the user, the device, the counters and the keys. -/
theorem published_bodies_rejected (formats : OlmFormats olm) (seed : Nat)
    (userId deviceId : JsString) (count : Nat) (account : olm.Account)
    (publish : OlmPublishBundle)
    (created : createIdentity olm seed userId deviceId count = .ok (account, publish)) :
    validateBody (publishBody publish) ≠ none ∧
      ∀ (batchSeed : Nat) (held : olm.Account) (batchCount : Nat),
        validateBody (topUpBody deviceId
          (generateOneTimeKeyBatch olm batchSeed held userId deviceId batchCount).2) ≠ none := by
  constructor
  · unfold createIdentity at created
    dsimp only at created
    split at created
    · cases created
    · rename_i fallbackKeyId fallbackPublicKey others found
      cases created
      have entry := formats.fallbackKey _ (fallbackKeyId, fallbackPublicKey)
        (by rw [found]; exact List.mem_cons_self)
      obtain ⟨⟨counter, same⟩, publicKey⟩ := entry
      intro accepted
      rw [validateBody_publishBody (formats.identity _) ⟨publicKey, formats.signature _ _⟩
        fun key member => (generateOneTimeKeyBatch_formats formats _ _ _ _ _ key member).1]
        at accepted
      have valid : isValidOlmKeyId (some (.str fallbackKeyId)) = true := accepted.2.1
      change fallbackKeyId = keyIdText counter at same
      rw [same, isValidOlmKeyId_keyIdText] at valid
      cases valid
  · intro batchSeed held batchCount accepted
    have made := generateOneTimeKeyBatch_formats formats batchSeed held userId deviceId batchCount
    rw [validateBody_topUpBody fun key member => (made key member).1] at accepted
    obtain ⟨-, nonempty, -, valid⟩ := accepted
    obtain ⟨key, member⟩ := List.exists_mem_of_ne_nil _ nonempty
    obtain ⟨-, counter, same⟩ := made key member
    have known := valid key member
    rw [same, isValidOlmKeyId_keyIdText] at known
    cases known

/-! ## A library with these formats -/

/-- The first bytes of a text read as base64, as many as asked for. -/
def bytesOf (length : Nat) (text : JsString) : List UInt8 :=
  (Symbolic.base64Decode text ++ List.replicate length 0).take length

theorem length_bytesOf (length : Nat) (text : JsString) :
    (bytesOf length text).length = length := by
  simp [bytesOf]

/-- A key of the symbolic library in the format of the real one. -/
def renderKey (entry : JsString × JsString) : JsString × JsString :=
  (keyIdText (entry.1.foldl (fun sum unit => sum * 10 + (unit.toUInt32 - 48)) 0 + 1),
    base64Encode (bytesOf 32 entry.2))

def renderIdentity (identity : PinnedIdentity) : PinnedIdentity :=
  ⟨base64Encode (bytesOf 32 identity.curve25519IdentityKey),
    base64Encode (bytesOf 32 identity.ed25519IdentityKey)⟩

def renderSignature (key payload : JsString) : JsString :=
  base64Encode (bytesOf 64 (Symbolic.signature key payload))

/-- The symbolic library with the texts of the real one. -/
def rendered : OlmLibrary :=
  { Symbolic.library with
    identityKeys := fun account => renderIdentity (Symbolic.library.identityKeys account)
    unpublishedFallbackKey := fun account =>
      (Symbolic.library.unpublishedFallbackKey account).map renderKey
    oneTimeKeys := fun account => (Symbolic.library.oneTimeKeys account).map renderKey
    sign := fun account => renderSignature
      (renderIdentity (Symbolic.library.identityKeys account)).ed25519IdentityKey
    ed25519Verify := fun key payload signature => signature = renderSignature key payload }

theorem encodes_bytesOf (length : Nat) (text : JsString) :
    Encodes length (base64Encode (bytesOf length text)) :=
  ⟨bytesOf length text, length_bytesOf length text, rfl⟩

theorem renderKey_formats (entry : JsString × JsString) : Encodes.Key (renderKey entry) :=
  ⟨⟨_, rfl⟩, encodes_bytesOf 32 entry.2⟩

theorem renderIdentity_formats (identity : PinnedIdentity) :
    Encodes 32 (renderIdentity identity).curve25519IdentityKey ∧
      Encodes 32 (renderIdentity identity).ed25519IdentityKey :=
  ⟨encodes_bytesOf 32 _, encodes_bytesOf 32 _⟩

theorem renderSignature_formats (key payload : JsString) :
    Encodes 64 (renderSignature key payload) :=
  encodes_bytesOf 64 _

theorem rendered_formats : OlmFormats rendered where
  identity account := by
    have keys : rendered.identityKeys account =
        renderIdentity (Symbolic.library.identityKeys account) := rfl
    rw [keys]
    exact renderIdentity_formats _
  fallbackKey account entry member := by
    obtain ⟨source, -, rfl⟩ := mem_map.mp member
    exact renderKey_formats source
  oneTimeKey account entry member := by
    obtain ⟨source, -, rfl⟩ := mem_map.mp member
    exact renderKey_formats source
  signature account payload := by
    simp only [rendered]
    exact renderSignature_formats _ _

/-- The bundle of a first device with one one-time key, and its account. -/
def firstIdentity : rendered.Account × OlmPublishBundle :=
  (createIdentity rendered 7 (js "alice") (js "phone") 1).toOption.get (by decide)

theorem firstIdentity_created :
    createIdentity rendered 7 (js "alice") (js "phone") 1 = .ok firstIdentity := by rfl

/-- The first identity of a device is refused for the id of its fallback key. -/
theorem first_identity_refused :
    firstIdentity.2.fallbackKeyId = js "AAAAAQ" ∧
      validateBody (publishBody firstIdentity.2) = some (js "Invalid fallbackKeyId") := by
  decide

theorem first_identity_rejected :
    validateBody (publishBody firstIdentity.2) ≠ none ∧
      ∀ (batchSeed : Nat) (held : rendered.Account) (batchCount : Nat),
        validateBody (topUpBody (js "phone")
          (generateOneTimeKeyBatch rendered batchSeed held (js "alice") (js "phone")
            batchCount).2) ≠ none :=
  published_bodies_rejected rendered_formats 7 (js "alice") (js "phone") 1 firstIdentity.1
    firstIdentity.2 firstIdentity_created

end Vortex.KeyDirectory
