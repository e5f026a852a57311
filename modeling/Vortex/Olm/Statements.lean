import Vortex.Foundation.Utf8
import Vortex.Olm.Symbolic

/-!
# Signed statements

A device signs three kinds of payloads with its Ed25519 key: its one-time keys,
its fallback key, and membership events. The builders of `lib/olm-protocol.ts`
are one injective function on the kind and all its fields together, so a
signature says which statement it was made for.
-/

namespace Vortex.Olm

open Foundation

def canonicalMembershipEventPayload
    (eventId timestamp channelId action actorId targetId : JsString) : JsString :=
  JsString.stringifyObject [(js "eventId", eventId), (js "timestamp", timestamp),
    (js "channelId", channelId), (js "action", action), (js "actorId", actorId),
    (js "targetId", targetId)]

def signPayload (olm : OlmLibrary) (account : olm.Account) (payload : JsString) : JsString :=
  olm.sign account payload

def verifyEd25519Signature (olm : OlmLibrary) (ed25519Key payload signature : JsString) : Bool :=
  olm.ed25519Verify ed25519Key payload signature

/-- What a device signs. -/
inductive Statement
  | oneTimeKey (userId deviceId keyId publicKey : JsString)
  | fallbackKey (userId deviceId keyId publicKey : JsString)
  | membershipEvent (eventId timestamp channelId action actorId targetId : JsString)
  deriving DecidableEq

namespace Statement

/-- The payload that is signed for a statement. -/
def payload : Statement → JsString
  | .oneTimeKey userId deviceId keyId publicKey =>
      canonicalOneTimeKeyPayload userId deviceId keyId publicKey
  | .fallbackKey userId deviceId keyId publicKey =>
      canonicalFallbackKeyPayload userId deviceId keyId publicKey
  | .membershipEvent eventId timestamp channelId action actorId targetId =>
      canonicalMembershipEventPayload eventId timestamp channelId action actorId targetId

/-- The members of the signed object. -/
def members : Statement → List (JsString × JsString)
  | .oneTimeKey userId deviceId keyId publicKey =>
      [(js "userId", userId), (js "deviceId", deviceId), (js "keyId", keyId),
        (js "publicKey", publicKey)]
  | .fallbackKey userId deviceId keyId publicKey =>
      [(js "userId", userId), (js "deviceId", deviceId), (js "keyId", keyId),
        (js "publicKey", publicKey), (js "kind", js "fallback")]
  | .membershipEvent eventId timestamp channelId action actorId targetId =>
      [(js "eventId", eventId), (js "timestamp", timestamp), (js "channelId", channelId),
        (js "action", action), (js "actorId", actorId), (js "targetId", targetId)]

theorem payload_eq (statement : Statement) :
    statement.payload = JsString.stringifyObject statement.members := by
  cases statement <;> rfl

/-- The three kinds of objects differ in how many members they have. -/
theorem members_injective {first second : Statement} (same : first.members = second.members) :
    first = second := by
  have lengths := congrArg List.length same
  cases first <;> cases second
  case oneTimeKey.oneTimeKey | fallbackKey.fallbackKey | membershipEvent.membershipEvent =>
    simp only [members, List.cons.injEq, Prod.mk.injEq, true_and, and_true] at same
    simp only [same]
  all_goals exact absurd lengths (by simp [members])

/-- Statements with the same payload are the same, whatever their fields hold. -/
theorem payload_injective {first second : Statement} (same : first.payload = second.payload) :
    first = second := by
  rw [payload_eq, payload_eq] at same
  exact members_injective (Json.stringifyObject_injective same)

/-- So are statements whose payloads have the same bytes. -/
theorem bytes_injective {first second : Statement}
    (same : JsString.encodeUtf8 first.payload = JsString.encodeUtf8 second.payload) :
    first = second := by
  refine payload_injective (JsString.encodeUtf8_injective ?_ ?_ same)
  · rw [payload_eq]
    exact Json.wellFormed_stringifyObject _
  · rw [payload_eq]
    exact Json.wellFormed_stringifyObject _

end Statement

/-- What Ed25519 promises of a signature: under its key it verifies for the bytes it
was made for and for no others. -/
def Binding (olm : OlmLibrary) : Prop :=
  ∀ account made checked,
    olm.ed25519Verify (olm.identityKeys account).ed25519IdentityKey checked
      (olm.sign account made) = true →
    JsString.encodeUtf8 checked = JsString.encodeUtf8 made

/-- The payload builders are injective in all their arguments and never agree with each
other, as strings and as the bytes that are signed; so a signature made for one
statement verifies for no other. -/
theorem statements_separate :
    (∀ first second : Statement, first.payload = second.payload → first = second) ∧
      (∀ first second : Statement, JsString.encodeUtf8 first.payload =
        JsString.encodeUtf8 second.payload → first = second) ∧
      ∀ olm : OlmLibrary, Binding olm → ∀ (account : olm.Account) (made checked : Statement),
        verifyEd25519Signature olm (getIdentityKeys olm account).ed25519IdentityKey checked.payload
          (signPayload olm account made.payload) = true → checked = made := by
  refine ⟨fun _ _ => Statement.payload_injective, fun _ _ => Statement.bytes_injective, ?_⟩
  intro olm binding account made checked verified
  exact Statement.bytes_injective (binding account made.payload checked.payload verified)

/-- A signature that names its key and spells out the signed text. -/
def spellOut (key text : JsString) : JsString := key ++ text

def isSpelledOut (key text signature : JsString) : Bool := signature = spellOut key text

theorem isSpelledOut_spellOut {key made checked : JsString}
    (verified : isSpelledOut key checked (spellOut key made) = true) : checked = made :=
  ((List.append_right_inj key).mp (of_decide_eq_true verified)).symm

/-- A library with such signatures. -/
def spelledOut : OlmLibrary :=
  { Symbolic.library with
    sign := fun account => spellOut (Symbolic.library.identityKeys account).ed25519IdentityKey
    ed25519Verify := isSpelledOut }

theorem binding_spelledOut : Binding spelledOut := by
  intro account made checked verified
  have signed : spelledOut.sign account made =
      spellOut (spelledOut.identityKeys account).ed25519IdentityKey made := rfl
  have checks : spelledOut.ed25519Verify = isSpelledOut := rfl
  rw [signed, checks] at verified
  rw [isSpelledOut_spellOut verified]

/-- Its signatures verify. -/
theorem spelledOut_verifies (account : spelledOut.Account) (made : JsString) :
    verifyEd25519Signature spelledOut (getIdentityKeys spelledOut account).ed25519IdentityKey made
      (signPayload spelledOut account made) = true := by
  have signed : signPayload spelledOut account made =
      spellOut (getIdentityKeys spelledOut account).ed25519IdentityKey made := rfl
  have checks : verifyEd25519Signature spelledOut = isSpelledOut := rfl
  rw [signed, checks, isSpelledOut, decide_eq_true_eq]

/-- An account that has made no keys. -/
def sampleAccount : spelledOut.Account := (⟨1, 0, [], [], none⟩ : Symbolic.Account)

def sampleStatement : Statement :=
  .fallbackKey (js "alice") (js "phone") (js "AAAAAQ") (js "key")

/-- A signature that was made for a fallback key verifies for it, and a statement it
verifies for is that one. -/
theorem fallback_signature_binds :
    verifyEd25519Signature spelledOut
        (getIdentityKeys spelledOut sampleAccount).ed25519IdentityKey sampleStatement.payload
        (signPayload spelledOut sampleAccount sampleStatement.payload) = true ∧
      sampleStatement = sampleStatement ∧
      verifyEd25519Signature spelledOut
        (getIdentityKeys spelledOut sampleAccount).ed25519IdentityKey
        (Statement.oneTimeKey (js "alice") (js "phone") (js "AAAAAQ") (js "key")).payload
        (signPayload spelledOut sampleAccount sampleStatement.payload) ≠ true := by
  refine ⟨spelledOut_verifies _ _, ?_, fun verified => ?_⟩
  · exact statements_separate.2.2 spelledOut binding_spelledOut sampleAccount _ _
      (spelledOut_verifies _ _)
  · cases statements_separate.2.2 spelledOut binding_spelledOut _ _ _ verified

end Vortex.Olm
