import Vortex.Foundation.Table
import Vortex.Foundation.Pool
import Vortex.KeyDirectory.Validation

/-!
# The key directory

The two tables behind `/api/dm/olm/keys` and the handlers that change them:
publishing or topping up a device's keys (`device/route.ts`) and claiming one of
them (`claim/route.ts`). A handler is a process whose requests are the SQLite
statements and transactions it awaits; a transaction that throws is rolled back.
The session, the rate limiter, the clock and SQLite failures are inputs of a call.
-/

namespace Vortex.KeyDirectory

open Foundation
open Vortex.Olm (OlmOneTimeKey OlmTarget)

def DEVICE_LIMIT : Nat := 20

def MAX_ONE_TIME_KEYS_PER_REQUEST : Nat := 100

def MAX_STORED_ONE_TIME_KEYS : Nat := 200

/-! ## The tables -/

/-- A row of `olm_device_identities`. -/
structure OlmDeviceIdentity where
  userId : JsString
  deviceId : JsString
  curve25519IdentityKey : JsString
  ed25519IdentityKey : JsString
  fallbackKeyId : JsString
  fallbackPublicKey : JsString
  fallbackSignature : JsString
  updatedAt : Nat
  deriving DecidableEq

def OlmDeviceIdentity.target (row : OlmDeviceIdentity) : OlmTarget := ⟨row.userId, row.deviceId⟩

/-- A row of `olm_one_time_keys`. A consumed row stays as a tombstone. -/
structure OlmOneTimeKeyRow where
  userId : JsString
  deviceId : JsString
  keyId : JsString
  publicKey : JsString
  signature : JsString
  consumedAt : Option Nat
  createdAt : Nat
  deriving DecidableEq

namespace OlmOneTimeKeyRow

def target (row : OlmOneTimeKeyRow) : OlmTarget := ⟨row.userId, row.deviceId⟩

def primaryKey (row : OlmOneTimeKeyRow) : OlmTarget × JsString := (row.target, row.keyId)

/-- The published key of a row. -/
def key (row : OlmOneTimeKeyRow) : OlmOneTimeKey := ⟨row.keyId, row.publicKey, row.signature⟩

/-- The condition of every query for a device's unclaimed keys. -/
def unclaimed (target : OlmTarget) (row : OlmOneTimeKeyRow) : Bool :=
  row.target = target && row.consumedAt.isNone

end OlmOneTimeKeyRow

abbrev OlmDeviceIdentityTable : Type :=
  Table OlmDeviceIdentity OlmTarget OlmDeviceIdentity.target

abbrev OlmOneTimeKeyTable : Type :=
  Table OlmOneTimeKeyRow (OlmTarget × JsString) OlmOneTimeKeyRow.primaryKey

structure Directory where
  olmDeviceIdentities : OlmDeviceIdentityTable
  olmOneTimeKeys : OlmOneTimeKeyTable

def Directory.empty : Directory := ⟨Table.empty, Table.empty⟩

/-! ## Bodies -/

/-- A body without identity keys tops up a registered device. -/
def isTopUpBody (body : Json) : Bool :=
  (body.get? (js "curve25519IdentityKey")).isNone && (body.get? (js "ed25519IdentityKey")).isNone

def validateOneTimeKeys (body : Json) : Option JsString :=
  match Json.array? (body.get? (js "oneTimeKeys")) with
  | none | some [] => some (js "oneTimeKeys[] required")
  | some entries =>
      if entries.length > MAX_ONE_TIME_KEYS_PER_REQUEST then some (js "Too many oneTimeKeys")
      else if entries.any fun entry => (validateOneTimeKeyEntry entry).isNone then
        some (js "Invalid oneTimeKeys entry")
      else none

/-- The first complaint about a body, if there is one. -/
def validateBody (body : Json) : Option JsString :=
  if !isValidDeviceId (body.get? (js "deviceId")) then some (js "Invalid deviceId")
  else if isTopUpBody body then validateOneTimeKeys body
  else if !isValidOlmPublicKey (body.get? (js "curve25519IdentityKey")) then
    some (js "Invalid curve25519IdentityKey")
  else if !isValidOlmPublicKey (body.get? (js "ed25519IdentityKey")) then
    some (js "Invalid ed25519IdentityKey")
  else if !isValidOlmKeyId (body.get? (js "fallbackKeyId")) then
    some (js "Invalid fallbackKeyId")
  else if !isValidOlmPublicKey (body.get? (js "fallbackPublicKey")) then
    some (js "Invalid fallbackPublicKey")
  else if !isValidOlmSignature (body.get? (js "fallbackSignature")) then
    some (js "Invalid fallbackSignature")
  else validateOneTimeKeys body

/-- The identity part of a full publish. -/
structure Registration where
  curve25519IdentityKey : JsString
  ed25519IdentityKey : JsString
  fallbackKeyId : JsString
  fallbackPublicKey : JsString
  fallbackSignature : JsString

/-- What the transaction of one publish request works with. `createdAt` is the
default of the column at each of the insertions. -/
structure Publication where
  userId : JsString
  deviceId : JsString
  registration : Option Registration
  oneTimeKeys : List OlmOneTimeKey
  nowIso : Nat
  createdAt : Nat → Nat

def Publication.target (publication : Publication) : OlmTarget :=
  ⟨publication.userId, publication.deviceId⟩

/-- The publication a validated body asks for. -/
def publicationOf (userId : JsString) (body : Json) (nowIso : Nat) (createdAt : Nat → Nat) :
    Publication where
  userId := userId
  deviceId := asString (body.get? (js "deviceId"))
  registration :=
    if isTopUpBody body then none
    else some
      { curve25519IdentityKey := asString (body.get? (js "curve25519IdentityKey"))
        ed25519IdentityKey := asString (body.get? (js "ed25519IdentityKey"))
        fallbackKeyId := asString (body.get? (js "fallbackKeyId"))
        fallbackPublicKey := asString (body.get? (js "fallbackPublicKey"))
        fallbackSignature := asString (body.get? (js "fallbackSignature")) }
  oneTimeKeys :=
    ((Json.array? (body.get? (js "oneTimeKeys"))).getD []).filterMap validateOneTimeKeyEntry
  nowIso := nowIso
  createdAt := createdAt

/-! ## Replies -/

/-- The body of a successful claim. -/
structure ClaimResponse where
  curve25519_identity_key : JsString
  ed25519_identity_key : JsString
  key_id : JsString
  public_key : JsString
  signature : JsString
  is_fallback : Bool
  deriving DecidableEq

inductive Reply
  | ok
  | claimed (response : ClaimResponse)
  | error (status : Nat) (text : JsString)
  deriving DecidableEq

/-- Whether a request was refused. -/
def Reply.rejected : Reply → Bool
  | .error _ _ => true
  | _ => false

/-- What makes the publish transaction throw. -/
inductive PublishError
  | identityKeyMismatch
  | deviceLimitReached
  | deviceNotRegistered
  | invalidOneTimeKeySignature
  | invalidFallbackKeySignature
  | sqlite
  deriving DecidableEq

def PublishError.reply : PublishError → Reply
  | .identityKeyMismatch =>
      .error 409 (js "Device already registered with a different identity key")
  | .deviceLimitReached => .error 409 (js "Device limit reached (20)")
  | .deviceNotRegistered =>
      .error 409 (js "Device not registered — publish an identity before topping up keys")
  | .invalidOneTimeKeySignature =>
      .error 400 (js "One-time key signature does not match the device identity")
  | .invalidFallbackKeySignature =>
      .error 400 (js "Fallback key signature does not match the device identity")
  | .sqlite => .error 500 (js "Failed to register device key")

/-! ## Transactions -/

/-- The insertions of a publish; a key id that is already there wins. -/
def insertOneTimeKeys (publication : Publication)
    (table : OlmOneTimeKeyTable) : OlmOneTimeKeyTable :=
  publication.oneTimeKeys.zipIdx.foldl (fun current (key, index) =>
    current.insertIgnore
      { userId := publication.userId
        deviceId := publication.deviceId
        keyId := key.keyId
        publicKey := key.publicKey
        signature := key.signature
        consumedAt := none
        createdAt := publication.createdAt index }) table

/-- Delete the oldest unclaimed keys over the storage limit. -/
def pruneOneTimeKeys (target : OlmTarget)
    (table : OlmOneTimeKeyTable) : OlmOneTimeKeyTable :=
  let unclaimed := OlmOneTimeKeyRow.unclaimed target
  let overflow := table.count unclaimed - MAX_STORED_ONE_TIME_KEYS
  let staleIds := (table.selectOrdered unclaimed OlmOneTimeKeyRow.createdAt).take overflow
  table.deleteEach staleIds fun stale row =>
    decide (row.primaryKey = stale.primaryKey) && unclaimed row

/-- The checks of a top-up: the device is registered and signed every key. -/
def checkTopUp (node : NodeCrypto) (publication : Publication)
    (existing : Option OlmDeviceIdentity) : Except PublishError Unit :=
  match existing with
  | none => .error .deviceNotRegistered
  | some device =>
      if publication.oneTimeKeys.all fun key =>
          verifyOneTimeKeySignature node device.ed25519IdentityKey publication.userId
            publication.deviceId key then
        .ok ()
      else .error .invalidOneTimeKeySignature

/-- The checks of a full publish, in the order of the source. -/
def checkRegistration (node : NodeCrypto) (publication : Publication)
    (registration : Registration) (existing : Option OlmDeviceIdentity) (deviceCount : Nat) :
    Except PublishError Unit :=
  let mismatch := existing.any fun device =>
    device.curve25519IdentityKey ≠ registration.curve25519IdentityKey ||
      device.ed25519IdentityKey ≠ registration.ed25519IdentityKey
  if mismatch then .error .identityKeyMismatch
  else if !verifyFallbackKeySignature node registration.ed25519IdentityKey publication.userId
      publication.deviceId registration.fallbackKeyId registration.fallbackPublicKey
      registration.fallbackSignature then
    .error .invalidFallbackKeySignature
  else if !publication.oneTimeKeys.all fun key =>
      verifyOneTimeKeySignature node registration.ed25519IdentityKey publication.userId
        publication.deviceId key then
    .error .invalidOneTimeKeySignature
  else if existing.isNone && deviceCount ≥ DEVICE_LIMIT then .error .deviceLimitReached
  else .ok ()

/-- Register a device, or refresh the fallback key of a registered one. -/
def upsertDevice (publication : Publication) (registration : Registration)
    (table : OlmDeviceIdentityTable) : OlmDeviceIdentityTable :=
  table.upsert
    { userId := publication.userId
      deviceId := publication.deviceId
      curve25519IdentityKey := registration.curve25519IdentityKey
      ed25519IdentityKey := registration.ed25519IdentityKey
      fallbackKeyId := registration.fallbackKeyId
      fallbackPublicKey := registration.fallbackPublicKey
      fallbackSignature := registration.fallbackSignature
      updatedAt := publication.nowIso }
    (fun stored =>
      { stored with
        fallbackKeyId := registration.fallbackKeyId
        fallbackPublicKey := registration.fallbackPublicKey
        fallbackSignature := registration.fallbackSignature
        updatedAt := publication.nowIso })
    (fun _ => rfl)

/-- The transaction of a publish request. -/
def publishTransaction (node : NodeCrypto) (publication : Publication) (directory : Directory) :
    Except PublishError Directory := do
  let existing := directory.olmDeviceIdentities.find? publication.target
  let devices ← match publication.registration with
    | none =>
        checkTopUp node publication existing
        pure directory.olmDeviceIdentities
    | some registration =>
        let deviceCount := directory.olmDeviceIdentities.count fun row =>
          row.userId = publication.userId
        checkRegistration node publication registration existing deviceCount
        pure (upsertDevice publication registration directory.olmDeviceIdentities)
  return ⟨devices, pruneOneTimeKeys publication.target
    (insertOneTimeKeys publication directory.olmOneTimeKeys)⟩

/-- A key as the claim transaction returns it. -/
structure Claimed where
  keyId : JsString
  publicKey : JsString
  signature : JsString
  isFallback : Bool

/-- Mark a key of a device as consumed, if it still is unclaimed. -/
def consumeOneTimeKey (target : OlmTarget) (keyId : JsString) (now : Nat)
    (table : OlmOneTimeKeyTable) : OlmOneTimeKeyTable :=
  table.updateWhere (fun row => row.unclaimed target && row.keyId = keyId)
    (fun row => { row with consumedAt := some now }) (fun _ => rfl)

/-- The transaction of a claim: consume the oldest unclaimed key, or hand out the
fallback key of the identity that was read before the transaction. -/
def claimTransaction (target : OlmTarget) (identity : OlmDeviceIdentity) (now : Nat)
    (directory : Directory) : Claimed × Directory :=
  let unclaimed := OlmOneTimeKeyRow.unclaimed target
  match (directory.olmOneTimeKeys.selectOrdered unclaimed OlmOneTimeKeyRow.createdAt).head? with
  | some otk =>
      (⟨otk.keyId, otk.publicKey, otk.signature, false⟩,
        { directory with
          olmOneTimeKeys := consumeOneTimeKey target otk.keyId now directory.olmOneTimeKeys })
  | none =>
      (⟨identity.fallbackKeyId, identity.fallbackPublicKey, identity.fallbackSignature, true⟩,
        directory)

/-- Deleting a user removes its devices and keys (`ON DELETE CASCADE`). -/
def deleteUserCascade (userId : JsString) (directory : Directory) : Directory :=
  ⟨directory.olmDeviceIdentities.deleteWhere fun row => row.userId = userId,
    directory.olmOneTimeKeys.deleteWhere fun row => row.userId = userId⟩

/-! ## Handlers -/

/-- The statements and transactions the handlers await. `fails` is a failure of
SQLite itself. -/
inductive DirectoryRequest
  | selectIdentity (target : OlmTarget) (fails : Bool)
  | claim (target : OlmTarget) (identity : OlmDeviceIdentity) (now : Nat) (fails : Bool)
  | publish (publication : Publication) (fails : Bool)
  | deleteUser (userId : JsString)

abbrev directoryInterface : Interface where
  Request := DirectoryRequest
  Answer
    | .selectIdentity _ _ => Option (Option OlmDeviceIdentity)
    | .claim _ _ _ _ => Option Claimed
    | .publish _ _ => Except PublishError Unit
    | .deleteUser _ => Unit

def Directory.handle (node : NodeCrypto) : Handler directoryInterface Directory
  | .selectIdentity target fails, directory =>
      some (if fails then none else some (directory.olmDeviceIdentities.find? target), directory)
  | .claim target identity now fails, directory =>
      if fails then some (none, directory)
      else
        let (claimed, after) := claimTransaction target identity now directory
        some (some claimed, after)
  | .publish publication fails, directory =>
      if fails then some (.error .sqlite, directory)
      else
        match publishTransaction node publication directory with
        | .ok after => some (.ok (), after)
        | .error error => some (.error error, directory)
  | .deleteUser userId, directory => some ((), deleteUserCascade userId directory)

/-- What reaches a handler before its body is looked at: the session's user or
the refusal of `requireAuth`, the verdict of the rate limiter, and the parsed
body, if it parses. -/
structure Incoming where
  auth : Except (Nat × JsString) JsString
  limited : Bool
  body : Option Json

/-- A request to the directory, with the inputs its handling takes from outside. -/
inductive DirectoryCall
  | postDevice (incoming : Incoming) (nowIso : Nat) (createdAt : Nat → Nat) (fails : Bool)
  | postClaim (incoming : Incoming) (now : Nat) (selectFails claimFails : Bool)
  | deleteUser (userId : JsString)

abbrev DirectoryProc : Type := Proc directoryInterface Empty Reply

/-- The common start of the handlers: authenticate, rate-limit, parse, and fail
on a `null` body, whose fields cannot be read. -/
def withBody (incoming : Incoming) (next : JsString → Json → DirectoryProc) : DirectoryProc :=
  match incoming.auth with
  | .error (status, text) => return .error status text
  | .ok user =>
      if incoming.limited then
        return .error 429 (js "Too many requests. Please try again later.")
      else
        match incoming.body with
        | none => return .error 400 (js "Malformed JSON")
        | some .null => return .error 500 (js "Internal server error")
        | some body => next user body

/-- The part of a publish that reaches the database. -/
def publishKeys (publication : Publication) (fails : Bool) : DirectoryProc := do
  match ← .request (I := directoryInterface) (.publish publication fails) with
  | .ok () => return .ok
  | .error error => return error.reply

/-- POST /api/dm/olm/keys/device -/
def postDevice (incoming : Incoming) (nowIso : Nat) (createdAt : Nat → Nat) (fails : Bool) :
    DirectoryProc :=
  withBody incoming fun user body =>
    match validateBody body with
    | some complaint => return .error 400 complaint
    | none => publishKeys (publicationOf user body nowIso createdAt) fails

/-- The part of a claim that reaches the database. The identity is read before, and
outside of, the transaction that takes the key. -/
def claimKey (target : OlmTarget) (now : Nat) (selectFails claimFails : Bool) :
    DirectoryProc := do
  match ← .request (I := directoryInterface) (.selectIdentity target selectFails) with
  | none => return .error 500 (js "Failed to fetch device identity")
  | some none => return .error 404 (js "Device not found")
  | some (some identity) =>
      match ← .request (I := directoryInterface) (.claim target identity now claimFails) with
      | none => return .error 500 (js "Failed to claim key")
      | some claimed =>
          return .claimed
            { curve25519_identity_key := identity.curve25519IdentityKey
              ed25519_identity_key := identity.ed25519IdentityKey
              key_id := claimed.keyId
              public_key := claimed.publicKey
              signature := claimed.signature
              is_fallback := claimed.isFallback }

/-- POST /api/dm/olm/keys/claim -/
def postClaim (incoming : Incoming) (now : Nat) (selectFails claimFails : Bool) :
    DirectoryProc :=
  withBody incoming fun _ body =>
    match Json.string? (body.get? (js "targetUserId")) with
    | none | some [] => return .error 400 (js "targetUserId required")
    | some targetUserId =>
        if !isValidDeviceId (body.get? (js "targetDeviceId")) then
          return .error 400 (js "Invalid targetDeviceId")
        else
          claimKey ⟨targetUserId, asString (body.get? (js "targetDeviceId"))⟩ now selectFails
            claimFails

def serve : DirectoryCall → DirectoryProc
  | .postDevice incoming nowIso createdAt fails => postDevice incoming nowIso createdAt fails
  | .postClaim incoming now selectFails claimFails => postClaim incoming now selectFails claimFails
  | .deleteUser userId => do
      .request (I := directoryInterface) (.deleteUser userId)
      return .ok

/-- A directory with the requests in flight. -/
abbrev DirectoryPool : Type := Pool directoryInterface Empty Reply DirectoryCall Directory

/-- Every interleaving of requests to a directory that starts empty. -/
def directorySystem (node : NodeCrypto) : System DirectoryPool (Turn DirectoryCall) :=
  Pool.system (· = Directory.empty) serve fun _ _ => Directory.handle node

/-- The guard of the runs in which no user is deleted. -/
def keepsUsers : DirectoryPool → Turn DirectoryCall → Prop
  | _, .start (.deleteUser _) => False
  | _, _ => True

end Vortex.KeyDirectory
