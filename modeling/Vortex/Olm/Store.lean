import Vortex.Olm.Protocol
import Vortex.Foundation.Pool

/-!
# The Olm store of a browser profile

The operations of `lib/olm-protocol-store.ts` as asynchronous processes. One
request is one IndexedDB transaction, one access to `localStorage`, one access
to the module variables of a tab, or one draw of randomness; whatever the
source does in one synchronous segment on shared data is one request, so two
operations interleave exactly between requests. AES-GCM is ideal: a wrapped
blob opens under the key it was sealed with and under no other.
-/

namespace Vortex.Olm

open Foundation

/-- A non-extractable AES-GCM key; two keys are equal when they were generated by
the same `generateKey` call. -/
structure CryptoKey where
  serial : Nat
  deriving DecidableEq, Repr

/-- A blob as `wrapPickle` leaves it: the key that seals it and what it seals. -/
structure WrappedBlob (α : Type) where
  sealedUnder : CryptoKey
  content : α

/-- A record of the database: an object store with a key in it. -/
inductive Record
  | wrapKey
  | account
  | session (key : JsString)
  | pinnedIdentity (key : JsString)
  | ownPlaintext (messageId : JsString)
  deriving DecidableEq, Repr

/-- What a record holds. -/
abbrev Record.Value (olm : OlmLibrary) : Record → Type
  | .wrapKey => CryptoKey
  | .account => WrappedBlob olm.Account
  | .session _ => WrappedBlob olm.Session
  | .pinnedIdentity _ => PinnedIdentity
  | .ownPlaintext _ => WrappedBlob JsString

/-- The identity of this browser's device. -/
structure OlmIdentity where
  deviceId : JsString
  curve25519IdentityKey : JsString
  ed25519IdentityKey : JsString
  deriving DecidableEq, Repr

/-- What `ensureOlmIdentity` resolves to. -/
structure EnsuredIdentity where
  identity : OlmIdentity
  publish : Option OlmPublishBundle
  deriving DecidableEq, Repr

/-- How a caller takes part in a single-flight computation: it runs it, or it
awaits the run of another caller. -/
inductive Flight
  | lead (flight : Nat)
  | follow (flight : Nat)
  deriving DecidableEq, Repr

/-- As `Flight`, for `ensureOlmIdentity`: the leader also learns whether the
persisted state belongs to another user. -/
inductive IdentityFlight
  | lead (flight : Nat) (mustReset : Bool)
  | follow (flight : Nat)
  deriving DecidableEq, Repr

/-- One atomic access to what the processes of a profile share. -/
inductive StoreRequest (olm : OlmLibrary)
  | idbGet (record : Record)
  | idbPut (record : Record) (value : record.Value olm)
  | idbClearAll
  | getOrCreateOlmDeviceId
  | setOwnerUserId (userId : JsString)
  | forgetLocal
  | joinWrapKey
  | settleWrapKey (flight : Nat) (key : CryptoKey)
  | awaitWrapKey (flight : Nat)
  | enterIdentity (userId : JsString)
  | settleIdentity (userId : JsString) (flight : Nat) (result : Except OlmError EnsuredIdentity)
  | awaitIdentity (flight : Nat)
  | generateKey
  | getRandomValues

/-- The interface of the store processes. -/
abbrev storeInterface (olm : OlmLibrary) : Interface where
  Request := StoreRequest olm
  Answer
    | .idbGet record => Option (record.Value olm)
    | .idbPut _ _ | .idbClearAll | .setOwnerUserId _ | .forgetLocal | .settleWrapKey _ _
    | .settleIdentity _ _ _ => Unit
    | .getOrCreateOlmDeviceId => JsString
    | .joinWrapKey => Flight
    | .awaitWrapKey _ | .generateKey => CryptoKey
    | .enterIdentity _ => IdentityFlight
    | .awaitIdentity _ => Except OlmError EnsuredIdentity
    | .getRandomValues => Nat

/-- A store process. -/
abbrev StoreProc (olm : OlmLibrary) (α : Type) : Type := Proc (storeInterface olm) OlmError α

variable {olm : OlmLibrary}

/-! ## Single requests -/

def idbGet (record : Record) : StoreProc olm (Option (record.Value olm)) :=
  .request (I := storeInterface olm) (.idbGet record)

def idbPut (record : Record) (value : record.Value olm) : StoreProc olm Unit :=
  .request (I := storeInterface olm) (.idbPut record value)

def idbClearAll : StoreProc olm Unit := .request (I := storeInterface olm) .idbClearAll

def getOrCreateOlmDeviceId : StoreProc olm JsString :=
  .request (I := storeInterface olm) .getOrCreateOlmDeviceId

def setOwnerUserId (userId : JsString) : StoreProc olm Unit :=
  .request (I := storeInterface olm) (.setOwnerUserId userId)

def getRandomValues : StoreProc olm Nat := .request (I := storeInterface olm) .getRandomValues

/-! ## Sealed records -/

def wrapPickle {α : Type} (content : α) (wrapKey : CryptoKey) : WrappedBlob α :=
  ⟨wrapKey, content⟩

def unwrapPickle {α : Type} (blob : WrappedBlob α) (wrapKey : CryptoKey) : Except OlmError α :=
  if blob.sealedUnder = wrapKey then .ok blob.content else .error .sealBroken

/-- The wrap key of the profile, created by the first caller. Concurrent callers
of one tab share one creation; it is forgotten as soon as it settles. -/
def getOrCreateWrapKey : StoreProc olm CryptoKey := do
  match ← .request (I := storeInterface olm) .joinWrapKey with
  | .follow flight => .request (I := storeInterface olm) (.awaitWrapKey flight)
  | .lead flight =>
      let key ← match ← idbGet .wrapKey with
        | some existing => pure existing
        | none =>
            let key ← .request (I := storeInterface olm) .generateKey
            idbPut .wrapKey key
            pure key
      .request (I := storeInterface olm) (.settleWrapKey flight key)
      return key

def loadAccount (wrapKey : CryptoKey) : StoreProc olm (Option olm.Account) := do
  match ← idbGet .account with
  | none => return none
  | some blob => some <$> .done (unwrapPickle blob wrapKey)

def saveAccount (account : olm.Account) (wrapKey : CryptoKey) : StoreProc olm Unit :=
  idbPut .account (wrapPickle account wrapKey)

def loadSession (target : OlmTarget) (wrapKey : CryptoKey) :
    StoreProc olm (Option olm.Session) := do
  match ← idbGet (.session (targetKey target)) with
  | none => return none
  | some blob => some <$> .done (unwrapPickle blob wrapKey)

def saveSession (target : OlmTarget) (session : olm.Session) (wrapKey : CryptoKey) :
    StoreProc olm Unit :=
  idbPut (.session (targetKey target)) (wrapPickle session wrapKey)

/-! ## Identity pins -/

def getPinnedIdentity (target : OlmTarget) : StoreProc olm (Option PinnedIdentity) :=
  idbGet (.pinnedIdentity (targetKey target))

def pinIdentity (target : OlmTarget) (identity : PinnedIdentity) : StoreProc olm Unit :=
  idbPut (.pinnedIdentity (targetKey target)) identity

/-- Pin an identity on first contact, hold every later contact to the pin. -/
def checkAndPinIdentity (target : OlmTarget) (identity : PinnedIdentity) :
    StoreProc olm Unit := do
  match ← getPinnedIdentity target with
  | none => pinIdentity target identity
  | some pinned =>
      if pinned.curve25519IdentityKey ≠ identity.curve25519IdentityKey ∨
          pinned.ed25519IdentityKey ≠ identity.ed25519IdentityKey then
        throw (.identityMismatch target.userId target.deviceId)

/-! ## Own plaintexts -/

def saveOwnPlaintext (messageId plaintext : JsString) : StoreProc olm Unit := do
  let wrapKey ← getOrCreateWrapKey
  idbPut (.ownPlaintext messageId) (wrapPickle plaintext wrapKey)

def loadOwnPlaintext (messageId : JsString) : StoreProc olm (Option JsString) := do
  let wrapKey ← getOrCreateWrapKey
  match ← idbGet (.ownPlaintext messageId) with
  | none => return none
  | some blob => some <$> .done (unwrapPickle blob wrapKey)

/-! ## The device identity -/

/-- The run behind `ensureOlmIdentity`. Its synchronous start, which reads the
recorded owner and forgets another user's local state, belongs to the request
that enters it. -/
def ensureOlmIdentityInner (userId : JsString) (mustReset : Bool) :
    StoreProc olm EnsuredIdentity := do
  if mustReset then idbClearAll
  let deviceId ← getOrCreateOlmDeviceId
  let wrapKey ← getOrCreateWrapKey
  match ← loadAccount wrapKey with
  | some existing =>
      let identity := getIdentityKeys olm existing
      setOwnerUserId userId
      return ⟨⟨deviceId, identity.curve25519IdentityKey, identity.ed25519IdentityKey⟩, none⟩
  | none =>
      let seed ← getRandomValues
      let (account, publish) ← .done (createIdentity olm seed userId deviceId 20)
      saveAccount account wrapKey
      setOwnerUserId userId
      return ⟨⟨deviceId, publish.curve25519IdentityKey, publish.ed25519IdentityKey⟩, some publish⟩

/-- Load this browser's identity, or create it and the bundle to publish.
Concurrent callers of one tab for one user share one run. -/
def ensureOlmIdentity (userId : JsString) : StoreProc olm EnsuredIdentity := do
  match ← .request (I := storeInterface olm) (.enterIdentity userId) with
  | .follow flight =>
      .done (← .request (I := storeInterface olm) (.awaitIdentity flight))
  | .lead flight mustReset =>
      let result ← (ensureOlmIdentityInner userId mustReset).attempt
      .request (I := storeInterface olm) (.settleIdentity userId flight result)
      .done result

/-- Generate and persist a fresh batch of one-time keys for the caller to publish. -/
def topUpOneTimeKeys (userId deviceId : JsString) (count : Nat) :
    StoreProc olm (List OlmOneTimeKey) := do
  let wrapKey ← getOrCreateWrapKey
  match ← loadAccount wrapKey with
  | none => throw (.message (js "No local Olm identity to top up"))
  | some account =>
      let seed ← getRandomValues
      let (updated, oneTimeKeys) := generateOneTimeKeyBatch olm seed account userId deviceId count
      saveAccount updated wrapKey
      return oneTimeKeys

/-- Wipe all local Olm state. -/
def resetOlmIdentity : StoreProc olm Unit := do
  .request (I := storeInterface olm) .forgetLocal
  idbClearAll

/-! ## Pairwise sessions -/

def hasSessionWith (target : OlmTarget) : StoreProc olm Bool := do
  let wrapKey ← getOrCreateWrapKey
  return (← loadSession target wrapKey).isSome

/-- Establish a session with a remote device from a claimed bundle, or keep the
one that is stored. -/
def ensureOutboundSession (remoteUserId remoteDeviceId : JsString) (bundle : OlmKeyBundle) :
    StoreProc olm Unit := do
  let target : OlmTarget := ⟨remoteUserId, remoteDeviceId⟩
  let wrapKey ← getOrCreateWrapKey
  match ← loadSession target wrapKey with
  | some _ => return ()
  | none =>
      if verifyKeyBundleSignature olm remoteUserId remoteDeviceId bundle then
        checkAndPinIdentity target bundle.identity
        match ← loadAccount wrapKey with
        | none => throw (.message (js "No local Olm identity"))
        | some account =>
            let seed ← getRandomValues
            let session ← .done (createOutboundSession olm seed account bundle)
            saveSession target session wrapKey
      else
        throw (.message (js "Untrusted key bundle signature for " ++ targetKey target))

/-- Encrypt for a device with an established session. -/
def encryptTo (remoteUserId remoteDeviceId plaintext : JsString) :
    StoreProc olm OlmCiphertext := do
  let target : OlmTarget := ⟨remoteUserId, remoteDeviceId⟩
  let wrapKey ← getOrCreateWrapKey
  match ← loadSession target wrapKey with
  | none => throw (.message (js "No session with " ++ targetKey target))
  | some session =>
      let seed ← getRandomValues
      let (advanced, ciphertext) := encryptMessage olm seed session plaintext
      saveSession target advanced wrapKey
      return ciphertext

/-- Decrypt a ciphertext from a remote device, establishing an inbound session
first if needed. A pin wins over the identity hint. -/
def decryptFrom (remoteUserId remoteDeviceId : JsString) (ciphertext : OlmCiphertext)
    (identityHint : Option PinnedIdentity) : StoreProc olm JsString := do
  let target : OlmTarget := ⟨remoteUserId, remoteDeviceId⟩
  let wrapKey ← getOrCreateWrapKey
  match ← loadAccount wrapKey with
  | none => throw (.message (js "No local Olm identity"))
  | some account =>
      let session ← loadSession target wrapKey
      let pinned ← getPinnedIdentity target
      let expected := pinned <|> identityHint
      let (used, advanced, plaintext) ← .done (decryptMessage olm account session ciphertext
        (expected.map PinnedIdentity.curve25519IdentityKey))
      saveAccount used wrapKey
      saveSession target advanced wrapKey
      match pinned, expected with
      | none, some identity => pinIdentity target identity
      | _, _ => pure ()
      return plaintext

/-! ## The browser profile -/

/-- The module variables of `olm-protocol-store.ts` in one tab. -/
structure Tab where
  wrapKeyPromise : Option Nat
  identityPromises : JsString → Option Nat

/-- A module that has just been loaded. -/
def Tab.loaded : Tab := ⟨none, fun _ => none⟩

/-- What the tabs of a browser profile share, their module variables, and the
settled single-flight computations. Items of `localStorage` are never the empty
string, which the source would treat as absent: user ids and UUIDs are not. -/
structure Browser (olm : OlmLibrary) where
  idb : (record : Record) → Option (record.Value olm)
  deviceId : Option JsString
  ownerUserId : Option JsString
  tabs : Nat → Tab
  wrapKeyFlights : Nat → Option CryptoKey
  identityFlights : Nat → Option (Except OlmError EnsuredIdentity)
  uuids : Nat → JsString
  serial : Nat

namespace Browser

/-- A profile nothing has been stored in. -/
def blank (uuids : Nat → JsString) : Browser olm where
  idb _ := none
  deviceId := none
  ownerUserId := none
  tabs _ := Tab.loaded
  wrapKeyFlights _ := none
  identityFlights _ := none
  uuids := uuids
  serial := 0

def put (browser : Browser olm) (record : Record) (value : record.Value olm) : Browser olm :=
  { browser with idb := Function.update browser.idb record (some value) }

def setTab (browser : Browser olm) (tab : Nat) (state : Tab) : Browser olm :=
  { browser with tabs := Function.update browser.tabs tab state }

/-- The synchronous part of `resetOlmIdentity` in one tab. -/
def forgetLocal (browser : Browser olm) (tab : Nat) : Browser olm :=
  { browser.setTab tab Tab.loaded with deviceId := none, ownerUserId := none }

/-- Whether the persisted state belongs to another user. -/
def ownedByOther (browser : Browser olm) (userId : JsString) : Bool :=
  match browser.ownerUserId with
  | some owner => owner != userId
  | none => false

/-- Answer a request of a process that runs in a tab. Only the result of an
unsettled single-flight computation makes a request wait. -/
def handle (tab : Nat) : Handler (storeInterface olm) (Browser olm)
  | .idbGet record, browser => some (browser.idb record, browser)
  | .idbPut record value, browser => some ((), browser.put record value)
  | .idbClearAll, browser => some ((), { browser with idb := fun _ => none })
  | .getOrCreateOlmDeviceId, browser =>
      match browser.deviceId with
      | some existing => some (existing, browser)
      | none =>
          let id := browser.uuids browser.serial
          some (id, { browser with deviceId := some id, serial := browser.serial + 1 })
  | .setOwnerUserId userId, browser => some ((), { browser with ownerUserId := some userId })
  | .forgetLocal, browser => some ((), browser.forgetLocal tab)
  | .joinWrapKey, browser =>
      match (browser.tabs tab).wrapKeyPromise with
      | some flight => some (.follow flight, browser)
      | none =>
          some (.lead browser.serial,
            { browser.setTab tab
                { browser.tabs tab with wrapKeyPromise := some browser.serial } with
              serial := browser.serial + 1 })
  | .settleWrapKey flight key, browser =>
      some ((), { browser.setTab tab { browser.tabs tab with wrapKeyPromise := none } with
        wrapKeyFlights := Function.update browser.wrapKeyFlights flight (some key) })
  | .awaitWrapKey flight, browser => (browser.wrapKeyFlights flight).map (·, browser)
  | .enterIdentity userId, browser =>
      match (browser.tabs tab).identityPromises userId with
      | some flight => some (.follow flight, browser)
      | none =>
          let mustReset := browser.ownedByOther userId
          let entered := if mustReset then browser.forgetLocal tab else browser
          some (.lead entered.serial mustReset,
            { entered.setTab tab
                { entered.tabs tab with
                  identityPromises := Function.update (entered.tabs tab).identityPromises userId
                    (some entered.serial) } with
              serial := entered.serial + 1 })
  | .settleIdentity userId flight result, browser =>
      some ((), { browser.setTab tab
          { browser.tabs tab with
            identityPromises := Function.update (browser.tabs tab).identityPromises userId none }
          with identityFlights := Function.update browser.identityFlights flight (some result) })
  | .awaitIdentity flight, browser => (browser.identityFlights flight).map (·, browser)
  | .generateKey, browser =>
      some (⟨browser.serial⟩, { browser with serial := browser.serial + 1 })
  | .getRandomValues, browser =>
      some (browser.serial, { browser with serial := browser.serial + 1 })

end Browser

end Vortex.Olm
