import Vortex.KeyDirectory.Transactions

/-!
# The key directory invariant

What holds of the two tables in every run of requests, account deletions
included: the limits on devices and unclaimed keys, and the signature of every
stored key under the identity its device was registered with. That identity does
not change while the device exists, and a refused request changes nothing.
-/

namespace Vortex.KeyDirectory

open Foundation
open Foundation.System (unguarded)
open Vortex.Olm (OlmOneTimeKey OlmTarget PinnedIdentity)

/-- The identity keys of a device. -/
def OlmDeviceIdentity.identity (row : OlmDeviceIdentity) : PinnedIdentity :=
  ⟨row.curve25519IdentityKey, row.ed25519IdentityKey⟩

/-- The fallback key of a device verifies under its identity. -/
def OlmDeviceIdentity.FallbackSigned (node : NodeCrypto) (row : OlmDeviceIdentity) : Prop :=
  verifyFallbackKeySignature node row.ed25519IdentityKey row.userId row.deviceId
    row.fallbackKeyId row.fallbackPublicKey row.fallbackSignature = true

/-- A one-time key belongs to a device and verifies under its identity. -/
def OlmDeviceIdentity.Signed (node : NodeCrypto) (device : OlmDeviceIdentity)
    (row : OlmOneTimeKeyRow) : Prop :=
  device.target = row.target ∧ verifyOneTimeKeySignature node device.ed25519IdentityKey
    row.userId row.deviceId row.key = true

namespace Directory

/-- The device is registered. -/
def Registered (directory : Directory) (target : OlmTarget) : Prop :=
  ∃ device ∈ directory.olmDeviceIdentities.rows, device.target = target

instance (directory : Directory) (target : OlmTarget) : Decidable (directory.Registered target) :=
  inferInstanceAs (Decidable (∃ device ∈ directory.olmDeviceIdentities.rows, _))

/-- The invariant of the directory. -/
structure Valid (node : NodeCrypto) (directory : Directory) : Prop where
  devices : ∀ userId, (directory.olmDeviceIdentities.count fun row => row.userId = userId) ≤
    DEVICE_LIMIT
  supply : ∀ target, directory.olmOneTimeKeys.count (OlmOneTimeKeyRow.unclaimed target) ≤
    MAX_STORED_ONE_TIME_KEYS
  fallback : ∀ device ∈ directory.olmDeviceIdentities.rows, device.FallbackSigned node
  signed : ∀ row ∈ directory.olmOneTimeKeys.rows,
    ∃ device ∈ directory.olmDeviceIdentities.rows, device.Signed node row

theorem valid_empty (node : NodeCrypto) : empty.Valid node where
  devices _ := Nat.zero_le _
  supply _ := Nat.zero_le _
  fallback _ member := nomatch member
  signed _ member := nomatch member

end Directory

/-! ## The device table of an accepted registration -/

section Registering

variable {node : NodeCrypto} {publication : Publication} {registration : Registration}
  {directory : Directory}

/-- A row of the published device carries exactly what was registered; the others
are untouched. -/
theorem mem_upsertDevice (accepted : registration.Accepted node publication directory)
    {row : OlmDeviceIdentity}
    (member : row ∈ (upsertDevice publication registration directory.olmDeviceIdentities).rows) :
    (row ∈ directory.olmDeviceIdentities.rows ∧ row.target ≠ publication.target) ∨
      (row.target = publication.target ∧
        row.identity = ⟨registration.curve25519IdentityKey, registration.ed25519IdentityKey⟩ ∧
        row.fallbackKeyId = registration.fallbackKeyId ∧
        row.fallbackPublicKey = registration.fallbackPublicKey ∧
        row.fallbackSignature = registration.fallbackSignature) := by
  rcases Table.mem_upsert member with kept | ⟨stored, present, same, rfl⟩ | ⟨rfl, -⟩
  · exact .inl kept
  · obtain ⟨curve, ed⟩ := accepted.same stored (Table.find?_eq_some.mpr ⟨present, same⟩)
    refine .inr ⟨same, ?_, rfl, rfl, rfl⟩
    rw [← curve, ← ed]
    rfl
  · exact .inr ⟨rfl, rfl, rfl, rfl, rfl⟩

/-- Registering keeps every device under its identity. -/
theorem upsertDevice_keeps {device : OlmDeviceIdentity}
    (member : device ∈ directory.olmDeviceIdentities.rows) :
    ∃ later ∈ (upsertDevice publication registration directory.olmDeviceIdentities).rows,
      later.target = device.target ∧ later.identity = device.identity := by
  refine ⟨_, Table.mem_upsert_of_mem member, ?_⟩
  split
  · exact ⟨rfl, rfl⟩
  · exact ⟨rfl, rfl⟩

/-- After registering, the device is there under the registered identity. -/
theorem upsertDevice_registers (accepted : registration.Accepted node publication directory) :
    ∃ device ∈ (upsertDevice publication registration directory.olmDeviceIdentities).rows,
      device.target = publication.target ∧
        device.ed25519IdentityKey = registration.ed25519IdentityKey := by
  cases existing : directory.olmDeviceIdentities.find? publication.target with
  | some stored =>
    obtain ⟨member, same⟩ := Table.find?_eq_some.mp existing
    obtain ⟨later, inside, target, identity⟩ : ∃ later ∈ (upsertDevice publication registration
        directory.olmDeviceIdentities).rows,
        later.target = stored.target ∧ later.identity = stored.identity :=
      upsertDevice_keeps member
    refine ⟨later, inside, target.trans same, ?_⟩
    have ed := congrArg PinnedIdentity.ed25519IdentityKey identity
    exact ed.trans (accepted.same stored existing).2
  | none =>
    have free := Table.find?_eq_none.mp existing
    exact ⟨_, Table.mem_upsert_new free, rfl, rfl⟩

/-- Registering respects the device limit. -/
theorem count_upsertDevice_le (accepted : registration.Accepted node publication directory)
    (limited : ∀ userId, (directory.olmDeviceIdentities.count fun row => row.userId = userId) ≤
      DEVICE_LIMIT) (userId : JsString) :
    ((upsertDevice publication registration directory.olmDeviceIdentities).count
      fun row => row.userId = userId) ≤ DEVICE_LIMIT := by
  refine Nat.le_trans (Table.count_upsert_le _ _ _ _ _ fun _ holds => holds) ?_
  have bounded := limited userId
  split
  · rename_i added
    obtain ⟨absent, mine⟩ := added
    have room := accepted.room (Option.isNone_iff_eq_none.mp absent)
    have owner : publication.userId = userId := of_decide_eq_true mine
    rw [owner] at room
    exact room
  · exact bounded

end Registering

/-! ## Preservation -/

namespace Directory.Valid

variable {node : NodeCrypto} {before after : Directory}

section

variable (valid : before.Valid node)

include valid

/-- The one-time keys after a publish that has passed its checks are signed. -/
private theorem signed_publish {publication : Publication} {table : OlmDeviceIdentityTable}
    (kept : ∀ device ∈ before.olmDeviceIdentities.rows, ∃ later ∈ table.rows,
      later.target = device.target ∧ later.identity = device.identity)
    {device : OlmDeviceIdentity} (stored : device ∈ table.rows)
    (published : device.target = publication.target)
    (keys : publication.SignedUnder node device.ed25519IdentityKey) {row : OlmOneTimeKeyRow}
    (member : row ∈ (pruneOneTimeKeys publication.target
      (insertOneTimeKeys publication before.olmOneTimeKeys)).rows) :
    ∃ device ∈ table.rows, device.Signed node row := by
  rcases mem_insertOneTimeKeys (mem_of_mem_pruneOneTimeKeys member) with earlier | ⟨inserted, -⟩
  · obtain ⟨owner, registered, same, verified⟩ := valid.signed row earlier
    obtain ⟨later, inside, target, identity⟩ := kept owner registered
    refine ⟨later, inside, target.trans same, ?_⟩
    have ed := congrArg PinnedIdentity.ed25519IdentityKey identity
    rwa [show later.ed25519IdentityKey = owner.ed25519IdentityKey from ed]
  · refine ⟨device, stored, published.trans inserted.target.symm, ?_⟩
    have owner : row.userId = publication.userId := congrArg OlmTarget.userId inserted.target
    have place : row.deviceId = publication.deviceId := congrArg OlmTarget.deviceId inserted.target
    rw [owner, place]
    exact keys row.key inserted.published

private theorem supply_publish (publication : Publication) (target : OlmTarget) :
    (pruneOneTimeKeys publication.target (insertOneTimeKeys publication
      before.olmOneTimeKeys)).count (OlmOneTimeKeyRow.unclaimed target) ≤
        MAX_STORED_ONE_TIME_KEYS := by
  by_cases mine : target = publication.target
  · rw [mine]
    exact count_pruneOneTimeKeys_self
  · calc (pruneOneTimeKeys publication.target (insertOneTimeKeys publication
          before.olmOneTimeKeys)).count (OlmOneTimeKeyRow.unclaimed target)
        ≤ (insertOneTimeKeys publication before.olmOneTimeKeys).count
            (OlmOneTimeKeyRow.unclaimed target) := count_pruneOneTimeKeys_le _
      _ = before.olmOneTimeKeys.count (OlmOneTimeKeyRow.unclaimed target) :=
          count_insertOneTimeKeys mine
      _ ≤ MAX_STORED_ONE_TIME_KEYS := valid.supply target

theorem publish {publication : Publication}
    (committed : publishTransaction node publication before = .ok after) : after.Valid node := by
  obtain ⟨keys, ⟨device, found, signed, devices⟩ | ⟨registration, accepted, devices⟩⟩ :=
    publishTransaction_ok committed
  · obtain ⟨member, same⟩ := Table.find?_eq_some.mp found
    constructor
    · rw [devices]
      exact valid.devices
    · rw [keys]
      exact valid.supply_publish publication
    · rw [devices]
      exact valid.fallback
    · intro row inside
      rw [devices]
      rw [keys] at inside
      exact valid.signed_publish (fun other stored => ⟨other, stored, rfl, rfl⟩) member same signed
        inside
  · obtain ⟨device, member, same, identity⟩ := upsertDevice_registers accepted
    constructor
    · rw [devices]
      exact count_upsertDevice_le accepted valid.devices
    · rw [keys]
      exact valid.supply_publish publication
    · intro row inside
      rw [devices] at inside
      rcases mem_upsertDevice accepted inside with ⟨kept, -⟩ | ⟨target, registered, keyId, key, signature⟩
      · exact valid.fallback row kept
      · have owner : row.userId = publication.userId := congrArg OlmTarget.userId target
        have place : row.deviceId = publication.deviceId := congrArg OlmTarget.deviceId target
        have ed : row.ed25519IdentityKey = registration.ed25519IdentityKey :=
          congrArg PinnedIdentity.ed25519IdentityKey registered
        unfold OlmDeviceIdentity.FallbackSigned
        rw [owner, place, ed, keyId, key, signature]
        exact accepted.fallback
    · intro row inside
      rw [devices]
      rw [keys] at inside
      refine valid.signed_publish (fun other stored => upsertDevice_keeps stored) member same ?_ inside
      rw [identity]
      exact accepted.keys

theorem claim (target : OlmTarget) (keyId : JsString) (now : Nat) :
    ({ before with olmOneTimeKeys := consumeOneTimeKey target keyId now before.olmOneTimeKeys } :
      Directory).Valid node where
  devices := valid.devices
  supply other := by
    have bounded := before.olmOneTimeKeys.count_updateWhere_le (OlmOneTimeKeyRow.unclaimed other)
      (fun row => row.unclaimed target && row.keyId = keyId)
      (fun row => { row with consumedAt := some now }) (fun _ => rfl) (by
        intro row holds
        cases (OlmOneTimeKeyRow.unclaimed_iff.mp holds).2)
    exact Nat.le_trans bounded (valid.supply other)
  fallback := valid.fallback
  signed row member := by
    obtain ⟨stored, present, rfl⟩ := mem_consumeOneTimeKey.mp member
    obtain ⟨device, registered, same, verified⟩ := valid.signed stored present
    refine ⟨device, registered, ?_⟩
    split
    · exact ⟨same, verified⟩
    · exact ⟨same, verified⟩

theorem deleteUser (userId : JsString) :
    (deleteUserCascade userId before).Valid node where
  devices other := Nat.le_trans (Table.count_deleteWhere_le _ _ _) (valid.devices other)
  supply target := Nat.le_trans (Table.count_deleteWhere_le _ _ _) (valid.supply target)
  fallback device member := valid.fallback device (Table.mem_deleteWhere.mp member).1
  signed row member := by
    obtain ⟨present, kept⟩ := Table.mem_deleteWhere.mp member
    obtain ⟨device, registered, same, verified⟩ := valid.signed row present
    refine ⟨device, Table.mem_deleteWhere.mpr ⟨registered, ?_⟩, same, verified⟩
    have owner : device.userId = row.userId := congrArg OlmTarget.userId same
    rw [owner]
    exact kept

theorem change (changed : before.Change node after) : after.Valid node := by
  cases changed with
  | publish publication committed => exact valid.publish committed
  | claim otk now member unclaimed => exact valid.claim otk.target otk.keyId now
  | deleteUser userId => exact valid.deleteUser userId

end

end Directory.Valid

/-! ## Identity keys -/

/-- A device that is there before and after a change has kept its identity keys. -/
theorem Directory.Change.identity {node : NodeCrypto} {before after : Directory}
    (changed : before.Change node after) {device later : OlmDeviceIdentity}
    (stored : device ∈ before.olmDeviceIdentities.rows)
    (still : later ∈ after.olmDeviceIdentities.rows) (same : later.target = device.target) :
    later.identity = device.identity := by
  cases changed with
  | publish publication committed =>
    obtain ⟨-, ⟨-, -, -, devices⟩ | ⟨registration, accepted, devices⟩⟩ :=
      publishTransaction_ok committed
    · rw [devices] at still
      rw [Table.eq_of_key_eq _ still stored same]
    · rw [devices] at still
      rcases mem_upsertDevice accepted still with ⟨kept, -⟩ | ⟨target, registered, -⟩
      · rw [Table.eq_of_key_eq _ kept stored same]
      · obtain ⟨curve, ed⟩ := accepted.same device
          (Table.find?_eq_some.mpr ⟨stored, same.symm.trans target⟩)
        rw [registered, ← curve, ← ed]
        rfl
  | claim otk now member unclaimed => rw [Table.eq_of_key_eq _ still stored same]
  | deleteUser userId =>
    rw [Table.eq_of_key_eq _ (Table.mem_deleteWhere.mp still).1 stored same]

end Vortex.KeyDirectory
