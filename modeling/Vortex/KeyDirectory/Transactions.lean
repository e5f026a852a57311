import Vortex.KeyDirectory.Directory

/-!
# What the transactions of the key directory do

One lemma for each statement or transaction says everything it can do to the two
tables. The invariants of the directory are derived from these lemmas alone.
-/

variable {row : OlmOneTimeKeyRow} {target : OlmTarget} {directory after : Directory}

namespace Vortex.KeyDirectory

open Foundation
open Vortex.Olm (OlmOneTimeKey OlmTarget)

/-- A row a publication inserts: unclaimed, for its own device, with one of its keys. -/
structure Publication.Inserts (publication : Publication) (row : OlmOneTimeKeyRow) : Prop where
  target : row.target = publication.target
  unclaimed : row.consumedAt = none
  published : row.key ∈ publication.oneTimeKeys

theorem OlmOneTimeKeyRow.unclaimed_iff :
    row.unclaimed target = true ↔ row.target = target ∧ row.consumedAt = none := by
  simp only [unclaimed, Bool.and_eq_true, decide_eq_true_eq, Option.isNone_iff_eq_none]

section Insertion

variable {publication : Publication} {table : OlmOneTimeKeyTable}

/-- Every row after the insertions of a publish was there, or is new under a key id
that was free. -/
theorem mem_insertOneTimeKeys (member : row ∈ (insertOneTimeKeys publication table).rows) :
    row ∈ table.rows ∨ publication.Inserts row ∧
      ∀ stored ∈ table.rows, stored.primaryKey ≠ row.primaryKey := by
  suffices general : ∀ (keys : List (OlmOneTimeKey × Nat)),
      (∀ entry ∈ keys, entry.1 ∈ publication.oneTimeKeys) → ∀ current : OlmOneTimeKeyTable,
      row ∈ (keys.foldl (fun current entry => current.insertIgnore
        { userId := publication.userId, deviceId := publication.deviceId, keyId := entry.1.keyId
          publicKey := entry.1.publicKey, signature := entry.1.signature, consumedAt := none
          createdAt := publication.createdAt entry.2 }) current).rows →
      row ∈ current.rows ∨ publication.Inserts row ∧
        ∀ stored ∈ current.rows, stored.primaryKey ≠ row.primaryKey by
    refine general publication.oneTimeKeys.zipIdx ?_ table member
    intro entry listed
    exact List.fst_mem_of_mem_zipIdx listed
  intro keys
  induction keys with
  | nil =>
    intro _ current kept
    exact .inl kept
  | cons entry rest ih =>
    intro listed current member
    obtain ⟨key, index⟩ := entry
    have published := listed _ List.mem_cons_self
    rcases ih (fun other inside => listed other (List.mem_cons_of_mem _ inside)) _ member with
      kept | ⟨inserted, free⟩
    · rcases Table.mem_insertIgnore.mp kept with earlier | ⟨rfl, free⟩
      · exact .inl earlier
      · exact .inr ⟨⟨rfl, rfl, published⟩, free⟩
    · exact .inr ⟨inserted, fun stored earlier =>
        free stored (Table.mem_insertIgnore.mpr (.inl earlier))⟩

/-- The insertions of a publish touch no row that is there. -/
theorem insertOneTimeKeys_keeps (member : row ∈ table.rows) :
    row ∈ (insertOneTimeKeys publication table).rows := by
  unfold insertOneTimeKeys
  generalize publication.oneTimeKeys.zipIdx = keys
  induction keys generalizing table with
  | nil => exact member
  | cons entry rest ih => exact ih (Table.mem_insertIgnore.mpr (.inl member))

/-- The insertions of a publish leave the supply of every other device alone. -/
theorem count_insertOneTimeKeys (other : target ≠ publication.target) :
    (insertOneTimeKeys publication table).count (OlmOneTimeKeyRow.unclaimed target) =
      table.count (OlmOneTimeKeyRow.unclaimed target) := by
  unfold insertOneTimeKeys
  generalize publication.oneTimeKeys.zipIdx = keys
  induction keys generalizing table with
  | nil => rfl
  | cons entry rest ih =>
    rw [List.foldl_cons, ih]
    apply Table.count_insertIgnore_of_false
    rw [← Bool.not_eq_true, OlmOneTimeKeyRow.unclaimed_iff]
    rintro ⟨same, -⟩
    exact other same.symm

end Insertion

section Pruning

variable {target : OlmTarget} {table : OlmOneTimeKeyTable}

theorem mem_of_mem_pruneOneTimeKeys (member : row ∈ (pruneOneTimeKeys target table).rows) :
    row ∈ table.rows :=
  (Table.mem_deleteEach.mp member).1

/-- Pruning never removes a consumed row. -/
theorem pruneOneTimeKeys_keeps (member : row ∈ table.rows) (consumed : row.consumedAt ≠ none) :
    row ∈ (pruneOneTimeKeys target table).rows := by
  refine Table.mem_deleteEach.mpr ⟨member, fun stale _ => ?_⟩
  rw [← Bool.not_eq_true, Bool.and_eq_true, OlmOneTimeKeyRow.unclaimed_iff]
  rintro ⟨-, -, unclaimed⟩
  exact consumed unclaimed

/-- Pruning leaves a device no more unclaimed keys than the storage limit. -/
theorem count_pruneOneTimeKeys_self :
    (pruneOneTimeKeys target table).count (OlmOneTimeKeyRow.unclaimed target) ≤
      MAX_STORED_ONE_TIME_KEYS := by
  have pruned := table.count_deleteOverflow (OlmOneTimeKeyRow.unclaimed target)
    OlmOneTimeKeyRow.createdAt MAX_STORED_ONE_TIME_KEYS
  calc (pruneOneTimeKeys target table).count (OlmOneTimeKeyRow.unclaimed target)
      = min (table.count (OlmOneTimeKeyRow.unclaimed target)) MAX_STORED_ONE_TIME_KEYS := pruned
    _ ≤ MAX_STORED_ONE_TIME_KEYS := Nat.min_le_right _ _

theorem count_pruneOneTimeKeys_le (condition : OlmOneTimeKeyRow → Bool) :
    (pruneOneTimeKeys target table).count condition ≤ table.count condition :=
  table.count_deleteEach_le condition _ _

end Pruning

/-! ## Publishing -/

section Publishing

variable {node : NodeCrypto} {publication : Publication}

/-- Every one-time key of a publication verifies under an identity key. -/
def Publication.SignedUnder (node : NodeCrypto) (publication : Publication)
    (ed25519IdentityKey : JsString) : Prop :=
  ∀ key ∈ publication.oneTimeKeys, verifyOneTimeKeySignature node ed25519IdentityKey
    publication.userId publication.deviceId key = true

/-- What a full publish has passed before it writes. -/
structure Registration.Accepted (node : NodeCrypto) (publication : Publication)
    (registration : Registration) (directory : Directory) : Prop where
  same : ∀ device, directory.olmDeviceIdentities.find? publication.target = some device →
    device.curve25519IdentityKey = registration.curve25519IdentityKey ∧
      device.ed25519IdentityKey = registration.ed25519IdentityKey
  fallback : verifyFallbackKeySignature node registration.ed25519IdentityKey publication.userId
    publication.deviceId registration.fallbackKeyId registration.fallbackPublicKey
    registration.fallbackSignature = true
  keys : publication.SignedUnder node registration.ed25519IdentityKey
  room : directory.olmDeviceIdentities.find? publication.target = none →
    (directory.olmDeviceIdentities.count fun row => row.userId = publication.userId) < DEVICE_LIMIT

theorem checkTopUp_ok {existing : Option OlmDeviceIdentity}
    (accepted : checkTopUp node publication existing = .ok ()) :
    ∃ device, existing = some device ∧ publication.SignedUnder node device.ed25519IdentityKey := by
  cases existing with
  | none => cases accepted
  | some device =>
    simp only [checkTopUp] at accepted
    split at accepted
    · rename_i signed
      exact ⟨device, rfl, fun key listed => List.all_eq_true.mp signed key listed⟩
    · cases accepted

theorem checkRegistration_ok {registration : Registration} {directory : Directory}
    (accepted : checkRegistration node publication registration
      (directory.olmDeviceIdentities.find? publication.target)
      (directory.olmDeviceIdentities.count fun row => row.userId = publication.userId) = .ok ()) :
    registration.Accepted node publication directory := by
  simp only [checkRegistration] at accepted
  split at accepted
  · cases accepted
  rename_i matching
  split at accepted
  · cases accepted
  rename_i fallback
  split at accepted
  · cases accepted
  rename_i keys
  split at accepted
  · cases accepted
  rename_i room
  refine ⟨?_, ?_, ?_, ?_⟩
  · intro device found
    simpa [found] using matching
  · simpa using fallback
  · intro key listed
    have signed : (publication.oneTimeKeys.all fun key => verifyOneTimeKeySignature node
        registration.ed25519IdentityKey publication.userId publication.deviceId key) = true := by
      simpa using keys
    exact List.all_eq_true.mp signed key listed
  · intro absent
    simpa [absent] using room

/-- Everything a publish transaction that does not throw can be: a top-up of a
registered device, or a registration that passed its checks; either way followed by
the insertions and the pruning. -/
theorem publishTransaction_ok
    (committed : publishTransaction node publication directory = .ok after) :
    after.olmOneTimeKeys = pruneOneTimeKeys publication.target
        (insertOneTimeKeys publication directory.olmOneTimeKeys) ∧
      ((∃ device, directory.olmDeviceIdentities.find? publication.target = some device ∧
          publication.SignedUnder node device.ed25519IdentityKey ∧
          after.olmDeviceIdentities = directory.olmDeviceIdentities) ∨
        ∃ registration, registration.Accepted node publication directory ∧
          after.olmDeviceIdentities =
            upsertDevice publication registration directory.olmDeviceIdentities) := by
  unfold publishTransaction at committed
  cases requested : publication.registration with
  | none =>
    rw [requested] at committed
    cases checked : checkTopUp node publication
        (directory.olmDeviceIdentities.find? publication.target) with
    | error complaint =>
      simp only [checked, bind, Except.bind, reduceCtorEq] at committed
    | ok _ =>
      simp only [checked, bind, Except.bind, pure, Except.pure, Except.ok.injEq] at committed
      obtain ⟨device, found, signed⟩ := checkTopUp_ok checked
      rw [← committed]
      exact ⟨by dsimp only, .inl ⟨device, found, signed, rfl⟩⟩
  | some registration =>
    rw [requested] at committed
    cases checked : checkRegistration node publication registration
        (directory.olmDeviceIdentities.find? publication.target)
        (directory.olmDeviceIdentities.count fun row => row.userId = publication.userId) with
    | error complaint =>
      simp only [checked, bind, Except.bind, reduceCtorEq] at committed
    | ok _ =>
      simp only [checked, bind, Except.bind, pure, Except.pure, Except.ok.injEq] at committed
      rw [← committed]
      exact ⟨by dsimp only, .inr ⟨registration, checkRegistration_ok checked, rfl⟩⟩

end Publishing

/-! ## Claiming -/

/-- A claim touches no row but the unclaimed one with the given key. -/
theorem mem_consumeOneTimeKey {keyId : JsString} {now : Nat} {table : OlmOneTimeKeyTable} :
    row ∈ (consumeOneTimeKey target keyId now table).rows ↔
      ∃ stored ∈ table.rows, (if stored.consumedAt = none ∧ stored.primaryKey = (target, keyId) then
        { stored with consumedAt := some now } else stored) = row := by
  unfold consumeOneTimeKey
  refine Table.mem_updateWhere.trans (exists_congr fun stored => and_congr_right fun _ => ?_)
  have selected : (stored.unclaimed target && decide (stored.keyId = keyId)) = true ↔
      stored.consumedAt = none ∧ stored.primaryKey = (target, keyId) := by
    rw [Bool.and_eq_true, OlmOneTimeKeyRow.unclaimed_iff, decide_eq_true_eq,
      OlmOneTimeKeyRow.primaryKey, Prod.mk.injEq]
    tauto
  simp only [selected]

/-- A consumed key is not consumed again, and stays. -/
theorem consumeOneTimeKey_keeps {keyId : JsString} {now : Nat} {table : OlmOneTimeKeyTable}
    (member : row ∈ table.rows) (consumed : row.consumedAt ≠ none) :
    row ∈ (consumeOneTimeKey target keyId now table).rows :=
  mem_consumeOneTimeKey.mpr ⟨row, member, if_neg fun selected => consumed selected.1⟩

/-- Everything a claim can be: it takes an unclaimed key of the device, or hands out
the fallback key and changes nothing. -/
theorem claimTransaction_cases {identity : OlmDeviceIdentity} {now : Nat} {claimed : Claimed}
    (answered : claimTransaction target identity now directory = (claimed, after)) :
    (∃ otk ∈ directory.olmOneTimeKeys.rows, otk.target = target ∧ otk.consumedAt = none ∧
        claimed = ⟨otk.keyId, otk.publicKey, otk.signature, false⟩ ∧
        after = { directory with
          olmOneTimeKeys := consumeOneTimeKey target otk.keyId now directory.olmOneTimeKeys }) ∨
      (claimed = ⟨identity.fallbackKeyId, identity.fallbackPublicKey, identity.fallbackSignature,
        true⟩ ∧ after = directory) := by
  unfold claimTransaction at answered
  cases oldest : (directory.olmOneTimeKeys.selectOrdered (OlmOneTimeKeyRow.unclaimed target)
      OlmOneTimeKeyRow.createdAt).head? with
  | none =>
    simp only [oldest, Prod.mk.injEq] at answered
    exact .inr ⟨answered.1.symm, answered.2.symm⟩
  | some otk =>
    simp only [oldest, Prod.mk.injEq] at answered
    obtain ⟨member, unclaimed⟩ := Table.mem_selectOrdered.mp (List.mem_of_head? oldest)
    obtain ⟨same, free⟩ := OlmOneTimeKeyRow.unclaimed_iff.mp unclaimed
    exact .inl ⟨otk, member, same, free, answered.1.symm, answered.2.symm⟩

/-! ## Changes -/

/-- Every way a request can change the directory. -/
inductive Directory.Change (node : NodeCrypto) (before : Directory) : Directory → Prop
  | publish {after : Directory} (publication : Publication)
      (committed : publishTransaction node publication before = .ok after) : Change node before after
  | claim (otk : OlmOneTimeKeyRow) (now : Nat) (member : otk ∈ before.olmOneTimeKeys.rows)
      (unclaimed : otk.consumedAt = none) :
      Change node before { before with
        olmOneTimeKeys := consumeOneTimeKey otk.target otk.keyId now before.olmOneTimeKeys }
  | deleteUser (userId : JsString) : Change node before (deleteUserCascade userId before)

/-- A request leaves the directory as it is or makes one of these changes. -/
theorem Directory.handle_change {node : NodeCrypto} {request : DirectoryRequest}
    {before : Directory} {answer : directoryInterface.Answer request}
    (answered : Directory.handle node request before = some (answer, after)) :
    after = before ∨ Directory.Change node before after := by
  cases request with
  | selectIdentity target fails =>
    simp only [Directory.handle, Option.some.injEq, Prod.mk.injEq] at answered
    exact .inl answered.2.symm
  | claim target identity now fails =>
    cases fails with
    | true =>
      simp only [Directory.handle, ↓reduceIte, Option.some.injEq, Prod.mk.injEq] at answered
      exact .inl answered.2.symm
    | false =>
      simp only [Directory.handle, Bool.false_eq_true, ↓reduceIte, Option.some.injEq,
        Prod.mk.injEq] at answered
      obtain ⟨-, rfl⟩ := answered
      rcases claimTransaction_cases (Prod.mk.eta (p := claimTransaction target identity now
          before)).symm with ⟨otk, member, rfl, unclaimed, -, changed⟩ | ⟨-, unchanged⟩
      · rw [changed]
        exact .inr (.claim otk now member unclaimed)
      · exact .inl unchanged
  | publish publication fails =>
    cases fails with
    | true =>
      simp only [Directory.handle, ↓reduceIte, Option.some.injEq, Prod.mk.injEq] at answered
      exact .inl answered.2.symm
    | false =>
      cases committed : publishTransaction node publication before with
      | ok published =>
        simp only [Directory.handle, Bool.false_eq_true, ↓reduceIte, committed,
          Option.some.injEq, Prod.mk.injEq] at answered
        obtain ⟨-, rfl⟩ := answered
        exact .inr (.publish publication committed)
      | error complaint =>
        simp only [Directory.handle, Bool.false_eq_true, ↓reduceIte, committed,
          Option.some.injEq, Prod.mk.injEq] at answered
        exact .inl answered.2.symm
  | deleteUser userId =>
    simp only [Directory.handle, Option.some.injEq, Prod.mk.injEq] at answered
    obtain ⟨-, rfl⟩ := answered
    exact .inr (.deleteUser userId)

end Vortex.KeyDirectory
