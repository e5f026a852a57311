import Mathlib.Data.List.Pairwise
import Vortex.Foundation.Rely
import Vortex.KeyDirectory.Runs

/-!
# Handing out keys

While no account is deleted the directory only grows: devices stay under their
identity and a consumed key stays consumed. So what an answer told its request
stays true while the request goes on to its next transaction, and a one-time key
that was handed out once is never handed out again.
-/

variable {target : OlmTarget} {pool : DirectoryPool} {identity : OlmDeviceIdentity}
  {call : DirectoryCall}

namespace Vortex.KeyDirectory

open Foundation
open Vortex.Olm (OlmOneTimeKey OlmTarget PinnedIdentity OlmKeyBundle OlmLibrary
  verifyKeyBundleSignature)

variable {node : NodeCrypto}

/-! ## Growth -/

/-- What a directory keeps while no account is deleted. -/
structure Directory.Extends (before after : Directory) : Prop where
  devices : ∀ device ∈ before.olmDeviceIdentities.rows,
    ∃ later ∈ after.olmDeviceIdentities.rows,
      later.target = device.target ∧ later.identity = device.identity
  consumed : ∀ row ∈ before.olmOneTimeKeys.rows, row.consumedAt ≠ none →
    row ∈ after.olmOneTimeKeys.rows

namespace Directory.Extends

theorem refl (directory : Directory) : directory.Extends directory where
  devices device member := ⟨device, member, rfl, rfl⟩
  consumed _ member _ := member

theorem trans {first second third : Directory} (left : first.Extends second)
    (right : second.Extends third) : first.Extends third where
  devices device member := by
    obtain ⟨middle, inside, target, identity⟩ := left.devices device member
    obtain ⟨later, last, target', identity'⟩ := right.devices middle inside
    exact ⟨later, last, target'.trans target, identity'.trans identity⟩
  consumed row member gone := right.consumed row (left.consumed row member gone) gone

theorem publish {publication : Publication} {before after : Directory}
    (committed : publishTransaction node publication before = .ok after) :
    before.Extends after := by
  obtain ⟨keys, devices⟩ := publishTransaction_ok committed
  constructor
  · rcases devices with ⟨-, -, -, same⟩ | ⟨registration, -, registered⟩
    · rw [same]
      exact (refl before).devices
    · rw [registered]
      exact fun _ member => upsertDevice_keeps member
  · intro row member gone
    rw [keys]
    exact pruneOneTimeKeys_keeps (insertOneTimeKeys_keeps member) gone

theorem claim (directory : Directory) (target : OlmTarget) (keyId : JsString) (now : Nat) :
    directory.Extends { directory with
      olmOneTimeKeys := consumeOneTimeKey target keyId now directory.olmOneTimeKeys } where
  devices := (refl directory).devices
  consumed _ member gone := consumeOneTimeKey_keeps member gone

end Directory.Extends

/-- The requests of publishes and claims. -/
def NotDeletion (request : DirectoryRequest) : Prop := ∀ userId, request ≠ .deleteUser userId

theorem notDeletion_selectIdentity (target : OlmTarget) (fails : Bool) :
    NotDeletion (.selectIdentity target fails) := fun _ => nofun

theorem notDeletion_claim (target : OlmTarget) (identity : OlmDeviceIdentity) (now : Nat)
    (fails : Bool) : NotDeletion (.claim target identity now fails) := fun _ => nofun

theorem notDeletion_publish (publication : Publication) (fails : Bool) :
    NotDeletion (.publish publication fails) := fun _ => nofun

theorem Directory.handle_selectIdentity {target : OlmTarget} {fails : Bool}
    {directory after : Directory} {identity : OlmDeviceIdentity}
    (answered : Directory.handle node (.selectIdentity target fails) directory =
      some (some (some identity), after)) :
    after = directory ∧ directory.olmDeviceIdentities.find? target = some identity := by
  obtain ⟨read, rfl⟩ := Prod.mk.inj (Option.some.inj answered)
  cases fails with
  | true => cases read
  | false => exact ⟨rfl, Option.some.inj read⟩

theorem Directory.handle_claim {target : OlmTarget} {identity : OlmDeviceIdentity} {now : Nat}
    {fails : Bool} {directory after : Directory} {claimed : Claimed}
    (answered : Directory.handle node (.claim target identity now fails) directory =
      some (some claimed, after)) :
    claimTransaction target identity now directory = (claimed, after) := by
  cases fails with
  | true => cases (Prod.mk.inj (Option.some.inj answered)).1
  | false =>
    obtain ⟨returned, written⟩ := Prod.mk.inj (Option.some.inj answered)
    exact Prod.ext (Option.some.inj returned) written

theorem Directory.handle_extends {request : DirectoryRequest} (kept : NotDeletion request)
    {before after : Directory} {answer : directoryInterface.Answer request}
    (answered : Directory.handle node request before = some (answer, after)) :
    before.Extends after := by
  cases request with
  | selectIdentity target fails =>
    obtain ⟨-, rfl⟩ := Prod.mk.inj (Option.some.inj answered)
    exact .refl before
  | claim target identity now fails =>
    simp only [Directory.handle] at answered
    split at answered
    · obtain ⟨-, rfl⟩ := Prod.mk.inj (Option.some.inj answered)
      exact .refl before
    · obtain ⟨-, rfl⟩ := Prod.mk.inj (Option.some.inj answered)
      rcases claimTransaction_cases (Prod.mk.eta (p := claimTransaction target identity now
          before)).symm with ⟨otk, -, -, -, -, changed⟩ | ⟨-, unchanged⟩
      · rw [changed]
        exact .claim before target otk.keyId now
      · rw [unchanged]
        exact .refl before
  | publish publication fails =>
    simp only [Directory.handle] at answered
    split at answered
    · obtain ⟨-, rfl⟩ := Prod.mk.inj (Option.some.inj answered)
      exact .refl before
    · split at answered
      · rename_i published committed
        obtain ⟨-, rfl⟩ := Prod.mk.inj (Option.some.inj answered)
        exact .publish committed
      · obtain ⟨-, rfl⟩ := Prod.mk.inj (Option.some.inj answered)
        exact .refl before
  | deleteUser userId => exact absurd rfl (kept userId)

/-! ## Requests in a growing directory -/

/-- The calls that delete no account. -/
def DirectoryCall.Keeps (call : DirectoryCall) : Prop := ∀ userId, call ≠ .deleteUser userId

/-- A publish or claim request keeps the directory valid and growing. -/
theorem Directory.handle_commits {request : DirectoryRequest} (kept : NotDeletion request)
    {before after : Directory} {answer : directoryInterface.Answer request}
    (valid : before.Valid node)
    (answered : Directory.handle node request before = some (answer, after)) :
    after.Valid node ∧ before.Extends after := by
  refine ⟨?_, Directory.handle_extends kept answered⟩
  rcases Directory.handle_change answered with rfl | changed
  · exact valid
  · exact valid.change changed

/-- The key of a response verifies, in the form the response says it has, under the
identity the response says it belongs to. -/
def ClaimResponse.Verified (node : NodeCrypto) (target : OlmTarget) (response : ClaimResponse) :
    Prop :=
  (if response.is_fallback then
    verifyFallbackKeySignature node response.ed25519_identity_key target.userId target.deviceId
      response.key_id response.public_key response.signature
  else
    verifyOneTimeKeySignature node response.ed25519_identity_key target.userId target.deviceId
      ⟨response.key_id, response.public_key, response.signature⟩) = true

/-- What is asked of the reply to a call: the response to a claim is verified. -/
def VerifiedReply (node : NodeCrypto) (call : DirectoryCall) (_ : Directory)
    (result : Except Empty Reply) : Prop :=
  ∀ response target, result = .ok (.claimed response) → call.claimTarget? = some target →
    response.Verified node target

/-- A request process whose requests keep the directory growing and whose reply is
verified. -/
abbrev SecureRequest (node : NodeCrypto) (call : DirectoryCall) (process : DirectoryProc)
    (directory : Directory) : Prop :=
  process.Secure (Directory.handle node) (Directory.Valid node) Directory.Extends
    (VerifiedReply node call) directory

theorem refused_secure {call : DirectoryCall} {process : DirectoryProc} (refused : Refused process)
    (directory : Directory) : SecureRequest node call process directory := by
  obtain ⟨status, text, rfl⟩ := refused
  intro response target claimed
  cases claimed

theorem publishKeys_secure (call : DirectoryCall) (publication : Publication) (fails : Bool)
    (directory : Directory) :
    SecureRequest node call (publishKeys publication fails) directory := by
  intro current answer after growth valid answered
  obtain ⟨kept, grown⟩ := Directory.handle_commits (notDeletion_publish _ _) valid answered
  refine ⟨kept, grown, ?_⟩
  cases answer with
  | ok _ =>
    intro response target claimed
    cases claimed
  | error complaint =>
    intro response target claimed
    cases complaint <;> cases claimed

/-- The key a claim transaction returns is verified under the identity that was read
before it, whatever happened in between. -/
theorem claimed_verified {now : Nat} {before current after : Directory} {claimed : Claimed}
    (growth : before.Extends current) (valid : current.Valid node)
    (read : before.olmDeviceIdentities.find? target = some identity)
    (fallback : identity.FallbackSigned node)
    (answered : claimTransaction target identity now current = (claimed, after)) :
    ClaimResponse.Verified node target
      { curve25519_identity_key := identity.curve25519IdentityKey
        ed25519_identity_key := identity.ed25519IdentityKey
        key_id := claimed.keyId
        public_key := claimed.publicKey
        signature := claimed.signature
        is_fallback := claimed.isFallback } := by
  obtain ⟨member, place⟩ := Table.find?_eq_some.mp read
  rcases claimTransaction_cases answered with ⟨otk, stored, same, -, rfl, -⟩ | ⟨rfl, -⟩
  · obtain ⟨device, registered, mine, signed⟩ := valid.signed otk stored
    obtain ⟨later, inside, kept, identical⟩ := growth.devices identity member
    have owner : later = device :=
      Table.eq_of_key_eq _ inside registered (kept.trans (place.trans (same.symm.trans mine.symm)))
    have ed : device.ed25519IdentityKey = identity.ed25519IdentityKey := by
      rw [← owner]
      exact congrArg PinnedIdentity.ed25519IdentityKey identical
    rw [ed] at signed
    subst same
    exact signed
  · subst place
    exact fallback

theorem claimKey_secure (asked : call.claimTarget? = some target) (now : Nat)
    (selectFails claimFails : Bool) (directory : Directory) :
    SecureRequest node call (claimKey target now selectFails claimFails) directory := by
  intro read answer afterRead _ validRead answeredRead
  obtain ⟨kept, grown⟩ :=
    Directory.handle_commits (notDeletion_selectIdentity _ _) validRead answeredRead
  refine ⟨kept, grown, ?_⟩
  rcases answer with _ | _ | identity
  · intro response target claimed
    cases claimed
  · intro response target claimed
    cases claimed
  · obtain ⟨rfl, found⟩ := Directory.handle_selectIdentity answeredRead
    have fallback := validRead.fallback identity (Table.find?_eq_some.mp found).1
    intro current answer after growth valid answered
    obtain ⟨kept', grown'⟩ := Directory.handle_commits (notDeletion_claim _ _ _ _) valid answered
    refine ⟨kept', grown', ?_⟩
    cases answer with
    | none =>
      intro response target claimed
      cases claimed
    | some claimed =>
      intro response other replied same
      cases replied
      cases asked.symm.trans same
      exact claimed_verified growth valid found fallback (Directory.handle_claim answered)

theorem serve_secure (kept : call.Keeps) (directory : Directory) :
    SecureRequest node call (serve call) directory := by
  cases call with
  | postDevice incoming nowIso createdAt fails =>
    rcases postDevice_cases incoming nowIso createdAt fails with refused | ⟨_, entered⟩
    · exact refused_secure refused directory
    · rw [serve, entered]
      exact publishKeys_secure _ _ _ _
  | postClaim incoming now selectFails claimFails =>
    rcases postClaim_cases incoming now selectFails claimFails with refused | ⟨_, asked, entered⟩
    · exact refused_secure refused directory
    · rw [serve, entered]
      exact claimKey_secure asked _ _ _ _
  | deleteUser userId => exact absurd rfl (kept userId)

section Growing

variable {pool before after later : DirectoryPool} {label : Turn DirectoryCall}

/-- In every run without account deletions the directory is valid, grows, and has
verified every key it has handed out. -/
theorem secure_of_reachable (reached : (directorySystem node).Reachable keepsUsers pool) :
    pool.Secure (fun _ _ => Directory.handle node) (Directory.Valid node) Directory.Extends
      (VerifiedReply node) := by
  refine Pool.secure_of_reachable ?_ .refl (fun _ _ _ => .trans)
    (fun _ _ _ _ _ verified => verified) ?_ reached
  · rintro _ rfl
    exact Directory.valid_empty node
  · intro pool call index admitted _
    refine serve_secure ?_ _
    rintro userId rfl
    exact admitted

theorem step_extends (reached : (directorySystem node).Reachable keepsUsers before)
    (moved : (directorySystem node).step before label after) : before.shared.Extends after.shared :=
  (secure_of_reachable reached).step_grows .refl moved

theorem steps_extend (reached : (directorySystem node).Reachable keepsUsers pool)
    (path : (directorySystem node).Steps keepsUsers pool later) :
    pool.shared.Extends later.shared := by
  induction path with
  | refl => exact .refl _
  | step earlier _ moved ih => exact ih.trans (step_extends (reached.steps earlier) moved)

end Growing

/-- The answer to a claim, with the device it is for. -/
def claimAnswer? (pool : DirectoryPool) (index : Nat) : Option (OlmTarget × ClaimResponse) :=
  pool.threads[index]?.bind fun thread =>
    match thread.call.claimTarget?, thread.result? with
    | some target, some (.ok (.claimed response)) => some (target, response)
    | _, _ => none

theorem claimAnswer?_eq_some {index : Nat} {response : ClaimResponse}
    (claimed : claimAnswer? pool index = some (target, response)) :
    ∃ thread : Thread directoryInterface Empty Reply DirectoryCall,
      pool.threads[index]? = some thread ∧ thread.call.claimTarget? = some target ∧
        thread.result? = some (.ok (.claimed response)) := by
  obtain ⟨thread, found, answered⟩ := Option.bind_eq_some_iff.mp claimed
  split at answered
  · rename_i asked replied
    cases answered
    exact ⟨thread, found, asked, replied⟩
  · cases answered

/-! ## The client's check -/

/-- The client builds the payloads the server has verified. -/
theorem verifyKeyBundleSignature_bundleOfClaim {olm : OlmLibrary} (agree : ∀ key payload signature,
      verifyEd25519 node key payload signature = olm.ed25519Verify key payload signature)
    (target : OlmTarget) (response : ClaimResponse) :
    verifyKeyBundleSignature olm target.userId target.deviceId (bundleOfClaim response) = true ↔
      response.Verified node target := by
  obtain ⟨curve, ed, keyId, publicKey, signature, fallback⟩ := response
  cases fallback with
  | true => exact iff_of_eq (congrArg (· = true) (agree _ _ _).symm)
  | false => exact iff_of_eq (congrArg (· = true) (agree _ _ _).symm)

def Sample.claiming : Option DirectoryPool :=
  replayDirectory Vortex.Olm.Symbolic.node
    (fun _ turn => match turn with
      | .start (.deleteUser _) => false
      | _ => true)
    ([.start Sample.publishPhone, .advance 0] ++ List.replicate 3 (.start Sample.claimPhone) ++
      [.advance 1, .advance 2, .advance 3, .advance 3, .advance 1, .advance 2])

theorem Sample.claiming_completes : Sample.claiming.isSome = true := by decide +kernel

/-- A device with two one-time keys is claimed three times. -/
def Sample.claimed : DirectoryPool := Sample.claiming.get Sample.claiming_completes

theorem claimed_reachable :
    (directorySystem Vortex.Olm.Symbolic.node).Reachable keepsUsers Sample.claimed := by
  refine reachable_of_replayDirectory (fun pool turn checked => ?_) _
  cases turn with
  | advance index => trivial
  | start call =>
    cases call with
    | deleteUser userId => cases checked
    | _ => trivial

theorem claimed_forms :
    [3, 1, 2].map (fun index => (claimAnswer? Sample.claimed index).map
      fun (target, response) => (target, response.is_fallback)) =
      [some (Sample.phone, false), some (Sample.phone, false), some (Sample.phone, true)] := by
  decide +kernel

/-- The one-time key an answer hands out. -/
def handedOut (event : Event directoryInterface DirectoryCall) : Option (OlmTarget × JsString) :=
  match event.request, event.answer with
  | .claim target _ _ _, some claimed =>
      if claimed.isFallback then none else some (target, claimed.keyId)
  | _, _ => none

/-- Every key that was handed out was handed out once, and its row is a tombstone. -/
structure Accounted (pool : DirectoryPool) : Prop where
  once : (pool.history.filterMap handedOut).Nodup
  consumed : ∀ key ∈ pool.history.filterMap handedOut,
    ∃ row ∈ pool.shared.olmOneTimeKeys.rows, row.primaryKey = key ∧ row.consumedAt ≠ none

/-- An answer that hands out a key has found it unclaimed, and leaves it consumed. -/
theorem handedOut_eq_some {event : Event directoryInterface DirectoryCall}
    {before after : Directory} {key : OlmTarget × JsString}
    (answered : Directory.handle node event.request before = some (event.answer, after))
    (given : handedOut event = some key) :
    (∃ row ∈ before.olmOneTimeKeys.rows, row.primaryKey = key ∧ row.consumedAt = none) ∧
      ∃ row ∈ after.olmOneTimeKeys.rows, row.primaryKey = key ∧ row.consumedAt ≠ none := by
  obtain ⟨index, call, request, answer⟩ := event
  cases request with
  | selectIdentity target fails => cases given
  | publish publication fails => cases given
  | deleteUser userId => cases given
  | claim target identity now fails =>
    cases answer with
    | none => cases given
    | some claimed =>
      rcases claimTransaction_cases (Directory.handle_claim answered) with
        ⟨otk, member, rfl, unclaimed, rfl, rfl⟩ | ⟨rfl, -⟩
      · cases given
        refine ⟨⟨otk, member, rfl, unclaimed⟩, { otk with consumedAt := some now }, ?_, rfl, ?_⟩
        · exact mem_consumeOneTimeKey.mpr ⟨otk, member, if_pos ⟨unclaimed, rfl⟩⟩
        · exact nofun
      · cases given

theorem accounted_of_reachable (reached : (directorySystem node).Reachable keepsUsers pool) :
    Accounted pool := by
  refine reached.invariant ?_ ?_
  · rintro _ ⟨directory, -, rfl⟩
    exact ⟨List.nodup_nil, fun _ member => nomatch member⟩
  · intro before label after earlier accounted _ moved
    have growth := step_extends earlier moved
    obtain ⟨call, -, rfl⟩ | ⟨index, call, request, next, answer, shared, -, -, answered, rfl⟩ :=
      Pool.step_cases moved
    · exact ⟨accounted.once, accounted.consumed⟩
    · have kept : ∀ key ∈ before.history.filterMap handedOut,
          ∃ row ∈ shared.olmOneTimeKeys.rows, row.primaryKey = key ∧ row.consumedAt ≠ none := by
        intro key listed
        obtain ⟨row, member, same, gone⟩ := accounted.consumed key listed
        exact ⟨row, growth.consumed row member gone, same, gone⟩
      cases given : handedOut ⟨index, call, request, answer⟩ with
      | none =>
        constructor
        · rw [List.filterMap_cons_none given]
          exact accounted.once
        · rw [List.filterMap_cons_none given]
          exact kept
      | some key =>
        obtain ⟨⟨row, member, mine, unclaimed⟩, tombstone⟩ := handedOut_eq_some answered given
        constructor
        · rw [List.filterMap_cons_some given]
          refine List.nodup_cons.mpr ⟨fun listed => ?_, accounted.once⟩
          obtain ⟨other, stored, same, gone⟩ := accounted.consumed key listed
          rw [Table.eq_of_key_eq _ stored member (same.trans mine.symm)] at gone
          exact gone unclaimed
        · rw [List.filterMap_cons_some given]
          intro other listed
          rcases List.mem_cons.mp listed with rfl | listed
          · exact tombstone
          · exact kept other listed

/-- Two answers that handed out the same key are the same answer. -/
theorem Accounted.eq_of_handedOut_eq (accounted : Accounted pool)
    {first second : Event directoryInterface DirectoryCall} (recorded : first ∈ pool.history)
    (recorded' : second ∈ pool.history) {key : OlmTarget × JsString}
    (given : handedOut first = some key) (given' : handedOut second = some key) :
    first = second := by
  by_contra different
  have apart : pool.history.Pairwise fun event other =>
      ∀ key, handedOut event = some key → ∀ key', handedOut other = some key' → key ≠ key' := by
    have once := accounted.once
    rw [List.Nodup, List.pairwise_filterMap] at once
    exact once
  have : Std.Symm fun event other : Event directoryInterface DirectoryCall =>
      ∀ key, handedOut event = some key → ∀ key', handedOut other = some key' → key ≠ key' :=
    ⟨fun _ _ distinct key given key' given' => (distinct key' given' key given).symm⟩
  exact List.Pairwise.forall apart recorded recorded' different key given key given' rfl

/-- A response with a one-time key comes from an answer that handed it out. -/
theorem handedOut_of_claimed (reached : (directorySystem node).Reachable keepsUsers pool)
    {index : Nat} {response : ClaimResponse}
    (replied : claimAnswer? pool index = some (target, response))
    (oneTime : response.is_fallback = false) :
    ∃ event ∈ pool.history, event.thread = index ∧
      handedOut event = some (target, response.key_id) := by
  obtain ⟨thread, found, asked, answered⟩ := claimAnswer?_eq_some replied
  have recorded : (serve thread.call).Obeys (.recorder (fun _ => true) fun _ _ => True) (fun seen result =>
      result = .ok (.claimed response) → ∃ identity now fails claimed,
        (⟨.claim target identity now fails, some claimed⟩ : Proc.Exchange directoryInterface) ∈
          seen ∧ claimed.keyId = response.key_id ∧ claimed.isFallback = false) [] := by
    cases kind : thread.call with
    | postDevice incoming nowIso createdAt fails =>
      rw [kind] at asked
      cases asked
    | deleteUser userId =>
      rw [kind] at asked
      cases asked
    | postClaim incoming now selectFails claimFails =>
      rw [kind] at asked
      rcases postClaim_cases incoming now selectFails claimFails with
        ⟨_, _, refused⟩ | ⟨place, same, entered⟩
      · rw [serve, refused]
        intro claimed
        cases claimed
      · cases asked.symm.trans same
        rw [serve, entered]
        refine ⟨trivial, fun read => ?_⟩
        rcases read with _ | _ | identity
        · intro claimed
          cases claimed
        · intro claimed
          cases claimed
        · refine ⟨trivial, fun taken => ?_⟩
          cases taken with
          | none =>
            intro claimed
            cases claimed
          | some claimed =>
            intro replied
            cases replied
            exact ⟨identity, now, claimFails, claimed,
              List.mem_cons_of_mem _ List.mem_cons_self, rfl, oneTime⟩
  obtain ⟨identity, now, fails, claimed, listed, same, form⟩ :=
    Pool.ended_of_reachable reached found recorded answered rfl
  obtain ⟨⟨issuer, call, request, answer⟩, member, mine, exchanged⟩ :=
    Pool.mem_exchanges.mp (Monitor.mem_remember_recorder.mp listed).1
  cases exchanged
  refine ⟨_, member, mine, ?_⟩
  simp only [handedOut, form, Bool.false_eq_true, ↓reduceIte, same]

/-- A one-time key is handed out at most once, and a consumed key stays consumed
whatever is published later. -/
theorem one_time_key_used_once {pool : DirectoryPool}
    (reached : (directorySystem node).Reachable keepsUsers pool) :
    (∀ first second target response other, first ≠ second →
        claimAnswer? pool first = some (target, response) →
        claimAnswer? pool second = some (target, other) →
        response.is_fallback = false → other.is_fallback = false →
          response.key_id ≠ other.key_id) ∧
      ∀ later, (directorySystem node).Steps keepsUsers pool later →
        ∀ row ∈ pool.shared.olmOneTimeKeys.rows, row.consumedAt ≠ none →
        ∀ stored ∈ later.shared.olmOneTimeKeys.rows, stored.primaryKey = row.primaryKey →
          stored.consumedAt ≠ none := by
  refine ⟨?_, ?_⟩
  · intro first second target response other different claimed claimed' form form' same
    obtain ⟨event, recorded, issuer, given⟩ := handedOut_of_claimed reached claimed form
    obtain ⟨event', recorded', issuer', given'⟩ := handedOut_of_claimed reached claimed' form'
    rw [← same] at given'
    have equal :=
      (accounted_of_reachable reached).eq_of_handedOut_eq recorded recorded' given given'
    exact different (issuer.symm.trans ((congrArg Event.thread equal).trans issuer'))
  · intro later path row member gone stored present same
    have kept := (steps_extend reached path).consumed row member gone
    rw [Table.eq_of_key_eq _ present kept same]
    exact gone

/-- The first two claims of the sample get different keys. -/
theorem claimed_keys_differ :
    ∃ response other, claimAnswer? Sample.claimed 3 = some (Sample.phone, response) ∧
      claimAnswer? Sample.claimed 1 = some (Sample.phone, other) ∧
      response.key_id ≠ other.key_id := by
  obtain ⟨answered, answered', -⟩ := by
    simpa only [List.map_cons, List.cons.injEq] using claimed_forms
  obtain ⟨⟨target, response⟩, found, same⟩ := Option.map_eq_some_iff.mp answered
  obtain ⟨⟨target', other⟩, found', same'⟩ := Option.map_eq_some_iff.mp answered'
  obtain ⟨rfl, oneTime⟩ := Prod.mk.inj same
  obtain ⟨rfl, oneTime'⟩ := Prod.mk.inj same'
  exact ⟨response, other, found, found', (one_time_key_used_once claimed_reachable).1 3 1 _ _ _
    (by decide) found found' oneTime oneTime'⟩

end Vortex.KeyDirectory
