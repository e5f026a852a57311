import Vortex.Foundation.System
import Vortex.Gateway.Interface

/-!
# The revocation store

`revocation.ts`: a cutoff for each user, in Redis or in a map of the process, that is kept
for longer than any token lives. A token carries the second it was minted in, and the
cutoff is a time in milliseconds.
-/

namespace Vortex.Gateway

open Foundation

/-- The lifetime of a handshake token. -/
def TOKEN_LIFETIME_MS : Nat := 15 * 60 * 1000

/-- `iat` of a token that is minted at a time. -/
def issuedAt (minted : Nat) : Nat := minted / 1000

inductive Backing
  | redis
  | inMemory
  deriving DecidableEq

/-- The store at a time of its clock. An entry is there until the clock has passed its end,
also where Redis removes it only later. -/
structure SessionRevocationStore where
  backing : Backing
  now : Nat
  entries : JsString → Option Revocation

namespace SessionRevocationStore

def put (store : SessionRevocationStore) (userId : JsString) (entry : Option Revocation) :
    SessionRevocationStore :=
  { store with entries := Function.update store.entries userId entry }

/-- A call of `revoke`, with the time until Redis has the cutoff, and whether it takes it. -/
def revoke (store : SessionRevocationStore) (userId : JsString) (delay : Nat) (kept : Bool) :
    Bool × SessionRevocationStore :=
  let cutoffMs := store.now
  match store.backing with
  | .redis =>
      let stored := { store with now := store.now + delay }
      if kept then (true, stored.put userId
        (some ⟨cutoffMs, store.now + delay + REVOCATION_TTL_SECONDS * 1000⟩))
      else (false, stored)
  | .inMemory =>
      (true, store.put userId (some ⟨cutoffMs, cutoffMs + REVOCATION_TTL_SECONDS * 1000⟩))

def isRevoked (store : SessionRevocationStore) (userId : JsString) (tokenIatSeconds : Nat) :
    Bool × SessionRevocationStore :=
  let tokenIatMs := tokenIatSeconds * 1000
  match store.entries userId with
  | none => (false, store)
  | some entry =>
      if entry.expiresAt < store.now then (false, store.put userId none)
      else (tokenIatMs < entry.cutoffMs, store)

def pruneExpired (store : SessionRevocationStore) : SessionRevocationStore :=
  match store.backing with
  | .redis => store
  | .inMemory => { store with
      entries := fun userId => (store.entries userId).filter fun entry => store.now ≤ entry.expiresAt }

end SessionRevocationStore

/-- The store with the times of the calls of `revoke` that have succeeded. -/
structure Revocations where
  store : SessionRevocationStore
  cutoffs : JsString → List Nat

inductive RevocationEvent
  | passes (ms : Nat)
  | revokes (userId : JsString) (delay : Nat) (kept : Bool)
  | asks (userId : JsString) (tokenIatSeconds : Nat)
  | prunes

namespace Revocations

def next (state : Revocations) : RevocationEvent → Revocations
  | .passes ms => { state with store := { state.store with now := state.store.now + ms } }
  | .revokes userId delay kept =>
      let (ok, store) := state.store.revoke userId delay kept
      { store := store
        cutoffs := if ok then Function.update state.cutoffs userId
          (state.store.now :: state.cutoffs userId) else state.cutoffs }
  | .asks userId tokenIatSeconds =>
      { state with store := (state.store.isRevoked userId tokenIatSeconds).2 }
  | .prunes => { state with store := state.store.pruneExpired }

/-- Nothing has been revoked. -/
structure Initial (state : Revocations) : Prop where
  entries : ∀ userId, state.store.entries userId = none
  cutoffs : ∀ userId, state.cutoffs userId = []

/-- The store tells a token that was minted before a revocation from the others. -/
def Exact (state : Revocations) (userId : JsString) (minted : Nat) : Prop :=
  (state.store.isRevoked userId (issuedAt minted)).1 = true ↔
    ∃ cutoff ∈ state.cutoffs userId, minted < cutoff

end Revocations

def revocationSystem : System Revocations RevocationEvent :=
  .ofNext Revocations.Initial fun state event => some (state.next event)

namespace Revocations

/-! ## What the store remembers -/

/-- An entry that lasts until no token from before its cutoff is alive. -/
structure Lasts (entry : Revocation) (cutoffs : List Nat) : Prop where
  recorded : entry.cutoffMs ∈ cutoffs
  newest : ∀ cutoff ∈ cutoffs, cutoff ≤ entry.cutoffMs
  long : entry.cutoffMs + REVOCATION_TTL_SECONDS * 1000 ≤ entry.expiresAt

/-- The store has the newest cutoff of every user, unless all of them are old. -/
structure Remembers (state : Revocations) : Prop where
  past : ∀ userId, ∀ cutoff ∈ state.cutoffs userId, cutoff ≤ state.store.now
  kept : ∀ userId entry, state.store.entries userId = some entry →
    Lasts entry (state.cutoffs userId)
  forgotten : ∀ userId, state.store.entries userId = none →
    ∀ cutoff ∈ state.cutoffs userId, cutoff + REVOCATION_TTL_SECONDS * 1000 < state.store.now

variable {state : Revocations}

section

variable (remembers : state.Remembers)

include remembers

/-- Time passes. -/
theorem Remembers.wait (ms : Nat) :
    Remembers { state with store := { state.store with now := state.store.now + ms } } where
  past userId cutoff member := Nat.le_add_right_of_le (remembers.past userId cutoff member)
  kept := remembers.kept
  forgotten userId absent cutoff member :=
    Nat.lt_of_lt_of_le (remembers.forgotten userId absent cutoff member) (Nat.le_add_right _ _)

/-- Entries may go once the clock has passed their end. -/
theorem Remembers.drop (entries : JsString → Option Revocation)
    (fewer : ∀ userId, entries userId = state.store.entries userId ∨ entries userId = none ∧
      ∀ entry, state.store.entries userId = some entry → entry.expiresAt < state.store.now) :
    Remembers { state with store := { state.store with entries } } where
  past := remembers.past
  kept userId entry found := by
    rcases fewer userId with same | ⟨gone, -⟩
    · exact remembers.kept userId entry (same.symm.trans found)
    · exact absurd (found.symm.trans gone) (Option.some_ne_none entry)
  forgotten userId absent cutoff member := by
    rcases fewer userId with same | ⟨-, ended⟩
    · exact remembers.forgotten userId (same.symm.trans absent) cutoff member
    · cases found : state.store.entries userId with
      | none => exact remembers.forgotten userId found cutoff member
      | some entry =>
        have lasts := remembers.kept userId entry found
        have newest := lasts.newest cutoff member
        have long := lasts.long
        have past := ended entry found
        exact Nat.lt_of_le_of_lt (Nat.le_trans (Nat.add_le_add_right newest _) long) past

/-- A new cutoff is the newest one. -/
theorem Remembers.record (userId : JsString) (delay : Nat)
    {expiresAt : Nat} (long : state.store.now + REVOCATION_TTL_SECONDS * 1000 ≤ expiresAt) :
    Remembers
      { store := { state.store with
          now := state.store.now + delay
          entries := Function.update state.store.entries userId (some ⟨state.store.now, expiresAt⟩) }
        cutoffs := Function.update state.cutoffs userId
          (state.store.now :: state.cutoffs userId) } where
  past other cutoff member := by
    refine Nat.le_add_right_of_le ?_
    change cutoff ∈ Function.update state.cutoffs userId _ other at member
    by_cases same : other = userId
    · subst same
      rw [Function.update_self] at member
      rcases List.mem_cons.mp member with rfl | member
      · exact Nat.le_refl _
      · exact remembers.past other cutoff member
    · rw [Function.update_of_ne same] at member
      exact remembers.past other cutoff member
  kept other entry found := by
    by_cases same : other = userId
    · subst same
      simp only [Function.update_self] at found ⊢
      cases found
      refine ⟨List.mem_cons_self, ?_, long⟩
      intro cutoff member
      rcases List.mem_cons.mp member with rfl | member
      · exact Nat.le_refl _
      · exact remembers.past other cutoff member
    · simp only [Function.update_of_ne same] at found ⊢
      exact remembers.kept other entry found
  forgotten other absent cutoff member := by
    by_cases same : other = userId
    · subst same
      simp only [Function.update_self] at absent
      cases absent
    · simp only [Function.update_of_ne same] at absent member
      exact Nat.lt_of_lt_of_le (remembers.forgotten other absent cutoff member)
        (Nat.le_add_right _ _)

theorem Remembers.next (event : RevocationEvent) : (state.next event).Remembers := by
  cases event with
  | passes ms => exact remembers.wait ms
  | revokes userId delay kept =>
    cases backing : state.store.backing with
    | redis =>
      cases kept with
      | true =>
        have long : state.store.now + REVOCATION_TTL_SECONDS * 1000 ≤
            state.store.now + delay + REVOCATION_TTL_SECONDS * 1000 :=
          Nat.add_le_add_right (Nat.le_add_right _ _) _
        have recorded := remembers.record userId delay long
        simpa only [Revocations.next, SessionRevocationStore.revoke, backing, if_true,
          SessionRevocationStore.put] using recorded
      | false =>
        simpa only [Revocations.next, SessionRevocationStore.revoke, backing,
          Bool.false_eq_true, if_false] using remembers.wait delay
    | inMemory =>
      have recorded := remembers.record userId 0 (Nat.le_refl _)
      simpa only [Revocations.next, SessionRevocationStore.revoke, backing, if_true,
        SessionRevocationStore.put, Nat.add_zero] using recorded
  | asks userId tokenIatSeconds =>
    cases found : state.store.entries userId with
    | none =>
      simpa only [Revocations.next, SessionRevocationStore.isRevoked, found] using remembers
    | some entry =>
      by_cases past : entry.expiresAt < state.store.now
      · have dropped := remembers.drop (Function.update state.store.entries userId none) ?_
        · simpa only [Revocations.next, SessionRevocationStore.isRevoked, found, past, if_true,
            SessionRevocationStore.put] using dropped
        · intro other
          by_cases same : other = userId
          · subst same
            refine .inr ⟨Function.update_self .., fun other held => ?_⟩
            exact Option.some.inj (found.symm.trans held) ▸ past
          · exact .inl (Function.update_of_ne same ..)
      · simpa only [Revocations.next, SessionRevocationStore.isRevoked, found, past, if_false]
          using remembers
  | prunes =>
    cases backing : state.store.backing with
    | redis =>
      simpa only [Revocations.next, SessionRevocationStore.pruneExpired, backing] using remembers
    | inMemory =>
      have dropped := remembers.drop (fun userId => (state.store.entries userId).filter
        fun entry => state.store.now ≤ entry.expiresAt) ?_
      · simpa only [Revocations.next, SessionRevocationStore.pruneExpired, backing] using dropped
      · intro userId
        cases found : state.store.entries userId with
        | none => exact .inl rfl
        | some entry =>
          by_cases alive : state.store.now ≤ entry.expiresAt
          · exact .inl (Option.filter_some_pos (decide_eq_true alive))
          · refine .inr ⟨Option.filter_some_neg (by simpa using alive), fun other held => ?_⟩
            cases held
            exact Nat.lt_of_not_le alive

end

theorem remembers_of_reachable {guard : Revocations → RevocationEvent → Prop}
    (reached : revocationSystem.Reachable guard state) : state.Remembers := by
  refine reached.invariant ?_ ?_
  · intro start initial
    refine ⟨?_, ?_, ?_⟩
    · intro userId cutoff member
      rw [initial.cutoffs] at member
      cases member
    · intro userId entry found
      rw [initial.entries] at found
      cases found
    · intro userId _ cutoff member
      rw [initial.cutoffs] at member
      cases member
  · intro before event after _ remembers _ moved
    cases moved
    exact remembers.next event

/-! ## Which tokens are told apart -/

theorem lt_issuedAt (minted : Nat) : minted < issuedAt minted * 1000 + 1000 := by
  unfold issuedAt
  omega

/-- A cutoff that has been forgotten is older than any token that is alive. -/
theorem le_issuedAt_of_old {cutoff now minted : Nat}
    (old : cutoff + REVOCATION_TTL_SECONDS * 1000 < now)
    (alive : now ≤ minted + TOKEN_LIFETIME_MS) : cutoff ≤ issuedAt minted * 1000 := by
  have longer : TOKEN_LIFETIME_MS + 1000 ≤ REVOCATION_TTL_SECONDS * 1000 := by decide
  have bound : cutoff + (TOKEN_LIFETIME_MS + 1000) < issuedAt minted * 1000 + 1000 + TOKEN_LIFETIME_MS :=
    calc cutoff + (TOKEN_LIFETIME_MS + 1000)
        ≤ cutoff + REVOCATION_TTL_SECONDS * 1000 := Nat.add_le_add_left longer cutoff
      _ < now := old
      _ ≤ minted + TOKEN_LIFETIME_MS := alive
      _ ≤ issuedAt minted * 1000 + 1000 + TOKEN_LIFETIME_MS :=
        Nat.add_le_add_right (Nat.le_of_lt (lt_issuedAt minted)) _
  clear old alive longer
  generalize TOKEN_LIFETIME_MS = lifetime at bound
  omega

/-- A live token is taken for revoked when a cutoff is later than the second it was minted
in. -/
theorem Remembers.isRevoked_iff (remembers : state.Remembers) {userId : JsString} {minted : Nat}
    (alive : state.store.now ≤ minted + TOKEN_LIFETIME_MS) :
    (state.store.isRevoked userId (issuedAt minted)).1 = true ↔
      ∃ cutoff ∈ state.cutoffs userId, issuedAt minted * 1000 < cutoff := by
  cases found : state.store.entries userId with
  | none =>
    simp only [SessionRevocationStore.isRevoked, found, Bool.false_eq_true, false_iff, not_exists,
      not_and, Nat.not_lt]
    exact fun cutoff member =>
      le_issuedAt_of_old (remembers.forgotten userId found cutoff member) alive
  | some entry =>
    have lasts := remembers.kept userId entry found
    by_cases past : entry.expiresAt < state.store.now
    · simp only [SessionRevocationStore.isRevoked, found, past, if_true, Bool.false_eq_true,
        false_iff, not_exists, not_and, Nat.not_lt]
      intro cutoff member
      have newest :=
        Nat.add_le_add_right (lasts.newest cutoff member) (REVOCATION_TTL_SECONDS * 1000)
      exact le_issuedAt_of_old (Nat.lt_of_le_of_lt (Nat.le_trans newest lasts.long) past) alive
    · simp only [SessionRevocationStore.isRevoked, found, past, if_false, decide_eq_true_eq]
      constructor
      · exact fun older => ⟨entry.cutoffMs, lasts.recorded, older⟩
      · rintro ⟨cutoff, member, older⟩
        exact Nat.lt_of_lt_of_le older (lasts.newest cutoff member)

/-- A live token is told apart from those minted before a revocation, unless it was minted
after the last one in the same second. -/
theorem exact_of_reachable_iff {guard : Revocations → RevocationEvent → Prop}
    (reached : revocationSystem.Reachable guard state) {userId : JsString} {minted : Nat}
    (alive : state.store.now ≤ minted + TOKEN_LIFETIME_MS) :
    state.Exact userId minted ↔ (∃ cutoff ∈ state.cutoffs userId, minted < cutoff) ∨
      ∀ cutoff ∈ state.cutoffs userId, cutoff ≤ issuedAt minted * 1000 := by
  have start : issuedAt minted * 1000 ≤ minted := Nat.div_mul_le_self minted 1000
  rw [Exact, (remembers_of_reachable reached).isRevoked_iff alive]
  constructor
  · intro told
    by_cases later : ∃ cutoff ∈ state.cutoffs userId, issuedAt minted * 1000 < cutoff
    · exact .inl (told.mp later)
    · right
      intro cutoff member
      by_contra above
      exact later ⟨cutoff, member, Nat.lt_of_not_le above⟩
  · rintro (⟨cutoff, member, later⟩ | early)
    · exact iff_of_true ⟨cutoff, member, Nat.lt_of_le_of_lt start later⟩ ⟨cutoff, member, later⟩
    · refine iff_of_false ?_ ?_
      · rintro ⟨cutoff, member, later⟩
        exact absurd (early cutoff member) (Nat.not_le_of_lt later)
      · rintro ⟨cutoff, member, later⟩
        exact absurd (Nat.le_trans (early cutoff member) start) (Nat.not_le_of_lt later)

end Revocations

namespace Sample

/-- Nothing revoked, ten minutes after the start of the clock. -/
def unrevoked (backing : Backing) : Revocations := ⟨⟨backing, 600000, fun _ => none⟩, fun _ => []⟩

/-- The sessions of a user are revoked half a second into a second. -/
def revokedOnce (backing : Backing) : Revocations :=
  ((unrevoked backing).next (.passes 500)).next (.revokes (js "u") 0 true)

theorem revokedOnce_reachable (backing : Backing) :
    revocationSystem.Reachable System.unguarded (revokedOnce backing) :=
  .step (.step (.initial ⟨fun _ => rfl, fun _ => rfl⟩) trivial rfl) trivial rfl

end Sample

/-- A token of a second before is revoked, one of a second after is not. -/
theorem revokedOnce_exact : (Sample.revokedOnce .redis).Exact (js "u") 599000 ∧
    (Sample.revokedOnce .inMemory).Exact (js "u") 601000 :=
  ⟨(Revocations.exact_of_reachable_iff (Sample.revokedOnce_reachable .redis) (by decide)).mpr
      (.inl ⟨600500, by decide, by decide⟩),
    (Revocations.exact_of_reachable_iff (Sample.revokedOnce_reachable .inMemory) (by decide)).mpr
      (.inr (by decide))⟩

/-- A token minted a tenth of a second after the revocation is refused. -/
theorem revokedOnce_inexact :
    revocationSystem.Reachable System.unguarded (Sample.revokedOnce .redis) ∧
      ¬(Sample.revokedOnce .redis).Exact (js "u") 600600 := by
  refine ⟨Sample.revokedOnce_reachable .redis, ?_⟩
  intro exact
  have refused : ((Sample.revokedOnce .redis).store.isRevoked (js "u") 600).1 = true := by
    decide
  obtain ⟨cutoff, member, later⟩ := exact.mp refused
  have only : ∀ cutoff ∈ (Sample.revokedOnce .redis).cutoffs (js "u"), cutoff = 600500 := by
    decide
  rw [only cutoff member] at later
  exact absurd later (by decide)

end Vortex.Gateway
