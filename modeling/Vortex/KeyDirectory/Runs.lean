import Vortex.KeyDirectory.Client
import Vortex.KeyDirectory.Invariant

/-!
# Runs of the key directory

The requests to the directory as interleaved processes: what each of them can
change, what holds of the directory in every run, and what stays while no account
is deleted.
-/

namespace Vortex.KeyDirectory

open Foundation
open Foundation.System (unguarded)
open Vortex.Olm (OlmOneTimeKey OlmTarget PinnedIdentity)

variable {node : NodeCrypto}

/-! ## The handlers as processes -/

/-- A request that is refused before it reaches the database. -/
def Refused (process : DirectoryProc) : Prop :=
  ∃ status text, process = .done (.ok (.error status text))

theorem withBody_cases (incoming : Incoming) (next : JsString → Json → DirectoryProc) :
    Refused (withBody incoming next) ∨
      ∃ user body, incoming.body = some body ∧ withBody incoming next = next user body := by
  unfold withBody
  split
  · exact .inl ⟨_, _, rfl⟩
  · split
    · exact .inl ⟨_, _, rfl⟩
    · split
      · exact .inl ⟨_, _, rfl⟩
      · exact .inl ⟨_, _, rfl⟩
      · rename_i user _ _ _ body _ present
        exact .inr ⟨user, body, present, rfl⟩

theorem postDevice_cases (incoming : Incoming) (nowIso : Nat) (createdAt : Nat → Nat)
    (fails : Bool) : Refused (postDevice incoming nowIso createdAt fails) ∨
      ∃ publication, postDevice incoming nowIso createdAt fails = publishKeys publication fails := by
  unfold postDevice
  rcases withBody_cases incoming _ with refused | ⟨user, body, -, entered⟩
  · exact .inl refused
  · rw [entered]
    split
    · exact .inl ⟨_, _, rfl⟩
    · exact .inr ⟨_, rfl⟩

/-- The device a claim asks for. -/
def DirectoryCall.claimTarget? : DirectoryCall → Option OlmTarget
  | .postClaim incoming _ _ _ => incoming.body.map fun body =>
      ⟨asString (body.get? (js "targetUserId")), asString (body.get? (js "targetDeviceId"))⟩
  | _ => none

theorem postClaim_cases (incoming : Incoming) (now : Nat) (selectFails claimFails : Bool) :
    Refused (postClaim incoming now selectFails claimFails) ∨ ∃ target,
        (DirectoryCall.postClaim incoming now selectFails claimFails).claimTarget? = some target ∧
        postClaim incoming now selectFails claimFails =
          claimKey target now selectFails claimFails := by
  unfold postClaim
  rcases withBody_cases incoming _ with refused | ⟨user, body, present, entered⟩
  · exact .inl refused
  · rw [entered]
    split
    · exact .inl ⟨_, _, rfl⟩
    · exact .inl ⟨_, _, rfl⟩
    · rename_i targetUserId _ named
      split
      · exact .inl ⟨_, _, rfl⟩
      · refine .inr ⟨_, ?_, rfl⟩
        rw [DirectoryCall.claimTarget?, present, Option.map_some, asString, named, Option.getD_some]

/-- A request to the directory that changes it is the last one of its handler, which
then answers without a refusal. -/
def Commits (request : DirectoryRequest)
    (next : directoryInterface.Answer request → DirectoryProc) : Prop :=
  ∀ node before answer after, Directory.handle node request before = some (answer, after) →
    after ≠ before → ∃ reply, next answer = .done (.ok reply) ∧ reply.rejected = false

theorem publishKeys_commits (publication : Publication) (fails : Bool) :
    (publishKeys publication fails).Along Commits := by
  refine ⟨?_, ?_⟩
  · intro node before answer after answered changed
    cases answer with
    | ok _ => exact ⟨_, rfl, rfl⟩
    | error complaint =>
      refine absurd ?_ changed
      simp only [Directory.handle] at answered
      split at answered
      · exact (Prod.mk.inj (Option.some.inj answered)).2.symm
      · split at answered
        · cases (Prod.mk.inj (Option.some.inj answered)).1
        · exact (Prod.mk.inj (Option.some.inj answered)).2.symm
  · intro answer
    cases answer with
    | ok _ => trivial
    | error complaint => trivial

theorem claimKey_commits (target : OlmTarget) (now : Nat) (selectFails claimFails : Bool) :
    (claimKey target now selectFails claimFails).Along Commits := by
  refine ⟨?_, ?_⟩
  · intro node before answer after answered changed
    exact absurd (Prod.mk.inj (Option.some.inj answered)).2.symm changed
  · intro answer
    rcases answer with _ | _ | identity
    · trivial
    · trivial
    · refine ⟨?_, ?_⟩
      · intro node before answer after answered changed
        cases answer with
        | some claimed => exact ⟨_, rfl, rfl⟩
        | none =>
          refine absurd ?_ changed
          simp only [Directory.handle] at answered
          split at answered
          · exact (Prod.mk.inj (Option.some.inj answered)).2.symm
          · cases (Prod.mk.inj (Option.some.inj answered)).1
      · intro answer
        cases answer with
        | some claimed => trivial
        | none => trivial

theorem serve_commits (call : DirectoryCall) : (serve call).Along Commits := by
  cases call with
  | postDevice incoming nowIso createdAt fails =>
    rcases postDevice_cases incoming nowIso createdAt fails with ⟨_, _, refused⟩ | ⟨_, entered⟩
    · rw [serve, refused]
      trivial
    · rw [serve, entered]
      exact publishKeys_commits _ _
  | postClaim incoming now selectFails claimFails =>
    rcases postClaim_cases incoming now selectFails claimFails with
      ⟨_, _, refused⟩ | ⟨_, -, entered⟩
    · rw [serve, refused]
      trivial
    · rw [serve, entered]
      exact claimKey_commits _ _ _ _
  | deleteUser userId => exact ⟨fun _ _ _ _ _ _ => ⟨_, rfl, rfl⟩, fun _ => trivial⟩

/-! ## All runs -/

section AllRuns

variable {guard : DirectoryPool → Turn DirectoryCall → Prop} {pool before after : DirectoryPool}
  {label : Turn DirectoryCall}

theorem valid_of_reachable (reached : (directorySystem node).Reachable guard pool) :
    pool.shared.Valid node := by
  refine Pool.shared_invariant (P := Directory.Valid node) ?_ ?_ reached
  · rintro _ rfl
    exact Directory.valid_empty node
  · intro index call request before answer after valid answered
    rcases Directory.handle_change answered with rfl | changed
    · exact valid
    · exact valid.change changed

/-- A step leaves the directory as it is or makes one change to it. -/
theorem step_change (moved : (directorySystem node).step before label after) :
    after.shared = before.shared ∨ before.shared.Change node after.shared := by
  obtain ⟨call, -, rfl⟩ | ⟨index, call, request, next, answer, shared, -, -, answered, rfl⟩ :=
    Pool.step_cases moved
  · exact .inl rfl
  · exact Directory.handle_change answered

/-- A step keeps the identity keys of every device that survives it. -/
theorem step_identity (moved : (directorySystem node).step before label after)
    {device later : OlmDeviceIdentity} (stored : device ∈ before.shared.olmDeviceIdentities.rows)
    (still : later ∈ after.shared.olmDeviceIdentities.rows) (same : later.target = device.target) :
    later.identity = device.identity := by
  rcases step_change moved with unchanged | changed
  · rw [unchanged] at still
    rw [Table.eq_of_key_eq _ still stored same]
  · exact changed.identity stored still same

/-- A step that changes the directory ends its request, and not with a refusal. -/
theorem step_commits (reached : (directorySystem node).Reachable guard before)
    (moved : (directorySystem node).step before label after)
    (changed : after.shared ≠ before.shared) :
    ∃ index thread reply, label = .advance index ∧ after.threads[index]? = some thread ∧
      thread.result? = some (.ok reply) ∧ reply.rejected = false := by
  obtain ⟨call, -, rfl⟩ | ⟨index, call, request, next, answer, shared, rfl, found, answered, rfl⟩ :=
    Pool.step_cases moved
  · exact absurd rfl changed
  · obtain ⟨commits, -⟩ := Pool.along_of_reachable reached found (serve_commits call)
    obtain ⟨reply, ended, accepted⟩ := commits node _ answer shared answered changed
    obtain ⟨bound, -⟩ := List.getElem?_eq_some_iff.mp found
    refine ⟨index, ⟨call, next answer⟩, reply, rfl, List.getElem?_set_self bound, ?_, accepted⟩
    simp only [Thread.result?, ended]

end AllRuns

/-- Follow the turns of a scheduler on an empty directory. -/
def replayDirectory (node : NodeCrypto) (check : DirectoryPool → Turn DirectoryCall → Bool)
    (turns : List (Turn DirectoryCall)) : Option DirectoryPool :=
  Pool.replay serve (fun _ _ => Directory.handle node) check Directory.empty turns

theorem reachable_of_replayDirectory {guard : DirectoryPool → Turn DirectoryCall → Prop}
    {check : DirectoryPool → Turn DirectoryCall → Bool}
    (sound : ∀ pool turn, check pool turn = true → guard pool turn)
    {turns : List (Turn DirectoryCall)} (completed : (replayDirectory node check turns).isSome) :
    (directorySystem node).Reachable guard ((replayDirectory node check turns).get completed) := by
  refine Pool.reachable_of_replay sound ?_ completed
  rfl

/-- A device is published while a claim for it, which has read its identity, is in flight. -/
def Sample.published : DirectoryPool :=
  (replayDirectory Vortex.Olm.Symbolic.node (fun _ _ => true)
    [.start Sample.publishPhone, .start Sample.claimPhone, .advance 0, .advance 1,
      .start Sample.publishPhone, .advance 2]).get (by decide +kernel)

end Vortex.KeyDirectory
