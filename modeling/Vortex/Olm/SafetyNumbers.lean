import Mathlib.Data.List.FinRange
import Mathlib.Data.List.Lex
import Vortex.Foundation.Memo
import Vortex.Foundation.NearestDouble
import Vortex.Foundation.System

/-!
# Safety numbers

Two users compare sixty digits of the keys they have of one another, thirty for each. The digits of
an identity come from a hash that is iterated long enough to be slow, so they are memoised as
promises: calls share them, the failed ones are struck out, the oldest make room. A call that ends
has the number that the keys have without any of this, and both sides have the same one.
-/

namespace Vortex.Olm.SafetyNumbers

open Foundation
open JsString (codeUnits encodeUtf8)

def ITERATIONS : Nat := 5200

def VERSION : JsString := js "vortex-safety-number:v1"

def FINGERPRINT_CACHE_MAX : Nat := 2000

/-- A user with a key. There is no colon in an id. -/
structure SafetyNumberIdentity where
  userId : JsString
  ed25519Key : JsString
  plain : (58 : UInt16) ∉ userId

/-- What SHA-256 makes of bytes. -/
abbrev Sha256 : Type := List UInt8 → Vector UInt8 32

/-! ## The digits -/

/-- `String(number).padStart(width, "0")` -/
def padStart (width number : Nat) : JsString :=
  List.replicate (width - (decimalText number).length) 48 ++ decimalText number

/-- Five bytes of a digest as a number, the first one the greatest. -/
def chunkValue (digest : Vector UInt8 32) (chunk : Fin 6) : Nat :=
  (List.finRange 5).foldl
    (fun value b => value * 256 + (digest.get ⟨chunk.val * 5 + b.val, by omega⟩).toNat) 0

def digits (digest : Vector UInt8 32) : JsString :=
  (List.finRange 6).flatMap fun chunk => padStart 5 (chunkValue digest chunk % 100000)

section

variable (sha256 : Sha256)

/-- What `fingerprintFor` computes of an identity. -/
def fingerprint (identity : SafetyNumberIdentity) : JsString :=
  let keyBytes := encodeUtf8 identity.ed25519Key
  let digest := sha256 (encodeUtf8 (VERSION ++ 58 :: (identity.userId ++ [58])) ++ keyBytes)
  digits ((fun digest => sha256 (digest.toList ++ keyBytes))^[ITERATIONS] digest)

/-- `a.userId <= b.userId ? [a, b] : [b, a]` -/
def ordered (a b : SafetyNumberIdentity) : SafetyNumberIdentity × SafetyNumberIdentity :=
  if codeUnits a.userId ≤ codeUnits b.userId then (a, b) else (b, a)

/-- The number of two identities, without a cache. -/
def safetyNumber (a b : SafetyNumberIdentity) : JsString :=
  let (first, second) := ordered a b
  fingerprint sha256 first ++ fingerprint sha256 second

end

/-! ## Calls -/

def cacheKey (identity : SafetyNumberIdentity) : JsString :=
  identity.userId ++ 58 :: identity.ed25519Key

abbrev FingerprintMemo : Type := Memo SafetyNumberIdentity JsString JsString

def fingerprintFor (identity : SafetyNumberIdentity) (memo : FingerprintMemo) :
    Nat × FingerprintMemo :=
  memo.ask cacheKey FINGERPRINT_CACHE_MAX identity

inductive Outcome
  | pending
  | resolved (number : JsString)
  | rejected

/-- A call of `computeSafetyNumber`, with the promises it waits for. -/
structure Call where
  a : SafetyNumberIdentity
  b : SafetyNumberIdentity
  fa : Nat
  fb : Nat
  outcome : Outcome

structure Process where
  memo : FingerprintMemo
  calls : List Call

def computeSafetyNumber (a b : SafetyNumberIdentity) (process : Process) : Process :=
  let (first, second) := ordered a b
  let (fa, memo) := fingerprintFor first process.memo
  let (fb, memo) := fingerprintFor second memo
  ⟨memo, process.calls ++ [⟨a, b, fa, fb, .pending⟩]⟩

/-- What `Promise.all` makes of its two promises, when it is settled. -/
def settled (memo : FingerprintMemo) (call : Call) : Option Outcome :=
  match (memo.jobs[call.fa]?).map Job.progress, (memo.jobs[call.fb]?).map Job.progress with
  | some (.resolved fa), some (.resolved fb) => some (.resolved (fa ++ fb))
  | some (.rejected _), _ => some .rejected
  | _, some (.rejected _) => some .rejected
  | _, _ => none

inductive Step
  | call (a b : SafetyNumberIdentity)
  /-- One of the computations ends, or a hash in it fails. -/
  | settle (job : Nat) (fails : Bool)
  /-- The handler that strikes a failed computation out. -/
  | handle (job : Nat)
  | finish (index : Nat)

def next (sha256 : Sha256) (process : Process) : Step → Option Process
  | .call a b => some (computeSafetyNumber a b process)
  | .settle job fails =>
      (process.memo.settle (fingerprint sha256) job fails).map fun memo =>
        { process with memo := memo }
  | .handle job =>
      (process.memo.handle cacheKey job).map fun memo => { process with memo := memo }
  | .finish index =>
      (process.calls[index]?).bind fun call =>
        match call.outcome with
        | .pending =>
            (settled process.memo call).map fun outcome =>
              { process with calls := process.calls.set index { call with outcome := outcome } }
        | _ => none

/-- Every history of calls, concurrent ones and failing ones, of a process that begins with an empty
cache. -/
def safetyNumberSystem (sha256 : Sha256) : System Process Step :=
  System.ofNext (· = ⟨.empty, []⟩) (next sha256)

/-! ## Sixty digits -/

section Digits

theorem length_decimalText_le {number width : Nat} (small : number < 10 ^ (width + 1)) :
    (decimalText number).length ≤ width + 1 := by
  induction width generalizing number with
  | zero =>
    rw [decimalText_eq_if, if_pos (by omega)]
    exact Nat.le_refl _
  | succ width ih =>
    have rest : number / 10 < 10 ^ (width + 1) := by
      rw [Nat.div_lt_iff_lt_mul (by decide)]
      exact small
    rw [decimalText_eq_if, List.length_append, List.length_singleton]
    split
    · exact Nat.succ_le_succ (Nat.zero_le _)
    · exact Nat.succ_le_succ (ih rest)

theorem length_padStart {number width : Nat} (small : number < 10 ^ (width + 1)) :
    (padStart (width + 1) number).length = width + 1 := by
  have short := length_decimalText_le small
  rw [padStart, List.length_append, List.length_replicate]
  omega

theorem isDigit_of_mem_padStart {width number : Nat} {unit : UInt16}
    (member : unit ∈ padStart width number) : Json.isDigit unit = true := by
  rcases List.mem_append.mp member with zeros | own
  · rw [List.eq_of_mem_replicate zeros]
    decide
  · exact isDigit_of_mem_decimalText own

theorem length_digits (digest : Vector UInt8 32) : (digits digest).length = 30 := by
  have group (chunk : Fin 6) : (padStart 5 (chunkValue digest chunk % 100000)).length = 5 :=
    length_padStart (Nat.mod_lt _ (by decide))
  simp only [digits, List.length_flatMap, group]
  rfl

theorem isDigit_of_mem_digits {digest : Vector UInt8 32} {unit : UInt16}
    (member : unit ∈ digits digest) : Json.isDigit unit = true := by
  obtain ⟨chunk, -, inside⟩ := List.mem_flatMap.mp member
  exact isDigit_of_mem_padStart inside

theorem safetyNumber_digits (sha256 : Sha256) (a b : SafetyNumberIdentity) :
    (safetyNumber sha256 a b).length = 60 ∧
      ∀ unit ∈ safetyNumber sha256 a b, Json.isDigit unit = true := by
  constructor
  · rw [safetyNumber, List.length_append, fingerprint, fingerprint, length_digits, length_digits]
  · intro unit member
    rcases List.mem_append.mp member with first | second
    · exact isDigit_of_mem_digits first
    · exact isDigit_of_mem_digits second

theorem codeUnits_injective : Function.Injective codeUnits :=
  List.map_injective_iff.mpr fun _ _ same => UInt16.toNat_inj.mp same

theorem ordered_comm {a b : SafetyNumberIdentity} (distinct : a.userId ≠ b.userId) :
    ordered a b = ordered b a := by
  unfold ordered
  by_cases before : codeUnits a.userId ≤ codeUnits b.userId
  · have after : ¬ codeUnits b.userId ≤ codeUnits a.userId := fun other =>
      distinct (codeUnits_injective (le_antisymm before other))
    rw [if_pos before, if_neg after]
  · have after : codeUnits b.userId ≤ codeUnits a.userId := (le_total _ _).resolve_left before
    rw [if_neg before, if_pos after]

theorem safetyNumber_comm (sha256 : Sha256) {a b : SafetyNumberIdentity}
    (distinct : a.userId ≠ b.userId) : safetyNumber sha256 a b = safetyNumber sha256 b a := by
  rw [safetyNumber, ordered_comm distinct, ← safetyNumber]

/-- A key of the cache says whose digits they are. -/
theorem cacheKey_injective : Function.Injective cacheKey := by
  have front (identity : SafetyNumberIdentity) :
      (cacheKey identity).takeWhile (fun unit => unit ≠ 58) = identity.userId := by
    have plain : ∀ unit ∈ identity.userId, decide (unit ≠ 58) = true := fun unit member =>
      decide_eq_true fun colon => identity.plain (colon ▸ member)
    rw [cacheKey, List.takeWhile_append_of_pos plain]
    exact List.append_nil _
  intro a b same
  have ids : a.userId = b.userId := by rw [← front a, same, front]
  have keys : a.ed25519Key = b.ed25519Key := by
    rw [cacheKey, cacheKey, ids] at same
    exact (List.cons.inj (List.append_cancel_left same)).2
  cases a
  cases b
  cases ids
  cases keys
  rfl

end Digits

/-! ## What is kept -/

/-- The promises of a call are those of its identities. -/
def Waits (memo : FingerprintMemo) (call : Call) : Prop :=
  ∃ first second, memo.jobs[call.fa]? = some first ∧ first.arg = (ordered call.a call.b).1 ∧
    memo.jobs[call.fb]? = some second ∧ second.arg = (ordered call.a call.b).2

structure Kept (sha256 : Sha256) (process : Process) : Prop where
  sound : process.memo.Sound cacheKey FINGERPRINT_CACHE_MAX (fingerprint sha256)
  waits : ∀ call ∈ process.calls, Waits process.memo call
  resolved : ∀ call ∈ process.calls, ∀ number, call.outcome = .resolved number →
    number = safetyNumber sha256 call.a call.b

section Histories

variable {sha256 : Sha256} {process after : Process} {memo later : FingerprintMemo} {call : Call}

theorem Waits.extends (waits : Waits memo call) (extension : memo.Extends later) :
    Waits later call := by
  obtain ⟨first, second, found, own, found', own'⟩ := waits
  obtain ⟨first', there, same, -⟩ := extension _ first found
  obtain ⟨second', there', same', -⟩ := extension _ second found'
  exact ⟨first', second', there, same.trans own, there', same'.trans own'⟩

/-- Promises that are resolved make the number of the call. -/
theorem number_of_settled (sound : memo.Sound cacheKey FINGERPRINT_CACHE_MAX (fingerprint sha256))
    (waits : Waits memo call) {number : JsString}
    (ended : settled memo call = some (.resolved number)) :
    number = safetyNumber sha256 call.a call.b := by
  obtain ⟨first, second, found, own, found', own'⟩ := waits
  unfold settled at ended
  rw [found, found'] at ended
  dsimp only [Option.map_some] at ended
  split at ended
  · rename_i fa fb left right
    cases ended
    rw [sound.resolved first (List.mem_of_getElem? found) fa (Option.some.inj left),
      sound.resolved second (List.mem_of_getElem? found') fb (Option.some.inj right), own, own']
    rfl
  · cases ended
  · cases ended
  · cases ended

theorem Kept.compute (kept : Kept sha256 process) (a b : SafetyNumberIdentity) :
    Kept sha256 (computeSafetyNumber a b process) := by
  obtain ⟨soundFirst, first, found, own⟩ := kept.sound.ask (ordered a b).1
  obtain ⟨soundSecond, second, found', own'⟩ := soundFirst.ask (ordered a b).2
  have extendsFirst := Memo.extends_ask cacheKey FINGERPRINT_CACHE_MAX (ordered a b).1 process.memo
  have extendsSecond := Memo.extends_ask cacheKey FINGERPRINT_CACHE_MAX (ordered a b).2
    (process.memo.ask cacheKey FINGERPRINT_CACHE_MAX (ordered a b).1).2
  refine ⟨soundSecond, ?_, ?_⟩
  · intro call member
    rcases List.mem_append.mp member with old | new
    · exact (kept.waits call old).extends (extendsFirst.trans extendsSecond)
    · obtain rfl := List.mem_singleton.mp new
      obtain ⟨first', there, same, -⟩ := extendsSecond _ first found
      exact ⟨first', second, there, same.trans (cacheKey_injective own), found',
        cacheKey_injective own'⟩
  · intro call member number done
    rcases List.mem_append.mp member with old | new
    · exact kept.resolved call old number done
    · obtain rfl := List.mem_singleton.mp new
      cases done

theorem Kept.step (kept : Kept sha256 process) {step : Step}
    (moved : next sha256 process step = some after) : Kept sha256 after := by
  cases step with
  | call a b =>
    cases moved
    exact kept.compute a b
  | settle job fails =>
    obtain ⟨memo, ended, rfl⟩ := Option.map_eq_some_iff.mp moved
    obtain ⟨sound, extension⟩ := kept.sound.settle ended
    exact ⟨sound, fun call member => (kept.waits call member).extends extension, kept.resolved⟩
  | handle job =>
    obtain ⟨memo, handled, rfl⟩ := Option.map_eq_some_iff.mp moved
    obtain ⟨sound, extension⟩ := kept.sound.handle handled
    exact ⟨sound, fun call member => (kept.waits call member).extends extension, kept.resolved⟩
  | finish index =>
    obtain ⟨call, found, rest⟩ := Option.bind_eq_some_iff.mp moved
    split at rest
    · obtain ⟨outcome, ended, rfl⟩ := Option.map_eq_some_iff.mp rest
      have waits := kept.waits call (List.mem_of_getElem? found)
      refine ⟨kept.sound, ?_, ?_⟩
      · intro other member
        rcases List.mem_or_eq_of_mem_set member with old | rfl
        · exact kept.waits other old
        · exact waits
      · intro other member number done
        rcases List.mem_or_eq_of_mem_set member with old | rfl
        · exact kept.resolved other old number done
        · obtain rfl : outcome = .resolved number := done
          exact number_of_settled kept.sound waits ended
    · cases rest

theorem process_of_reachable {guard : Process → Step → Prop}
    (reached : (safetyNumberSystem sha256).Reachable guard process) : Kept sha256 process := by
  refine reached.invariant (P := Kept sha256) ?_ ?_
  · intro state opened
    obtain rfl : state = ⟨.empty, []⟩ := opened
    exact ⟨Memo.sound_empty, fun _ none => (nomatch none), fun _ none => (nomatch none)⟩
  · intro before step after _ kept _ moved
    exact kept.step moved

/-- None of the promises of a call has been rejected. -/
def Unfailed (memo : FingerprintMemo) (call : Call) : Prop :=
  ∀ job ∈ [call.fa, call.fb], ∀ entry, memo.jobs[job]? = some entry →
    ∀ handled, entry.progress ≠ .rejected handled

/-- A computation that has not failed can come to its end. -/
theorem settles (sha256 : Sha256) {job : Nat} {entry : Job SafetyNumberIdentity JsString}
    (found : process.memo.jobs[job]? = some entry)
    (alive : ∀ handled, entry.progress ≠ .rejected handled) :
    ∃ later value, (safetyNumberSystem sha256).Steps System.unguarded process later ∧
      later.calls = process.calls ∧ later.memo.jobs[job]? = some ⟨entry.arg, .resolved value⟩ ∧
      ∀ other, job ≠ other → later.memo.jobs[other]? = process.memo.jobs[other]? := by
  obtain ⟨arg, progress⟩ := entry
  cases progress with
  | resolved value => exact ⟨process, value, .refl, rfl, found, fun _ _ => rfl⟩
  | rejected handled => exact absurd rfl (alive handled)
  | pending =>
    let ended : FingerprintMemo :=
      { process.memo with
        jobs := process.memo.jobs.set job ⟨arg, .resolved (fingerprint sha256 arg)⟩ }
    have moved :
        next sha256 process (.settle job false) = some { process with memo := ended } := by
      rw [next, Memo.settle, found]
      rfl
    have bound := (List.getElem?_eq_some_iff.mp found).1
    exact ⟨_, fingerprint sha256 arg, .single trivial moved, rfl, List.getElem?_set_self bound,
      fun other different => List.getElem?_set_ne different⟩

/-- Promises that are both resolved settle a call. -/
theorem settled_of_resolved {first second : SafetyNumberIdentity} {fa fb : JsString}
    (found : memo.jobs[call.fa]? = some ⟨first, .resolved fa⟩)
    (found' : memo.jobs[call.fb]? = some ⟨second, .resolved fb⟩) :
    settled memo call = some (.resolved (fa ++ fb)) := by
  rw [settled, found, found']
  rfl

theorem finishes (kept : Kept sha256 process) {index : Nat}
    (found : process.calls[index]? = some call) (waiting : call.outcome = .pending)
    {number : JsString} (ended : settled process.memo call = some (.resolved number)) :
    ∃ later, (safetyNumberSystem sha256).Steps System.unguarded process later ∧
      later.calls[index]? =
        some { call with outcome := .resolved (safetyNumber sha256 call.a call.b) } := by
  have waits := kept.waits call (List.mem_of_getElem? found)
  have right := number_of_settled kept.sound waits ended
  have moved : next sha256 process (.finish index) = some { process with
      calls := process.calls.set index
        { call with outcome := .resolved (safetyNumber sha256 call.a call.b) } } := by
    rw [next, found, Option.bind_some, waiting]
    dsimp only
    rw [ended, Option.map_some, right]
  have bound := (List.getElem?_eq_some_iff.mp found).1
  exact ⟨_, .single trivial moved, List.getElem?_set_self bound⟩

/-- A call whose promises have not been rejected can still get its number. -/
theorem completes (kept : Kept sha256 process) {index : Nat}
    (found : process.calls[index]? = some call) (waiting : call.outcome = .pending)
    (unfailed : Unfailed process.memo call) :
    ∃ later, (safetyNumberSystem sha256).Steps System.unguarded process later ∧
      later.calls[index]? =
        some { call with outcome := .resolved (safetyNumber sha256 call.a call.b) } := by
  obtain ⟨first, second, there, -, there', -⟩ := kept.waits call (List.mem_of_getElem? found)
  obtain ⟨middle, fa, path, calls, done, others⟩ := settles sha256 there
    (unfailed call.fa List.mem_cons_self first there)
  have stays : ∃ entry, middle.memo.jobs[call.fb]? = some entry ∧
      ∀ handled, entry.progress ≠ .rejected handled := by
    by_cases same : call.fa = call.fb
    · refine ⟨_, same ▸ done, fun handled rejected => ?_⟩
      cases rejected
    · refine ⟨second, (others _ same).trans there', ?_⟩
      exact unfailed call.fb (List.mem_cons_of_mem _ List.mem_cons_self) second there'
  obtain ⟨entry, there', alive⟩ := stays
  obtain ⟨last, fb, path', calls', done', others'⟩ := settles sha256 there' alive
  have resolved : ∃ arg value, last.memo.jobs[call.fa]? = some ⟨arg, .resolved value⟩ := by
    by_cases same : call.fb = call.fa
    · exact ⟨_, fb, same ▸ done'⟩
    · exact ⟨_, fa, (others' _ same).trans done⟩
  obtain ⟨arg, value, done⟩ := resolved
  have keptLast : Kept sha256 last := (path.trans path').invariant
    (fun _ _ _ kept _ moved => kept.step moved) kept
  rw [← calls, ← calls'] at found
  obtain ⟨later, path'', number⟩ := finishes keptLast found waiting (settled_of_resolved done done')
  exact ⟨later, (path.trans path').trans path'', number⟩

/-- Where every failed computation has been struck out, a new call can get its number. -/
theorem retries (kept : Kept sha256 process)
    (handled : ∀ entry ∈ process.memo.jobs, entry.progress ≠ .rejected false)
    (a b : SafetyNumberIdentity) :
    ∃ later call, (safetyNumberSystem sha256).Steps System.unguarded process later ∧
      later.calls[process.calls.length]? = some call ∧ call.a = a ∧ call.b = b ∧
      call.outcome = .resolved (safetyNumber sha256 a b) := by
  obtain ⟨soundFirst, first, found, -⟩ := kept.sound.ask (ordered a b).1
  obtain ⟨handledFirst, aliveFirst⟩ := kept.sound.ask_alive handled (ordered a b).1
  obtain ⟨-, aliveSecond⟩ := soundFirst.ask_alive handledFirst (ordered a b).2
  have stays := Memo.getElem?_ask cacheKey FINGERPRINT_CACHE_MAX (ordered a b).2 found
  have asked : ∃ call, (computeSafetyNumber a b process).calls[process.calls.length]? = some call ∧
      call.a = a ∧ call.b = b ∧ call.outcome = .pending ∧
      Unfailed (computeSafetyNumber a b process).memo call := by
    refine ⟨_, List.getElem?_concat_length, rfl, rfl, rfl, ?_⟩
    intro job member entry there flag
    rcases List.mem_cons.mp member with rfl | last
    · obtain rfl := Option.some.inj (stays.symm.trans there)
      exact aliveFirst first found flag
    · obtain rfl := List.mem_singleton.mp last
      exact aliveSecond entry there flag
  obtain ⟨call, place, rfl, rfl, waiting, unfailed⟩ := asked
  obtain ⟨later, path, number⟩ := completes (kept.compute _ _) place waiting unfailed
  have moved : next sha256 process (.call call.a call.b) =
      some (computeSafetyNumber call.a call.b process) := rfl
  exact ⟨later, _, (System.Steps.single trivial moved).trans path, number, rfl, rfl, rfl⟩

end Histories

/-! ## Both sides -/

/-- Two users have one number, of sixty digits. In every history the calls of either that come to an
end have this number, those whose promises have not failed can come to it, and so can a new one when
the failed promises have been struck out, while the cache keeps its bound. -/
theorem safety_numbers_agree {sha256 : Sha256} {process : Process} {a b : SafetyNumberIdentity}
    (reached : (safetyNumberSystem sha256).Reachable System.unguarded process)
    (distinct : a.userId ≠ b.userId) :
    safetyNumber sha256 a b = safetyNumber sha256 b a ∧
    (safetyNumber sha256 a b).length = 60 ∧
    (∀ unit ∈ safetyNumber sha256 a b, Json.isDigit unit = true) ∧
    (∀ call ∈ process.calls, (call.a, call.b) ∈ [(a, b), (b, a)] → ∀ number,
      call.outcome = .resolved number → number = safetyNumber sha256 a b) ∧
    (∀ (index : Nat) call, process.calls[index]? = some call → call.outcome = .pending →
      Unfailed process.memo call →
      ∃ later, (safetyNumberSystem sha256).Steps System.unguarded process later ∧
        later.calls[index]? =
          some { call with outcome := .resolved (safetyNumber sha256 call.a call.b) }) ∧
    ((∀ entry ∈ process.memo.jobs, entry.progress ≠ .rejected false) →
      ∃ later call, (safetyNumberSystem sha256).Steps System.unguarded process later ∧
        later.calls[process.calls.length]? = some call ∧ call.a = a ∧ call.b = b ∧
        call.outcome = .resolved (safetyNumber sha256 a b)) ∧
    process.memo.cache.size ≤ FINGERPRINT_CACHE_MAX := by
  have kept := process_of_reachable reached
  have both := safetyNumber_comm sha256 distinct
  obtain ⟨sixty, decimal⟩ := safetyNumber_digits sha256 a b
  refine ⟨both, sixty, decimal, ?_, ?_, fun handled => retries kept handled a b,
    kept.sound.bounded⟩
  · intro call member sides number done
    rw [kept.resolved call member number done]
    rcases List.mem_cons.mp sides with own | other
    · obtain ⟨rfl, rfl⟩ := Prod.mk.inj own
      rfl
    · obtain ⟨rfl, rfl⟩ := Prod.mk.inj (List.mem_singleton.mp other)
      exact both.symm
  · intro index call found waiting unfailed
    exact completes kept found waiting unfailed

section Example

def zeros : Sha256 := fun _ => .replicate 32 0

theorem colonless_alice : 58 ∉ js "alice" := by decide

def alice : SafetyNumberIdentity := ⟨js "alice", js "aaaa", colonless_alice⟩

def bob : SafetyNumberIdentity := ⟨js "bob", js "bbbb", by decide⟩

/-- Alice's call is waiting when Bob makes his. -/
def asked : Process := computeSafetyNumber alice bob ⟨.empty, []⟩

theorem alice_and_bob_agree :
    safetyNumber zeros alice bob = safetyNumber zeros bob alice ∧
      (∃ later : Process, (safetyNumberSystem zeros).Steps System.unguarded asked later ∧
        later.calls[0]? =
          some ⟨alice, bob, 0, 1, .resolved (safetyNumber zeros alice bob)⟩) ∧
      ∃ (later : Process) (call : Call),
        (safetyNumberSystem zeros).Steps System.unguarded asked later ∧
        later.calls[1]? = some call ∧ call.a = bob ∧ call.b = alice ∧
        call.outcome = .resolved (safetyNumber zeros bob alice) := by
  have first : next zeros ⟨.empty, []⟩ (.call alice bob) = some asked := rfl
  have reached : (safetyNumberSystem zeros).Reachable System.unguarded asked :=
    .step (.initial rfl) trivial first
  have pending : ∀ entry ∈ asked.memo.jobs, ∀ handled, entry.progress ≠ .rejected handled := by
    have jobs : asked.memo.jobs = [⟨alice, .pending⟩, ⟨bob, .pending⟩] := by rfl
    intro entry member handled failed
    rw [jobs] at member
    rcases List.mem_cons.mp member with rfl | last
    · cases failed
    · obtain rfl := List.mem_singleton.mp last
      cases failed
  have calls : asked.calls = [⟨alice, bob, 0, 1, .pending⟩] := by rfl
  obtain ⟨-, -, -, -, waiting, -, -⟩ := safety_numbers_agree (a := alice) (b := bob) reached
    (by decide)
  obtain ⟨same, -, -, -, -, retry, -⟩ := safety_numbers_agree (a := bob) (b := alice) reached
    (by decide)
  refine ⟨same.symm, ?_, ?_⟩
  · refine waiting 0 _ (by rw [calls]; rfl) rfl fun job _ entry found => ?_
    exact pending entry (List.mem_of_getElem? found)
  · exact retry fun entry member => pending entry member false

end Example

end Vortex.Olm.SafetyNumbers
