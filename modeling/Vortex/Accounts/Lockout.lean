import Mathlib.Data.List.Count
import Vortex.Accounts.SignIn

/-!
# The login lockout

Five recorded failures within fifteen minutes lock an address out. The failures are
counted before a password is verified and recorded after it, so attempts that overlap
are not counted for each other. Where no attempt counts the failures while another one
for the same address is under way, and every failure is recorded, at most five wrong
passwords are verified in any fifteen minutes without a successful sign-in.
-/

namespace Vortex.Accounts.SignIn

open Foundation

/-! ## The law -/

def Verification.isWrong (email : JsString) (verification : Verification) : Bool :=
  verification.email = email && verification.verdict = .wrong

def Verification.isSuccess (email : JsString) (verification : Verification) : Bool :=
  verification.email = email && verification.verdict = .succeeded

/-- Within the fifteen minutes from a time on. -/
def Verification.within (start : Nat) (verification : Verification) : Bool :=
  start ≤ verification.time && verification.time < start + LOGIN_LOCKOUT_WINDOW_MS

/-- At most five wrong passwords are verified in any fifteen minutes without a success. -/
def World.Bounded (email : JsString) (world : World) : Prop :=
  ∀ start, (∀ verification ∈ world.verifications, verification.isSuccess email = true →
      verification.within start = false) →
    (world.verifications.countP fun verification =>
      verification.isWrong email && verification.within start) ≤ LOGIN_LOCKOUT_MAX_ATTEMPTS

/-! ## How far an attempt has come -/

/-- What an attempt has done: nothing; it has not been locked out; it has verified the
password, and what comes of that is still to be written; or it is over. -/
inductive Phase
  | fresh
  | counted
  | verified (verdict : Verdict)
  | ended
deriving DecidableEq

def Phase.next : Phase → Proc.Exchange signIn → Phase
  | _, ⟨.recent _, .ok rows⟩ =>
      if LOGIN_LOCKOUT_MAX_ATTEMPTS ≤ rows.length then .ended else .counted
  | _, ⟨.verify _, .crashed⟩ => .ended
  | _, ⟨.verify _, .wrong⟩ => .verified .wrong
  | _, ⟨.verify _, .refused⟩ => .verified .refused
  | _, ⟨.verify _, .succeeded⟩ => .verified .succeeded
  | _, _ => .ended

theorem Phase.next_verify {phase : Phase} {email : JsString} {verdict : Verdict} :
    phase.next ⟨.verify email, verdict⟩ =
      if verdict = .crashed then .ended else .verified verdict := by
  cases verdict with
  | wrong => rfl
  | refused => rfl
  | succeeded => rfl
  | crashed => rfl

/-- Under way: between the counting of the failures and the end. -/
def Phase.UnderWay : Phase → Prop
  | .counted | .verified _ => True
  | .fresh | .ended => False

/-- What a call asks for in a phase. -/
def Allowed : SignInCall → Phase → SignInStatement → Prop
  | .attempt attempt, phase, .recent email => phase = .fresh ∧ email = attempt.email
  | .attempt attempt, phase, .verify email => phase = .counted ∧ email = attempt.email
  | .attempt attempt, phase, .record email _ =>
      (phase = .verified .wrong ∨ phase = .verified .refused) ∧ email = attempt.email
  | .attempt attempt, phase, .clear email => phase = .verified .succeeded ∧ email = attempt.email
  | .prune _, _, .prune => True
  | .elapse _, _, .elapse _ => True
  | _, _, _ => False

def phases (call : SignInCall) : Monitor signIn Phase := ⟨Allowed call, Phase.next⟩

/-- A process whose requests fit its phase, and that is not under way when it has ended. -/
abbrev InPhase (call : SignInCall) (process : SignInProc) (phase : Phase) : Prop :=
  process.Obeys (phases call) (fun phase _ => ¬ phase.UnderWay) phase

theorem inPhase_verify (attempt : Attempt) :
    InPhase (.attempt attempt) (perform (.verify attempt.email) >>= after attempt) .counted := by
  refine ⟨⟨rfl, rfl⟩, fun verdict => ?_⟩
  cases verdict with
  | wrong => exact ⟨⟨.inl rfl, rfl⟩, fun _ => id⟩
  | refused => exact ⟨⟨.inr rfl, rfl⟩, fun _ => id⟩
  | succeeded => exact ⟨⟨rfl, rfl⟩, fun _ => id⟩
  | crashed => exact id

theorem inPhase_signInEmail (attempt : Attempt) :
    InPhase (.attempt attempt) (signInEmail attempt) .fresh := by
  unfold signInEmail
  split
  · exact id
  · refine ⟨⟨rfl, rfl⟩, fun answer => ?_⟩
    cases answer with
    | error error => exact id
    | ok rows =>
      change InPhase _ (if decide (LOGIN_LOCKOUT_MAX_ATTEMPTS ≤ rows.length) = true then _ else _)
        (if LOGIN_LOCKOUT_MAX_ATTEMPTS ≤ rows.length then .ended else .counted)
      by_cases locked : LOGIN_LOCKOUT_MAX_ATTEMPTS ≤ rows.length
      · rw [if_pos (decide_eq_true locked), if_pos locked]
        exact id
      · rw [if_neg (by simpa using locked), if_neg locked]
        exact inPhase_verify attempt

theorem inPhase_signInProgram (call : SignInCall) : InPhase call (signInProgram call) .fresh := by
  cases call with
  | attempt attempt => exact inPhase_signInEmail attempt
  | prune fails =>
    refine ⟨trivial, fun answer => ?_⟩
    cases answer with
    | error error => exact id
    | ok rows => exact id
  | elapse ms => exact ⟨trivial, fun _ => id⟩

/-- The phase a started call is in. -/
def phaseOf (history : List (Event signIn SignInCall)) (index : Nat) : Phase :=
  (Pool.exchanges history index).foldl Phase.next .fresh

def SignInCall.email? : SignInCall → Option JsString
  | .attempt made => some made.email
  | .prune _ | .elapse _ => none

def SignInStatement.email? : SignInStatement → Option JsString
  | .recent email | .verify email | .record email _ | .clear email => some email
  | .prune | .elapse _ => none

/-- An attempt for an address is in a phase. -/
def At (email : JsString) (pool : SignInPool) (index : Nat) (phase : Phase) : Prop :=
  ∃ thread, pool.threads[index]? = some thread ∧ thread.call.email? = some email ∧
    phaseOf pool.history index = phase

def UnderWay (email : JsString) (pool : SignInPool) (index : Nat) : Prop :=
  ∃ phase, phase.UnderWay ∧ At email pool index phase

/-- Recording a failure does not throw. -/
def Recording (pool : SignInPool) : Turn SignInCall → Prop
  | .start _ => True
  | .advance index => ∀ call email ipAddress next,
      pool.threads[index]? = some ⟨call, .await (.record email ipAddress) next⟩ →
      call.fails (.record email ipAddress) = false

/-- The failures for an address are counted only while no attempt for it is under way. -/
def CountsAlone (pool : SignInPool) : Turn SignInCall → Prop
  | .start _ => True
  | .advance index => ∀ call email next,
      pool.threads[index]? = some ⟨call, .await (.recent email) next⟩ →
      ∀ other, ¬ UnderWay email pool other

def Serial (pool : SignInPool) (turn : Turn SignInCall) : Prop :=
  CountsAlone pool turn ∧ Recording pool turn

/-! ## Counting -/

namespace World

/-- The wrong passwords that have been verified from a time on. -/
def wrongs (world : World) (email : JsString) (start : Nat) : Nat :=
  world.verifications.countP fun verification => verification.isWrong email && start ≤ verification.time

/-- The failures that are recorded from a time on. -/
def recorded (world : World) (email : JsString) (start : Nat) : Nat :=
  world.attempts.countP fun attempt => attempt.email = email && start ≤ attempt.attemptedAt

/-- No sign-in has succeeded from a time on. -/
def Unbroken (world : World) (email : JsString) (start : Nat) : Prop :=
  ∀ verification ∈ world.verifications, verification.isSuccess email = true →
    verification.time < start

/-- Nothing has been verified in the future. -/
def Clocked (world : World) : Prop :=
  ∀ verification ∈ world.verifications, verification.time ≤ world.clock

/-- A time that less than fifteen minutes have passed since. -/
def Recent (world : World) (start : Nat) : Prop := world.clock < start + LOGIN_LOCKOUT_WINDOW_MS

end World

section Counting

variable {world : World} {email other : JsString} {verdict : Verdict} {start : Nat}

theorem wrongs_verify : (world.verify other verdict).wrongs email start = world.wrongs email start +
      if other = email ∧ verdict = .wrong ∧ start ≤ world.clock then 1 else 0 := by
  simp [World.wrongs, World.verify, List.countP_cons, Verification.isWrong, and_assoc]

theorem unbroken_verify (unbroken : (world.verify other verdict).Unbroken email start) :
    world.Unbroken email start ∧ (other = email → verdict = .succeeded → world.clock < start) := by
  refine ⟨fun verification member => unbroken verification (List.mem_cons_of_mem _ member), ?_⟩
  rintro rfl rfl
  exact unbroken ⟨other, world.clock, .succeeded⟩ List.mem_cons_self (by simp [Verification.isSuccess])

/-- Nothing has been verified from a time in the future on. -/
theorem wrongs_future (clocked : world.Clocked) (future : world.clock < start) :
    world.wrongs email start = 0 := by
  refine List.countP_eq_zero.mpr fun verification member => ?_
  have past := clocked verification member
  simp only [Bool.and_eq_true, decide_eq_true_eq, not_and, Nat.not_le]
  omega

/-- A wrong password is verified within the law where there is room for it. -/
theorem bounded_verify (clocked : world.Clocked) (bounded : world.Bounded email)
    (room : other = email → verdict = .wrong → ∀ start, world.Recent start →
      world.Unbroken email start → world.wrongs email start < LOGIN_LOCKOUT_MAX_ATTEMPTS) :
    (world.verify other verdict).Bounded email := by
  intro start none
  have earlier : ∀ verification ∈ world.verifications, verification.isSuccess email = true →
      verification.within start = false := fun verification member =>
    none verification (List.mem_cons_of_mem _ member)
  change List.countP _ (_ :: world.verifications) ≤ _
  rw [List.countP_cons]
  split
  · rename_i counted
    simp only [Verification.isWrong, Verification.within, Bool.and_eq_true,
      decide_eq_true_eq] at counted
    obtain ⟨⟨rfl, rfl⟩, begun, recent⟩ := counted
    have unbroken : world.Unbroken other start := by
      intro verification member succeeded
      have past := clocked verification member
      have outside := earlier verification member succeeded
      simp only [Verification.within, Bool.and_eq_false_iff, decide_eq_false_iff_not] at outside
      omega
    have fewer : (world.verifications.countP fun verification =>
        verification.isWrong other && verification.within start) ≤ world.wrongs other start := by
      refine List.countP_mono_left fun verification _ inside => ?_
      simp only [Verification.within, Bool.and_eq_true] at inside ⊢
      exact ⟨inside.1, inside.2.1⟩
    exact Nat.succ_le_of_lt (Nat.lt_of_le_of_lt fewer (room rfl rfl start recent unbroken))
  · exact bounded start earlier

theorem World.Clocked.verify (clocked : world.Clocked) (email : JsString) (verdict : Verdict) :
    (world.verify email verdict).Clocked := by
  intro verification member
  rcases List.mem_cons.mp member with rfl | earlier
  · exact Nat.le_refl _
  · exact clocked verification earlier

theorem recorded_record (ipAddress : Option JsString) :
    (world.record other ipAddress).recorded email start =
      world.recorded email start + if other = email ∧ start ≤ world.clock then 1 else 0 := by
  simp [World.recorded, World.record, List.countP_append, List.countP_cons]

theorem recorded_clear (different : other ≠ email) :
    (world.clear other).recorded email start = world.recorded email start := by
  simp only [World.recorded, World.clear, List.countP_filter]
  refine List.countP_congr fun attempt _ => ?_
  simp only [Bool.and_eq_true, decide_eq_true_eq, ne_eq]
  exact and_iff_left_of_imp fun mine same => different (same.symm.trans mine.1)

/-- What is cleaned up is not recent. -/
theorem recorded_prune (young : world.Recent start) :
    world.prune.recorded email start = world.recorded email start := by
  simp only [World.recorded, World.prune, List.countP_filter]
  refine List.countP_congr fun attempt _ => ?_
  unfold World.Recent at young
  simp only [LoginAttempt.isExpired, Bool.and_eq_true, decide_eq_true_eq, Bool.not_eq_true',
    decide_eq_false_iff_not]
  refine and_iff_left_of_imp fun mine => ?_
  omega

end Counting

/-! ## Pools -/

section Pools

variable {initial : World → Prop} {guard : SignInPool → Turn SignInCall → Prop} {pool : SignInPool}
  {email : JsString} {index other : Nat} {phase : Phase} {call : SignInCall}
  {statement : SignInStatement} {next : signIn.Answer statement → SignInProc}
  {answer : signIn.Answer statement} {world : World}

/-- A call that waits for an answer is allowed to. -/
theorem allowed_of_pending (reached : (signInSystem initial).Reachable guard pool)
    (pending : pool.threads[index]? = some ⟨call, .await statement next⟩) :
    Allowed call (phaseOf pool.history index) statement :=
  (Pool.obeys_of_reachable reached pending (inPhase_signInProgram call)).1

theorem at_start (reached : (signInSystem initial).Reachable guard pool)
    (found : At email (pool.start signInProgram call) index phase) :
    At email pool index phase ∨ phase = .fresh := by
  obtain ⟨thread, present, mine, rfl⟩ := found
  rcases Pool.getElem?_append_cases present with ⟨rfl, -⟩ | earlier
  · right
    change (Pool.exchanges pool.history _).foldl _ _ = _
    rw [Pool.exchanges_eq_nil reached (List.getElem?_eq_none (Nat.le_refl _))]
    rfl
  · exact .inl ⟨thread, earlier, mine, rfl⟩

/-- A pool after the answer to a call. -/
abbrev answered (pool : SignInPool) (index : Nat) (call : SignInCall) (statement : SignInStatement)
    (next : signIn.Answer statement → SignInProc) (answer : signIn.Answer statement)
    (world : World) :
    SignInPool :=
  ⟨world, pool.threads.set index ⟨call, next answer⟩, ⟨index, call, statement, answer⟩ :: pool.history⟩

theorem phaseOf_self (history : List (Event signIn SignInCall)) :
    phaseOf (⟨index, call, statement, answer⟩ :: history) index =
      (phaseOf history index).next ⟨statement, answer⟩ :=
  Pool.memory_cons_self (phases call) .fresh history index call statement answer

theorem phaseOf_other (history : List (Event signIn SignInCall)) (different : other ≠ index) :
    phaseOf (⟨index, call, statement, answer⟩ :: history) other = phaseOf history other :=
  Pool.memory_cons_other (phases call) .fresh history different

/-- After an answer only the phase of its call is another one. -/
theorem at_answered (pending : pool.threads[index]? = some ⟨call, .await statement next⟩)
    (found : At email (answered pool index call statement next answer world) other phase) :
    (other = index ∧ call.email? = some email ∧
        phase = (phaseOf pool.history index).next ⟨statement, answer⟩) ∨
      (other ≠ index ∧ At email pool other phase) := by
  obtain ⟨thread, present, mine, rfl⟩ := found
  rcases Pool.getElem?_set_cases present with ⟨rfl, rfl⟩ | ⟨different, earlier⟩
  · exact .inl ⟨rfl, mine, phaseOf_self pool.history⟩
  · refine .inr ⟨different, thread, earlier, mine, ?_⟩
    exact (phaseOf_other pool.history different).symm

end Pools

/-- What holds of the failures for an address. From a recent time on without a success, the
wrong passwords are recorded, apart from the one whose attempt is still to record it; and
an attempt that has not been locked out has found room for one more. -/
structure Orderly (email : JsString) (pool : SignInPool) : Prop where
  clocked : pool.shared.Clocked
  alone : ∀ {first second}, UnderWay email pool first → UnderWay email pool second → first = second
  settled : ∀ start, pool.shared.Recent start → pool.shared.Unbroken email start →
    (∀ index verdict, ¬ At email pool index (.verified verdict)) →
    pool.shared.wrongs email start ≤ pool.shared.recorded email start
  owed : ∀ start, pool.shared.Recent start → pool.shared.Unbroken email start →
    pool.shared.wrongs email start ≤ pool.shared.recorded email start +
      if start ≤ pool.shared.clock then 1 else 0
  room : ∀ index, At email pool index .counted → ∀ start, pool.shared.Recent start →
    pool.shared.Unbroken email start → pool.shared.wrongs email start < LOGIN_LOCKOUT_MAX_ATTEMPTS
  forgiven : ∀ index, At email pool index (.verified .succeeded) → ∀ start,
    pool.shared.Unbroken email start → pool.shared.wrongs email start = 0
  bounded : pool.shared.Bounded email

/-! ## Steps -/

section Steps

variable {initial : World → Prop} {guard : SignInPool → Turn SignInCall → Prop}
  {before after : SignInPool} {email : JsString} {index other : Nat} {phase : Phase}
  {call : SignInCall} {statement : SignInStatement} {next : signIn.Answer statement → SignInProc}
  {answer : signIn.Answer statement} {world : World}

/-- A step that no attempt for the address takes part in, after which as much is verified and
recorded for it as before. -/
theorem Orderly.quiet (orderly : Orderly email before)
    (same : ∀ other (phase : Phase), phase.UnderWay → (At email after other phase ↔ At email before other phase))
    (clocked : after.shared.Clocked) (bounded : after.shared.Bounded email)
    (later : before.shared.clock ≤ after.shared.clock)
    (wrongs : ∀ start, after.shared.wrongs email start = before.shared.wrongs email start)
    (unbroken : ∀ start, after.shared.Unbroken email start → before.shared.Unbroken email start)
    (recorded : ∀ start, after.shared.Recent start →
      after.shared.recorded email start = before.shared.recorded email start) : Orderly email after := by
  have recent : ∀ start, after.shared.Recent start → before.shared.Recent start :=
    fun start young => Nat.lt_of_le_of_lt later young
  have underWay : ∀ other, UnderWay email after other → UnderWay email before other :=
    fun other ⟨phase, busy, found⟩ => ⟨phase, busy, (same other phase busy).mp found⟩
  refine ⟨clocked, fun left right => orderly.alone (underWay _ left) (underWay _ right), ?_, ?_,
    ?_, ?_,
    bounded⟩
  · intro start young whole idle
    rw [wrongs, recorded start young]
    refine orderly.settled start (recent start young) (unbroken start whole) fun index verdict found => ?_
    exact idle index verdict ((same index (.verified verdict) trivial).mpr found)
  · intro start young whole
    rw [wrongs, recorded start young]
    have most := orderly.owed start (recent start young) (unbroken start whole)
    split at most
    · rw [if_pos (by omega)]
      exact most
    · exact Nat.le_trans most (Nat.le_add_right _ _)
  · intro index found start young whole
    rw [wrongs]
    exact orderly.room index ((same index .counted trivial).mp found) start (recent start young)
      (unbroken start whole)
  · intro index found start whole
    rw [wrongs]
    exact orderly.forgiven index ((same index (.verified .succeeded) trivial).mp found) start
      (unbroken start whole)

/-- The attempts for an address that are under way, after a step of a call that is not. -/
theorem at_answered_iff (pending : before.threads[index]? = some ⟨call, .await statement next⟩)
    (outside : call.email? = some email → ¬ (phaseOf before.history index).UnderWay ∧
      ¬ ((phaseOf before.history index).next ⟨statement, answer⟩).UnderWay)
    (other : Nat) (phase : Phase) (busy : phase.UnderWay) :
    At email (answered before index call statement next answer world) other phase ↔
      At email before other phase := by
  constructor
  · intro found
    rcases at_answered pending found with ⟨-, mine, rfl⟩ | ⟨-, found⟩
    · exact absurd busy (outside mine).2
    · exact found
  · rintro ⟨thread, present, mine, rfl⟩
    have different : other ≠ index := by
      rintro rfl
      rw [pending] at present
      cases present
      exact (outside mine).1 busy
    refine ⟨thread, ?_, mine, phaseOf_other before.history different⟩
    change (before.threads.set index _)[other]? = _
    rw [List.getElem?_set_ne (Ne.symm different), present]

section

variable (orderly : Orderly email before)

include orderly

/-- Only the call that takes a step can be under way after it, where it was before. -/
theorem at_index (pending : before.threads[index]? = some ⟨call, .await statement next⟩)
    (mine : call.email? = some email) (busy : (phaseOf before.history index).UnderWay)
    (found : At email (answered before index call statement next answer world) other phase)
    (still : phase.UnderWay) :
    other = index ∧ phase = (phaseOf before.history index).next ⟨statement, answer⟩ := by
  rcases at_answered pending found with ⟨rfl, -, rfl⟩ | ⟨different, earlier⟩
  · exact ⟨rfl, rfl⟩
  · refine absurd (orderly.alone ⟨phase, still, earlier⟩ ⟨_, busy, _, pending, mine, rfl⟩) different

/-- An attempt that has come to its end, with all its wrong passwords recorded. -/
theorem Orderly.ended (pending : before.threads[index]? = some ⟨call, .await statement next⟩)
    (mine : call.email? = some email) (busy : (phaseOf before.history index).UnderWay)
    (ended : (phaseOf before.history index).next ⟨statement, answer⟩ = .ended)
    (verifications : world.verifications = before.shared.verifications)
    (clock : world.clock = before.shared.clock)
    (settled : ∀ start, before.shared.Recent start → before.shared.Unbroken email start →
      before.shared.wrongs email start ≤ world.recorded email start) :
    Orderly email (answered before index call statement next answer world) := by
  have idle : ∀ other phase, phase.UnderWay →
      ¬ At email (answered before index call statement next answer world) other phase := by
    intro other phase still found
    obtain ⟨-, rfl⟩ := at_index orderly pending mine busy found still
    rw [ended] at still
    exact still
  have same : ∀ start, world.wrongs email start = before.shared.wrongs email start := by
    intro start
    rw [World.wrongs, verifications, World.wrongs]
  have sound : ∀ start, world.Recent start → world.Unbroken email start →
      world.wrongs email start ≤ world.recorded email start := by
    intro start young whole
    rw [same]
    unfold World.Recent at young
    unfold World.Unbroken at whole
    rw [clock] at young
    rw [verifications] at whole
    exact settled start young whole
  refine ⟨?_, ?_, fun start young whole _ => sound start young whole, ?_, ?_, ?_, ?_⟩
  · unfold World.Clocked
    rw [verifications, clock]
    exact orderly.clocked
  · rintro first second ⟨phase, still, found⟩ -
    exact absurd found (idle first phase still)
  · exact fun start young whole => Nat.le_trans (sound start young whole) (Nat.le_add_right _ _)
  · exact fun other found => absurd found (idle other _ trivial)
  · exact fun other found => absurd found (idle other _ trivial)
  · unfold World.Bounded
    rw [verifications]
    exact orderly.bounded

/-- The failures of an address have been counted, and there are fewer than five. -/
theorem Orderly.counted (idle : ∀ other, ¬ UnderWay email before other)
    (pending : before.threads[index]? = some ⟨call, .await statement next⟩)
    (begun : (phaseOf before.history index).next ⟨statement, answer⟩ = .counted)
    (few : (before.shared.attempts.filter fun attempt => attempt.email = email &&
      attempt.isRecent before.shared.clock).length < LOGIN_LOCKOUT_MAX_ATTEMPTS) :
    Orderly email (answered before index call statement next answer before.shared) := by
  have settled : ∀ start, before.shared.Recent start → before.shared.Unbroken email start →
      before.shared.wrongs email start ≤ before.shared.recorded email start :=
    fun start young whole => orderly.settled start young whole fun other verdict found =>
      idle other ⟨.verified verdict, trivial, found⟩
  have mine : ∀ {other phase}, At email (answered before index call statement next answer
      before.shared) other phase → phase.UnderWay → other = index ∧ phase = .counted := by
    intro other phase found busy
    rcases at_answered pending found with ⟨rfl, -, rfl⟩ | ⟨-, earlier⟩
    · exact ⟨rfl, begun⟩
    · exact absurd ⟨phase, busy, earlier⟩ (idle other)
  refine ⟨orderly.clocked, ?_, fun start young whole _ => settled start young whole, orderly.owed,
    ?_, ?_,
    orderly.bounded⟩
  · rintro first second ⟨left, busy, found⟩ ⟨right, active, known⟩
    exact (mine found busy).1.trans (mine known active).1.symm
  · intro other found start young whole
    refine Nat.lt_of_le_of_lt (settled start young whole) (Nat.lt_of_le_of_lt ?_ few)
    rw [World.recorded, List.countP_eq_length_filter]
    refine (List.monotone_filter_right _ fun attempt kept => ?_).length_le
    simp only [Bool.and_eq_true, decide_eq_true_eq, LoginAttempt.isRecent] at kept ⊢
    exact ⟨kept.1, Nat.lt_of_lt_of_le young (Nat.add_le_add_right kept.2 _)⟩
  · intro other found
    have verified := (mine found trivial).2
    cases verified

/-- A password has been verified for an address. -/
theorem Orderly.verified {verdict : Verdict}
    (pending : before.threads[index]? = some ⟨call, .await statement next⟩)
    (mine : call.email? = some email) (counted : phaseOf before.history index = .counted)
    (ended : (phaseOf before.history index).next ⟨statement, answer⟩ =
      if verdict = .crashed then .ended else .verified verdict) :
    Orderly email (answered before index call statement next answer
      (before.shared.verify email verdict)) := by
  have busy : (phaseOf before.history index).UnderWay := by
    rw [counted]
    trivial
  have found : At email before index .counted := ⟨_, pending, mine, counted⟩
  have settled : ∀ start, before.shared.Recent start → before.shared.Unbroken email start →
      before.shared.wrongs email start ≤ before.shared.recorded email start := by
    refine fun start young whole => orderly.settled start young whole fun other verdict known => ?_
    obtain rfl := orderly.alone ⟨.verified verdict, trivial, known⟩ ⟨.counted, trivial, found⟩
    obtain ⟨-, -, -, same⟩ := known
    rw [counted] at same
    cases same
  have only : ∀ {other phase}, At email (answered before index call statement next answer
      (before.shared.verify email verdict)) other phase → phase.UnderWay →
      other = index ∧ phase = .verified verdict := by
    intro other phase known active
    obtain ⟨same, rfl⟩ := at_index orderly pending mine busy known active
    rw [ended] at active ⊢
    split
    · rename_i crashed
      rw [if_pos crashed] at active
      exact active.elim
    · exact ⟨same, rfl⟩
  refine ⟨orderly.clocked.verify email verdict, ?_, ?_, ?_, ?_, ?_, ?_⟩
  · rintro first second ⟨left, active, known⟩ ⟨right, running, there⟩
    exact (only known active).1.trans (only there running).1.symm
  · intro start young whole idle
    change World.wrongs _ _ _ ≤ before.shared.recorded email start
    rw [wrongs_verify, if_neg ?_]
    · exact settled start young (unbroken_verify whole).1
    · rintro ⟨-, rfl, -⟩
      exact idle index .wrong ⟨_, List.getElem?_set_self (List.getElem?_eq_some_iff.mp pending).1, mine,
        (phaseOf_self before.history).trans ended⟩
  · intro start young whole
    change World.wrongs _ _ _ ≤ before.shared.recorded email start + if start ≤ before.shared.clock then 1 else 0
    rw [wrongs_verify]
    refine Nat.add_le_add (settled start young (unbroken_verify whole).1) ?_
    split
    · rename_i wrong
      exact Nat.le_of_eq (if_pos wrong.2.2).symm
    · exact Nat.zero_le _
  · intro other known
    have same := (only known trivial).2
    cases same
  · intro other known start whole
    obtain ⟨-, same⟩ := only known trivial
    cases same
    rw [wrongs_verify, if_neg (by simp)]
    exact wrongs_future orderly.clocked ((unbroken_verify whole).2 rfl rfl)
  · exact bounded_verify orderly.clocked orderly.bounded fun _ _ => orderly.room index found

theorem Orderly.start
    (reached : (signInSystem initial).Reachable guard before) (call : SignInCall) :
    Orderly email (before.start signInProgram call) := by
  refine orderly.quiet (fun other phase busy => ⟨fun found => ?_, fun found => ?_⟩) orderly.clocked
    orderly.bounded (Nat.le_refl _) (fun _ => rfl) (fun _ whole => whole) fun _ _ => rfl
  · rcases at_start reached found with earlier | rfl
    · exact earlier
    · exact busy.elim
  · obtain ⟨thread, present, mine, same⟩ := found
    refine ⟨thread, ?_, mine, same⟩
    obtain ⟨bound, -⟩ := List.getElem?_eq_some_iff.mp present
    change (before.threads ++ _)[other]? = _
    rw [List.getElem?_append_left bound, present]

end

/-- A statement about an address is one of an attempt for it. -/
theorem email?_of_allowed (allowed : Allowed call phase statement)
    (named : statement.email? = some email) : call.email? = some email := by
  cases call with
  | attempt made =>
    cases statement with
    | prune => cases named
    | elapse ms => cases named
    | _ => exact (congrArg some allowed.2).symm.trans named
  | _ =>
    cases statement with
    | prune => cases named
    | elapse ms => cases named
    | _ => exact allowed.elim

/-- An attempt for another address, a cleanup or the passing of time. -/
theorem Orderly.foreign (orderly : Orderly email before)
    (pending : before.threads[index]? = some ⟨call, .await statement next⟩)
    (foreign : call.email? ≠ some email)
    (allowed : Allowed call (phaseOf before.history index) statement)
    (done : signInHandle call statement before.shared = some (answer, world)) :
    Orderly email (answered before index call statement next answer world) := by
  have same : ∀ other (phase : Phase), phase.UnderWay →
      (At email (answered before index call statement next answer world) other phase ↔
        At email before other phase) := at_answered_iff pending fun mine => absurd mine foreign
  have unmoved : world.verifications = before.shared.verifications →
      before.shared.clock ≤ world.clock →
      (∀ start, world.Recent start → world.recorded email start = before.shared.recorded email start) →
      Orderly email (answered before index call statement next answer world) := by
    intro verifications later recorded
    refine orderly.quiet same ?_ ?_ later ?_ ?_ recorded
    · intro verification member
      exact Nat.le_trans (orderly.clocked verification (verifications ▸ member)) later
    · unfold World.Bounded
      rw [verifications]
      exact orderly.bounded
    · intro start
      rw [World.wrongs, verifications, World.wrongs]
    · intro start whole verification member
      exact whole verification (verifications ▸ member)
  have different : ∀ other, statement.email? = some other → other ≠ email := by
    intro other named mine
    exact foreign (mine ▸ email?_of_allowed allowed named)
  cases statement with
  | recent other =>
    simp only [signInHandle] at done
    split at done
    · cases done
      exact unmoved rfl (Nat.le_refl _) fun _ _ => rfl
    · cases done
      exact unmoved rfl (Nat.le_refl _) fun _ _ => rfl
  | verify other =>
    cases done
    have different := different other rfl
    refine orderly.quiet same ?_ ?_ (Nat.le_refl _) ?_ ?_ fun _ _ => rfl
    · exact orderly.clocked.verify other call.verdict
    · exact bounded_verify orderly.clocked orderly.bounded fun mine => absurd mine different
    · intro start
      exact wrongs_verify.trans (by rw [if_neg fun mine => different mine.1, Nat.add_zero])
    · exact fun start whole => (unbroken_verify whole).1
  | record other ipAddress =>
    simp only [signInHandle] at done
    split at done
    · cases done
      exact unmoved rfl (Nat.le_refl _) fun _ _ => rfl
    · cases done
      refine unmoved rfl (Nat.le_refl _) fun start _ => ?_
      rw [recorded_record, if_neg fun mine => different other rfl mine.1, Nat.add_zero]
  | clear other =>
    simp only [signInHandle] at done
    split at done
    · cases done
      exact unmoved rfl (Nat.le_refl _) fun _ _ => rfl
    · cases done
      exact unmoved rfl (Nat.le_refl _) fun _ _ => recorded_clear (different other rfl)
  | prune =>
    simp only [signInHandle] at done
    split at done
    · cases done
      exact unmoved rfl (Nat.le_refl _) fun _ _ => rfl
    · cases done
      exact unmoved rfl (Nat.le_refl _) fun _ young => recorded_prune young
  | elapse ms =>
    cases done
    exact unmoved rfl (Nat.le_add_right _ _) fun _ _ => rfl

/-- An attempt for the address. -/
theorem Orderly.own (orderly : Orderly email before)
    (pending : before.threads[index]? = some ⟨call, .await statement next⟩)
    (mine : call.email? = some email) (serial : Serial before (.advance index))
    (allowed : Allowed call (phaseOf before.history index) statement)
    (done : signInHandle call statement before.shared = some (answer, world)) :
    Orderly email (answered before index call statement next answer world) := by
  cases call with
  | prune fails => cases mine
  | elapse ms => cases mine
  | attempt made =>
    cases mine
    obtain ⟨alone, recording⟩ := serial
    cases statement with
    | prune => exact allowed.elim
    | elapse ms => exact allowed.elim
    | recent other =>
      obtain ⟨fresh, rfl⟩ := allowed
      have ended : (phaseOf before.history index).next ⟨.recent made.email, answer⟩ = .ended →
          Orderly made.email (answered before index (.attempt made) _ next answer before.shared) := by
        intro ended
        refine orderly.quiet (at_answered_iff pending fun _ => ?_) orderly.clocked orderly.bounded
          (Nat.le_refl _) (fun _ => rfl) (fun _ whole => whole) fun _ _ => rfl
        rw [ended, fresh]
        exact ⟨id, id⟩
      simp only [signInHandle] at done
      split at done
      · cases done
        exact ended (by rw [fresh]; rfl)
      · cases done
        by_cases locked : LOGIN_LOCKOUT_MAX_ATTEMPTS ≤ (before.shared.recent made.email).length
        · exact ended (by rw [fresh]; exact if_pos locked)
        · refine orderly.counted (alone _ _ next pending) pending (by rw [fresh]; exact if_neg locked) ?_
          rw [World.recent, List.length_take] at locked
          omega
    | verify other =>
      obtain ⟨counted, rfl⟩ := allowed
      cases done
      exact orderly.verified pending rfl counted Phase.next_verify
    | record other ipAddress =>
      obtain ⟨verified, rfl⟩ := allowed
      simp only [signInHandle, recording _ _ _ next pending, Bool.false_eq_true, ↓reduceIte] at done
      cases done
      refine orderly.ended pending rfl ?_ ?_ rfl rfl fun start young whole => ?_
      · rcases verified with same | same <;> rw [same] <;> trivial
      · rcases verified with same | same <;> rw [same] <;> rfl
      · rw [recorded_record]
        simpa using orderly.owed start young whole
    | clear other =>
      obtain ⟨verified, rfl⟩ := allowed
      have ended : ∀ world : World, world.verifications = before.shared.verifications →
          world.clock = before.shared.clock →
          Orderly made.email (answered before index (.attempt made) _ next answer world) := by
        intro world verifications clock
        refine orderly.ended pending rfl (by rw [verified]; trivial) (by rw [verified]; rfl)
          verifications clock fun start _ whole => ?_
        rw [orderly.forgiven index ⟨_, pending, rfl, verified⟩ start whole]
        exact Nat.zero_le _
      simp only [signInHandle] at done
      split at done
      · cases done
        exact ended _ rfl rfl
      · cases done
        exact ended _ rfl rfl

end Steps

/-! ## Runs -/

theorem orderly_fresh {world : World} (none : world.verifications = []) (email : JsString) :
    Orderly email (Pool.fresh world) := by
  have idle : ∀ index phase, ¬ At email (Pool.fresh world) index phase := by
    rintro index phase ⟨thread, present, -⟩
    cases present
  have quiet : ∀ start, world.wrongs email start = 0 := by
    intro start
    rw [World.wrongs, none, List.countP_nil]
  refine ⟨?_, ?_, fun start _ _ _ => ?_, fun start _ _ => ?_, ?_, ?_, ?_⟩
  · intro verification member
    have absent : verification ∈ world.verifications := member
    rw [none] at absent
    cases absent
  · rintro first second ⟨phase, -, found⟩ -
    exact absurd found (idle first phase)
  · exact (quiet start).symm ▸ Nat.zero_le _
  · exact (quiet start).symm ▸ Nat.zero_le _
  · exact fun index found => absurd found (idle index _)
  · exact fun index found => absurd found (idle index _)
  · intro start _
    change List.countP _ world.verifications ≤ _
    rw [none]
    exact Nat.zero_le _

theorem orderly_of_reachable {initial : World → Prop}
    (start : ∀ world, initial world → world.verifications = []) {pool : SignInPool}
    (reached : (signInSystem initial).Reachable Serial pool) (email : JsString) :
    Orderly email pool := by
  induction reached with
  | initial fresh =>
    obtain ⟨world, begun, rfl⟩ := fresh
    exact orderly_fresh (start world begun) email
  | @step before label after reached serial moved ih =>
    obtain ⟨call, -, rfl⟩ | ⟨index, call, statement, next, answer, world, rfl, pending, done, rfl⟩ :=
      Pool.step_cases moved
    · exact ih.start reached call
    · have allowed := allowed_of_pending reached pending
      by_cases mine : call.email? = some email
      · exact ih.own pending mine serial allowed done
      · exact ih.foreign pending mine allowed done

/-- In every run in which the failures for an address are counted only while no attempt for it
is under way, and every failure is recorded, at most five wrong passwords are verified for it
in any fifteen minutes without a successful sign-in. -/
theorem bounded_of_reachable {initial : World → Prop}
    (start : ∀ world, initial world → world.verifications = []) {pool : SignInPool}
    (reached : (signInSystem initial).Reachable Serial pool) (email : JsString) :
    pool.shared.Bounded email :=
  (orderly_of_reachable start reached email).bounded

/-- Attempts that do not overlap at all are serial where every failure is recorded. -/
theorem serial_of_alone {initial : World → Prop} {guard : SignInPool → Turn SignInCall → Prop}
    {pool : SignInPool} {turn : Turn SignInCall}
    (reached : (signInSystem initial).Reachable guard pool) (alone : pool.Alone turn)
    (recording : Recording pool turn) : Serial pool turn := by
  refine ⟨?_, recording⟩
  cases turn with
  | start call => trivial
  | advance index =>
    rintro call email next pending other ⟨phase, busy, thread, present, mine, rfl⟩
    have obeys := Pool.obeys_of_reachable reached present (inPhase_signInProgram thread.call)
    obtain ⟨running, result | ⟨request, rest⟩⟩ := thread
    · exact obeys busy
    · obtain rfl := alone other _ present ⟨request, rest, rfl⟩
      rw [pending] at present
      cases present
      have allowed := allowed_of_pending reached pending
      cases call with
      | attempt made =>
        rw [allowed.1] at busy
        exact busy
      | prune fails => exact allowed.elim
      | elapse ms => exact allowed.elim

namespace Sample

def alice : JsString := js "alice@example.com"

def guess : SignInCall := .attempt ⟨alice, none, true, .wrong, fun _ => false⟩

def quiet : World := ⟨0, [], []⟩

/-- An attempt from its start to its end. -/
def alone (index : Nat) : List (Turn SignInCall) :=
  [.start guess, .advance index, .advance index, .advance index]

/-- Five guesses, one after the other, and a sixth that is refused. -/
def guessing : List (Turn SignInCall) :=
  alone 0 ++ alone 1 ++ alone 2 ++ alone 3 ++ alone 4 ++ [.start guess, .advance 5]

/-- Six guesses whose failures are counted before any password is verified. -/
def rushing : List (Turn SignInCall) :=
  List.replicate 6 (.start guess) ++ (List.range 6).map .advance ++ (List.range 6).map .advance

def serial (pool : SignInPool) (turn : Turn SignInCall) : Bool :=
  pool.alone turn && match turn with
    | .start _ => true
    | .advance index =>
        match pool.threads[index]? with
        | some ⟨call, .await (.record email ipAddress) _⟩ => !call.fails (.record email ipAddress)
        | _ => true

theorem serial_sound (pool : SignInPool) (turn : Turn SignInCall)
    (checked : serial pool turn = true) : pool.Alone turn ∧ Recording pool turn := by
  obtain ⟨alone, recording⟩ := Bool.and_eq_true_iff.mp checked
  refine ⟨Pool.alone_sound alone, ?_⟩
  cases turn with
  | start call => trivial
  | advance index =>
    intro call email ipAddress next pending
    simpa [pending] using recording

def run (check : SignInPool → Turn SignInCall → Bool) (turns : List (Turn SignInCall)) :
    Option SignInPool :=
  System.follow check (Pool.turn signInProgram fun _ => signInHandle) (Pool.fresh quiet) turns

def guessed : SignInPool := (run serial guessing).get (by decide)

def rushed : SignInPool := (run System.unchecked rushing).get (by decide)

theorem guessed_reachable : (signInSystem (· = quiet)).Reachable Serial guessed := by
  have reached : (signInSystem (· = quiet)).Reachable
      (fun pool turn => pool.Alone turn ∧ Recording pool turn) guessed :=
    System.reachable_of_follow serial_sound ⟨quiet, rfl, rfl⟩ _
  exact reached.admit fun pool turn reached admitted =>
    serial_of_alone reached admitted.1 admitted.2

theorem rushed_reachable : (signInSystem (· = quiet)).Reachable System.unguarded rushed :=
  System.reachable_of_follow System.unchecked_sound ⟨quiet, rfl, rfl⟩ _

end Sample

/-- Five guesses are verified, and the sixth is not. -/
theorem guessed_bounded : Sample.guessed.shared.Bounded Sample.alice := by
  refine bounded_of_reachable (fun world begun => ?_) Sample.guessed_reachable Sample.alice
  obtain rfl : world = Sample.quiet := begun
  rfl

/-- Six guesses that overlap are all verified. -/
theorem rushed_unbounded :
    ∃ pool, (signInSystem (· = Sample.quiet)).Reachable System.unguarded pool ∧
    ¬ pool.shared.Bounded Sample.alice := by
  refine ⟨_, Sample.rushed_reachable, fun bounded => ?_⟩
  have verified := bounded 0 (by decide)
  revert verified
  decide

end Vortex.Accounts.SignIn
