import Mathlib.Data.List.MinMax
import Vortex.Accounts.LoginRisk
import Vortex.Foundation.Monitor

/-!
# Locks by login risk

`enforceLoginRisk` runs before a session is made. It compares a sign-in with the latest one of its
user that was let through, refuses it if too much is new, and records it. A refusal asks the user to
reset the password, but a reset changes nothing that the next sign-in is compared with. Sign-ins,
resets and changes of the second factor interleave statement by statement.
-/

namespace Foundation.Pool

variable {I : Interface} {ε α κ σ : Type} {initial : σ → Prop} {program : κ → Proc I ε α}
  {handle : Nat → κ → Handler I σ} {guard : Pool I ε α κ σ → Turn κ → Prop}

/-- Every recorded answer was given by the handler, to a process that waited for it, in a state that
was reached with the earlier history. -/
theorem before_of_split {pool : Pool I ε α κ σ}
    (reached : (system initial program handle).Reachable guard pool)
    {later earlier : List (Event I κ)} {event : Event I κ}
    (split : pool.history = later ++ event :: earlier) :
    ∃ before next after, (system initial program handle).Reachable guard before ∧
      before.history = earlier ∧
      before.threads[event.thread]? = some ⟨event.call, .await event.request next⟩ ∧
      handle event.thread event.call event.request before.shared = some (event.answer, after) := by
  induction reached generalizing later with
  | initial fresh =>
    obtain ⟨shared, -, rfl⟩ := fresh
    exact absurd split.symm (List.append_ne_nil_of_right_ne_nil _ (List.cons_ne_nil _ _))
  | @step before label after reached admitted moved ih =>
    obtain ⟨call, -, rfl⟩ | ⟨index, call, request, next, answer, shared, -, pending, answered,
      rfl⟩ := step_cases moved
    · exact ih split
    · cases later with
      | nil =>
        obtain ⟨rfl, older⟩ := List.cons_eq_cons.mp split
        exact ⟨before, next, shared, reached, older, pending, answered⟩
      | cons newest later =>
        exact ih (List.cons_eq_cons.mp split).2

end Foundation.Pool

namespace Vortex.Accounts.RiskLock

open Foundation
open LoginRisk (LoginFingerprint LoginRiskResult assess computeLoginRisk differs subnet)

/-! ## The tables -/

/-- A row of `login_risk_events`. The texts of its times are in the order of the times. -/
structure RiskEvent where
  userId : JsString
  email : JsString
  fingerprint : LoginFingerprint
  riskScore : Nat
  reasons : List JsString
  suspicious : Bool
  succeeded : Bool
  createdAt : Nat

structure Account where
  email : Option JsString
  twoFactorEnabled : Option Bool

structure RiskTables where
  events : List RiskEvent
  accounts : JsString → Option Account

/-- The row that a query for the latest one returns where several were made at once. -/
structure LatestPlan where
  first : List RiskEvent → Option RiskEvent
  sound : ∀ rows row, first rows = some row →
    row ∈ rows ∧ ∀ other ∈ rows, other.createdAt ≤ row.createdAt
  complete : ∀ rows, first rows = none → rows = []

/-- The sign-ins of a user that were let through. -/
def admitted (userId : JsString) (events : List RiskEvent) : List RiskEvent :=
  events.filter fun event => event.userId = userId && event.succeeded

/-! ## Statements -/

inductive RiskStatement
  | previous (userId : JsString)
  | account (userId : JsString)
  | record (event : RiskEvent)
  | notify (userId body : JsString)
  | resetPassword (userId : JsString)
  | setTwoFactor (userId : JsString) (enabled : Bool)

def RiskStatement.Result : RiskStatement → Type
  | .previous _ => Option LoginFingerprint
  | .account _ => Option Account
  | _ => Unit

/-- A statement throws, or it has a result. -/
abbrev risks : Interface := ⟨RiskStatement, fun statement => Except Unit statement.Result⟩

section Database

variable (plan : LatestPlan)

/-- What a sign-in is compared with. -/
def baseline (events : List RiskEvent) (userId : JsString) : Option LoginFingerprint :=
  (plan.first (admitted userId events)).map RiskEvent.fingerprint

def enrol (userId : JsString) (enabled : Bool) (accounts : JsString → Option Account) :
    JsString → Option Account :=
  Function.update accounts userId <|
    (accounts userId).map fun account => { account with twoFactorEnabled := some enabled }

/-- The hash that a reset replaces and the notifications are read by nothing here. -/
def execute : (statement : RiskStatement) → RiskTables → Except Unit statement.Result × RiskTables
  | .previous userId, tables => (.ok (baseline plan tables.events userId), tables)
  | .account userId, tables => (.ok (tables.accounts userId), tables)
  | .record event, tables => (.ok (), { tables with events := tables.events ++ [event] })
  | .notify _ _, tables => (.ok (), tables)
  | .resetPassword _, tables => (.ok (), tables)
  | .setTwoFactor userId enabled, tables =>
      (.ok (), { tables with accounts := enrol userId enabled tables.accounts })

end Database

/-! ## Requests -/

inductive SignInError
  | riskBlocked
  | thrown

abbrev RiskProc (α : Type) : Type := Proc risks SignInError α

/-- A statement whose exception is the caller's. -/
def query (statement : RiskStatement) : RiskProc statement.Result :=
  .await statement fun answer => .done (answer.mapError fun _ => .thrown)

/-- A sign-in whose password, and second factor if there is one, are right: what the headers of its
request say, and the time at which it is recorded. -/
structure SignIn where
  userId : JsString
  fingerprint : LoginFingerprint
  now : Nat

def twoFactor (account : Option Account) : Bool :=
  (account.bind Account.twoFactorEnabled).getD false

def isBlocked (risk : LoginRiskResult) (account : Option Account) : Bool :=
  match risk.action with
  | .lock_and_verify => true
  | .challenge_mfa => !twoFactor account
  | .allow => false

def suspiciousBody (ipAddress : Option JsString) : JsString :=
  js "We noticed a login from a new device or location (" ++
    (ipAddress.filter (!·.isEmpty)).getD (js "unknown IP") ++
    js "). If this wasn't you, reset your password immediately."

/-- What is written of a sign-in, in a `try` block of its own. -/
def recordRisk (signIn : SignIn) (email : JsString) (risk : LoginRiskResult) (blocked : Bool) :
    RiskProc Unit := do
  let () ← query (.record ⟨signIn.userId, email, signIn.fingerprint, risk.riskScore, risk.reasons,
    risk.suspicious, !blocked, signIn.now⟩)
  if risk.suspicious && !blocked then
    query (.notify signIn.userId (suspiciousBody signIn.fingerprint.ipAddress))
  else return ()

def enforceLoginRisk (signIn : SignIn) : RiskProc Unit := do
  let prev : Option LoginFingerprint ← query (.previous signIn.userId)
  let risk := computeLoginRisk signIn.fingerprint prev
  let user : Option Account ← query (.account signIn.userId)
  let email := (user.bind Account.email).getD []
  let blocked := isBlocked risk user
  let _ ← (recordRisk signIn email risk blocked).attempt
  if blocked then throw .riskBlocked else return ()

inductive RiskRoute
  | signIn (request : SignIn)
  | resetPassword (userId : JsString)
  | setTwoFactor (userId : JsString) (enabled : Bool)

structure RiskCall where
  route : RiskRoute
  fails : RiskStatement → Bool

def riskProgram (call : RiskCall) : RiskProc Unit :=
  match call.route with
  | .signIn request => enforceLoginRisk request
  | .resetPassword userId => do
      let () ← query (.resetPassword userId)
      return ()
  | .setTwoFactor userId enabled => do
      let () ← query (.setTwoFactor userId enabled)
      return ()

def riskHandle (plan : LatestPlan) (call : RiskCall) : Handler risks RiskTables :=
  fun statement tables =>
    if call.fails statement then some (.error (), tables) else some (execute plan statement tables)

abbrev RiskPool : Type := Pool risks SignInError Unit RiskCall RiskTables

/-- Every interleaving of any number of requests, from the given contents of the tables. -/
def riskSystem (plan : LatestPlan) (tables : RiskTables) : System RiskPool (Turn RiskCall) :=
  Pool.system (· = tables) riskProgram fun _ => riskHandle plan

/-! ## What is refused -/

/-- What is compared is new of a subnet. -/
def NewSubnet (current previous : LoginFingerprint) : Prop :=
  (subnet current.ipAddress).any (!·.isEmpty) = true ∧
    subnet current.ipAddress ≠ subnet previous.ipAddress

/-- A sign-in from a new subnet, and a new location or device; of a user with a second factor, from
a new location and device. -/
def Locked (current : LoginFingerprint) (previous : Option LoginFingerprint)
    (twoFactor : Bool) : Prop :=
  ∃ last ∈ previous, NewSubnet current last ∧
    if twoFactor then
      differs current.locationHint last.locationHint = true ∧
        differs current.userAgent last.userAgent = true
    else
      differs current.locationHint last.locationHint = true ∨
        differs current.userAgent last.userAgent = true

theorem isBlocked_assess (newSubnet newLocation newDevice : Bool) (account : Option Account) :
    isBlocked (assess newSubnet newLocation newDevice) account =
      (newSubnet && if twoFactor account then newLocation && newDevice
        else newLocation || newDevice) := by
  unfold isBlocked
  cases twoFactor account <;> cases newSubnet <;> cases newLocation <;> cases newDevice <;> rfl

theorem isBlocked_iff (current : LoginFingerprint) (previous : Option LoginFingerprint)
    (account : Option Account) :
    isBlocked (computeLoginRisk current previous) account = true ↔
      Locked current previous (twoFactor account) := by
  cases previous with
  | none =>
    constructor
    · intro blocked
      cases blocked
    · intro locked
      obtain ⟨last, none, -⟩ := locked
      cases none
  | some last =>
    unfold Locked NewSubnet computeLoginRisk
    dsimp only
    rw [isBlocked_assess]
    cases twoFactor account <;> simp [and_assoc]

/-! ## What a sign-in reads and writes -/

abbrev Seen : Type := List (Proc.Exchange risks)

/-- What is recorded is the sign-in's own. -/
def Grounds (request : SignIn) (_ : Seen) : RiskStatement → Prop
  | .record event => event.userId = request.userId
  | _ => True

/-- How a sign-in ends: by what it has read it is refused or not, and a refused one has recorded
that it was. -/
structure Ends (request : SignIn) (seen : Seen) (result : Except SignInError Unit) : Prop where
  refused : ∀ previous account rest,
    seen = ⟨.previous request.userId, .ok previous⟩ :: ⟨.account request.userId, .ok account⟩ ::
      rest → (result = .error .riskBlocked ↔
        isBlocked (computeLoginRisk request.fingerprint previous) account = true)
  recorded : result = .error .riskBlocked → ∀ event answer, ⟨.record event, answer⟩ ∈ seen →
    event.succeeded = false

theorem obeys_recordRisk (request : SignIn) (email : JsString) (risk : LoginRiskResult)
    (blocked : Bool) (start : Seen) :
    (recordRisk request email risk blocked).Obeys (.recorder (fun _ => true) (Grounds request))
      (fun seen _ => ∃ rest, seen = start ++ rest ∧
        ∀ event answer, ⟨.record event, answer⟩ ∈ rest → event.succeeded = !blocked) start := by
  unfold recordRisk
  refine ⟨rfl, fun recorded => ?_⟩
  have own (answer : Except Unit Unit) (rest : Seen) : ∀ event answer', ⟨.record event, answer'⟩ ∈
          (⟨.record ⟨request.userId, email, request.fingerprint, risk.riskScore, risk.reasons,
            risk.suspicious, !blocked, request.now⟩, answer⟩ : Proc.Exchange risks) :: rest →
        (∀ row answer'', ⟨.record row, answer''⟩ ∉ rest) → event.succeeded = !blocked := by
    intro event answer' member others
    rcases List.mem_cons.mp member with first | later
    · cases first
      rfl
    · exact absurd later (others event answer')
  cases recorded with
  | error error =>
    exact ⟨_, rfl, fun event answer member =>
      own (.error error) [] event answer member fun _ _ => List.not_mem_nil⟩
  | ok value =>
    cases risk.suspicious && !blocked with
    | true =>
      refine ⟨trivial, fun notified => ?_⟩
      refine Proc.Obeys.done (fun _ _ => ?_) fun _ _ => ?_
      all_goals
        refine ⟨_, List.append_assoc .., fun event answer member =>
          own (.ok value) _ event answer member fun row answer' later => ?_⟩
        cases List.mem_singleton.mp later
    | false =>
      exact ⟨_, rfl, fun event answer member =>
        own (.ok value) [] event answer member fun _ _ => List.not_mem_nil⟩

theorem ends_of_reads {request : SignIn} {previous : Option LoginFingerprint}
    {account : Option Account} {rest : Seen}
    (rows : ∀ event answer, ⟨.record event, answer⟩ ∈ rest →
      event.succeeded = !isBlocked (computeLoginRisk request.fingerprint previous) account) :
    Ends request (⟨.previous request.userId, .ok previous⟩ ::
        ⟨.account request.userId, .ok account⟩ :: rest)
      (if isBlocked (computeLoginRisk request.fingerprint previous) account
        then .error .riskBlocked else .ok ()) where
  refused := by
    intro other another later same
    obtain ⟨first, same⟩ := List.cons.inj same
    obtain ⟨second, -⟩ := List.cons.inj same
    cases first
    cases second
    split
    · rename_i blocked
      exact iff_of_true rfl blocked
    · rename_i free
      exact iff_of_false (fun refused => nomatch refused) free
  recorded := by
    intro refused event answer member
    have blocked : isBlocked (computeLoginRisk request.fingerprint previous) account = true := by
      by_contra free
      rw [if_neg free] at refused
      cases refused
    rcases List.mem_cons.mp member with first | later
    · cases first
    · rcases List.mem_cons.mp later with second | row
      · cases second
      · rw [rows event answer row, blocked]
        rfl

/-- A sign-in that could not read what it needs is not refused. -/
theorem ends_of_thrown {request : SignIn} {seen : Seen}
    (unread : ∀ previous account rest,
      seen ≠ ⟨.previous request.userId, .ok previous⟩ ::
        ⟨.account request.userId, .ok account⟩ :: rest) :
    Ends request seen (.error .thrown) where
  refused := fun previous account rest same => absurd same (unread previous account rest)
  recorded := fun refused => nomatch refused

theorem obeys_enforceLoginRisk (request : SignIn) :
    (enforceLoginRisk request).Obeys (.recorder (fun _ => true) (Grounds request)) (Ends request)
      [] := by
  unfold enforceLoginRisk
  refine ⟨trivial, fun previous => ?_⟩
  cases previous with
  | error error => exact ends_of_thrown fun _ _ _ same => nomatch (List.cons.inj same).2
  | ok previous =>
    refine ⟨trivial, fun account => ?_⟩
    cases account with
    | error error =>
      refine ends_of_thrown fun _ _ _ same => ?_
      cases (List.cons.inj (List.cons.inj same).2).1
    | ok account =>
      let blocked := isBlocked (computeLoginRisk request.fingerprint previous) account
      change Proc.Obeys _ _ ((recordRisk request ((Option.bind account Account.email).getD [])
        (computeLoginRisk request.fingerprint previous) blocked).attempt >>= fun _ =>
          if blocked then throw SignInError.riskBlocked else return ()) _
      refine Proc.Obeys.bind (Proc.Obeys.attempt ((obeys_recordRisk ..).mono ?_))
      intro seen result written
      obtain ⟨rest, rfl, rows⟩ := written
      have ends := ends_of_reads rows
      change Proc.Obeys _ _ (if _ then _ else _) _
      split
      · rename_i blocked
        rw [if_pos blocked] at ends
        exact ends
      · rename_i free
        rw [if_neg free] at ends
        exact ends

/-! ## The table as a history -/

abbrev RiskHistory : Type := List (Event risks RiskCall)

def written (event : Event risks RiskCall) : Option RiskEvent :=
  match event with
  | ⟨_, _, .record row, .ok _⟩ => some row
  | _ => none

/-- The rows that a history, newest first, leaves of a table. -/
def recorded (stored : List RiskEvent) (history : RiskHistory) : List RiskEvent :=
  stored ++ history.reverse.filterMap written

section Histories

variable {plan : LatestPlan} {tables : RiskTables} {pool : RiskPool}

theorem recorded_cons (stored : List RiskEvent) (event : Event risks RiskCall)
    (history : RiskHistory) :
    recorded stored (event :: history) = recorded stored history ++ (written event).toList := by
  unfold recorded
  rw [List.reverse_cons, List.filterMap_append, ← List.append_assoc]
  cases found : written event with
  | none => rw [List.filterMap_cons_none found, List.filterMap_nil, Option.toList_none]
  | some row => rw [List.filterMap_cons_some found, List.filterMap_nil, Option.toList_some]

theorem events_of_handle {index : Nat} {call : RiskCall} {statement : RiskStatement}
    {before after : RiskTables} {answer : risks.Answer statement}
    (answered : riskHandle plan call statement before = some (answer, after)) :
    after.events = before.events ++ (written ⟨index, call, statement, answer⟩).toList := by
  unfold riskHandle at answered
  split at answered
  · cases answered
    cases statement <;> exact (List.append_nil _).symm
  · cases statement with
    | record event =>
      cases answered
      rfl
    | _ =>
      cases answered
      exact (List.append_nil _).symm

/-- The table holds what has been recorded. -/
theorem events_of_reachable (reached : (riskSystem plan tables).Reachable System.unguarded pool) :
    pool.shared.events = recorded tables.events pool.history := by
  refine reached.invariant (P := fun pool =>
    pool.shared.events = recorded tables.events pool.history) ?_ ?_
  · rintro _ ⟨shared, rfl, rfl⟩
    exact (List.append_nil _).symm
  · intro before turn after _ kept _ moved
    obtain ⟨call, -, rfl⟩ | ⟨index, call, statement, next, answer, shared, -, -, answered, rfl⟩ :=
      Pool.step_cases moved
    · exact kept
    · change shared.events = recorded tables.events (_ :: before.history)
      rw [recorded_cons, ← kept]
      exact events_of_handle answered

/-- What a request may write. -/
def CallGrounds (call : RiskCall) (seen : Seen) (statement : RiskStatement) : Prop :=
  match call.route with
  | .signIn request => Grounds request seen statement
  | _ => ∀ row, statement ≠ .record row

def CallEnds (call : RiskCall) (seen : Seen) (result : Except SignInError Unit) : Prop :=
  ∀ request, call.route = .signIn request → Ends request seen result

theorem obeys_riskProgram (call : RiskCall) : (riskProgram call).Obeys
    (.recorder (fun _ => true) (CallGrounds call)) (CallEnds call) [] := by
  unfold riskProgram CallGrounds CallEnds
  cases routed : call.route with
  | signIn request =>
    refine (obeys_enforceLoginRisk request).mono fun seen result ends other same => ?_
    cases same
    exact ends
  | resetPassword userId =>
    refine ⟨fun _ same => (nomatch same), fun answer => ?_⟩
    cases answer <;> exact fun _ other => nomatch other
  | setTwoFactor userId enabled =>
    refine ⟨fun _ same => (nomatch same), fun answer => ?_⟩
    cases answer <;> exact fun _ other => nomatch other

/-- Rows are written by sign-ins of their users. -/
theorem signs_of_written (reached : (riskSystem plan tables).Reachable System.unguarded pool)
    {event : Event risks RiskCall} (member : event ∈ pool.history) {row : RiskEvent}
    (writes : written event = some row) :
    ∃ request, event.call.route = .signIn request ∧ row.userId = request.userId := by
  obtain ⟨later, earlier, split⟩ := List.append_of_mem member
  obtain ⟨before, next, after, reached', -, pending, -⟩ := Pool.before_of_split reached split
  have grounds := Pool.justified_of_pending reached' pending (obeys_riskProgram event.call)
  unfold CallGrounds at grounds
  unfold written at writes
  split at writes
  · cases writes
    split at grounds
    · rename_i request routed
      exact ⟨request, routed, grounds⟩
    · exact absurd rfl (grounds _)
  · cases writes

/-- Rows of other users are not compared with. -/
theorem admitted_recorded_append (stored : List RiskEvent) {userId : JsString}
    {recent earlier : RiskHistory}
    (foreign : ∀ event ∈ recent, ∀ row, written event = some row → row.userId ≠ userId) :
    admitted userId (recorded stored (recent ++ earlier)) =
      admitted userId (recorded stored earlier) := by
  induction recent with
  | nil => rfl
  | cons event rest ih =>
    obtain ⟨here, later⟩ := List.forall_mem_cons.mp foreign
    rw [List.cons_append, recorded_cons, admitted, List.filter_append, ← admitted, ih later]
    cases writes : written event with
    | none => exact List.append_nil _
    | some row =>
      have other := here row writes
      rw [Option.toList_some, List.filter_cons_of_neg (by simp [other]), List.filter_nil,
        List.append_nil]

/-- A sign-in is the first of its user to begin after a completed reset: `between` is what was done
from then on until it read what it is compared with, and `earlier` what had been done before. -/
structure AfterReset (pool : RiskPool) (index : Nat) (userId : JsString)
    (previous : Option LoginFingerprint) (reset : Event risks RiskCall)
    (between earlier : RiskHistory) : Prop where
  split : ∃ later call, pool.history =
    later ++ ⟨index, call, .previous userId, .ok previous⟩ :: (between ++ reset :: earlier)
  completed : (⟨reset.request, reset.answer⟩ : Proc.Exchange risks) =
    ⟨.resetPassword userId, .ok ()⟩
  first : ∀ event ∈ between, event.request ≠ .previous userId

variable {index : Nat} {userId : JsString} {previous : Option LoginFingerprint}
    {reset : Event risks RiskCall} {between earlier : RiskHistory}

section

variable (reached : (riskSystem plan tables).Reachable System.unguarded pool)

include reached

/-- A sign-in after a reset is compared with what was recorded when it began. -/
theorem previous_eq_baseline (after : AfterReset pool index userId previous reset between earlier) :
    previous = baseline plan (recorded tables.events (between ++ reset :: earlier)) userId := by
  obtain ⟨later, call, split⟩ := after.split
  obtain ⟨before, next, shared, reached', history, -, answered⟩ :=
    Pool.before_of_split reached split
  have told : Except.ok previous = (execute plan (.previous userId) before.shared).1 := by
    unfold riskHandle at answered
    split at answered
    · cases answered
    · exact (congrArg Prod.fst (Option.some.inj answered)).symm
  have same : previous = baseline plan before.shared.events userId := Except.ok.inj told
  rw [same, events_of_reachable reached', history]

/-- A reset changes nothing of it, nor do other users. -/
theorem baseline_of_quiet (after : AfterReset pool index userId previous reset between earlier)
    (quiet : ∀ event ∈ between, ∀ request, event.call.route = .signIn request →
      request.userId ≠ userId) :
    baseline plan (recorded tables.events (between ++ reset :: earlier)) userId =
      baseline plan (recorded tables.events earlier) userId := by
  obtain ⟨later, call, split⟩ := after.split
  have foreign : ∀ event ∈ between ++ [reset], ∀ row, written event = some row →
      row.userId ≠ userId := by
    intro event inside row writes
    rcases List.mem_append.mp inside with recent | last
    · have listed : event ∈ pool.history := by
        rw [split]
        exact List.mem_append_right _ (List.mem_cons_of_mem _ (List.mem_append_left _ recent))
      obtain ⟨request, routed, owned⟩ := signs_of_written reached listed writes
      rw [owned]
      exact quiet event recent request routed
    · obtain ⟨owner, resetCall, statement, answer⟩ := reset
      cases after.completed
      rw [List.mem_singleton.mp last] at writes
      cases writes
  unfold baseline
  rw [List.append_cons, admitted_recorded_append tables.events foreign]

/-- The row of the latest sign-in that was let through was there at the start, or was written by a
sign-in that is not refused. -/
theorem admitted_of_latest {userId : JsString}
    {row : RiskEvent} (latest : plan.first (admitted userId pool.shared.events) = some row) :
    row ∈ tables.events ∨ ∃ event ∈ pool.history, written event = some row ∧
      ∀ thread result, pool.threads[event.thread]? = some thread →
        thread.result? = some result → result ≠ .error .riskBlocked := by
  obtain ⟨listed, passed⟩ := List.mem_filter.mp (plan.sound _ row latest).1
  have succeeded : row.succeeded = true := (Bool.and_eq_true_iff.mp passed).2
  rw [events_of_reachable reached] at listed
  refine (List.mem_append.mp listed).imp_right fun later => ?_
  obtain ⟨event, member, writes⟩ := List.mem_filterMap.mp later
  refine ⟨event, List.mem_reverse.mp member, writes, ?_⟩
  intro thread result found ended refused
  obtain ⟨request, routed, -⟩ := signs_of_written reached (List.mem_reverse.mp member) writes
  obtain ⟨started, lookup, same⟩ :=
    (Pool.consistent_of_reachable reached).started event (List.mem_reverse.mp member)
  rw [found] at lookup
  cases lookup
  have ends := Pool.ended_of_reachable reached found (obeys_riskProgram thread.call) ended
    request (same ▸ routed)
  rw [Pool.memory_recorder] at ends
  obtain ⟨owner, call, statement, answer⟩ := event
  unfold written at writes
  split at writes
  · rename_i shape
    cases shape
    cases writes
    have issued := Pool.mem_exchanges.mpr ⟨_, List.mem_reverse.mp member, rfl, rfl⟩
    rw [ends.recorded refused _ _ issued] at succeeded
    cases succeeded
  · cases writes

end

end Histories

/-- The first sign-in after a completed reset, whatever its fingerprint, is not refused if and only
if not too much of it is new compared with the latest one that was let through, and the reset does
not change which one that is; and what a sign-in is compared with was not refused. -/
theorem unlocked_iff {plan : LatestPlan} {tables : RiskTables} {pool : RiskPool}
    (reached : (riskSystem plan tables).Reachable System.unguarded pool) :
    (∀ index thread request previous account rest result reset between earlier,
      pool.threads[index]? = some thread → thread.call.route = .signIn request →
      Pool.exchanges pool.history index = ⟨.previous request.userId, .ok previous⟩ ::
        ⟨.account request.userId, .ok account⟩ :: rest →
      thread.result? = some result →
      AfterReset pool index request.userId previous reset between earlier →
        (result ≠ .error .riskBlocked ↔ ¬ Locked request.fingerprint
          (baseline plan (recorded tables.events (between ++ reset :: earlier)) request.userId)
          (twoFactor account)) ∧
        ((∀ event ∈ between, ∀ other, event.call.route = .signIn other →
            other.userId ≠ request.userId) →
          baseline plan (recorded tables.events (between ++ reset :: earlier)) request.userId =
            baseline plan (recorded tables.events earlier) request.userId)) ∧
    ∀ userId row, plan.first (admitted userId pool.shared.events) = some row →
      row ∈ tables.events ∨ ∃ event ∈ pool.history, written event = some row ∧
        ∀ thread result, pool.threads[event.thread]? = some thread →
          thread.result? = some result → result ≠ .error .riskBlocked := by
  refine ⟨?_, fun userId row => admitted_of_latest reached⟩
  intro index thread request previous account rest result reset between earlier found signs reads
    ended after
  refine ⟨?_, baseline_of_quiet reached after⟩
  have ends := Pool.ended_of_reachable reached found (obeys_riskProgram thread.call) ended request
    signs
  rw [Pool.memory_recorder] at ends
  rw [Ne, not_iff_not, ends.refused previous account rest reads, isBlocked_iff,
    previous_eq_baseline reached after]

namespace Sample

def plan : LatestPlan where
  first := List.argmax RiskEvent.createdAt
  sound := fun _ _ found =>
    ⟨List.argmax_mem found, fun _ member => List.le_of_mem_argmax member found⟩
  complete := fun _ none => List.argmax_eq_none.mp none

def tables : RiskTables where
  events := []
  accounts := fun _ => some ⟨some (js "a@x"), none⟩

def home : LoginFingerprint := ⟨some (js "1.2.3.4"), some (js "a"), none⟩

def hotel : LoginFingerprint := ⟨some (js "5.6.7.8"), some (js "b"), none⟩

def signIn (fingerprint : LoginFingerprint) (now : Nat) : RiskCall :=
  ⟨.signIn ⟨js "u", fingerprint, now⟩, fun _ => false⟩

def resetPassword : RiskCall := ⟨.resetPassword (js "u"), fun _ => false⟩

/-- A sign-in from home, a reset, and another sign-in. -/
def turns (fingerprint : LoginFingerprint) : List (Turn RiskCall) :=
  [.start (signIn home 1), .advance 0, .advance 0, .advance 0, .start resetPassword, .advance 1,
    .start (signIn fingerprint 2), .advance 2, .advance 2, .advance 2]

def run (fingerprint : LoginFingerprint) : Option RiskPool :=
  Pool.replay riskProgram (fun _ => riskHandle plan) System.unchecked tables (turns fingerprint)

theorem home_completes : (run home).isSome := by decide

theorem hotel_completes : (run hotel).isSome := by decide

def again : RiskPool := (run home).get home_completes

def away : RiskPool := (run hotel).get hotel_completes

theorem again_reachable : (riskSystem plan tables).Reachable System.unguarded again := by
  refine Pool.reachable_of_replay System.unchecked_sound ?_ _
  rfl

theorem away_reachable : (riskSystem plan tables).Reachable System.unguarded away := by
  refine Pool.reachable_of_replay System.unchecked_sound ?_ _
  rfl

/-- The reset of a run. -/
def reset : Event risks RiskCall :=
  ⟨1, resetPassword, .resetPassword (js "u"), .ok ()⟩

theorem again_afterReset :
    AfterReset again 2 (js "u") (some home) reset [] (again.history.drop 4) where
  split := ⟨again.history.take 2, signIn home 2, by rfl⟩
  completed := rfl
  first := fun _ none => nomatch none

theorem away_afterReset :
    AfterReset away 2 (js "u") (some home) reset [] (away.history.drop 4) where
  split := ⟨away.history.take 2, signIn hotel 2, by rfl⟩
  completed := rfl
  first := fun _ none => nomatch none

end Sample

theorem home_is_let_in : ¬ Locked Sample.home
    (baseline Sample.plan
      (recorded Sample.tables.events (Sample.reset :: Sample.again.history.drop 4)) (js "u"))
    false := by
  have reads : Pool.exchanges Sample.again.history 2 =
      ⟨.previous (js "u"), .ok (some Sample.home)⟩ ::
        ⟨.account (js "u"), .ok (Sample.tables.accounts (js "u"))⟩ ::
          (Pool.exchanges Sample.again.history 2).drop 2 := by rfl
  have ended : (Sample.again.threads.get ⟨2, by decide⟩).result? = some (.ok ()) := by rfl
  have unlocked := (unlocked_iff Sample.again_reachable).1 2
    (Sample.again.threads.get ⟨2, by decide⟩) ⟨js "u", Sample.home, 2⟩ (some Sample.home) _ _ _ _
    [] _ rfl rfl reads ended Sample.again_afterReset
  exact unlocked.1.mp fun refused => nomatch refused

/-- A user on the road is refused, resets the password as told, and is refused. -/
theorem hotel_stays_locked : ¬ ∀ (plan : LatestPlan) (tables : RiskTables) (pool : RiskPool),
    (riskSystem plan tables).Reachable System.unguarded pool →
      ∀ index thread request previous result reset between earlier,
        pool.threads[index]? = some thread → thread.call.route = .signIn request →
          thread.result? = some result →
            AfterReset pool index request.userId previous reset between earlier →
              result ≠ .error .riskBlocked := by
  intro always
  have ended : (Sample.away.threads.get ⟨2, by decide⟩).result? = some (.error .riskBlocked) := by
    rfl
  exact always Sample.plan Sample.tables Sample.away Sample.away_reachable 2
    (Sample.away.threads.get ⟨2, by decide⟩) ⟨js "u", Sample.hotel, 2⟩ (some Sample.home) _ _
    [] _ rfl rfl ended Sample.away_afterReset rfl

end Vortex.Accounts.RiskLock
