import Vortex.Foundation.JsText
import Vortex.Foundation.Monitor

/-!
# Signing in with a password

What the hooks around `/sign-in/email` do for one email address, in lower case. Before
the password is verified, recent failures are counted; after it, a failure is recorded,
or the failures are cleared. The counting, the verification and the writing are separate
steps, so concurrent attempts interleave. How a verification ends and what the limiter of
the address says are parameters of an attempt; times are in milliseconds, in which order
their texts are, too. `verifications` is a record of what has happened that nothing reads.
-/

namespace Vortex.Accounts.SignIn

open Foundation

def LOGIN_LOCKOUT_WINDOW_MS : Nat := 15 * 60 * 1000

def LOGIN_LOCKOUT_MAX_ATTEMPTS : Nat := 5

/-! ## The state -/

structure LoginAttempt where
  email : JsString
  ipAddress : Option JsString
  attemptedAt : Nat

/-- How the endpoint ends: the password is wrong; it is right and the sign-in is refused;
it succeeds; or the endpoint throws something else than an `APIError`. -/
inductive Verdict
  | wrong
  | refused
  | succeeded
  | crashed
deriving DecidableEq

structure Verification where
  email : JsString
  time : Nat
  verdict : Verdict
deriving DecidableEq

structure World where
  clock : Nat
  attempts : List LoginAttempt
  verifications : List Verification

/-! ## Statements -/

inductive SignInStatement
  | recent (email : JsString)
  | verify (email : JsString)
  | record (email : JsString) (ipAddress : Option JsString)
  | clear (email : JsString)
  | prune
  | elapse (ms : Nat)

/-- A statement of the database throws or returns rows; a verification gives its verdict. -/
def signIn : Interface where
  Request := SignInStatement
  Answer
    | .recent _ | .prune => Except Unit (List LoginAttempt)
    | .verify _ => Verdict
    | .record _ _ | .clear _ => Except Unit Unit
    | .elapse _ => Unit

/-- `attemptedAt > cutoff` -/
def LoginAttempt.isRecent (now : Nat) (attempt : LoginAttempt) : Bool :=
  now < attempt.attemptedAt + LOGIN_LOCKOUT_WINDOW_MS

/-- `attemptedAt < cutoff` -/
def LoginAttempt.isExpired (now : Nat) (attempt : LoginAttempt) : Bool :=
  attempt.attemptedAt + LOGIN_LOCKOUT_WINDOW_MS < now

/-! ## Processes -/

/-- An attempt to sign in: whether the limiter of the address permits it, how the verification
ends, and which statements throw. -/
structure Attempt where
  email : JsString
  ipAddress : Option JsString
  permitted : Bool
  verdict : Verdict
  fails : SignInStatement → Bool

inductive SignInCall
  | attempt (attempt : Attempt)
  | prune (fails : Bool)
  | elapse (ms : Nat)

inductive SignInResponse
  | apiError (status : Nat) (message : JsString)
  | failed
  | signedIn
  | pruned (count : Nat)
  | elapsed

abbrev SignInProc : Type := Proc signIn Unit SignInResponse

def perform (statement : SignInStatement) : Proc signIn Unit (signIn.Answer statement) :=
  Proc.request (I := signIn) statement

def isLoginLockedOut (email : JsString) : Proc signIn Unit Bool := do
  match ← perform (.recent email) with
  | .error _ => throw ()
  | .ok rows => return LOGIN_LOCKOUT_MAX_ATTEMPTS ≤ rows.length

/-- A failure to record is logged. -/
def recordFailedLoginAttempt (email : JsString) (ipAddress : Option JsString) :
    Proc signIn Unit Unit := do
  let _ ← perform (.record email ipAddress)
  return ()

/-- A failure to clear is logged. -/
def clearLoginAttempts (email : JsString) : Proc signIn Unit Unit := do
  let _ ← perform (.clear email)
  return ()

/-- `hooks.after`, which does not run where the endpoint has thrown something else. -/
def after (attempt : Attempt) : Verdict → SignInProc
  | .wrong | .refused => do
      recordFailedLoginAttempt attempt.email attempt.ipAddress
      return .failed
  | .succeeded => do
      clearLoginAttempts attempt.email
      return .signedIn
  | .crashed => throw ()

/-- `hooks.before`, the endpoint, and `hooks.after` -/
def signInEmail (attempt : Attempt) : SignInProc :=
  if !attempt.permitted then
    return .apiError 429 (js "Too many login attempts. Please try again later.")
  else do
    if ← isLoginLockedOut attempt.email then return .apiError 401 (js "Invalid credentials")
    let verdict ← perform (.verify attempt.email)
    after attempt verdict

def pruneExpiredLoginAttempts : SignInProc := do
  match ← perform .prune with
  | .error _ => throw ()
  | .ok rows => return .pruned rows.length

def signInProgram : SignInCall → SignInProc
  | .attempt attempt => signInEmail attempt
  | .prune _ => pruneExpiredLoginAttempts
  | .elapse ms => do
      perform (.elapse ms)
      return .elapsed

/-! ## Execution -/

def SignInCall.fails : SignInCall → SignInStatement → Bool
  | .attempt made, statement => made.fails statement
  | .prune fails, _ => fails
  | .elapse _, _ => false

def SignInCall.verdict : SignInCall → Verdict
  | .attempt made => made.verdict
  | _ => .crashed

namespace World

/-- The failures for an address that count, as many as it takes to be locked out. -/
def recent (world : World) (email : JsString) : List LoginAttempt :=
  (world.attempts.filter fun attempt => attempt.email = email && attempt.isRecent world.clock).take
    LOGIN_LOCKOUT_MAX_ATTEMPTS

def verify (world : World) (email : JsString) (verdict : Verdict) : World :=
  { world with verifications := ⟨email, world.clock, verdict⟩ :: world.verifications }

def record (world : World) (email : JsString) (ipAddress : Option JsString) : World :=
  { world with attempts := world.attempts ++ [⟨email, ipAddress, world.clock⟩] }

def clear (world : World) (email : JsString) : World :=
  { world with attempts := world.attempts.filter fun attempt => attempt.email ≠ email }

def prune (world : World) : World :=
  { world with attempts := world.attempts.filter fun attempt => !attempt.isExpired world.clock }

def elapse (world : World) (ms : Nat) : World := { world with clock := world.clock + ms }

end World

def signInHandle (call : SignInCall) : Handler signIn World
  | .recent email, world =>
      if call.fails (.recent email) then some (.error (), world)
      else some (.ok (world.recent email), world)
  | .verify email, world => some (call.verdict, world.verify email call.verdict)
  | .record email ipAddress, world =>
      if call.fails (.record email ipAddress) then some (.error (), world)
      else some (.ok (), world.record email ipAddress)
  | .clear email, world =>
      if call.fails (.clear email) then some (.error (), world) else some (.ok (), world.clear email)
  | .prune, world =>
      if call.fails .prune then some (.error (), world)
      else some (.ok (world.attempts.filter fun attempt => attempt.isExpired world.clock), world.prune)
  | .elapse ms, world => some ((), world.elapse ms)

abbrev SignInPool : Type := Pool signIn Unit SignInResponse SignInCall World

/-- Every interleaving of any number of attempts, cleanups and passages of time. -/
def signInSystem (initial : World → Prop) : System SignInPool (Turn SignInCall) :=
  Pool.system initial signInProgram fun _ => signInHandle

end Vortex.Accounts.SignIn
