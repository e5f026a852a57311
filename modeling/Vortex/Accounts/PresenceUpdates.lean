import Vortex.Foundation.Pool
import Vortex.Foundation.Table
import Vortex.Gateway.World

/-!
# Stored presence

`POST /api/presence`, which stores the status of a user, and the cron job that marks users
offline whose heartbeat is stale. Both read in one statement and write in another, so
they interleave. Times are in milliseconds, in which order their texts are, too. `hidden`
and `exposed` are a record of what has happened that nothing reads.
-/

namespace Vortex.Accounts.Presence

open Foundation
open Vortex.Gateway (UserStatus)

def PRESENCE_STALE_THRESHOLD_MS : Nat := 90000

def BATCH_SIZE : Nat := 50

/-! ## The state -/

/-- The columns of a user that say whether it is there. -/
structure UserRow where
  id : JsString
  status : UserStatus
  updatedAt : Nat
  lastHeartbeatAt : Option Nat
  lastOnlineAt : Option Nat

/-- The clock and the users; for each user who has become invisible and has not been stored
as visible since, the last time online that was stored then; and the users the cron job
has found invisible and marked offline. -/
structure World where
  clock : Nat
  users : Table UserRow JsString UserRow.id
  hidden : JsString → Option (Option Nat)
  exposed : List JsString

/-! ## Statements -/

inductive PresenceStatement
  | now
  | selectStatus (userId : JsString)
  | update (userId : JsString) (status : UserStatus) (now : Nat) (setLastOnlineAt : Bool)
  | selectStale (now : Nat)
  | markOffline (batch : List JsString) (now : Nat)
  | elapse (ms : Nat)

/-- A statement of the database throws or answers. -/
def presence : Interface where
  Request := PresenceStatement
  Answer
    | .now => Nat
    | .selectStatus _ => Except Unit (Option UserStatus)
    | .update _ _ _ _ => Except Unit (Option JsString)
    | .selectStale _ => Except Unit (List JsString)
    | .markOffline _ _ => Except Unit (List JsString)
    | .elapse _ => Unit

/-- `isNull(lastHeartbeatAt) or lastHeartbeatAt < staleThreshold` -/
def UserRow.isStale (now : Nat) (row : UserRow) : Bool :=
  match row.lastHeartbeatAt with
  | none => true
  | some heartbeat => heartbeat + PRESENCE_STALE_THRESHOLD_MS < now

/-! ## Processes -/

/-- A request to store a status: whose session it carries, whether the limiter turns it
down, its body where it is JSON, and which statements throw. -/
structure PresenceRequest where
  user : Option JsString
  limited : Bool
  body : Option Json
  fails : PresenceStatement → Bool

/-- A run of the cron job: whether it is authorized, and which statements throw. -/
structure CleanupRequest where
  configured : Bool
  verified : Bool
  fails : PresenceStatement → Bool

inductive PresenceCall
  | post (request : PresenceRequest)
  | cleanup (request : CleanupRequest)
  | elapse (ms : Nat)

inductive PresenceResponse
  | error (status : Nat) (message : JsString)
  | ok
  | cleaned (count : Nat)
  | elapsed
  deriving DecidableEq

abbrev PresenceProc : Type := Proc presence Unit PresenceResponse

def perform (statement : PresenceStatement) : Proc presence Unit (presence.Answer statement) :=
  Proc.request (I := presence) statement

/-- Whether the transition sets `last_online_at`: not where the user was invisible. -/
def recordsLastOnline : Option UserStatus → Bool
  | some current => current ≠ .invisible
  | none => false

def storeStatus (userId : JsString) (status : UserStatus) (now : Nat) (setLastOnlineAt : Bool) :
    PresenceProc := do
  match ← perform (.update userId status now setLastOnlineAt) with
  | .error _ => return .error 500 (js "Failed to update status")
  | .ok none => return .error 404 (js "User not found")
  | .ok (some _) => return .ok

/-- `POST /api/presence`. What a read throws ends in the outermost handler. -/
def presencePOST (request : PresenceRequest) : PresenceProc :=
  match request.user with
  | none => return .error 401 (js "Unauthorized")
  | some userId =>
      if request.limited then
        return .error 429 (js "Too many requests. Please try again later.")
      else
        match request.body with
        | some (.obj members) =>
            match (Json.string? ((Json.obj members).get? (js "status"))).bind UserStatus.parse with
            | none => return .error 400 (js "Invalid status")
            | some status => do
                let now ← perform .now
                if status = .offline then
                  match ← perform (.selectStatus userId) with
                  | .error _ => return .error 500 (js "Internal server error")
                  | .ok current => storeStatus userId status now (recordsLastOnline current)
                else storeStatus userId status now false
        | _ => return .error 400 (js "Invalid body")

/-- A batch whose update fails is skipped. -/
def markBatches (now : Nat) : List (List JsString) → Nat → PresenceProc
  | [], count => return .cleaned count
  | batch :: batches, count => do
      match ← perform (.markOffline batch now) with
      | .error _ => markBatches now batches count
      | .ok rows => markBatches now batches (count + rows.length)

/-- The slices of `BATCH_SIZE` elements. -/
def batchesOf (ids : List JsString) : List (List JsString) :=
  (List.range ((ids.length + (BATCH_SIZE - 1)) / BATCH_SIZE)).map fun index =>
    (ids.drop (index * BATCH_SIZE)).take BATCH_SIZE

/-- `GET /api/cron/presence-cleanup` -/
def presenceCleanup (request : CleanupRequest) : PresenceProc :=
  if !request.configured then return .error 500 (js "CRON_SECRET not configured")
  else if !request.verified then return .error 401 (js "Unauthorized")
  else do
    let now ← perform .now
    match ← perform (.selectStale now) with
    | .error _ => return .error 500 (js "Query failed")
    | .ok staleIds => markBatches now (batchesOf staleIds) 0

def presenceProgram : PresenceCall → PresenceProc
  | .post request => presencePOST request
  | .cleanup request => presenceCleanup request
  | .elapse ms => do
      perform (.elapse ms)
      return .elapsed

/-! ## Execution -/

def PresenceCall.fails : PresenceCall → PresenceStatement → Bool
  | .post request, statement => request.fails statement
  | .cleanup request, statement => request.fails statement
  | .elapse _, _ => false

namespace World

/-- What an update writes: an offline write keeps the heartbeat. -/
def written (status : UserStatus) (now : Nat) (setLastOnlineAt : Bool) (row : UserRow) : UserRow :=
  { row with
    status
    updatedAt := now
    lastHeartbeatAt := if status = .offline then row.lastHeartbeatAt else some now
    lastOnlineAt := if setLastOnlineAt then some now else row.lastOnlineAt }

/-- A user is hidden from the time it is stored as invisible until it is stored as visible. -/
def hide (world : World) (row : UserRow) : UserStatus → JsString → Option (Option Nat)
  | .invisible =>
      Function.update world.hidden row.id (some ((world.hidden row.id).getD row.lastOnlineAt))
  | .offline => world.hidden
  | .online | .idle | .dnd => Function.update world.hidden row.id none

def update (world : World) (row : UserRow) (status : UserStatus) (now : Nat)
    (setLastOnlineAt : Bool) : World :=
  { world with
    users := world.users.updateWhere (fun stored => stored.id = row.id)
      (written status now setLastOnlineAt) fun _ => rfl
    hidden := world.hide row status }

/-- The users the cron job takes for stale, at most 500 of them. -/
def stale (world : World) (now : Nat) : List JsString :=
  ((world.users.rows.filter fun row =>
    [UserStatus.online, .idle, .dnd].contains row.status && row.isStale now).take 500).map UserRow.id

/-- The users of a batch that are still stale. -/
def stillStale (batch : List JsString) (now : Nat) (row : UserRow) : Bool :=
  batch.contains row.id && row.isStale now

def markOffline (world : World) (batch : List JsString) (now : Nat) : World :=
  { world with
    users := world.users.updateWhere (stillStale batch now)
      (fun row => { row with status := .offline, updatedAt := now, lastOnlineAt := some now })
      fun _ => rfl
    exposed := world.exposed ++ (world.users.rows.filter fun row =>
      stillStale batch now row && row.status = .invisible).map UserRow.id }

def elapse (world : World) (ms : Nat) : World := { world with clock := world.clock + ms }

end World

def presenceHandle (call : PresenceCall) : Handler presence World
  | .now, world => some (world.clock, world)
  | .selectStatus userId, world =>
      if call.fails (.selectStatus userId) then some (.error (), world)
      else some (.ok ((world.users.find? userId).map UserRow.status), world)
  | .update userId status now setLastOnlineAt, world =>
      if call.fails (.update userId status now setLastOnlineAt) then some (.error (), world)
      else
        match world.users.find? userId with
        | none => some (.ok none, world)
        | some row => some (.ok (some userId), world.update row status now setLastOnlineAt)
  | .selectStale now, world =>
      if call.fails (.selectStale now) then some (.error (), world)
      else some (.ok (world.stale now), world)
  | .markOffline batch now, world =>
      if call.fails (.markOffline batch now) then some (.error (), world)
      else some (.ok ((world.users.rows.filter (World.stillStale batch now)).map UserRow.id),
        world.markOffline batch now)
  | .elapse ms, world => some ((), world.elapse ms)

abbrev PresencePool : Type := Pool presence Unit PresenceResponse PresenceCall World

/-- Every interleaving of any number of requests, cron jobs and passages of time. -/
def presenceSystem (initial : World → Prop) : System PresencePool (Turn PresenceCall) :=
  Pool.system initial presenceProgram fun _ => presenceHandle

end Vortex.Accounts.Presence
