import Vortex.Foundation.Monitor
import Vortex.Gateway.EventBus
import Vortex.Gateway.Sessions

/-!
# The handlers of the gateway

The handlers of `gateway.ts`, the endpoints of the signal server that revoke sessions
and channel access, and the removal of a member by the web app, as the programs of
one pool.
-/

namespace Vortex.Gateway

open Foundation

/-! ## Payloads -/

/-- `typeof data === "object" && data !== null` -/
def isObject : Option Json → Bool
  | some (.obj _) => true
  | some (.arr _) => true
  | _ => false

/-- A property of a payload that is an object. -/
def property (data : Option Json) (name : JsString) : Option Json := data.bind (Json.get? name)

/-- A string that is not empty. -/
def nonEmptyString? (value : Option Json) : Option JsString :=
  (Json.string? value).filter fun text => !text.isEmpty

def bool? : Option Json → Option Bool
  | some (.bool value) => some value
  | _ => none

/-- The items when all of them are strings that are not empty. -/
def allNonEmptyStrings? : List Json → Option (List JsString)
  | [] => some []
  | item :: rest =>
      match nonEmptyString? (some item), allNonEmptyStrings? rest with
      | some text, some texts => some (text :: texts)
      | _, _ => none

/-- The number an array index stands for. -/
def arrayIndex? (key : JsString) : Option Nat :=
  let number := key.foldl (fun number digit => 10 * number + (digit.toNat - 48)) 0
  if key = decimalText number ∧ number < 4294967295 then some number else none

/-- The own properties of a value, as its text lists them. -/
def ownProperties : Json → List (JsString × Json)
  | .obj members => members
  | .arr items => items.zipIdx.map fun (item, index) => (decimalText index, item)
  | _ => []

/-- `Object.entries(value)`: a repeated name has its last value, and array indices come
first, in their order. -/
def objectEntries (value : Json) : List (JsString × Json) :=
  let entries := (ownProperties value).foldl
    (fun entries entry => setEntry entry.1 entry.2 entries) []
  let indices := (entries.filter fun entry => (arrayIndex? entry.1).isSome).mergeSort
    fun first second => (arrayIndex? first.1).getD 0 ≤ (arrayIndex? second.1).getD 0
  indices ++ entries.filter fun entry => !(arrayIndex? entry.1).isSome

def invalidPayload (event : String) : ServerMessage :=
  .error (js "Invalid " ++ js event ++ js " payload")

def rateLimitExceeded (event : String) : ServerMessage :=
  .error (js "Rate limit exceeded for " ++ js event)

/-! ## Subscriptions -/

/-- `getSessionUserId(socket)`; an empty id counts as none. -/
def getSessionUserId (socket : SocketId) : Proc gateway Unit (Option JsString) := do
  let cached : Option SessionEntry ← ask (.sessionOf socket)
  pure ((cached.map SessionEntry.userId).filter fun userId => !userId.isEmpty)

def refuse (socket : SocketId) (message : ServerMessage) : Proc gateway Unit Unit :=
  ask (.emit socket message)

/-- Check the memberships and join what was granted. -/
def joinChannels (socket : SocketId) (userId : JsString) (channelIds : List JsString) :
    Proc gateway Unit Unit := do
  let validChannels : List JsString ← ask (.checkChannelAccess userId channelIds)
  ask (.enroll socket userId validChannels
    (channelIds.filter fun id => !validChannels.contains id))

/-- The requested channels of a subscription, with what is wrong with them. -/
def requestedChannels (data : Option Json) : Except ServerMessage (List JsString) :=
  match Json.array? (property data (js "channelIds")) with
  | none => .error (.error (js "channelIds must be a non-empty array"))
  | some channelIds =>
      if channelIds.isEmpty then .error (.error (js "channelIds must be a non-empty array"))
      else if 100 < channelIds.length then
        .error (.error (js "Cannot subscribe to more than 100 channels at once"))
      else
        match allNonEmptyStrings? channelIds with
        | none => .error (.error (js "Each channelId must be a non-empty string"))
        | some channelIds => .ok channelIds

def subscribeAs (socket : SocketId) (data : Option Json) : Proc gateway Unit Unit := do
  let userId ← getSessionUserId socket
  match userId with
  | none => refuse socket (.error (js "Authentication required"))
  | some userId =>
      match requestedChannels data with
      | .error message => refuse socket message
      | .ok channelIds => joinChannels socket userId channelIds

/-- Go on unless the rate limit is exceeded or the session does not validate. -/
def whenValid (deployment : Deployment) (socket : SocketId) (event : JsString) (limit : Nat)
    (limited body : Proc gateway Unit Unit) : Proc gateway Unit Unit := do
  let allowed : Bool ← ask (.checkRate socket event limit)
  if !allowed then limited
  else do
    if ← validateSession deployment socket then body else pure ()

/-- `gateway:subscribe` -/
def subscribe (deployment : Deployment) (socket : SocketId) (data : Option Json) :
    Proc gateway Unit Unit :=
  if !isObject data then refuse socket (invalidPayload "gateway:subscribe")
  else
    whenValid deployment socket (js "subscribe") SUBSCRIBE_RATE_LIMIT
      (refuse socket (rateLimitExceeded "gateway:subscribe")) (subscribeAs socket data)

/-- `gateway:unsubscribe` -/
def unsubscribe (socket : SocketId) (data : Option Json) : Proc gateway Unit Unit :=
  match Json.array? (property data (js "channelIds")) with
  | none => pure ()
  | some channelIds =>
      ask (.unenroll socket (channelIds.filterMap fun id => Json.string? (some id)))

/-! ## Typing, calls and presence -/

/-- `gateway:typing` -/
def typing (deployment : Deployment) (socket : SocketId) (data : Option Json) :
    Proc gateway Unit Unit :=
  match nonEmptyString? (property data (js "channelId")), bool? (property data (js "isTyping")) with
  | some channelId, some isTyping =>
      whenValid deployment socket (js "typing") TYPING_RATE_LIMIT (pure ())
        (ask (.typing socket channelId isTyping))
  | _, _ => pure ()

def parseCallSignal (data : Option Json) (type : CallSignalType) : CallSignal where
  type := type
  withVideo := bool? (property data (js "withVideo"))
  callerName := Json.string? (property data (js "callerName"))
  callerAvatar :=
    match property data (js "callerAvatar") with
    | some .null => some none
    | avatar => (Json.string? avatar).map some

/-- `gateway:call-signal` -/
def callSignal (deployment : Deployment) (socket : SocketId) (data : Option Json) :
    Proc gateway Unit Unit :=
  match nonEmptyString? (property data (js "channelId")),
      (Json.string? (property data (js "type"))).bind CallSignalType.parse with
  | some channelId, some type =>
      whenValid deployment socket (js "call-signal") CALL_SIGNAL_RATE_LIMIT (pure ())
        (ask (.callSignal socket channelId (parseCallSignal data type)))
  | _, _ => pure ()

def setPresence (socket : SocketId) (status : UserStatus) : Proc gateway Unit Unit := do
  let state : Option Nat ← ask (.setStatus socket status)
  match state with
  | none => pure ()
  | some serial => do
      let _ ← ask .writePresence
      ask (.announce ⟨socket, serial⟩)

/-- `gateway:presence` -/
def presence (deployment : Deployment) (socket : SocketId) (data : Option Json) :
    Proc gateway Unit Unit :=
  match (Json.string? (property data (js "status"))).bind UserStatus.parse with
  | none => pure ()
  | some status =>
      whenValid deployment socket (js "presence") PRESENCE_RATE_LIMIT (pure ())
        (setPresence socket status)

def initAs (socket : SocketId) (status : UserStatus) : Proc gateway Unit Unit := do
  let userId ← getSessionUserId socket
  match userId with
  | none => pure ()
  | some userId => do
      let serial : Nat ← ask (.init socket userId status)
      let _ ← ask .writePresence
      ask (.announce ⟨socket, serial⟩)

/-- `gateway:init` -/
def init (deployment : Deployment) (socket : SocketId) (data : Option Json) :
    Proc gateway Unit Unit := do
  if ← validateSession deployment socket then
    initAs socket
      (((Json.string? (property data (js "status"))).bind UserStatus.parse).getD .online)
  else pure ()

/-! ## Resumption -/

/-- The channels of a resume that come with the id of an event. -/
def cursorsOf (entries : List (JsString × Json)) : List (JsString × JsString) :=
  entries.filterMap fun entry => (Json.string? (some entry.2)).map fun cursor => (entry.1, cursor)

/-- The outcome of a resume, channel by channel. -/
structure ResumeReport where
  rejoined : List JsString
  channels : List JsString
  gapTooLarge : List JsString

def ResumeReport.add (report : ResumeReport) (channelId : JsString) (rejoined replayed : Bool) :
    ResumeReport where
  rejoined := if rejoined then report.rejoined ++ [channelId] else report.rejoined
  channels := if replayed then report.channels ++ [channelId] else report.channels
  gapTooLarge := if replayed then report.gapTooLarge else report.gapTooLarge ++ [channelId]

/-- Replay what a socket missed on a channel: whether that did not throw. -/
def replayChannel (socket : SocketId) (channelId lastEventId : JsString) :
    Proc gateway Unit Bool :=
  tryCatch (do
    let events ← EventBus.replay channelId lastEventId MAX_REPLAY_EVENTS
    if events.isEmpty then pure true
    else do
      let _ ← ask (.emit socket (.replay channelId events (MAX_REPLAY_EVENTS ≤ events.length)))
      pure true)
    fun _ => pure false

/-- Rejoin the granted channels one after the other. -/
def replayChannels (ref : StateRef) :
    List (JsString × JsString) → ResumeReport → Proc gateway Unit ResumeReport
  | [], report => pure report
  | (channelId, lastEventId) :: cursors, report => do
      let rejoined : Bool ← ask (.rejoin ref channelId)
      let replayed ← replayChannel ref.socket channelId lastEventId
      replayChannels ref cursors (report.add channelId rejoined replayed)

/-- Check the memberships, rejoin what was granted and report. -/
def resumeChannels (socket : SocketId) (userId : JsString) (cursors : List (JsString × JsString)) :
    Proc gateway Unit Unit := do
  let allowed : List JsString ← ask (.checkChannelAccess userId (cursors.map Prod.fst))
  let serial : Nat ← ask (.establish socket userId)
  let report ← replayChannels ⟨socket, serial⟩
    (cursors.filter fun cursor => allowed.contains cursor.1) ⟨[], [], []⟩
  ask (.complete ⟨socket, serial⟩ report.rejoined report.channels report.gapTooLarge)

def resumeAs (socket : SocketId) (data : Option Json) : Proc gateway Unit Unit := do
  let userId ← getSessionUserId socket
  match userId with
  | none => pure ()
  | some userId =>
      let channels := property data (js "channels")
      if !isObject channels then
        refuse socket (.error (js "channels must be a Record<channelId, lastEventId>"))
      else
        let entries := objectEntries (channels.getD .null)
        if 100 < entries.length then
          refuse socket (.error (js "Cannot resume more than 100 channels at once"))
        else resumeChannels socket userId (cursorsOf entries)

/-- `gateway:resume` -/
def resume (deployment : Deployment) (socket : SocketId) (data : Option Json) :
    Proc gateway Unit Unit :=
  if !isObject data then refuse socket (invalidPayload "gateway:resume")
  else
    whenValid deployment socket (js "resume") SUBSCRIBE_RATE_LIMIT
      (refuse socket (rateLimitExceeded "gateway:resume")) (resumeAs socket data)

/-- The handler of the next event of a socket. -/
def serve (deployment : Deployment) (socket : SocketId) : Proc gateway Unit Unit := do
  let message : ClientMessage ← ask (.receive socket)
  match message.event with
  | .subscribe => subscribe deployment socket message.data
  | .unsubscribe => unsubscribe socket message.data
  | .typing => typing deployment socket message.data
  | .callSignal => callSignal deployment socket message.data
  | .presence => presence deployment socket message.data
  | .resume => resume deployment socket message.data
  | .init => init deployment socket message.data

/-! ## Disconnection and revocation -/

/-- The rest of the `disconnect` handler, when the socket was the user's last one. -/
def disconnected : Proc gateway Unit Unit := do
  let (ref, userId) ← (ask .nextClosing : Proc gateway Unit (StateRef × JsString))
  let sockets : Except Unit (List (SocketId × Option JsString)) ← ask (.fetchSockets none)
  match sockets with
  | .ok sockets =>
      if sockets.any fun socket => socket.2 = some userId then pure ()
      else ask (.announceOffline ref)
  | .error _ => ask (.announceOffline ref)

/-- `/revoke-sessions`: whether the revocation was persisted and the sockets found. -/
def revokeSessions (userId : JsString) : Proc gateway Unit Bool := do
  let cutoffMs : Nat ← ask .now
  let persisted : Bool ← ask (.persistCutoff userId cutoffMs)
  if !persisted then pure false
  else do
    let sockets ← command (ask (.fetchSockets none))
    let _ ← ask (.disconnectAll userId sockets)
    pure true

/-- `revokeChannelAccess` on a replica. -/
def revokeChannelAccess (replica : Nat) (userId channelId : JsString) : Proc gateway Unit Unit := do
  let sockets : Except Unit (List (SocketId × Option JsString)) ←
    ask (.fetchSockets (some channelId))
  ask (.dropChannel replica userId channelId (sockets.toOption.getD []))

/-- Remove a member in the web app and revoke the access on the replica that is
reached: whether both were done. -/
def removeMember (replica : Nat) (userId channelId : JsString) : Proc gateway Unit Bool := do
  let deleted : Bool ← ask (.deleteMember userId channelId)
  if !deleted then pure false
  else do
    let reached : Bool ← ask .reachSignal
    if !reached then pure false
    else do
      revokeChannelAccess replica userId channelId
      pure true

/-! ## The pool -/

inductive Call
  | serve (socket : SocketId)
  | validate (socket : SocketId)
  | disconnected
  | revokeSessions (userId : JsString)
  | revokeChannelAccess (replica : Nat) (userId channelId : JsString)
  | removeMember (replica : Nat) (userId channelId : JsString)
  | publish (event : PartialEvent)
  | act (action : Action)

/-- The program of a call; its result says whether it did what it was called for. -/
def program (deployment : Deployment) : Call → Proc gateway Unit Bool
  | .serve socket => do serve deployment socket; pure true
  | .validate socket => validateSession deployment socket
  | .disconnected => do disconnected; pure true
  | .revokeSessions userId => revokeSessions userId
  | .revokeChannelAccess replica userId channelId => do
      revokeChannelAccess replica userId channelId
      pure true
  | .removeMember replica userId channelId => removeMember replica userId channelId
  | .publish event => do
      let _ ← EventBus.publish event
      pure true
  | .act action => do
      let _ ← ask (.act action)
      pure true

abbrev GatewayPool : Type := Pool gateway Unit Bool Call World

/-- A server nobody has connected to, whatever its commands to Redis will come to. -/
def Initial (world : World) : Prop :=
  ∃ outcomes, world = { World.blank with redisOutcomes := outcomes }

/-- Every interleaving of handlers, revocations, removals and publishers. -/
def gatewaySystem (deployment : Deployment) : System GatewayPool (Turn Call) :=
  Pool.system Initial (program deployment) fun _ _ => handle deployment

end Vortex.Gateway
