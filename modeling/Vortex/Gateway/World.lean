import Vortex.Gateway.Streams

/-!
# The world of the gateway

What the handlers of the signal server share: sockets and the rooms they are in,
the bookkeeping of each replica, the session cache, the revocation store, the
event streams with the pub/sub channel, and the memberships the web app answers
for. Rooms and `socket.data` are one for all replicas, as the Redis adapter makes
them; a state object of `socketStates` is reached by its reference, so a handler can
hold one that its socket has already lost.
-/

namespace Vortex.Gateway

open Foundation

/-- Add to an insertion-ordered set. -/
def insertNew (channel : JsString) (channels : List JsString) : List JsString :=
  if channels.contains channel then channels else channels ++ [channel]

/-- The name of a socket, never used twice. -/
abbrev SocketId : Type := Nat

inductive UserStatus
  | online
  | idle
  | dnd
  | invisible
  | offline
  deriving DecidableEq

def UserStatus.text : UserStatus → JsString
  | .online => js "online"
  | .idle => js "idle"
  | .dnd => js "dnd"
  | .invisible => js "invisible"
  | .offline => js "offline"

def UserStatus.parse (text : JsString) : Option UserStatus :=
  if text = js "online" then some .online
  else if text = js "idle" then some .idle
  else if text = js "dnd" then some .dnd
  else if text = js "invisible" then some .invisible
  else if text = js "offline" then some .offline
  else none

inductive CallSignalType
  | invite
  | cancel
  | accept
  | decline
  deriving DecidableEq

def CallSignalType.parse (text : JsString) : Option CallSignalType :=
  if text = js "invite" then some .invite
  else if text = js "cancel" then some .cancel
  else if text = js "accept" then some .accept
  else if text = js "decline" then some .decline
  else none

/-- The payload of a call signal after its fields were checked. -/
structure CallSignal where
  type : CallSignalType
  withVideo : Option Bool
  callerName : Option JsString
  callerAvatar : Option (Option JsString)

/-- What the server sends to one socket. -/
inductive ServerMessage
  | error (text : JsString)
  | subscribed (channelIds denied : List JsString)
  | event (event : VortexEvent)
  | replay (channelId : JsString) (events : List VortexEvent) (hasMore : Bool)
  | resumeComplete (channels gapTooLarge : List JsString)

/-- What the server sends to rooms. -/
inductive Notice
  | typing (channelId userId : JsString) (isTyping : Bool)
  | callSignal (channelId userId : JsString) (signal : CallSignal)
  | presence (userId : JsString) (status : UserStatus) (updatedAt : Nat)

/-- A notice sent to the rooms of some channels, by a socket or by the server itself. -/
structure Broadcast where
  sender : Option SocketId
  channels : List JsString
  notice : Notice

/-- The events a client can send. -/
inductive ClientEvent
  | subscribe
  | unsubscribe
  | typing
  | callSignal
  | presence
  | resume
  | init
  deriving DecidableEq

/-- An event of a client with its payload, when it has one. -/
structure ClientMessage where
  event : ClientEvent
  data : Option Json

/-- The claims of a verified handshake token. -/
structure VerifiedClaims where
  userId : JsString
  iat : Nat
  deriving DecidableEq

/-- An entry of `sessionValidationCache`. -/
structure SessionEntry where
  validatedAt : Nat
  userId : JsString
  iat : Nat
  deriving DecidableEq

/-- A "revoked before" cutoff of the revocation store. -/
structure Revocation where
  cutoffMs : Nat
  expiresAt : Nat
  deriving DecidableEq

structure GatewaySocketState where
  userId : JsString
  subscribedChannels : List JsString
  status : UserStatus
  statusKnown : Bool

/-- A reference to a state object: the socket it was created for, and a number that
tells the state objects of that socket apart. -/
structure StateRef where
  socket : SocketId
  serial : Nat
  deriving DecidableEq

/-- A socket: the client that opened it, if it is one that uses `useGateway`, whether
it is connected, the rooms it is in, its `data.userId`, its entries in the maps of its
replica, and the messages on their way to the server and to the client, oldest first. -/
structure SocketRecord where
  client : Option Nat
  connected : Bool
  rooms : List JsString
  dataUserId : Option JsString
  session : Option SessionEntry
  state : Option Nat
  windows : List (JsString × Nat)
  upstream : List ClientMessage
  inbox : List ServerMessage

def SocketRecord.fresh : SocketRecord := ⟨none, false, [], none, none, none, [], [], []⟩

/-- The payload of a signed token. -/
structure JwtPayload where
  sub : Option JsString
  iat : Option Nat

/-- What does not change: whether a JWKS is configured, the token each socket's
handshake carried and the replica it is connected to, the payload of a token and when
its signature, audience and expiry verify, and the supply of UUIDs. -/
structure Deployment where
  jwks : Bool
  token : SocketId → Option JsString
  replica : SocketId → Nat
  payload : JsString → JwtPayload
  verifies : JsString → Nat → Bool
  uuid : Nat → JsString
  distinct : Function.Injective uuid

namespace Deployment

/-- The claims of a token that verifies; none when its `sub` is not a string. -/
def claims (deployment : Deployment) (token : JsString) : Option VerifiedClaims :=
  (deployment.payload token).sub.map fun userId =>
    ⟨userId, (deployment.payload token).iat.getD 0⟩

/-- The claims a socket's own handshake token makes. -/
def owner (deployment : Deployment) (socket : SocketId) : Option VerifiedClaims :=
  (deployment.token socket).bind deployment.claims

end Deployment

/-- A program that uses the gateway over one connection after the other, with the
state of `useGateway` and what it has handed to its listeners: the events, and the
channels to reload. `caughtUp` are the channels whose resume has completed on the
present connection. -/
structure Client where
  socket : Option SocketId
  subscribedChannels : List JsString
  lastEventIds : List (JsString × JsString)
  received : List VortexEvent
  reloads : List JsString
  caughtUp : List JsString

/-- The name of a client. -/
abbrev ClientId : Type := Nat

structure World where
  clock : Nat
  jwksDown : Bool
  storeDown : Bool
  adapterDown : Bool
  webAppDown : Bool
  signalDown : Bool
  busDestroyed : Bool
  /-- The outcomes of the next commands on the stream of each channel, and on the
  pub/sub channel; commands succeed once these have run out. -/
  redisOutcomes : Option JsString → List Bool
  connections : Nat
  sockets : SocketId → SocketRecord
  states : StateRef → GatewaySocketState
  allocated : Nat
  activeTyping : List (JsString × JsString)
  closing : List StateRef
  revocations : JsString → Option Revocation
  members : List (JsString × JsString)
  streams : JsString → Stream
  published : Nat → List VortexEvent
  drawn : Nat
  broadcasts : List Broadcast
  clients : ClientId → Client

namespace World

/-- A server nobody has connected to. -/
def blank : World where
  clock := 0
  jwksDown := false
  storeDown := false
  adapterDown := false
  webAppDown := false
  signalDown := false
  busDestroyed := false
  redisOutcomes := fun _ => []
  connections := 0
  sockets := fun _ => .fresh
  states := fun _ => ⟨[], [], .online, false⟩
  allocated := 0
  activeTyping := []
  closing := []
  revocations := fun _ => none
  members := []
  streams := fun _ => .empty
  published := fun _ => []
  drawn := 0
  broadcasts := []
  clients := fun _ => ⟨none, [], [], [], [], []⟩

def setSocket (world : World) (socket : SocketId) (record : SocketRecord) : World :=
  { world with sockets := Function.update world.sockets socket record }

def setState (world : World) (ref : StateRef) (state : GatewaySocketState) : World :=
  { world with states := Function.update world.states ref state }

def broadcast (world : World) (broadcast : Broadcast) : World :=
  { world with broadcasts := broadcast :: world.broadcasts }

/-! ## Sockets -/

/-- `socket.emit`; nothing reaches a socket that is gone. -/
def emit (socket : SocketId) (message : ServerMessage) (world : World) : World :=
  let record := world.sockets socket
  if record.connected then
    world.setSocket socket { record with inbox := record.inbox ++ [message] }
  else world

/-- `socket.join`; a socket that is gone joins nothing. -/
def join (socket : SocketId) (channel : JsString) (world : World) : World :=
  let record := world.sockets socket
  if record.connected then
    world.setSocket socket { record with rooms := insertNew channel record.rooms }
  else world

def leave (socket : SocketId) (channel : JsString) (world : World) : World :=
  let record := world.sockets socket
  world.setSocket socket { record with rooms := record.rooms.filter (· ≠ channel) }

/-- The state object of a socket: the one it has, or the next one to be created. -/
def stateRef (socket : SocketId) (world : World) : StateRef :=
  ⟨socket, (world.sockets socket).state.getD world.allocated⟩

def createState (ref : StateRef) (userId : JsString) (world : World) : World :=
  ({ world with allocated := world.allocated + 1 }.setState ref
    ⟨userId, [], .online, false⟩).setSocket ref.socket
      { world.sockets ref.socket with state := some ref.serial }

/-- `getOrCreateState(socket.id, userId)`, which returns the state `stateRef`. -/
def getOrCreateState (socket : SocketId) (userId : JsString) (world : World) : World :=
  let ref := world.stateRef socket
  if (world.sockets socket).state.isSome then
    world.setState ref { world.states ref with userId := userId }
  else world.createState ref userId

/-- `socket.data.userId = userId` -/
def setOwner (socket : SocketId) (userId : JsString) (world : World) : World :=
  world.setSocket socket { world.sockets socket with dataUserId := some userId }

/-- `state.subscribedChannels.add(channel)` -/
def addChannel (ref : StateRef) (channel : JsString) (world : World) : World :=
  let state := world.states ref
  world.setState ref { state with subscribedChannels := insertNew channel state.subscribedChannels }

/-- `state.subscribedChannels.delete(channel)` -/
def removeChannel (ref : StateRef) (channel : JsString) (world : World) : World :=
  let state := world.states ref
  world.setState ref
    { state with subscribedChannels := state.subscribedChannels.filter (· ≠ channel) }

/-- `broadcastPresenceToChannels(socket, state, channels)`, by the socket of the state. -/
def broadcastPresenceToChannels (ref : StateRef) (channels : List JsString)
    (world : World) : World :=
  let state := world.states ref
  if !state.statusKnown || channels.isEmpty then world
  else
    world.broadcast
      { sender := some ref.socket
        channels := channels
        notice := .presence state.userId
          (if state.status = .invisible then .offline else state.status) world.clock }

/-- The typing entries of a closing socket, with the notices that they have stopped. -/
def stopTyping (state : GatewaySocketState) (world : World) : World :=
  state.subscribedChannels.foldl (fun world channel =>
    if world.activeTyping.contains (state.userId, channel) then
      { world with activeTyping := world.activeTyping.filter (· ≠ (state.userId, channel)) }.broadcast
        ⟨none, [channel], .typing channel state.userId false⟩
    else world) world

/-- Leave a state object to the rest of its socket's `disconnect` handler. -/
def beginClosing (ref : StateRef) (world : World) : World :=
  { world with closing := world.closing ++ [ref] }

/-- What happens at once when a socket is gone: it leaves its rooms, and the
`disconnect` handlers run up to their first suspension. What was sent to the client
may still reach it. -/
def close (socket : SocketId) (world : World) : World :=
  let record := world.sockets socket
  if !record.connected then world
  else
    let gone := { record with connected := false, rooms := [], session := none, upstream := [] }
    match record.state with
    | none => world.setSocket socket gone
    | some serial =>
        let ref := ⟨socket, serial⟩
        ((world.stopTyping (world.states ref)).beginClosing ref).setSocket socket
          { gone with state := none, windows := [] }

/-- The connected sockets, or those of them in a room, with the owner recorded on
each. -/
def connectedIn (room : Option JsString) (world : World) : List (SocketId × Option JsString) :=
  ((List.range world.connections).filter fun socket =>
    (world.sockets socket).connected &&
      room.all fun channel => (world.sockets socket).rooms.contains channel).map fun socket =>
    (socket, (world.sockets socket).dataUserId)

end World

end Vortex.Gateway
