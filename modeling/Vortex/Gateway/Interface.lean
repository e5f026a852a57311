import Vortex.Foundation.Proc
import Vortex.Gateway.ChannelAccess
import Vortex.Gateway.World

/-!
# The requests of the gateway

Every handler runs without interruption between two of its suspensions, so each such
stretch that touches shared state is one request, as is each call it waits for. The
environment acts by requests of its own: it moves the clock, breaks and mends the
services, opens and closes connections, and carries messages.
-/

namespace Vortex.Gateway

open Foundation
open Vortex.Web (startsWith)

def SESSION_REVALIDATION_TTL_MS : Nat := 10000

def SESSION_FALLBACK_MAX_AGE_MS : Nat := 15000

def REVOCATION_TTL_SECONDS : Nat := 20 * 60

def TYPING_RATE_LIMIT : Nat := 30

def PRESENCE_RATE_LIMIT : Nat := 12

def CALL_SIGNAL_RATE_LIMIT : Nat := 20

def SUBSCRIBE_RATE_LIMIT : Nat := 30

/-- What the environment can do. -/
inductive Action
  | wait (ms : Nat)
  | jwks (down : Bool)
  | store (down : Bool)
  | adapter (down : Bool)
  | webApp (down : Bool)
  | signal (down : Bool)
  | destroyBus
  | addMember (userId channelId : JsString)
  | connect
  | close (socket : SocketId)
  | send (socket : SocketId) (message : ClientMessage)
  | typingTimeout (userId channelId : JsString)
  | dispatch (replica : Nat)
  | trim (channelId : JsString) (count : Nat)
  | clientConnect (client : ClientId)
  | clientSubscribe (client : ClientId) (channelIds : List JsString)
  | clientReceive (client : ClientId)
  | clientDisconnect (client : ClientId)

/-- What a handler asks of the world, with the answers (`Request.Answer`). -/
inductive Request
  | receive (socket : SocketId)
  | checkRate (socket : SocketId) (event : JsString) (limit : Nat)
  | now
  | sessionOf (socket : SocketId)
  | verifyAuthToken (token : JsString)
  | isRevoked (userId : JsString) (tokenIatSeconds : Nat)
  | setSession (socket : SocketId) (claims : VerifiedClaims)
  | deleteSession (socket : SocketId)
  | disconnect (socket : SocketId)
  | emit (socket : SocketId) (message : ServerMessage)
  | checkChannelAccess (userId : JsString) (channelIds : List JsString)
  | enroll (socket : SocketId) (userId : JsString) (validChannels denied : List JsString)
  | unenroll (socket : SocketId) (channelIds : List JsString)
  | typing (socket : SocketId) (channelId : JsString) (isTyping : Bool)
  | callSignal (socket : SocketId) (channelId : JsString) (signal : CallSignal)
  | setStatus (socket : SocketId) (status : UserStatus)
  | writePresence
  | announce (ref : StateRef)
  | init (socket : SocketId) (userId : JsString) (status : UserStatus)
  | establish (socket : SocketId) (userId : JsString)
  | rejoin (ref : StateRef) (channelId : JsString)
  | complete (ref : StateRef) (rejoined channels gapTooLarge : List JsString)
  | nextClosing
  | announceOffline (ref : StateRef)
  | xrevrange (channelId : JsString) (endId : Option StreamId) (count : Nat)
  | xrange (channelId : JsString) (after : Option StreamId) (count : Nat)
  | busDestroyed
  | stamp
  | xadd (event : VortexEvent)
  | publish (event : VortexEvent)
  | fetchSockets (room : Option JsString)
  | persistCutoff (userId : JsString) (cutoffMs : Nat)
  | disconnectAll (userId : JsString) (sockets : List (SocketId × Option JsString))
  | deleteMember (userId channelId : JsString)
  | reachSignal
  | dropChannel (replica : Nat) (userId channelId : JsString)
      (sockets : List (SocketId × Option JsString))
  | act (action : Action)

/-- The type of the answer to a request. -/
def Request.Answer : Request → Type
  | .receive _ => ClientMessage
  | .checkRate _ _ _ => Bool
  | .now => Nat
  | .sessionOf _ => Option SessionEntry
  | .verifyAuthToken _ => Except Unit (Option VerifiedClaims)
  | .isRevoked _ _ => Except Unit Bool
  | .setSession _ _ => Nat
  | .checkChannelAccess _ _ => List JsString
  | .setStatus _ _ => Option Nat
  | .init _ _ _ => Nat
  | .establish _ _ => Nat
  | .rejoin _ _ => Bool
  | .nextClosing => StateRef × JsString
  | .xrevrange _ _ _ => Except Unit (List StreamEntry)
  | .xrange _ _ _ => Except Unit (List StreamEntry)
  | .busDestroyed => Bool
  | .stamp => JsString × Nat
  | .xadd _ => Except Unit Unit
  | .publish _ => Except Unit Unit
  | .fetchSockets _ => Except Unit (List (SocketId × Option JsString))
  | .persistCutoff _ _ => Bool
  | .deleteMember _ _ => Bool
  | .reachSignal => Bool
  | _ => Unit

def gateway : Interface := ⟨Request, Request.Answer⟩

/-- Issue a request and wait for its answer. -/
def ask (request : Request) : Proc gateway Unit request.Answer :=
  Proc.request (I := gateway) request

namespace World

/-! ## Sessions -/

/-- `SessionRevocationStore.isRevoked`, where the store answers. -/
def isRevoked (userId : JsString) (tokenIatSeconds : Nat) (world : World) : Bool :=
  match world.revocations userId with
  | none => false
  | some entry => world.clock ≤ entry.expiresAt && tokenIatSeconds * 1000 < entry.cutoffMs

def setSession (socket : SocketId) (session : Option SessionEntry) (world : World) : World :=
  world.setSocket socket { world.sockets socket with session := session }

/-- `gatewayLimiter.check(socket.id, event, limit, 60_000)` -/
def checkRate (socket : SocketId) (event : JsString) (limit : Nat) (world : World) : Bool × World :=
  let record := world.sockets socket
  let recent := record.windows.filter fun window =>
    window.1 ≠ event || world.clock < window.2 + 60000
  let allowed := (recent.filter fun window => window.1 = event).length < limit
  (allowed, world.setSocket socket
    { record with windows := if allowed then recent ++ [(event, world.clock)] else recent })

/-- The sweep of `/revoke-sessions`. -/
def disconnectAll (userId : JsString) (sockets : List (SocketId × Option JsString))
    (world : World) : World :=
  sockets.foldl (fun world socket =>
    if socket.2 = some userId then
      ((world.setSession socket.1 none).emit socket.1 (.error (js "Session revoked"))).close socket.1
    else world) world

/-! ## Channels -/

/-- The membership check: the user's own channel, and the channels the user is a member
of when the web app answers. -/
def checkChannelAccess (userId : JsString) (channelIds : List JsString) (world : World) :
    List JsString :=
  ownChannels userId channelIds ++
    if world.webAppDown then []
    else (dmChannelIds channelIds).filter fun id => world.members.contains (id, userId)

/-- Join the room of a channel and record it in the state: whether it was not there yet,
and what is shared after that. -/
def rejoin (ref : StateRef) (channelId : JsString) (world : World) : Bool × World :=
  (!(world.states ref).subscribedChannels.contains channelId,
    (world.join ref.socket channelId).addChannel ref channelId)

/-- Make sure of the socket's state, and record its owner. -/
def establish (socket : SocketId) (userId : JsString) (world : World) : World :=
  (world.getOrCreateState socket userId).setOwner socket userId

/-- The last stretch of `gateway:subscribe`. -/
def enroll (socket : SocketId) (userId : JsString) (validChannels denied : List JsString)
    (world : World) : World :=
  let ref := world.stateRef socket
  let world := world.establish socket userId
  let newlyJoined := validChannels.filter fun channelId =>
    !(world.states ref).subscribedChannels.contains channelId
  let world := validChannels.foldl (fun world channelId => (world.rejoin ref channelId).2) world
  (world.broadcastPresenceToChannels ref newlyJoined).emit socket (.subscribed validChannels denied)

def setStatus (ref : StateRef) (status : UserStatus) (world : World) : World :=
  world.setState ref { world.states ref with status := status, statusKnown := true }

def unenroll (socket : SocketId) (channelIds : List JsString) (world : World) : World :=
  match (world.sockets socket).state with
  | none => world
  | some serial =>
      channelIds.foldl (fun world channelId =>
        (world.leave socket channelId).removeChannel ⟨socket, serial⟩ channelId) world

/-- What a socket's state lets it do on a channel. -/
def whenSubscribed (socket : SocketId) (channelId : JsString)
    (relay : GatewaySocketState → World → World) (world : World) : World :=
  match (world.sockets socket).state with
  | none => world
  | some serial =>
      let state := world.states ⟨socket, serial⟩
      if state.subscribedChannels.contains channelId then relay state world else world

def typing (socket : SocketId) (channelId : JsString) (isTyping : Bool) (world : World) : World :=
  world.whenSubscribed socket channelId fun state world =>
    let others := world.activeTyping.filter (· ≠ (state.userId, channelId))
    { world with
      activeTyping :=
        if isTyping then others ++ [(state.userId, channelId)] else others }.broadcast
      ⟨some socket, [channelId], .typing channelId state.userId isTyping⟩

def callSignal (socket : SocketId) (channelId : JsString) (signal : CallSignal) (world : World) :
    World :=
  world.whenSubscribed socket channelId fun state world =>
    world.broadcast ⟨some socket, [channelId], .callSignal channelId state.userId signal⟩

/-- `revokeChannelAccess` after `fetchSockets`: the sockets found leave the room, and
the states this replica has forget the channel. -/
def dropChannel (deployment : Deployment) (replica : Nat) (userId channelId : JsString)
    (sockets : List (SocketId × Option JsString)) (world : World) : World :=
  let world := sockets.foldl (fun world socket =>
    if socket.2 = some userId then world.leave socket.1 channelId else world) world
  { world with
    states := fun ref =>
      let state := world.states ref
      if (world.sockets ref.socket).state = some ref.serial ∧ deployment.replica ref.socket = replica ∧
          state.userId = userId then
        { state with subscribedChannels := state.subscribedChannels.filter (· ≠ channelId) }
      else state }

def announceOffline (ref : StateRef) (world : World) : World :=
  let state := world.states ref
  if state.subscribedChannels.isEmpty then world
  else world.broadcast
    ⟨none, state.subscribedChannels, .presence state.userId .offline world.clock⟩

/-! ## Redis -/

/-- The next command on a stream or on the pub/sub channel has been made. -/
def nextOutcome (key : Option JsString) (world : World) : World :=
  { world with
    redisOutcomes := Function.update world.redisOutcomes key (world.redisOutcomes key).tail }

/-- A command on a stream, or on the pub/sub channel: it fails as its outcome says. -/
def command {α : Type} (key : Option JsString) (run : World → α × World) (world : World) :
    Except Unit α × World :=
  if (world.redisOutcomes key).headD true then
    (.ok (run world).1, (run world).2.nextOutcome key)
  else (.error (), world.nextOutcome key)

def xadd (event : VortexEvent) (world : World) : World :=
  { world with
    streams := Function.update world.streams event.channelId
      ((world.streams event.channelId).xadd world.clock event) }

/-- Every replica gets the message. -/
def publish (event : VortexEvent) (world : World) : World :=
  { world with published := fun replica => world.published replica ++ [event] }

/-- The subscriber of a replica emits the next event to the room of its channel. -/
def dispatch (replica : Nat) (world : World) : Option World :=
  match world.published replica with
  | [] => none
  | event :: later =>
      some { world with
        published := Function.update world.published replica later
        sockets := fun socket =>
          let record := world.sockets socket
          if record.rooms.contains event.channelId then
            { record with inbox := record.inbox ++ [.event event] }
          else record }

end World

end Vortex.Gateway
