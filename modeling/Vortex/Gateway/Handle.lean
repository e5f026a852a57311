import Vortex.Gateway.Interface

/-!
# The world answers

The clients of the gateway, what the environment does, and the answer to every
request of a handler.
-/

namespace Vortex.Gateway

open Foundation
open Vortex.Web (startsWith)

/-! ## Clients -/

/-- Set a key of an insertion-ordered map. -/
def setEntry {α : Type} (key : JsString) (value : α) :
    List (JsString × α) → List (JsString × α)
  | [] => [(key, value)]
  | entry :: rest =>
      if entry.1 = key then (key, value) :: rest else entry :: setEntry key value rest

def subscribeMessage (channelIds : List JsString) : ClientMessage :=
  ⟨.subscribe, some (.obj [(js "channelIds", .arr (channelIds.map .str))])⟩

def resumeMessage (lastEventIds : List (JsString × JsString)) : ClientMessage :=
  ⟨.resume, some (.obj
    [(js "channels", .obj (lastEventIds.map fun entry => (entry.1, .str entry.2)))])⟩

namespace Client

/-- What the client sends when it has connected. -/
def greeting (client : Client) : List ClientMessage :=
  [⟨.init, some (.obj [(js "status", .str (js "online"))])⟩] ++
    (if client.subscribedChannels.isEmpty then [] else [subscribeMessage client.subscribedChannels]) ++
    if client.lastEventIds.isEmpty then [] else [resumeMessage client.lastEventIds]

/-- Track the event as the last one of its channel and hand it on. -/
def take (client : Client) (event : VortexEvent) : Client :=
  { client with
    lastEventIds := setEntry event.channelId event.id client.lastEventIds
    received := client.received ++ [event] }

/-- The listeners of `useGateway`. -/
def process (client : Client) : ServerMessage → Client
  | .error _ => client
  | .subscribed _ denied =>
      { client with
        subscribedChannels := client.subscribedChannels.filter fun id => !denied.contains id
        lastEventIds := client.lastEventIds.filter fun entry => !denied.contains entry.1 }
  | .event event => client.take event
  | .replay _ events _ => events.foldl take client
  | .resumeComplete channels gapTooLarge =>
      { client with
        reloads := client.reloads ++ gapTooLarge
        caughtUp := client.caughtUp ++ channels }

end Client

namespace World

def setClient (client : ClientId) (record : Client) (world : World) : World :=
  { world with clients := Function.update world.clients client record }

/-- A new connection, with what its client sends at once. -/
def connect (client : Option ClientId) (greeting : List ClientMessage) (world : World) : World :=
  { world with connections := world.connections + 1 }.setSocket world.connections
    { world.sockets world.connections with
      client := client
      connected := true
      upstream := greeting }

/-- Send messages on a connection. -/
def sendUpstream (socket : SocketId) (messages : List ClientMessage) (world : World) : World :=
  let record := world.sockets socket
  if record.connected then
    world.setSocket socket { record with upstream := record.upstream ++ messages }
  else world

def clientConnect (client : ClientId) (world : World) : Option World :=
  let record := world.clients client
  match record.socket with
  | some _ => none
  | none =>
      some ((world.connect (some client) record.greeting).setClient client
        { record with socket := some world.connections, caughtUp := [] })

def clientSubscribe (client : ClientId) (channelIds : List JsString) (world : World) : World :=
  let record := world.clients client
  let newChannels := channelIds.filter fun id => !record.subscribedChannels.contains id
  let world := world.setClient client
    { record with subscribedChannels := record.subscribedChannels ++ newChannels }
  match record.socket with
  | none => world
  | some socket =>
      if newChannels.isEmpty then world
      else world.sendUpstream socket [subscribeMessage newChannels]

/-- The client takes the next message of its connection. -/
def clientReceive (client : ClientId) (world : World) : Option World :=
  let record := world.clients client
  match record.socket with
  | none => none
  | some socket =>
      match (world.sockets socket).inbox with
      | [] => none
      | message :: later =>
          some ((world.setSocket socket { world.sockets socket with inbox := later }).setClient client
            (record.process message))

/-- The client finds that its connection is gone. -/
def clientDisconnect (client : ClientId) (world : World) : Option World :=
  let record := world.clients client
  match record.socket with
  | none => none
  | some socket =>
      if (world.sockets socket).connected then none
      else some (world.setClient client { record with socket := none, caughtUp := [] })

end World

/-! ## The environment -/

/-- A connection that no modelled client has opened may send anything. A membership is
added to a channel of the web app, never to a synthetic one. -/
def Action.act : Action → World → Option World
  | .wait ms, world => some { world with clock := world.clock + ms }
  | .jwks down, world => some { world with jwksDown := down }
  | .store down, world => some { world with storeDown := down }
  | .adapter down, world => some { world with adapterDown := down }
  | .webApp down, world => some { world with webAppDown := down }
  | .signal down, world => some { world with signalDown := down }
  | .destroyBus, world => some { world with busDestroyed := true }
  | .addMember userId channelId, world =>
      if startsWith channelId USER_CHANNEL_PREFIX then none
      else some { world with members := world.members ++ [(channelId, userId)] }
  | .connect, world => some (world.connect none [])
  | .close socket, world => some (world.close socket)
  | .send socket message, world =>
      if (world.sockets socket).client.isNone then some (world.sendUpstream socket [message]) else none
  | .typingTimeout userId channelId, world =>
      if world.activeTyping.contains (userId, channelId) then
        some ({ world with
          activeTyping := world.activeTyping.filter (· ≠ (userId, channelId)) }.broadcast
            ⟨none, [channelId], .typing channelId userId false⟩)
      else none
  | .dispatch replica, world => world.dispatch replica
  | .trim channelId count, world =>
      some { world with
        streams := Function.update world.streams channelId ((world.streams channelId).trim count) }
  | .clientConnect client, world => world.clientConnect client
  | .clientSubscribe client channelIds, world => some (world.clientSubscribe client channelIds)
  | .clientReceive client, world => world.clientReceive client
  | .clientDisconnect client, world => world.clientDisconnect client

/-! ## Answers -/

/-- `verifyAuthToken`: it throws when the keys cannot be fetched and when the token does
not verify. -/
def verifyAuthToken (deployment : Deployment) (token : JsString) (world : World) :
    Except Unit (Option VerifiedClaims) :=
  if world.jwksDown || !deployment.verifies token world.clock then .error ()
  else .ok (deployment.claims token)

def handle (deployment : Deployment) : Handler gateway World
  | .receive socket, world =>
      let record := world.sockets socket
      match record.upstream with
      | [] => none
      | message :: later => some (message, world.setSocket socket { record with upstream := later })
  | .checkRate socket event limit, world => some (world.checkRate socket event limit)
  | .now, world => some (world.clock, world)
  | .sessionOf socket, world => some ((world.sockets socket).session, world)
  | .verifyAuthToken token, world => some (verifyAuthToken deployment token world, world)
  | .isRevoked userId iat, world =>
      some (if world.storeDown then .error () else .ok (world.isRevoked userId iat), world)
  | .setSession socket claims, world =>
      some (world.clock, world.setSession socket (some ⟨world.clock, claims.userId, claims.iat⟩))
  | .deleteSession socket, world => some ((), world.setSession socket none)
  | .disconnect socket, world => some ((), world.close socket)
  | .emit socket message, world => some ((), world.emit socket message)
  | .checkChannelAccess userId channelIds, world =>
      some (world.checkChannelAccess userId channelIds, world)
  | .enroll socket userId validChannels denied, world =>
      some ((), world.enroll socket userId validChannels denied)
  | .unenroll socket channelIds, world => some ((), world.unenroll socket channelIds)
  | .typing socket channelId isTyping, world => some ((), world.typing socket channelId isTyping)
  | .callSignal socket channelId signal, world =>
      some ((), world.callSignal socket channelId signal)
  | .setStatus socket status, world =>
      match (world.sockets socket).state with
      | none => some (none, world)
      | some serial => some (some serial, world.setStatus ⟨socket, serial⟩ status)
  | .writePresence, world => some ((), world)
  | .announce ref, world =>
      some ((), world.broadcastPresenceToChannels ref (world.states ref).subscribedChannels)
  | .init socket userId status, world =>
      let ref := world.stateRef socket
      some (ref.serial, (world.establish socket userId).setStatus ref status)
  | .establish socket userId, world =>
      some ((world.stateRef socket).serial, world.establish socket userId)
  | .rejoin ref channelId, world => some (world.rejoin ref channelId)
  | .complete ref rejoined channels gapTooLarge, world =>
      some ((), (world.broadcastPresenceToChannels ref rejoined).emit ref.socket
        (.resumeComplete channels gapTooLarge))
  | .nextClosing, world =>
      match world.closing with
      | [] => none
      | ref :: later => some ((ref, (world.states ref).userId), { world with closing := later })
  | .announceOffline ref, world => some ((), world.announceOffline ref)
  | .xrevrange channelId endId count, world =>
      some (world.command (some channelId) fun world =>
        ((world.streams channelId).xrevrange endId count, world))
  | .xrange channelId after count, world =>
      some (world.command (some channelId) fun world =>
        ((world.streams channelId).xrange after count, world))
  | .busDestroyed, world => some (world.busDestroyed, world)
  | .stamp, world =>
      some ((deployment.uuid world.drawn, world.clock), { world with drawn := world.drawn + 1 })
  | .xadd event, world =>
      some (world.command (some event.channelId) fun world => ((), world.xadd event))
  | .publish event, world => some (world.command none fun world => ((), world.publish event))
  | .fetchSockets room, world =>
      some (if world.adapterDown then .error () else .ok (world.connectedIn room), world)
  | .persistCutoff userId cutoffMs, world =>
      if world.storeDown then some (false, world)
      else some (true, { world with
        revocations := Function.update world.revocations userId
          (some ⟨cutoffMs, world.clock + REVOCATION_TTL_SECONDS * 1000⟩) })
  | .disconnectAll userId sockets, world => some ((), world.disconnectAll userId sockets)
  | .deleteMember userId channelId, world =>
      if world.webAppDown then some (false, world)
      else some (true, { world with members := world.members.filter (· ≠ (channelId, userId)) })
  | .reachSignal, world => some (!world.signalDown, world)
  | .dropChannel replica userId channelId sockets, world =>
      some ((), world.dropChannel deployment replica userId channelId sockets)
  | .act action, world => (action.act world).map fun after => ((), after)

/-! ## What a step has done -/

section

variable {deployment : Deployment} {world after : World} {socket : SocketId} {client : ClientId}
  {userId channelId : JsString}

theorem eq_of_clientConnect (moved : world.clientConnect client = some after) :
    after = (world.connect (some client) (world.clients client).greeting).setClient client
      { world.clients client with socket := some world.connections, caughtUp := [] } := by
  unfold World.clientConnect at moved
  dsimp only at moved
  split at moved
  · cases moved
  · exact (Option.some.inj moved).symm

theorem eq_of_clientReceive (moved : world.clientReceive client = some after) :
    ∃ socket later message, after =
      (world.setSocket socket { world.sockets socket with inbox := later }).setClient client
        ((world.clients client).process message) := by
  unfold World.clientReceive at moved
  dsimp only at moved
  split at moved
  · cases moved
  · split at moved
    · cases moved
    · exact ⟨_, _, _, (Option.some.inj moved).symm⟩

theorem eq_of_clientDisconnect (moved : world.clientDisconnect client = some after) :
    after = world.setClient client { world.clients client with socket := none, caughtUp := [] } := by
  unfold World.clientDisconnect at moved
  dsimp only at moved
  split at moved
  · cases moved
  · split at moved
    · cases moved
    · exact (Option.some.inj moved).symm

theorem eq_of_dispatch {replica : Nat} (moved : world.dispatch replica = some after) :
    ∃ (event : VortexEvent) (later : List VortexEvent), after = { world with
      published := Function.update world.published replica later
      sockets := fun socket =>
        let record := world.sockets socket
        if record.rooms.contains event.channelId then
          { record with inbox := record.inbox ++ [.event event] }
        else record } := by
  unfold World.dispatch at moved
  split at moved
  · cases moved
  · exact ⟨_, _, (Option.some.inj moved).symm⟩

theorem eq_of_addMember (moved : (Action.addMember userId channelId).act world = some after) :
    after = { world with members := world.members ++ [(channelId, userId)] } := by
  dsimp only [Action.act] at moved
  split at moved
  · cases moved
  · exact (Option.some.inj moved).symm

theorem eq_of_send {message : ClientMessage}
    (moved : (Action.send socket message).act world = some after) :
    (world.sockets socket).client = none ∧ after = world.sendUpstream socket [message] := by
  dsimp only [Action.act] at moved
  split at moved
  · rename_i raw
    exact ⟨Option.isNone_iff_eq_none.mp raw, (Option.some.inj moved).symm⟩
  · cases moved

theorem eq_of_typingTimeout
    (moved : (Action.typingTimeout userId channelId).act world = some after) :
    after = { world with
      activeTyping := world.activeTyping.filter (· ≠ (userId, channelId)) }.broadcast
        ⟨none, [channelId], .typing channelId userId false⟩ := by
  dsimp only [Action.act] at moved
  split at moved
  · exact (Option.some.inj moved).symm
  · cases moved

theorem eq_of_receive {message : ClientMessage}
    (answered : handle deployment (.receive socket) world = some (message, after)) :
    ∃ later, (world.sockets socket).upstream = message :: later ∧
      after = world.setSocket socket { world.sockets socket with upstream := later } := by
  dsimp only [handle] at answered
  split at answered
  · cases answered
  · rename_i waiting
    cases answered
    exact ⟨_, waiting, rfl⟩

theorem eq_of_setStatus {status : UserStatus} {serial : Option Nat}
    (answered : handle deployment (.setStatus socket status) world = some (serial, after)) :
    after = world ∨ ∃ serial, (world.sockets socket).state = some serial ∧
      after = world.setStatus ⟨socket, serial⟩ status := by
  dsimp only [handle] at answered
  split at answered
  · cases answered
    exact .inl rfl
  · rename_i held
    cases answered
    exact .inr ⟨_, held, rfl⟩

theorem eq_of_nextClosing {ref : StateRef}
    (answered : handle deployment .nextClosing world = some ((ref, userId), after)) :
    ∃ later, world.closing = ref :: later ∧ userId = (world.states ref).userId ∧
      after = { world with closing := later } := by
  dsimp only [handle] at answered
  split at answered
  · cases answered
  · rename_i closing
    cases answered
    exact ⟨_, closing, rfl, rfl⟩

theorem eq_of_persistCutoff {cutoffMs : Nat} {persisted : Bool}
    (answered : handle deployment (.persistCutoff userId cutoffMs) world =
      some (persisted, after)) :
    after = world ∨ after = { world with
      revocations := Function.update world.revocations userId
        (some ⟨cutoffMs, world.clock + REVOCATION_TTL_SECONDS * 1000⟩) } := by
  dsimp only [handle] at answered
  split at answered
  · cases answered
    exact .inl rfl
  · cases answered
    exact .inr rfl

theorem eq_of_deleteMember {deleted : Bool}
    (answered : handle deployment (.deleteMember userId channelId) world = some (deleted, after)) :
    after = world ∨
      after = { world with members := world.members.filter (· ≠ (channelId, userId)) } := by
  dsimp only [handle] at answered
  split at answered
  · cases answered
    exact .inl rfl
  · cases answered
    exact .inr rfl

end

end Vortex.Gateway
