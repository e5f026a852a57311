import Vortex.Gateway.Moves

/-!
# What a request leaves alone

Most requests only touch sockets, states and notices. What else there is in a world,
its services, changes by the requests that are for it and by the environment.
-/

variable {request : Request}

namespace Vortex.Gateway

open Foundation

/-- A world without its sockets, states and notices. -/
def World.services (world : World) : World :=
  { world with
    sockets := fun _ => .fresh
    states := fun _ => ⟨[], [], .online, false⟩
    allocated := 0
    activeTyping := []
    closing := []
    broadcasts := [] }

namespace World

variable (world : World) (socket : SocketId) (ref : StateRef) (channel : JsString)

@[simp] theorem services_emit (message : ServerMessage) :
    (world.emit socket message).services = world.services := by
  unfold emit
  dsimp only
  split <;> rfl

@[simp] theorem services_join : (world.join socket channel).services = world.services := by
  unfold join
  dsimp only
  split <;> rfl

@[simp] theorem services_rejoin : (world.rejoin ref channel).2.services = world.services :=
  services_join world ref.socket channel

@[simp] theorem services_getOrCreateState (userId : JsString) :
    (world.getOrCreateState socket userId).services = world.services := by
  unfold getOrCreateState
  dsimp only
  split <;> rfl

@[simp] theorem services_establish (userId : JsString) :
    (world.establish socket userId).services = world.services :=
  services_getOrCreateState world socket userId

@[simp] theorem services_broadcastPresenceToChannels (channels : List JsString) :
    (world.broadcastPresenceToChannels ref channels).services = world.services := by
  unfold broadcastPresenceToChannels
  dsimp only
  split <;> rfl

theorem services_foldl {β : Type} {step : World → β → World}
    (kept : ∀ world item, (step world item).services = world.services) (items : List β)
    (world : World) : (items.foldl step world).services = world.services := by
  induction items generalizing world with
  | nil => rfl
  | cons item items ih => exact (ih _).trans (kept world item)

@[simp] theorem services_stopTyping (state : GatewaySocketState) :
    (world.stopTyping state).services = world.services := by
  apply services_foldl
  intro world channel
  split
  · rfl
  · rfl

@[simp] theorem services_close : (world.close socket).services = world.services := by
  unfold close
  dsimp only
  split
  · rfl
  · split
    · rfl
    · exact services_stopTyping world _

@[simp] theorem services_disconnectAll (userId : JsString)
    (sockets : List (SocketId × Option JsString)) :
    (world.disconnectAll userId sockets).services = world.services := by
  apply services_foldl
  intro world found
  split
  · exact (services_close _ _).trans (services_emit _ _ _)
  · rfl

@[simp] theorem services_enroll (userId : JsString) (validChannels denied : List JsString) :
    (world.enroll socket userId validChannels denied).services = world.services := by
  unfold enroll
  dsimp only
  rw [services_emit, services_broadcastPresenceToChannels,
    services_foldl fun world channelId => services_rejoin world _ channelId, services_establish]

@[simp] theorem services_unenroll (channelIds : List JsString) :
    (world.unenroll socket channelIds).services = world.services := by
  unfold unenroll
  split
  · rfl
  · apply services_foldl
    exact fun _ _ => rfl

theorem services_whenSubscribed {relay : GatewaySocketState → World → World}
    (kept : ∀ state world, (relay state world).services = world.services) :
    (world.whenSubscribed socket channel relay).services = world.services := by
  unfold whenSubscribed
  split
  · rfl
  · dsimp only
    split
    · exact kept _ _
    · rfl

@[simp] theorem services_typing (isTyping : Bool) :
    (world.typing socket channel isTyping).services = world.services :=
  services_whenSubscribed world socket channel fun _ _ => rfl

@[simp] theorem services_callSignal (signal : CallSignal) :
    (world.callSignal socket channel signal).services = world.services :=
  services_whenSubscribed world socket channel fun _ _ => rfl

@[simp] theorem services_dropChannel (deployment : Deployment) (replica : Nat)
    (userId channelId : JsString) (sockets : List (SocketId × Option JsString)) :
    (world.dropChannel deployment replica userId channelId sockets).services = world.services := by
  have left : (sockets.foldl (fun world socket =>
      if socket.2 = some userId then world.leave socket.1 channelId else world) world).services =
      world.services := by
    apply services_foldl
    intro world found
    split <;> rfl
  exact left

@[simp] theorem services_announceOffline :
    (world.announceOffline ref).services = world.services := by
  unfold announceOffline
  dsimp only
  split <;> rfl

end World

/-- A request that only touches sockets, states and notices. -/
def Request.isLocal : Request → Bool
  | .xrevrange _ _ _ => false
  | .xrange _ _ _ => false
  | .stamp => false
  | .xadd _ => false
  | .publish _ => false
  | .persistCutoff _ _ => false
  | .deleteMember _ _ => false
  | .act _ => false
  | _ => true

variable {deployment : Deployment} {world after : World}

theorem services_of_handle {answer : request.Answer}
    (answered : handle deployment request world = some (answer, after))
    (isLocal : request.isLocal = true) : after.services = world.services := by
  cases request with
  | receive socket =>
    obtain ⟨later, -, rfl⟩ := eq_of_receive answered
    rfl
  | setStatus socket status =>
    rcases eq_of_setStatus answered with rfl | ⟨serial, -, rfl⟩
    · rfl
    · rfl
  | nextClosing =>
    obtain ⟨later, -, -, rfl⟩ := eq_of_nextClosing answered
    rfl
  | rejoin ref channelId =>
    cases answered
    exact World.services_rejoin world ref channelId
  | init socket userId status =>
    cases answered
    exact World.services_establish world socket userId
  | xrevrange channelId endId count => cases isLocal
  | xrange channelId start count => cases isLocal
  | xadd event => cases isLocal
  | publish event => cases isLocal
  | stamp => cases isLocal
  | persistCutoff userId cutoffMs => cases isLocal
  | deleteMember userId channelId => cases isLocal
  | act action => cases isLocal
  | _ =>
    cases answered
    first
      | rfl
      | simp

/-! ## The environment -/

/-- What connections and clients do leaves memberships and revocations alone. -/
structure Authorities (before after : World) : Prop where
  members : after.members = before.members
  revocations : after.revocations = before.revocations

theorem authorities_of_services (same : after.services = world.services) :
    Authorities world after := by
  have members : after.services.members = world.services.members := by rw [same]
  have revocations : after.services.revocations = world.services.revocations := by rw [same]
  exact ⟨members, revocations⟩

theorem authorities_sendUpstream (socket : SocketId) (messages : List ClientMessage)
    (world : World) : Authorities world (world.sendUpstream socket messages) := by
  apply authorities_of_services
  unfold World.sendUpstream
  dsimp only
  split <;> rfl

theorem authorities_clientSubscribe (client : ClientId) (channelIds : List JsString)
    (world : World) : Authorities world (world.clientSubscribe client channelIds) := by
  unfold World.clientSubscribe
  dsimp only
  split
  · exact ⟨rfl, rfl⟩
  · split
    · exact ⟨rfl, rfl⟩
    · have sent := authorities_sendUpstream
      exact ⟨(sent _ _ _).members, (sent _ _ _).revocations⟩

/-- The environment adds members, and does nothing else to the authorities. -/
theorem authorities_act {action : Action} (moved : action.act world = some after) :
    Authorities world after ∨ ∃ userId channelId, action = .addMember userId channelId ∧
      after = { world with members := world.members ++ [(channelId, userId)] } := by
  cases action with
  | addMember userId channelId =>
    obtain rfl := eq_of_addMember moved
    exact .inr ⟨userId, channelId, rfl, rfl⟩
  | send socket message =>
    obtain ⟨-, rfl⟩ := eq_of_send moved
    exact .inl (authorities_sendUpstream _ _ _)
  | typingTimeout userId channelId =>
    obtain rfl := eq_of_typingTimeout moved
    exact .inl ⟨rfl, rfl⟩
  | close socket =>
    cases moved
    exact .inl (authorities_of_services (World.services_close _ _))
  | dispatch replica =>
    obtain ⟨_, _, rfl⟩ := eq_of_dispatch moved
    exact .inl ⟨rfl, rfl⟩
  | clientConnect client =>
    obtain rfl := eq_of_clientConnect moved
    exact .inl ⟨rfl, rfl⟩
  | clientSubscribe client channelIds =>
    cases moved
    exact .inl (authorities_clientSubscribe _ _ _)
  | clientReceive client =>
    obtain ⟨_, _, _, rfl⟩ := eq_of_clientReceive moved
    exact .inl ⟨rfl, rfl⟩
  | clientDisconnect client =>
    obtain rfl := eq_of_clientDisconnect moved
    exact .inl ⟨rfl, rfl⟩
  | _ =>
    cases moved
    exact .inl ⟨rfl, rfl⟩

theorem authorities_command {α : Type} {key : Option JsString} {run : World → α × World}
    (kept : ∀ world, Authorities world (run world).2) (world : World) :
    Authorities world (world.command key run).2 := by
  unfold World.command
  split
  · exact ⟨(kept world).members, (kept world).revocations⟩
  · exact ⟨rfl, rfl⟩

/-- Who can change the memberships and the revocations, and how. -/
inductive Decides (world after : World) : Request → Prop
  | none (request : Request) (same : Authorities world after) : Decides world after request
  | add (userId channelId : JsString)
      (members : after.members = world.members ++ [(channelId, userId)])
      (revocations : after.revocations = world.revocations) :
      Decides world after (.act (.addMember userId channelId))
  | delete (userId channelId : JsString)
      (members : after.members = world.members.filter (· ≠ (channelId, userId)))
      (revocations : after.revocations = world.revocations) :
      Decides world after (.deleteMember userId channelId)
  | revoke (userId : JsString) (cutoffMs : Nat) (members : after.members = world.members)
      (revocations : after.revocations = Function.update world.revocations userId
        (some ⟨cutoffMs, world.clock + REVOCATION_TTL_SECONDS * 1000⟩)) :
      Decides world after (.persistCutoff userId cutoffMs)

theorem decides_of_handle {answer : request.Answer}
    (answered : handle deployment request world = some (answer, after)) :
    Decides world after request := by
  cases request with
  | xrevrange channelId endId count =>
    rw [eq_of_answered answered]
    exact .none _ (authorities_command (fun _ => ⟨rfl, rfl⟩) world)
  | xrange channelId start count =>
    rw [eq_of_answered answered]
    exact .none _ (authorities_command (fun _ => ⟨rfl, rfl⟩) world)
  | xadd event =>
    rw [eq_of_answered answered]
    exact .none _ (authorities_command (fun _ => ⟨rfl, rfl⟩) world)
  | publish event =>
    rw [eq_of_answered answered]
    exact .none _ (authorities_command (fun _ => ⟨rfl, rfl⟩) world)
  | stamp =>
    cases answered
    exact .none _ ⟨rfl, rfl⟩
  | persistCutoff userId cutoffMs =>
    rcases eq_of_persistCutoff answered with rfl | rfl
    · exact .none _ ⟨rfl, rfl⟩
    · exact .revoke userId cutoffMs rfl rfl
  | deleteMember userId channelId =>
    rcases eq_of_deleteMember answered with rfl | rfl
    · exact .none _ ⟨rfl, rfl⟩
    · exact .delete userId channelId rfl rfl
  | act action =>
    obtain ⟨_, moved, same⟩ := Option.map_eq_some_iff.mp answered
    cases same
    rcases authorities_act moved with same | ⟨userId, channelId, rfl, rfl⟩
    · exact .none _ same
    · exact .add userId channelId rfl rfl
  | _ => exact .none _ (authorities_of_services (services_of_handle answered rfl))

/-! ## Clients -/

/-- The client that acts. -/
def Action.client? : Action → Option ClientId
  | .clientConnect client => some client
  | .clientSubscribe client _ => some client
  | .clientReceive client => some client
  | .clientDisconnect client => some client
  | _ => none

section

variable {client : ClientId}

theorem clients_command {α : Type} {key : Option JsString} {run : World → α × World}
    (kept : ∀ world, (run world).2.clients = world.clients) :
    (world.command key run).2.clients = world.clients := by
  unfold World.command
  split
  · exact kept world
  · rfl

theorem clients_sendUpstream (socket : SocketId) (messages : List ClientMessage) (world : World) :
    (world.sendUpstream socket messages).clients = world.clients := by
  unfold World.sendUpstream
  dsimp only
  split <;> rfl

theorem clients_setClient_self (record : Client) (world : World) :
    (world.setClient client record).clients client = record :=
  Function.update_self ..

theorem clients_setClient_of_ne {other : ClientId} (different : client ≠ other) (record : Client)
    (world : World) : (world.setClient other record).clients client = world.clients client :=
  Function.update_of_ne different ..

theorem clients_of_act {action : Action} (moved : action.act world = some after)
    (other : action.client? ≠ some client) : after.clients client = world.clients client := by
  cases action with
  | addMember userId channelId =>
    obtain rfl := eq_of_addMember moved
    rfl
  | close socket =>
    cases moved
    have same : (world.close socket).services.clients = world.services.clients := by simp
    exact congrFun same client
  | send socket message =>
    obtain ⟨-, rfl⟩ := eq_of_send moved
    rw [clients_sendUpstream]
  | typingTimeout userId channelId =>
    obtain rfl := eq_of_typingTimeout moved
    rfl
  | dispatch replica =>
    obtain ⟨_, _, rfl⟩ := eq_of_dispatch moved
    rfl
  | clientConnect acting =>
    have different : client ≠ acting := fun same => other (congrArg some same.symm)
    obtain rfl := eq_of_clientConnect moved
    exact clients_setClient_of_ne different _ (world.connect _ _)
  | clientSubscribe acting channelIds =>
    have different : client ≠ acting := fun same => other (congrArg some same.symm)
    cases moved
    dsimp only [World.clientSubscribe]
    split
    · exact clients_setClient_of_ne different _ world
    · split
      · exact clients_setClient_of_ne different _ world
      · rw [clients_sendUpstream]
        exact clients_setClient_of_ne different _ world
  | clientReceive acting =>
    have different : client ≠ acting := fun same => other (congrArg some same.symm)
    obtain ⟨socket, later, message, rfl⟩ := eq_of_clientReceive moved
    exact clients_setClient_of_ne different _ (world.setSocket _ _)
  | clientDisconnect acting =>
    have different : client ≠ acting := fun same => other (congrArg some same.symm)
    obtain rfl := eq_of_clientDisconnect moved
    exact clients_setClient_of_ne different _ world
  | _ =>
    cases moved
    rfl

/-- Only its own actions change a client. -/
theorem clients_of_handle {answer : request.Answer}
    (answered : handle deployment request world = some (answer, after))
    (other : ∀ action, request = .act action → action.client? ≠ some client) :
    after.clients client = world.clients client := by
  cases request with
  | xrevrange channelId endId count =>
    rw [eq_of_answered answered, clients_command fun _ => rfl]
  | xrange channelId start count =>
    rw [eq_of_answered answered, clients_command fun _ => rfl]
  | xadd event => rw [eq_of_answered answered, clients_command fun _ => rfl]
  | publish event => rw [eq_of_answered answered, clients_command fun _ => rfl]
  | stamp =>
    cases answered
    rfl
  | persistCutoff userId cutoffMs =>
    rcases eq_of_persistCutoff answered with rfl | rfl <;> rfl
  | deleteMember userId channelId =>
    rcases eq_of_deleteMember answered with rfl | rfl <;> rfl
  | act action =>
    obtain ⟨_, moved, same⟩ := Option.map_eq_some_iff.mp answered
    cases same
    exact clients_of_act moved (other action rfl)
  | _ =>
    have same : after.services.clients = world.services.clients := by
      rw [services_of_handle answered rfl]
    exact congrFun same client

theorem socket_of_process (record : Client) (message : ServerMessage) :
    (record.process message).socket = record.socket := by
  cases message with
  | replay channelId events hasMore =>
    have kept : ∀ (events : List VortexEvent) (record : Client),
        (events.foldl Client.take record).socket = record.socket := by
      intro events
      induction events with
      | nil => exact fun _ => rfl
      | cons event events ih => exact fun record => ih _
    exact kept events record
  | _ => rfl

/-- A client is on a connection that it has opened. -/
theorem socket_of_handle {socket : SocketId} {answer : request.Answer}
    (answered : handle deployment request world = some (answer, after))
    (on : (after.clients client).socket = some socket) :
    (world.clients client).socket = some socket ∨
      (request = .act (.clientConnect client) ∧ socket = world.connections) := by
  by_cases mine : ∃ action, request = .act action ∧ action.client? = some client
  · obtain ⟨action, rfl, mine⟩ := mine
    obtain ⟨_, moved, same⟩ := Option.map_eq_some_iff.mp answered
    cases same
    cases action with
    | clientConnect other =>
      cases mine
      obtain rfl := eq_of_clientConnect moved
      rw [clients_setClient_self] at on
      exact .inr ⟨rfl, (Option.some.inj on).symm⟩
    | clientSubscribe other channelIds =>
      cases mine
      cases moved
      dsimp only [World.clientSubscribe] at on
      split at on
      · rw [clients_setClient_self] at on
        exact .inl on
      · split at on
        · rw [clients_setClient_self] at on
          exact .inl on
        · rw [clients_sendUpstream, clients_setClient_self] at on
          exact .inl on
    | clientReceive other =>
      cases mine
      obtain ⟨_, _, _, rfl⟩ := eq_of_clientReceive moved
      rw [clients_setClient_self, socket_of_process] at on
      exact .inl on
    | clientDisconnect other =>
      cases mine
      obtain rfl := eq_of_clientDisconnect moved
      rw [clients_setClient_self] at on
      cases on
    | _ => cases mine
  · left
    rwa [clients_of_handle answered fun action same found => mine ⟨action, same, found⟩] at on

end

end Vortex.Gateway
