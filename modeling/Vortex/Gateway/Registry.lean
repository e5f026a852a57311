import Vortex.Gateway.Moves

/-!
# The books of the sockets

What is kept of each socket, as a model of its own: who opened it, whether it is
connected, its entries in the session cache and among the states, the owner recorded on
it, the messages on their way to the server, and the states that are left to `disconnect`
handlers. A socket is opened and closed, it sends and is heard, a session is cached or
dropped, a state is established, and a `disconnect` handler takes the next state; every
answer of the gateway does some of these (`registry_of_handle`).
-/

variable {ref : StateRef}

namespace Vortex.Gateway

open Foundation

/-- What is kept of one socket. -/
structure Entry where
  client : Option ClientId
  connected : Bool
  cached : Bool
  state : Option Nat
  owner : Option JsString
  upstream : List ClientMessage

structure Registry where
  connections : Nat
  allocated : Nat
  entries : SocketId → Entry
  closing : List StateRef

namespace Registry

variable (socket : SocketId) (registry : Registry)

def set (entry : Entry) : Registry :=
  { registry with entries := Function.update registry.entries socket entry }

/-- A new connection, with what its client sends at once. -/
def connect (client : Option ClientId) (greeting : List ClientMessage) : Registry :=
  { registry.set registry.connections
      { registry.entries registry.connections with
        client := client
        connected := true
        upstream := greeting } with
    connections := registry.connections + 1 }

def send (messages : List ClientMessage) : Registry :=
  let entry := registry.entries socket
  if entry.connected then registry.set socket { entry with upstream := entry.upstream ++ messages }
  else registry

/-- The next message of the socket is heard. -/
def hear : Registry :=
  registry.set socket
    { registry.entries socket with upstream := (registry.entries socket).upstream.tail }

def cache (present : Bool) : Registry :=
  registry.set socket { registry.entries socket with cached := present }

/-- The socket is gone, and its state is left to a `disconnect` handler. -/
def close : Registry :=
  let entry := registry.entries socket
  if entry.connected then
    { registry.set socket { entry with connected := false, cached := false, state := none, upstream := [] } with
      closing := registry.closing ++ (entry.state.map (StateRef.mk socket)).toList }
  else registry

/-- The state of the socket: the one it has, or the next one to be created. -/
def stateRef : StateRef := ⟨socket, (registry.entries socket).state.getD registry.allocated⟩

/-- The socket has a state, and an owner. -/
def establish (userId : JsString) : Registry :=
  let entry := registry.entries socket
  { registry.set socket
      { entry with state := some (registry.stateRef socket).serial, owner := some userId } with
    allocated := if entry.state.isSome then registry.allocated else registry.allocated + 1 }

/-- The next state is taken by a `disconnect` handler. -/
def settle : Registry := { registry with closing := registry.closing.tail }

/-- The sockets found of the user lose their sessions and are closed. -/
def closeAll (userId : JsString) (sockets : List (SocketId × Option JsString)) : Registry :=
  sockets.foldl (fun registry socket =>
    if socket.2 = some userId then (registry.cache socket.1 false).close socket.1 else registry)
    registry

end Registry

def SocketRecord.entry (record : SocketRecord) : Entry where
  client := record.client
  connected := record.connected
  cached := record.session.isSome
  state := record.state
  owner := record.dataUserId
  upstream := record.upstream

namespace World

/-- The books of a world. -/
def registry (world : World) : Registry where
  connections := world.connections
  allocated := world.allocated
  entries := fun socket => (world.sockets socket).entry
  closing := world.closing

variable (world : World) (socket : SocketId) (ref : StateRef) (channel : JsString)

@[simp] theorem registry_entries :
    world.registry.entries socket = (world.sockets socket).entry := rfl

theorem registry_setSocket (record : SocketRecord) :
    (world.setSocket socket record).registry = world.registry.set socket record.entry := by
  have entries : (fun other => ((world.setSocket socket record).sockets other).entry) =
      Function.update (fun other => (world.sockets other).entry) socket record.entry := by
    funext other
    by_cases same : other = socket
    · subst same
      simp [setSocket]
    · simp [setSocket, same]
  exact congrArg (fun entries => Registry.mk _ _ entries _) entries

/-- A record changes in what is not in the books. -/
theorem registry_setSocket_same {record : SocketRecord}
    (same : record.entry = (world.sockets socket).entry) :
    (world.setSocket socket record).registry = world.registry := by
  rw [registry_setSocket, same]
  exact congrArg (fun entries => Registry.mk _ _ entries _)
    (Function.update_eq_self socket world.registry.entries)

@[simp] theorem registry_setState (state : GatewaySocketState) :
    (world.setState ref state).registry = world.registry := rfl

@[simp] theorem registry_broadcast (broadcast : Broadcast) :
    (world.broadcast broadcast).registry = world.registry := rfl

@[simp] theorem registry_addChannel :
    (world.addChannel ref channel).registry = world.registry := rfl

@[simp] theorem registry_removeChannel :
    (world.removeChannel ref channel).registry = world.registry := rfl

@[simp] theorem registry_leave : (world.leave socket channel).registry = world.registry :=
  registry_setSocket_same world socket rfl

@[simp] theorem registry_checkRate (event : JsString) (limit : Nat) :
    (world.checkRate socket event limit).2.registry = world.registry :=
  registry_setSocket_same world socket rfl

@[simp] theorem registry_emit (message : ServerMessage) :
    (world.emit socket message).registry = world.registry := by
  unfold emit
  dsimp only
  split
  · exact registry_setSocket_same world socket rfl
  · rfl

@[simp] theorem registry_join : (world.join socket channel).registry = world.registry := by
  unfold join
  dsimp only
  split
  · exact registry_setSocket_same world socket rfl
  · rfl

@[simp] theorem registry_rejoin : (world.rejoin ref channel).2.registry = world.registry := by
  simp [rejoin]

@[simp] theorem registry_broadcastPresenceToChannels (channels : List JsString) :
    (world.broadcastPresenceToChannels ref channels).registry = world.registry := by
  unfold broadcastPresenceToChannels
  dsimp only
  split <;> simp

@[simp] theorem registry_announceOffline :
    (world.announceOffline ref).registry = world.registry := by
  unfold announceOffline
  dsimp only
  split <;> simp

theorem registry_foldl {β : Type} {step : World → β → World}
    (kept : ∀ world item, (step world item).registry = world.registry) (items : List β) :
    (items.foldl step world).registry = world.registry := by
  induction items generalizing world with
  | nil => rfl
  | cons item items ih => exact (ih _).trans (kept world item)

@[simp] theorem registry_stopTyping (state : GatewaySocketState) :
    (world.stopTyping state).registry = world.registry := by
  apply registry_foldl
  intro world channel
  split
  · rfl
  · rfl

@[simp] theorem registry_setSession (session : Option SessionEntry) :
    (world.setSession socket session).registry = world.registry.cache socket session.isSome :=
  registry_setSocket world socket _

@[simp] theorem registry_beginClosing :
    (world.beginClosing ref).registry =
      { world.registry with closing := world.registry.closing ++ [ref] } := rfl

@[simp] theorem registry_close : (world.close socket).registry = world.registry.close socket := by
  unfold close Registry.close
  cases opened : (world.sockets socket).connected with
  | false => simp [SocketRecord.entry, opened]
  | true =>
    cases held : (world.sockets socket).state with
    | none => simp [registry_setSocket, SocketRecord.entry, Registry.set, opened, held]
    | some serial => simp [registry_setSocket, SocketRecord.entry, Registry.set, opened, held]

@[simp] theorem registry_connect (client : Option ClientId) (greeting : List ClientMessage) :
    (world.connect client greeting).registry = world.registry.connect client greeting :=
  registry_setSocket { world with connections := world.connections + 1 } world.connections _

@[simp] theorem registry_sendUpstream (messages : List ClientMessage) :
    (world.sendUpstream socket messages).registry = world.registry.send socket messages := by
  unfold sendUpstream Registry.send
  have connected : (world.registry.entries socket).connected = (world.sockets socket).connected := rfl
  simp only [connected]
  split
  · exact registry_setSocket world socket _
  · rfl

theorem registry_createState (userId : JsString) :
    (world.createState ref userId).registry =
      { world.registry.set ref.socket
          { world.registry.entries ref.socket with state := some ref.serial } with
        allocated := world.allocated + 1 } :=
  registry_setSocket _ ref.socket _

@[simp] theorem registry_establish (userId : JsString) :
    (world.establish socket userId).registry = world.registry.establish socket userId := by
  unfold establish getOrCreateState setOwner Registry.establish Registry.stateRef stateRef
  cases held : (world.sockets socket).state with
  | none =>
    have allocated : world.registry.allocated = world.allocated := rfl
    simp [registry_setSocket, registry_createState, SocketRecord.entry, Registry.set, held,
      allocated]
    simp [createState, setSocket]
  | some serial =>
    simp [registry_setSocket, SocketRecord.entry, Registry.set, held]
    simp [setState, held]

@[simp] theorem registry_enroll (userId : JsString) (validChannels denied : List JsString) :
    (world.enroll socket userId validChannels denied).registry =
      world.registry.establish socket userId := by
  unfold enroll
  dsimp only
  rw [registry_emit, registry_broadcastPresenceToChannels,
    registry_foldl _ fun world channelId => registry_rejoin world _ channelId, registry_establish]

@[simp] theorem registry_unenroll (channelIds : List JsString) :
    (world.unenroll socket channelIds).registry = world.registry := by
  unfold unenroll
  split
  · rfl
  · exact registry_foldl world (fun world channelId => by simp) channelIds

theorem registry_whenSubscribed {relay : GatewaySocketState → World → World}
    (kept : ∀ state world, (relay state world).registry = world.registry) :
    (world.whenSubscribed socket channel relay).registry = world.registry := by
  unfold whenSubscribed
  split
  · rfl
  · dsimp only
    split
    · exact kept _ _
    · rfl

@[simp] theorem registry_typing (isTyping : Bool) :
    (world.typing socket channel isTyping).registry = world.registry :=
  registry_whenSubscribed world socket channel fun _ _ => rfl

@[simp] theorem registry_callSignal (signal : CallSignal) :
    (world.callSignal socket channel signal).registry = world.registry :=
  registry_whenSubscribed world socket channel fun _ _ => rfl

@[simp] theorem registry_disconnectAll (userId : JsString)
    (sockets : List (SocketId × Option JsString)) :
    (world.disconnectAll userId sockets).registry = world.registry.closeAll userId sockets := by
  unfold disconnectAll Registry.closeAll
  induction sockets generalizing world with
  | nil => rfl
  | cons found sockets ih =>
    refine (ih _).trans (congrArg (List.foldl _ · sockets) ?_)
    dsimp only
    split <;> simp

@[simp] theorem registry_dropChannel (deployment : Deployment) (replica : Nat)
    (userId channelId : JsString) (sockets : List (SocketId × Option JsString)) :
    (world.dropChannel deployment replica userId channelId sockets).registry = world.registry := by
  have left : (sockets.foldl (fun world socket =>
      if socket.2 = some userId then world.leave socket.1 channelId else world) world).registry =
      world.registry := by
    apply registry_foldl
    intro world found
    split <;> simp
  exact left

theorem registry_dispatch {replica : Nat} {after : World}
    (moved : world.dispatch replica = some after) : after.registry = world.registry := by
  obtain ⟨event, later, rfl⟩ := eq_of_dispatch moved
  refine congrArg (fun entries => Registry.mk _ _ entries _) (funext fun socket => ?_)
  dsimp only
  split <;> rfl

end World

/-- What an action of the environment does to the books. -/
def Action.registered (world : World) (registry : Registry) : Action → Registry
  | .connect => registry.connect none []
  | .clientConnect client => registry.connect (some client) (world.clients client).greeting
  | .close socket => registry.close socket
  | .send socket message => registry.send socket [message]
  | .clientSubscribe client channelIds =>
      let record := world.clients client
      let newChannels := channelIds.filter fun id => !record.subscribedChannels.contains id
      match record.socket with
      | none => registry
      | some socket =>
          if newChannels.isEmpty then registry
          else registry.send socket [subscribeMessage newChannels]
  | _ => registry

/-- What a request does to the books. -/
def Request.registered (world : World) (registry : Registry) : Request → Registry
  | .receive socket => registry.hear socket
  | .setSession socket _ => registry.cache socket true
  | .deleteSession socket => registry.cache socket false
  | .disconnect socket => registry.close socket
  | .disconnectAll userId sockets => registry.closeAll userId sockets
  | .enroll socket userId _ _ => registry.establish socket userId
  | .init socket userId _ => registry.establish socket userId
  | .establish socket userId => registry.establish socket userId
  | .nextClosing => registry.settle
  | .act action => action.registered world registry
  | _ => registry

namespace World

variable {world after : World}

theorem registry_clientSubscribe (client : ClientId) (channelIds : List JsString) (world : World) :
    (world.clientSubscribe client channelIds).registry =
      (Action.clientSubscribe client channelIds).registered world world.registry := by
  unfold clientSubscribe Action.registered
  dsimp only
  cases (world.clients client).socket with
  | none => rfl
  | some socket =>
    dsimp only
    split
    · rfl
    · exact registry_sendUpstream _ _ _

theorem registry_command {α : Type} {key : Option JsString} {run : World → α × World}
    (kept : (run world).2.registry = world.registry) :
    (world.command key run).2.registry = world.registry := by
  unfold command
  split
  · exact kept
  · rfl

end World

variable {deployment : Deployment} {world after : World}

theorem registry_act {action : Action} (moved : action.act world = some after) :
    after.registry = action.registered world world.registry := by
  cases action with
  | addMember userId channelId =>
    obtain rfl := eq_of_addMember moved
    rfl
  | connect =>
    cases moved
    exact World.registry_connect world none []
  | close socket =>
    cases moved
    exact World.registry_close world socket
  | send socket message =>
    obtain ⟨-, rfl⟩ := eq_of_send moved
    exact World.registry_sendUpstream world _ _
  | typingTimeout userId channelId =>
    obtain rfl := eq_of_typingTimeout moved
    rfl
  | dispatch replica => exact World.registry_dispatch world moved
  | clientConnect client =>
    obtain rfl := eq_of_clientConnect moved
    exact World.registry_connect world _ _
  | clientSubscribe client channelIds =>
    cases moved
    exact World.registry_clientSubscribe _ _ world
  | clientReceive client =>
    obtain ⟨socket, later, message, rfl⟩ := eq_of_clientReceive moved
    exact World.registry_setSocket_same world socket rfl
  | clientDisconnect client =>
    obtain rfl := eq_of_clientDisconnect moved
    rfl
  | _ =>
    cases moved
    rfl

/-- What an answer does to the books is what its request does. -/
theorem registry_of_handle {request : Request} {answer : request.Answer}
    (answered : handle deployment request world = some (answer, after)) :
    after.registry = request.registered world world.registry := by
  cases request with
  | receive socket =>
    obtain ⟨later, waiting, rfl⟩ := eq_of_receive answered
    refine (World.registry_setSocket world socket _).trans ?_
    have heard : (world.registry.entries socket).upstream.tail = later :=
      congrArg List.tail waiting
    dsimp only [Request.registered, Registry.hear]
    rw [heard]
    rfl
  | checkRate socket event limit =>
    cases answered
    exact World.registry_checkRate world socket event limit
  | stamp =>
    cases answered
    rfl
  | setStatus socket status =>
    rcases eq_of_setStatus answered with rfl | ⟨serial, -, rfl⟩
    · rfl
    · rfl
  | init socket userId status =>
    cases answered
    exact World.registry_establish world socket userId
  | rejoin ref channelId =>
    cases answered
    exact World.registry_rejoin world ref channelId
  | nextClosing =>
    obtain ⟨later, closing, -, rfl⟩ := eq_of_nextClosing answered
    have taken : world.registry.closing.tail = later := congrArg List.tail closing
    exact congrArg (Registry.mk _ _ _) taken.symm
  | xrevrange channelId endId count =>
    rw [eq_of_answered answered]
    exact World.registry_command rfl
  | xrange channelId start count =>
    rw [eq_of_answered answered]
    exact World.registry_command rfl
  | xadd event =>
    rw [eq_of_answered answered]
    exact World.registry_command rfl
  | publish event =>
    rw [eq_of_answered answered]
    exact World.registry_command rfl
  | persistCutoff userId cutoffMs =>
    rcases eq_of_persistCutoff answered with rfl | rfl
    · rfl
    · rfl
  | deleteMember userId channelId =>
    rcases eq_of_deleteMember answered with rfl | rfl
    · rfl
    · rfl
  | act action =>
    obtain ⟨_, moved, same⟩ := Option.map_eq_some_iff.mp answered
    cases same
    exact registry_act moved
  | _ =>
    cases answered
    simp [Request.registered]

/-! ## What the books say about sockets that close -/

namespace Registry

variable {socket : SocketId} {before middle last registry : Registry}

@[simp] theorem entries_set_self (entry : Entry) :
    (registry.set socket entry).entries socket = entry :=
  Function.update_self ..

/-- Closing the sockets of a user keeps what closing one of them keeps. -/
theorem closeAll_induction {P : Registry → Prop} {userId : JsString}
    (closes : ∀ registry socket, P registry → P ((registry.cache socket false).close socket))
    (sockets : List (SocketId × Option JsString)) (start : P registry) :
    P (registry.closeAll userId sockets) := by
  unfold closeAll
  induction sockets generalizing registry with
  | nil => exact start
  | cons found sockets ih =>
    apply ih
    dsimp only
    split
    · exact closes _ _ start
    · exact start

/-- A client that subscribes sends one message, if any. -/
theorem clientSubscribe_induction {P : Registry → Prop} {world : World} {client : ClientId}
    {channelIds : List JsString} (start : P registry)
    (sends : ∀ socket channelIds, P (registry.send socket [subscribeMessage channelIds])) :
    P ((Action.clientSubscribe client channelIds).registered world registry) := by
  dsimp only [Action.registered]
  split
  · exact start
  · split
    · exact start
    · exact sends _ _

/-- Nothing is forgotten: a connected socket keeps its state, or leaves it to its
`disconnect` handler, and what is left to a handler stays so. -/
structure Remembers (before after : Registry) : Prop where
  stays : ∀ socket serial, (before.entries socket).connected = true →
    (before.entries socket).state = some serial →
    ((after.entries socket).connected = true ∧ (after.entries socket).state = some serial) ∨
      ⟨socket, serial⟩ ∈ after.closing
  closing : ∀ ref ∈ before.closing, ref ∈ after.closing

theorem Remembers.refl (registry : Registry) : Remembers registry registry :=
  ⟨fun _ _ connected held => .inl ⟨connected, held⟩, fun _ => id⟩

theorem Remembers.trans (first : Remembers before middle) (second : Remembers middle last) :
    Remembers before last where
  stays socket serial connected held := by
    rcases first.stays socket serial connected held with ⟨connected, held⟩ | left
    · exact second.stays socket serial connected held
    · exact .inr (second.closing _ left)
  closing ref left := second.closing ref (first.closing ref left)

/-- One entry changes, and keeps its state while the socket is connected. -/
theorem Remembers.set {entry : Entry}
    (entries : last.entries = Function.update registry.entries socket entry)
    (kept : ∀ serial, (registry.entries socket).connected = true →
      (registry.entries socket).state = some serial →
        (entry.connected = true ∧ entry.state = some serial) ∨ ⟨socket, serial⟩ ∈ last.closing)
    (closing : ∀ ref ∈ registry.closing, ref ∈ last.closing) : Remembers registry last where
  stays other serial connected held := by
    rw [entries]
    by_cases same : other = socket
    · subst same
      rw [Function.update_self]
      exact kept serial connected held
    · rw [Function.update_of_ne same]
      exact .inl ⟨connected, held⟩
  closing := closing

theorem remembers_connect (client : Option ClientId) (greeting : List ClientMessage)
    (registry : Registry) : Remembers registry (registry.connect client greeting) :=
  .set rfl (fun _ _ held => .inl ⟨rfl, held⟩) fun _ => id

theorem remembers_send (socket : SocketId) (messages : List ClientMessage) (registry : Registry) :
    Remembers registry (registry.send socket messages) := by
  unfold send
  dsimp only
  split
  · exact .set rfl (fun _ connected held => .inl ⟨connected, held⟩) fun _ => id
  · exact .refl _

theorem remembers_hear (socket : SocketId) (registry : Registry) :
    Remembers registry (registry.hear socket) :=
  .set rfl (fun _ connected held => .inl ⟨connected, held⟩) fun _ => id

theorem remembers_cache (socket : SocketId) (present : Bool) (registry : Registry) :
    Remembers registry (registry.cache socket present) :=
  .set rfl (fun _ connected held => .inl ⟨connected, held⟩) fun _ => id

theorem remembers_close (socket : SocketId) (registry : Registry) :
    Remembers registry (registry.close socket) := by
  unfold close
  dsimp only
  split
  · refine .set rfl (fun _ _ held => .inr ?_) fun ref left => List.mem_append_left _ left
    simp [held]
  · exact .refl _

theorem remembers_establish (socket : SocketId) (userId : JsString) (registry : Registry) :
    Remembers registry (registry.establish socket userId) := by
  refine .set rfl (fun serial connected held => .inl ⟨connected, ?_⟩) fun _ => id
  simp [stateRef, held]

/-- Only a `disconnect` handler that takes its state makes the books forget it. -/
theorem remembers_registered {request : Request} (other : request ≠ .nextClosing) (world : World)
    (registry : Registry) : Remembers registry (request.registered world registry) := by
  cases request with
  | receive socket => exact remembers_hear socket registry
  | setSession socket claims => exact remembers_cache socket true registry
  | deleteSession socket => exact remembers_cache socket false registry
  | disconnect socket => exact remembers_close socket registry
  | disconnectAll userId sockets =>
    exact closeAll_induction (fun _ _ earlier =>
      earlier.trans ((remembers_cache _ _ _).trans (remembers_close _ _))) sockets (.refl registry)
  | enroll socket userId validChannels denied => exact remembers_establish socket userId registry
  | init socket userId status => exact remembers_establish socket userId registry
  | establish socket userId => exact remembers_establish socket userId registry
  | nextClosing => exact absurd rfl other
  | act action =>
    cases action with
    | connect => exact remembers_connect _ _ registry
    | clientConnect client => exact remembers_connect _ _ registry
    | close socket => exact remembers_close socket registry
    | send socket message => exact remembers_send socket _ registry
    | clientSubscribe client channelIds =>
      exact clientSubscribe_induction (.refl registry) fun _ _ => remembers_send _ _ registry
    | _ => exact .refl registry
  | _ => exact .refl registry

/-- A connected socket is one of those that were opened, and an owner is only recorded on
a socket that has a state, or had one before it was closed. -/
structure Orderly (registry : Registry) : Prop where
  bounded : ∀ socket, (registry.entries socket).connected = true → socket < registry.connections
  housed : ∀ socket, (registry.entries socket).owner ≠ none →
    (registry.entries socket).state ≠ none ∨
      (socket < registry.connections ∧ (registry.entries socket).connected = false)

section

variable (orderly : registry.Orderly)

include orderly

/-- One entry of an opened socket, or of one that stays unconnected, changes. -/
theorem Orderly.set {entry : Entry}
    (entries : last.entries = Function.update registry.entries socket entry)
    (connections : registry.connections ≤ last.connections)
    (bounded : entry.connected = true → socket < last.connections)
    (housed : entry.owner ≠ none → entry.state ≠ none ∨
      (socket < last.connections ∧ entry.connected = false)) : last.Orderly where
  bounded other connected := by
    rw [entries] at connected
    by_cases same : other = socket
    · subst same
      rw [Function.update_self] at connected
      exact bounded connected
    · rw [Function.update_of_ne same] at connected
      exact Nat.lt_of_lt_of_le (orderly.bounded other connected) connections
  housed other owned := by
    rw [entries] at owned ⊢
    by_cases same : other = socket
    · subst same
      rw [Function.update_self] at owned ⊢
      exact housed owned
    · rw [Function.update_of_ne same] at owned ⊢
      exact (orderly.housed other owned).imp id
        fun ⟨opened, gone⟩ => ⟨Nat.lt_of_lt_of_le opened connections, gone⟩

theorem Orderly.connect (client : Option ClientId)
    (greeting : List ClientMessage) : (registry.connect client greeting).Orderly := by
  refine orderly.set rfl (Nat.le_succ _) (fun _ => Nat.lt_succ_self _) fun owned => .inl ?_
  exact (orderly.housed _ owned).resolve_right fun ⟨opened, _⟩ => Nat.lt_irrefl _ opened

theorem Orderly.send (socket : SocketId)
    (messages : List ClientMessage) : (registry.send socket messages).Orderly := by
  unfold Registry.send
  dsimp only
  split
  · exact orderly.set rfl (Nat.le_refl _) (orderly.bounded socket) (orderly.housed socket)
  · exact orderly

theorem Orderly.hear (socket : SocketId) : (registry.hear socket).Orderly :=
  orderly.set rfl (Nat.le_refl _) (orderly.bounded socket) (orderly.housed socket)

theorem Orderly.cache (socket : SocketId) (present : Bool) :
    (registry.cache socket present).Orderly :=
  orderly.set rfl (Nat.le_refl _) (orderly.bounded socket) (orderly.housed socket)

theorem Orderly.close (socket : SocketId) : (registry.close socket).Orderly := by
  unfold Registry.close
  dsimp only
  split
  · rename_i connected
    exact orderly.set rfl (Nat.le_refl _) nofun
      fun _ => .inr ⟨orderly.bounded socket connected, rfl⟩
  · exact orderly

theorem Orderly.establish (socket : SocketId) (userId : JsString) :
    (registry.establish socket userId).Orderly :=
  orderly.set rfl (Nat.le_refl _) (orderly.bounded socket) fun _ => .inl (Option.some_ne_none _)

theorem Orderly.registered (world : World) (request : Request) :
    (request.registered world registry).Orderly := by
  cases request with
  | receive socket => exact orderly.hear socket
  | setSession socket claims => exact orderly.cache socket true
  | deleteSession socket => exact orderly.cache socket false
  | disconnect socket => exact orderly.close socket
  | disconnectAll userId sockets =>
    exact closeAll_induction (fun _ _ earlier => (earlier.cache _ _).close _) sockets orderly
  | enroll socket userId validChannels denied => exact orderly.establish socket userId
  | init socket userId status => exact orderly.establish socket userId
  | establish socket userId => exact orderly.establish socket userId
  | nextClosing => exact ⟨orderly.bounded, orderly.housed⟩
  | act action =>
    cases action with
    | connect => exact orderly.connect _ _
    | clientConnect client => exact orderly.connect _ _
    | close socket => exact orderly.close socket
    | send socket message => exact orderly.send socket _
    | clientSubscribe client channelIds =>
      exact clientSubscribe_induction orderly fun _ _ => orderly.send _ _
    | _ => exact orderly
  | _ => exact orderly

end

/-- A state is that of its socket, or left to a `disconnect` handler. -/
def Holds (registry : Registry) (ref : StateRef) : Prop :=
  (registry.entries ref.socket).state = some ref.serial ∨ ref ∈ registry.closing

/-- The states that are held once an entry has changed. -/
theorem holds_set (registry : Registry) {entry : Entry} {opened : Prop} (held : last.Holds ref)
    (entries : last.entries = Function.update registry.entries socket entry)
    (kept : ∀ serial, entry.state = some serial →
      (registry.entries socket).state = some serial ∨ (ref = ⟨socket, serial⟩ → opened))
    (closing : ref ∈ last.closing → registry.Holds ref) : registry.Holds ref ∨ opened := by
  rcases held with held | left
  · rw [entries] at held
    by_cases same : ref.socket = socket
    · subst same
      rw [Function.update_self] at held
      exact (kept _ held).imp .inl fun opens => opens rfl
    · rw [Function.update_of_ne same] at held
      exact .inl (.inl held)
  · exact .inl (closing left)

theorem holds_cache {present : Bool} (held : (registry.cache socket present).Holds ref) :
    registry.Holds ref :=
  (holds_set registry held rfl (fun _ => .inl) .inr).resolve_right (id : ¬ False)

theorem holds_connect {client : Option ClientId} {greeting : List ClientMessage}
    (held : (registry.connect client greeting).Holds ref) : registry.Holds ref :=
  (holds_set registry held rfl (fun _ => .inl) .inr).resolve_right (id : ¬ False)

theorem holds_hear (held : (registry.hear socket).Holds ref) : registry.Holds ref :=
  (holds_set registry held rfl (fun _ => .inl) .inr).resolve_right (id : ¬ False)

theorem holds_send {messages : List ClientMessage}
    (held : (registry.send socket messages).Holds ref) : registry.Holds ref := by
  unfold send at held
  dsimp only at held
  split at held
  · exact (holds_set registry held rfl (fun _ => .inl) .inr).resolve_right (id : ¬ False)
  · exact held

theorem holds_close (held : (registry.close socket).Holds ref) : registry.Holds ref := by
  unfold close at held
  dsimp only at held
  split at held
  · refine (holds_set registry held rfl (fun _ => nofun) fun left => ?_).resolve_right (id : ¬ False)
    rcases List.mem_append.mp left with early | mine
    · exact .inr early
    · obtain ⟨serial, there, rfl⟩ := Option.map_eq_some_iff.mp (Option.mem_toList.mp mine)
      exact .inl there
  · exact held

theorem holds_establish {userId : JsString} (held : (registry.establish socket userId).Holds ref) :
    registry.Holds ref ∨ ref = registry.stateRef socket := by
  refine holds_set registry held rfl (fun serial there => .inr ?_) .inr
  rintro rfl
  cases there
  rfl

end Registry

/-- The state a request makes sure of. -/
def Request.opens (registry : Registry) (ref : StateRef) : Request → Prop
  | .enroll socket _ _ _ => ref = registry.stateRef socket
  | .init socket _ _ => ref = registry.stateRef socket
  | .establish socket _ => ref = registry.stateRef socket
  | _ => False

theorem holds_registered {registry : Registry} (world : World) (request : Request)
    (held : (request.registered world registry).Holds ref) :
    registry.Holds ref ∨ request.opens registry ref := by
  cases request with
  | receive socket => exact .inl (Registry.holds_hear held)
  | setSession socket claims => exact .inl (Registry.holds_cache held)
  | deleteSession socket => exact .inl (Registry.holds_cache held)
  | disconnect socket => exact .inl (Registry.holds_close held)
  | disconnectAll userId sockets =>
    exact .inl (Registry.closeAll_induction (P := fun later => later.Holds ref → registry.Holds ref)
      (fun _ _ earlier held => earlier (Registry.holds_cache (Registry.holds_close held))) sockets
      id held)
  | enroll socket userId validChannels denied => exact Registry.holds_establish held
  | init socket userId status => exact Registry.holds_establish held
  | establish socket userId => exact Registry.holds_establish held
  | nextClosing => exact .inl (held.imp id List.mem_of_mem_tail)
  | act action =>
    cases action with
    | connect => exact .inl (Registry.holds_connect held)
    | clientConnect client => exact .inl (Registry.holds_connect held)
    | close socket => exact .inl (Registry.holds_close held)
    | send socket message => exact .inl (Registry.holds_send held)
    | clientSubscribe client channelIds =>
      exact .inl (Registry.clientSubscribe_induction
        (P := fun later => later.Holds ref → registry.Holds ref) id (fun _ _ => Registry.holds_send)
        held)
    | _ => exact .inl held
  | _ => exact .inl held

end Vortex.Gateway
