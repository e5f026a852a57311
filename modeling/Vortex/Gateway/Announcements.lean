import Vortex.Gateway.Invisible

/-!
# What is announced of a user's presence

A request announces at most one presence, and only where the status of a state was
supplied, or for a state whose socket is gone (`announces_of_handle`).
-/

namespace Vortex.Gateway

open Foundation

variable {deployment : Deployment} {world middle after : World} {socket : SocketId}
  {ref : StateRef} {userId channelId : JsString}

def Notice.isPresence : Notice → Bool
  | .presence _ _ _ => true
  | _ => false

namespace World

/-- The presences broadcast so far, newest first. -/
def presences (world : World) : List Broadcast :=
  world.broadcasts.filter fun broadcast => broadcast.notice.isPresence

/-- What `broadcastPresenceToChannels` broadcasts. -/
def presenceOf (world : World) (ref : StateRef) (channels : List JsString) : Option Broadcast :=
  let state := world.states ref
  if !state.statusKnown || channels.isEmpty then none
  else
    some
      { sender := some ref.socket
        channels := channels
        notice := .presence state.userId
          (if state.status = .invisible then .offline else state.status) world.clock }

/-- What `announceOffline` broadcasts. -/
def offlineOf (world : World) (ref : StateRef) : Option Broadcast :=
  let state := world.states ref
  if state.subscribedChannels.isEmpty then none
  else some ⟨none, state.subscribedChannels, .presence state.userId .offline world.clock⟩

end World

/-- The presence a request announces. -/
def Request.announces (world : World) : Request → Option Broadcast
  | .enroll socket userId validChannels _ =>
      let established := world.establish socket userId
      established.presenceOf (world.stateRef socket) (validChannels.filter fun channelId =>
        !(established.states (world.stateRef socket)).subscribedChannels.contains channelId)
  | .announce ref => world.presenceOf ref (world.states ref).subscribedChannels
  | .complete ref rejoined _ _ => world.presenceOf ref rejoined
  | .announceOffline ref => world.offlineOf ref
  | _ => none

/-- The status a request supplies a state with. -/
def Request.supplies (world : World) (ref : StateRef) (status : UserStatus) : Request → Prop
  | .setStatus socket supplied =>
      ref.socket = socket ∧ (world.sockets socket).state = some ref.serial ∧ status = supplied
  | .init socket _ supplied => ref = world.stateRef socket ∧ status = supplied
  | _ => False

/-- Nothing is announced and no status supplied. -/
structure Quiet (before after : World) : Prop where
  presences : after.presences = before.presences
  known : ∀ ref, (after.states ref).statusKnown = true →
    (before.states ref).statusKnown = true ∧ (after.states ref).status = (before.states ref).status

namespace Quiet

theorem of_eq (broadcasts : after.broadcasts = world.broadcasts)
    (states : after.states = world.states) : Quiet world after where
  presences := congrArg (List.filter _) broadcasts
  known ref known := by
    rw [states] at known ⊢
    exact ⟨known, rfl⟩

theorem refl (world : World) : Quiet world world := of_eq rfl rfl

theorem trans (first : Quiet world middle) (second : Quiet middle after) : Quiet world after where
  presences := second.presences.trans first.presences
  known ref known := by
    obtain ⟨earlier, same⟩ := second.known ref known
    obtain ⟨earliest, same'⟩ := first.known ref earlier
    exact ⟨earliest, same.trans same'⟩

theorem foldl {β : Type} {step : World → β → World} (items : List β)
    (quiet : ∀ world item, Quiet world (step world item)) (world : World) :
    Quiet world (items.foldl step world) := by
  induction items generalizing world with
  | nil => exact refl world
  | cons item items ih => exact (quiet world item).trans (ih _)

theorem ite {choice : Prop} [Decidable choice] {left right : World} (first : Quiet world left)
    (second : Quiet world right) : Quiet world (if choice then left else right) := by
  split
  · exact first
  · exact second

theorem setSocket (record : SocketRecord) (world : World) :
    Quiet world (world.setSocket socket record) := of_eq rfl rfl

/-- A state that is replaced keeps its status, or loses it. -/
theorem setState {state : GatewaySocketState}
    (kept : state.statusKnown = true → (world.states ref).statusKnown = true ∧
      state.status = (world.states ref).status) : Quiet world (world.setState ref state) where
  presences := rfl
  known other known := by
    by_cases same : other = ref
    · subst same
      rw [states_setState_self] at known ⊢
      exact kept known
    · rw [states_setState_of_ne same] at known ⊢
      exact ⟨known, rfl⟩

/-- A notice that is no presence. -/
theorem broadcast {broadcast : Broadcast} (other : broadcast.notice.isPresence = false)
    (world : World) : Quiet world (world.broadcast broadcast) where
  presences := by
    unfold World.presences World.broadcast
    rw [List.filter_cons, other]
    rfl
  known _ known := ⟨known, rfl⟩

theorem emit (message : ServerMessage) (world : World) : Quiet world (world.emit socket message) :=
  ite (setSocket _ world) (refl world)

theorem join (channelId : JsString) (world : World) : Quiet world (world.join socket channelId) :=
  ite (setSocket _ world) (refl world)

theorem rejoin (channelId : JsString) (world : World) :
    Quiet world (world.rejoin ref channelId).2 :=
  (join channelId world).trans (setState fun known => ⟨known, rfl⟩)

theorem setTyping (entries : List (JsString × JsString)) (world : World) :
    Quiet world { world with activeTyping := entries } := of_eq rfl rfl

theorem beginClosing (ref : StateRef) (world : World) : Quiet world (world.beginClosing ref) :=
  of_eq rfl rfl

theorem setClient (client : ClientId) (record : Client) (world : World) :
    Quiet world (world.setClient client record) := of_eq rfl rfl

theorem setOwner (userId : JsString) (world : World) : Quiet world (world.setOwner socket userId) :=
  setSocket _ world

theorem allocate (world : World) : Quiet world { world with allocated := world.allocated + 1 } :=
  of_eq rfl rfl

/-- A new state has no status that was supplied. -/
theorem resetState (ref : StateRef) (userId : JsString) (world : World) :
    Quiet world (world.setState ref ⟨userId, [], .online, false⟩) :=
  setState fun known => nomatch known

theorem createState (ref : StateRef) (userId : JsString) (world : World) :
    Quiet world (world.createState ref userId) :=
  ((allocate world).trans (resetState ref userId _)).trans (setSocket _ _)

theorem getOrCreateState (userId : JsString) (world : World) :
    Quiet world (world.getOrCreateState socket userId) :=
  ite (setState fun known => ⟨known, rfl⟩) (createState _ _ world)

theorem establish (userId : JsString) (world : World) :
    Quiet world (world.establish socket userId) :=
  (getOrCreateState userId world).trans (setOwner userId _)

theorem stopTyping (state : GatewaySocketState) (world : World) :
    Quiet world (world.stopTyping state) := by
  apply foldl
  intro world channelId
  exact ite ((setTyping _ world).trans (broadcast rfl _)) (refl world)

theorem close (world : World) : Quiet world (world.close socket) := by
  refine ite (refl world) ?_
  dsimp only
  split
  · exact setSocket _ world
  · exact ((stopTyping _ world).trans (beginClosing _ _)).trans (setSocket _ _)

theorem disconnectAll (userId : JsString) (sockets : List (SocketId × Option JsString))
    (world : World) : Quiet world (world.disconnectAll userId sockets) := by
  apply foldl
  intro world found
  exact ite (((setSocket _ world).trans (emit _ _)).trans (close _)) (refl world)

theorem unenroll (channelIds : List JsString) (world : World) :
    Quiet world (world.unenroll socket channelIds) := by
  unfold World.unenroll
  split
  · exact refl world
  · apply foldl
    intro world channelId
    exact (setSocket _ world).trans (setState fun known => ⟨known, rfl⟩)

theorem whenSubscribed {relay : GatewaySocketState → World → World}
    (quiet : ∀ state world, Quiet world (relay state world)) (world : World) :
    Quiet world (world.whenSubscribed socket channelId relay) := by
  unfold World.whenSubscribed
  split
  · exact refl world
  · exact ite (quiet _ world) (refl world)

theorem dropChannel (replica : Nat) (sockets : List (SocketId × Option JsString)) (world : World) :
    Quiet world (world.dropChannel deployment replica userId channelId sockets) := by
  have left : Quiet world (sockets.foldl (fun world socket =>
      if socket.2 = some userId then world.leave socket.1 channelId else world) world) :=
    foldl sockets (fun world found => ite (setSocket _ world) (refl world)) world
  refine left.trans ⟨rfl, fun ref known => ?_⟩
  unfold World.dropChannel at known ⊢
  dsimp only at known ⊢
  split at known
  · rename_i dropped
    rw [if_pos dropped]
    exact ⟨known, rfl⟩
  · rename_i kept
    rw [if_neg kept]
    exact ⟨known, rfl⟩

theorem command {α : Type} {key : Option JsString} {run : World → α × World}
    (quiet : ∀ world, Quiet world (run world).2) (world : World) :
    Quiet world (world.command key run).2 := by
  unfold World.command
  split
  · exact (quiet world).trans (of_eq rfl rfl)
  · exact of_eq rfl rfl

theorem sendUpstream (messages : List ClientMessage) (world : World) :
    Quiet world (world.sendUpstream socket messages) :=
  ite (setSocket _ world) (refl world)

theorem act {action : Action} (moved : action.act world = some after) : Quiet world after := by
  cases action with
  | addMember userId channelId =>
    obtain rfl := eq_of_addMember moved
    exact of_eq rfl rfl
  | close socket =>
    cases moved
    exact close world
  | send socket message =>
    obtain ⟨-, rfl⟩ := eq_of_send moved
    exact sendUpstream _ world
  | typingTimeout userId channelId =>
    obtain rfl := eq_of_typingTimeout moved
    exact (setTyping _ world).trans (broadcast rfl _)
  | dispatch replica =>
    obtain ⟨_, _, rfl⟩ := eq_of_dispatch moved
    exact of_eq rfl rfl
  | clientConnect client =>
    obtain rfl := eq_of_clientConnect moved
    exact of_eq rfl rfl
  | clientSubscribe client channelIds =>
    cases moved
    dsimp only [World.clientSubscribe]
    split
    · exact setClient _ _ world
    · exact ite (setClient _ _ world) ((setClient _ _ world).trans (sendUpstream _ _))
  | clientReceive client =>
    obtain ⟨socket, later, message, rfl⟩ := eq_of_clientReceive moved
    exact of_eq rfl rfl
  | clientDisconnect client =>
    obtain rfl := eq_of_clientDisconnect moved
    exact of_eq rfl rfl
  | _ =>
    cases moved
    exact of_eq rfl rfl

end Quiet

/-! ## What a request announces -/

theorem presences_broadcastPresenceToChannels (ref : StateRef) (channels : List JsString)
    (world : World) :
    (world.broadcastPresenceToChannels ref channels).presences =
      (world.presenceOf ref channels).toList ++ world.presences := by
  unfold World.broadcastPresenceToChannels World.presenceOf
  dsimp only
  split <;> rfl

theorem states_broadcastPresenceToChannels (ref : StateRef) (channels : List JsString)
    (world : World) : (world.broadcastPresenceToChannels ref channels).states = world.states := by
  unfold World.broadcastPresenceToChannels
  dsimp only
  split <;> rfl

theorem presences_announceOffline (ref : StateRef) (world : World) :
    (world.announceOffline ref).presences = (world.offlineOf ref).toList ++ world.presences := by
  unfold World.announceOffline World.offlineOf
  dsimp only
  split <;> rfl

theorem states_announceOffline (ref : StateRef) (world : World) :
    (world.announceOffline ref).states = world.states := by
  unfold World.announceOffline
  dsimp only
  split <;> rfl

/-- Joining a channel does not change what a state would announce. -/
theorem presenceOf_rejoin (other : StateRef) (channelId : JsString) (channels : List JsString)
    (world : World) :
    (world.rejoin ref channelId).2.presenceOf other channels = world.presenceOf other channels := by
  have clock : (world.rejoin ref channelId).2.clock = world.clock := by
    unfold World.rejoin World.join
    dsimp only
    split <;> rfl
  have states : (world.rejoin ref channelId).2.states =
      Function.update world.states ref { world.states ref with
        subscribedChannels := insertNew channelId (world.states ref).subscribedChannels } := by
    unfold World.rejoin World.join
    dsimp only
    split <;> rfl
  unfold World.presenceOf
  rw [clock, states]
  by_cases same : other = ref
  · subst same
    rw [Function.update_self]
  · rw [Function.update_of_ne same]

theorem presenceOf_rejoins (other : StateRef) (joined channels : List JsString) (world : World) :
    (joined.foldl (fun world channelId => (world.rejoin ref channelId).2) world).presenceOf other
      channels = world.presenceOf other channels := by
  induction joined generalizing world with
  | nil => rfl
  | cons channelId joined ih => exact (ih _).trans (presenceOf_rejoin _ _ _ _)

/-- What a request does to the presences and to the statuses that were supplied. -/
structure Announces (request : Request) (before after : World) : Prop where
  presences : after.presences = (request.announces before).toList ++ before.presences
  known : ∀ ref, (after.states ref).statusKnown = true →
    ((before.states ref).statusKnown = true ∧
        (after.states ref).status = (before.states ref).status) ∨
      request.supplies before ref (after.states ref).status

theorem Quiet.announces {request : Request} (quiet : Quiet world after)
    (silent : request.announces world = none) : Announces request world after where
  presences := by
    rw [quiet.presences, silent]
    rfl
  known ref known := .inl (quiet.known ref known)

/-- A presence is broadcast at the end of a quiet stretch. -/
theorem Quiet.announcing {request : Request} {channels : List JsString}
    (quiet : Quiet world middle)
    (same : request.announces world = middle.presenceOf ref channels) :
    Announces request world (middle.broadcastPresenceToChannels ref channels) where
  presences := by
    rw [presences_broadcastPresenceToChannels, quiet.presences, same]
  known other known := by
    rw [states_broadcastPresenceToChannels] at known ⊢
    exact .inl (quiet.known other known)

theorem Announces.trans {request : Request} (announces : Announces request world middle)
    (quiet : Quiet middle after) : Announces request world after where
  presences := quiet.presences.trans announces.presences
  known ref known := by
    obtain ⟨earlier, same⟩ := quiet.known ref known
    rw [same]
    exact announces.known ref earlier

theorem Announces.setStatus {request : Request} {status : UserStatus} (quiet : Quiet world middle)
    (silent : request.announces world = none) (supplies : request.supplies world ref status) :
    Announces request world (middle.setStatus ref status) where
  presences := by
    rw [silent]
    exact quiet.presences
  known other known := by
    by_cases same : other = ref
    · subst same
      unfold World.setStatus
      rw [states_setState_self]
      exact .inr supplies
    · unfold World.setStatus at known ⊢
      rw [states_setState_of_ne same] at known ⊢
      exact .inl (quiet.known other known)

theorem announces_of_handle {request : Request} {answer : request.Answer}
    (answered : handle deployment request world = some (answer, after)) :
    Announces request world after := by
  cases request with
  | receive socket =>
    obtain ⟨later, -, rfl⟩ := eq_of_receive answered
    exact (Quiet.setSocket _ world).announces rfl
  | checkRate socket event limit =>
    cases answered
    exact (Quiet.setSocket _ world).announces rfl
  | disconnect socket =>
    cases answered
    exact (Quiet.close world).announces rfl
  | emit socket message =>
    cases answered
    exact (Quiet.emit _ world).announces rfl
  | enroll socket userId validChannels denied =>
    cases answered
    refine Announces.trans ?_ (.emit _ _)
    have established : Quiet world (world.establish socket userId) := .establish userId world
    refine (established.trans ?_).announcing ?_
    · exact .foldl validChannels (fun world channelId => .rejoin channelId world) _
    · exact (presenceOf_rejoins _ _ _ _).symm
  | unenroll socket channelIds =>
    cases answered
    exact (Quiet.unenroll _ world).announces rfl
  | typing socket channelId isTyping =>
    cases answered
    refine (Quiet.whenSubscribed (fun state world => ?_) world).announces rfl
    exact (Quiet.setTyping _ world).trans (.broadcast rfl _)
  | callSignal socket channelId signal =>
    cases answered
    exact (Quiet.whenSubscribed (fun state world => .broadcast rfl _) world).announces rfl
  | setStatus socket status =>
    rcases eq_of_setStatus answered with rfl | ⟨serial, there, rfl⟩
    · exact (Quiet.refl _).announces rfl
    · exact .setStatus (.refl _) rfl ⟨rfl, there, rfl⟩
  | announce ref =>
    cases answered
    exact (Quiet.refl world).announcing rfl
  | init socket userId status =>
    cases answered
    exact .setStatus (.establish userId world) rfl ⟨rfl, rfl⟩
  | establish socket userId =>
    cases answered
    exact (Quiet.establish userId world).announces rfl
  | rejoin ref channelId =>
    cases answered
    exact (Quiet.rejoin channelId world).announces rfl
  | complete ref rejoined channels gapTooLarge =>
    cases answered
    exact ((Quiet.refl world).announcing rfl).trans (.emit _ _)
  | nextClosing =>
    obtain ⟨later, -, -, rfl⟩ := eq_of_nextClosing answered
    exact Quiet.announces (.of_eq rfl rfl) rfl
  | announceOffline ref =>
    cases answered
    refine ⟨presences_announceOffline ref world, fun other known => .inl ?_⟩
    rw [states_announceOffline] at known ⊢
    exact ⟨known, rfl⟩
  | xrevrange channelId endId count =>
    rw [eq_of_answered answered]
    exact (Quiet.command (fun _ => .refl _) world).announces rfl
  | xrange channelId start count =>
    rw [eq_of_answered answered]
    exact (Quiet.command (fun _ => .refl _) world).announces rfl
  | xadd event =>
    rw [eq_of_answered answered]
    exact (Quiet.command (fun _ => .of_eq rfl rfl) world).announces rfl
  | publish event =>
    rw [eq_of_answered answered]
    exact (Quiet.command (fun _ => .of_eq rfl rfl) world).announces rfl
  | persistCutoff userId cutoffMs =>
    rcases eq_of_persistCutoff answered with rfl | rfl
    · exact (Quiet.refl _).announces rfl
    · exact Quiet.announces (.of_eq rfl rfl) rfl
  | disconnectAll userId sockets =>
    cases answered
    exact (Quiet.disconnectAll _ _ world).announces rfl
  | deleteMember userId channelId =>
    rcases eq_of_deleteMember answered with rfl | rfl
    · exact (Quiet.refl _).announces rfl
    · exact Quiet.announces (.of_eq rfl rfl) rfl
  | dropChannel replica userId channelId sockets =>
    cases answered
    exact (Quiet.dropChannel _ _ world).announces rfl
  | act action =>
    obtain ⟨_, moved, same⟩ := Option.map_eq_some_iff.mp answered
    cases same
    exact (Quiet.act moved).announces rfl
  | _ =>
    cases answered
    exact Quiet.announces (.of_eq rfl rfl) rfl

/-! ## Where statuses come from -/

/-- The status a message supplies. -/
def ClientMessage.supplied (message : ClientMessage) : Option UserStatus :=
  match message.event with
  | .init => some ((statusOf message.data).getD .online)
  | .presence => statusOf message.data
  | _ => none

/-- The earlier exchanges that a supplied status, or a last announcement, rests on. -/
def Supplying (seen : Exchanges) : Request → Prop
  | .init socket _ status =>
      ∃ message, ⟨.receive socket, message⟩ ∈ seen ∧ message.event = .init ∧
        ClientMessage.supplied message = some status
  | .setStatus socket status =>
      ∃ message, ⟨.receive socket, message⟩ ∈ seen ∧ message.event = .presence ∧
        ClientMessage.supplied message = some status
  | .announceOffline ref => ∃ userId, ⟨.nextClosing, (ref, userId)⟩ ∈ seen
  | _ => True

def Request.isDelivery : Request → Bool
  | .receive _ => true
  | .nextClosing => true
  | _ => false

def supplying : Monitor gateway Exchanges := .recorder Request.isDelivery Supplying

section

variable {α : Type} {seen : Exchanges}

/-- A process that obeys `supplying`, however it ends. -/
abbrev Supplied (process : Proc gateway Unit α) (seen : Exchanges) : Prop :=
  process.Obeys supplying (fun _ _ => True) seen

theorem forgets_of_isUniform {request : Request} (uniform : request.isUniform = true) :
    supplying.allows seen request ∧ ∀ answer, supplying.next seen ⟨request, answer⟩ = seen := by
  cases request <;> first | exact ⟨trivial, fun _ => rfl⟩ | cases uniform

theorem supplied_of_uniform {process : Proc gateway Unit α} (uniform : Uniform process) :
    Supplied process seen :=
  .of_along (uniform.mono fun _ _ => forgets_of_isUniform) fun _ => trivial

theorem supplied_bind {β : Type} {process : Proc gateway Unit α} {next : α → Proc gateway Unit β}
    (uniform : Uniform process) (rest : ∀ value, Supplied (next value) seen) :
    Supplied (process >>= next) seen := by
  refine Proc.Obeys.bind_of_along (uniform.mono fun request _ uniform => ?_) rest fun _ => trivial
  exact forgets_of_isUniform uniform

theorem supplied_presence {message : ClientMessage} (received : ⟨.receive socket, message⟩ ∈ seen)
    (event : message.event = .presence) :
    Supplied (presence deployment socket message.data) seen := by
  have given : message.supplied = statusOf message.data := by
    unfold ClientMessage.supplied
    rw [event]
  unfold statusOf at given
  unfold presence
  cases read : (Json.string? (property message.data (js "status"))).bind UserStatus.parse with
  | none => trivial
  | some status =>
    rw [read] at given
    refine supplied_bind (along_ask_bind rfl fun _ => trivial) fun allowed => ?_
    cases allowed
    · trivial
    · refine supplied_bind uniform_validateSession fun valid => ?_
      cases valid
      · trivial
      · refine ⟨⟨message, received, event, given⟩, fun state => ?_⟩
        apply supplied_of_uniform
        cases state with
        | none => trivial
        | some serial => exact along_ask_bind rfl fun _ => along_ask_bind rfl fun _ => trivial

theorem supplied_init {message : ClientMessage} (received : ⟨.receive socket, message⟩ ∈ seen)
    (event : message.event = .init) : Supplied (init deployment socket message.data) seen := by
  have given : message.supplied = some ((statusOf message.data).getD .online) := by
    unfold ClientMessage.supplied
    rw [event]
  refine supplied_bind uniform_validateSession fun valid => ?_
  cases valid
  · trivial
  · refine supplied_bind uniform_getSessionUserId fun userId => ?_
    cases userId with
    | none => trivial
    | some userId =>
      refine ⟨⟨message, received, event, given⟩, fun serial => ?_⟩
      apply supplied_of_uniform
      exact along_ask_bind rfl fun _ => along_ask_bind rfl fun _ => trivial

theorem supplied_serve : Supplied (serve deployment socket) [] := by
  refine ⟨trivial, fun message => ?_⟩
  have received : ⟨.receive socket, message⟩ ∈
      supplying.next [] (⟨.receive socket, message⟩ : Proc.Exchange gateway) :=
    List.mem_singleton_self _
  obtain ⟨event, data⟩ := message
  cases event with
  | subscribe => exact supplied_of_uniform (uniform_of_asks (along_subscribe data) nofun nofun)
  | unsubscribe => exact supplied_of_uniform (uniform_of_asks (along_unsubscribe data) nofun nofun)
  | typing => exact supplied_of_uniform (uniform_of_asks (along_typing data) nofun nofun)
  | callSignal => exact supplied_of_uniform (uniform_of_asks (along_callSignal data) nofun nofun)
  | presence => exact supplied_presence received rfl
  | resume => exact supplied_of_uniform (uniform_of_asks (along_resume data) nofun nofun)
  | init => exact supplied_init received rfl

theorem supplied_disconnected : Supplied disconnected [] := by
  refine ⟨trivial, fun closing => ?_⟩
  have taken : ⟨.nextClosing, closing⟩ ∈
      supplying.next [] (⟨.nextClosing, closing⟩ : Proc.Exchange gateway) :=
    List.mem_singleton_self _
  obtain ⟨ref, userId⟩ := closing
  have offline : Supplied (ask (.announceOffline ref)) _ := ⟨⟨userId, taken⟩, fun _ => trivial⟩
  have looked : Uniform (ask (.fetchSockets none)) := ⟨rfl, fun _ => trivial⟩
  change Supplied (ask (.fetchSockets none) >>= _) _
  refine supplied_bind looked fun found => ?_
  rcases found with error | sockets
  · exact offline
  · have judged : ∀ others : Bool, Supplied (if others then pure () else ask (.announceOffline ref))
          (supplying.next [] ⟨.nextClosing, (ref, userId)⟩) := by
      intro others
      cases others
      · exact offline
      · trivial
    exact judged _

theorem supplied_done {process : Proc gateway Unit α} (supplied : Supplied process seen) :
    Supplied (do let _ ← process; pure true) seen := by
  apply Proc.Obeys.bind
  refine supplied.mono fun memory result _ => ?_
  cases result <;> trivial

theorem supplied_program (call : Call) : Supplied (program deployment call) [] := by
  cases call with
  | serve socket => exact supplied_done supplied_serve
  | disconnected => exact supplied_done supplied_disconnected
  | act action => exact ⟨trivial, fun _ => trivial⟩
  | _ =>
    apply supplied_of_uniform
    exact uniform_of_call (along_program nofun) nofun nofun

end

/-! ## Runs -/

section

variable {guard : GatewayPool → Turn Call → Prop} {pool : GatewayPool} {history : History}
  {index : Nat} {call : Call} {request : Request} {answer : request.Answer}

theorem supplying_pending (reached : (gatewaySystem deployment).Reachable guard pool)
    {next : request.Answer → Proc gateway Unit Bool}
    (pending : pool.threads[index]? = some ⟨call, .await request next⟩) :
    ∃ seen, (∀ exchange ∈ seen, exchange ∈ Pool.exchanges pool.history index) ∧
      Supplying seen request := by
  have obeys := Pool.obeys_of_reachable reached pending (supplied_program call)
  refine ⟨_, fun exchange member => ?_, obeys.1⟩
  exact (Monitor.mem_remember_recorder.mp member).1

/-- A handler of the socket was sent the status by `gateway:init` or `gateway:presence`,
and has recorded it. -/
def GaveStatus (history : History) (socket : SocketId) (status : UserStatus) : Prop :=
  ∃ (index : Nat) (message : ClientMessage),
    ⟨.receive socket, message⟩ ∈ Pool.exchanges history index ∧
    message.supplied = some status ∧
    ((message.event = .init ∧ ∃ userId serial,
        ⟨.init socket userId status, serial⟩ ∈ Pool.exchanges history index) ∨
      (message.event = .presence ∧ ∃ serial,
        ⟨.setStatus socket status, some serial⟩ ∈ Pool.exchanges history index))

theorem GaveStatus.grow {status : UserStatus} (gave : GaveStatus history socket status)
    (event : Event gateway Call) : GaveStatus (event :: history) socket status := by
  obtain ⟨index, message, received, supplied, how⟩ := gave
  refine ⟨index, message, exchanges_grow received event, supplied, how.imp ?_ ?_⟩
  · exact fun ⟨same, userId, serial, done⟩ => ⟨same, userId, serial, exchanges_grow done event⟩
  · exact fun ⟨same, serial, done⟩ => ⟨same, serial, exchanges_grow done event⟩

/-- Where an announced presence comes from: from a socket whose status was supplied
before, or from the `disconnect` handler of a socket that was closed. -/
def Announced (history : History) (broadcast : Broadcast) : Prop :=
  ∃ userId status updatedAt, broadcast.notice = .presence userId status updatedAt ∧
    ((∃ socket supplied, broadcast.sender = some socket ∧ GaveStatus history socket supplied ∧
        status = if supplied = .invisible then .offline else supplied) ∨
      (broadcast.sender = none ∧ status = .offline ∧ ∃ index ref owner,
        ⟨.nextClosing, (ref, owner)⟩ ∈ Pool.exchanges history index ∧
        ⟨.announceOffline ref, ()⟩ ∈ Pool.exchanges history index))

theorem Announced.grow {broadcast : Broadcast} (announced : Announced history broadcast)
    (event : Event gateway Call) : Announced (event :: history) broadcast := by
  obtain ⟨userId, status, updatedAt, notice, whence⟩ := announced
  refine ⟨userId, status, updatedAt, notice, whence.imp ?_ ?_⟩
  · exact fun ⟨socket, supplied, sender, gave, shown⟩ =>
      ⟨socket, supplied, sender, gave.grow event, shown⟩
  · exact fun ⟨sender, offline, index, ref, owner, taken, announced⟩ =>
      ⟨sender, offline, index, ref, owner, exchanges_grow taken event,
        exchanges_grow announced event⟩

structure Accountable (world : World) (history : History) : Prop where
  supplied : ∀ ref, (world.states ref).statusKnown = true →
    GaveStatus history ref.socket (world.states ref).status
  announced : ∀ broadcast ∈ world.presences, Announced history broadcast

/-- A presence that a state announces was supplied to its socket. -/
theorem announced_of_presenceOf (supplied : ∀ ref, (world.states ref).statusKnown = true →
      GaveStatus history ref.socket (world.states ref).status)
    {channels : List JsString} {broadcast : Broadcast}
    (presence : world.presenceOf ref channels = some broadcast) : Announced history broadcast := by
  unfold World.presenceOf at presence
  dsimp only at presence
  split at presence
  · cases presence
  · rename_i shown
    cases presence
    have known : (world.states ref).statusKnown = true := by
      cases flag : (world.states ref).statusKnown with
      | true => rfl
      | false =>
        rw [flag] at shown
        exact absurd rfl shown
    exact ⟨_, _, _, rfl, .inl ⟨ref.socket, _, rfl, supplied ref known, rfl⟩⟩

/-- A status that a request supplies was in a message to its socket. -/
theorem gaveStatus_of_supplies {seen : Exchanges}
    (earlier : ∀ exchange ∈ seen, exchange ∈ Pool.exchanges history index)
    (supplying : Supplying seen request)
    (answered : handle deployment request world = some (answer, after)) {status : UserStatus}
    (supplies : request.supplies world ref status) :
    GaveStatus (⟨index, call, request, answer⟩ :: history) ref.socket status := by
  cases request with
  | setStatus socket given =>
    obtain ⟨rfl, there, rfl⟩ := supplies
    obtain ⟨message, received, event, supplied⟩ := supplying
    dsimp only [handle] at answered
    rw [there] at answered
    cases answered
    exact ⟨index, message, exchanges_grow (earlier _ received) _, supplied,
      .inr ⟨event, ref.serial, exchanges_self⟩⟩
  | init socket userId given =>
    obtain ⟨rfl, rfl⟩ := supplies
    obtain ⟨message, received, event, supplied⟩ := supplying
    exact ⟨index, message, exchanges_grow (earlier _ received) _, supplied,
      .inl ⟨event, userId, answer, exchanges_self⟩⟩
  | _ => cases supplies

theorem announced_of_announces (accountable : Accountable world history) {seen : Exchanges}
    (earlier : ∀ exchange ∈ seen, exchange ∈ Pool.exchanges history index)
    (supplying : Supplying seen request) {broadcast : Broadcast}
    (announces : request.announces world = some broadcast) :
    Announced (⟨index, call, request, answer⟩ :: history) broadcast := by
  cases request with
  | enroll socket userId validChannels denied =>
    refine (announced_of_presenceOf (fun ref known => ?_) announces).grow _
    have quiet : Quiet world (world.establish socket userId) := .establish userId world
    obtain ⟨known, same⟩ := quiet.known ref known
    rw [same]
    exact accountable.supplied ref known
  | announce ref => exact (announced_of_presenceOf accountable.supplied announces).grow _
  | complete ref rejoined channels gapTooLarge =>
    exact (announced_of_presenceOf accountable.supplied announces).grow _
  | announceOffline ref =>
    obtain ⟨owner, taken⟩ := supplying
    dsimp only [Request.announces, World.offlineOf] at announces
    split at announces
    · cases announces
    · cases announces
      exact ⟨_, _, _, rfl, .inr ⟨rfl, rfl, index, ref, owner, exchanges_grow (earlier _ taken) _,
        exchanges_self⟩⟩
  | _ => cases announces

theorem Accountable.step (accountable : Accountable world history) {seen : Exchanges}
    (earlier : ∀ exchange ∈ seen, exchange ∈ Pool.exchanges history index)
    (supplying : Supplying seen request)
    (answered : handle deployment request world = some (answer, after)) :
    Accountable after (⟨index, call, request, answer⟩ :: history) := by
  have announces := announces_of_handle answered
  constructor
  · intro ref known
    rcases announces.known ref known with ⟨known, same⟩ | supplies
    · rw [same]
      exact (accountable.supplied ref known).grow _
    · exact gaveStatus_of_supplies earlier supplying answered supplies
  · intro broadcast member
    rw [announces.presences] at member
    rcases List.mem_append.mp member with new | old
    · exact announced_of_announces accountable earlier supplying (Option.mem_toList.mp new)
    · exact (accountable.announced broadcast old).grow _

theorem accountable_of_reachable (reached : (gatewaySystem deployment).Reachable guard pool) :
    Accountable pool.shared pool.history := by
  refine reached.invariant (P := fun pool => Accountable pool.shared pool.history) ?_ ?_
  · rintro _ ⟨_, ⟨outcomes, rfl⟩, rfl⟩
    exact ⟨fun _ known => (nomatch known), fun _ member => (nomatch member)⟩
  · intro before label later reached accountable _ moved
    obtain ⟨call, -, rfl⟩ | ⟨index, call, request, next, answer, shared, -, pending, answered,
      rfl⟩ := Pool.step_cases moved
    · exact accountable
    · obtain ⟨seen, earlier, supplying⟩ := supplying_pending reached pending
      exact accountable.step earlier supplying answered

end

/-! ## What others can tell -/

/-- In every run, replacing `invisible` by `offline` in what the sockets send changes no
broadcast; and every presence that was broadcast is the status its socket had supplied,
`invisible` shown as `offline`, or the last `offline` of a socket that was closed. -/
theorem presence_masked {deployment : Deployment} {world : World} (initial : Initial world)
    {turns : List (Turn Call)} {pool : GatewayPool}
    (ran : Pool.replay (program deployment) (fun _ _ => handle deployment) (fun _ _ => true) world
      turns = some pool) :
    (∃ masked : GatewayPool,
      Pool.replay (program deployment) (fun _ _ => handle deployment) (fun _ _ => true) world
        (turns.map (Translation.turn Call.mask)) = some masked ∧
      masked.shared.broadcasts = pool.shared.broadcasts ∧
      ∀ socket, (masked.shared.sockets socket).rooms = (pool.shared.sockets socket).rooms ∧
        (masked.shared.sockets socket).inbox = (pool.shared.sockets socket).inbox) ∧
    ∀ broadcast ∈ pool.shared.presences, Announced pool.history broadcast := by
  refine ⟨broadcasts_masked initial ran, fun broadcast member => ?_⟩
  have start : (gatewaySystem deployment).Reachable System.unguarded (Pool.fresh world) :=
    .initial ⟨world, initial, rfl⟩
  have reached := start.steps (System.steps_of_follow (fun _ _ _ => trivial) ran)
  exact (accountable_of_reachable reached).announced broadcast member

namespace Sample

/-- A socket subscribes to its user's own channel and is invisible from then on. -/
def vanishing : List (Turn Call) :=
  [.start (.act .connect), .advance 0,
    .start (.act (.send 0 (subscribeMessage [js "user:alice"]))), .advance 1, .start (.serve 0)] ++
    advances 2 9 ++
  [.start (.act (.send 0 ⟨.init, some (.obj [(js "status", .str (js "invisible"))])⟩)),
    .advance 3, .start (.serve 0)] ++ advances 4 8

theorem vanishing_completed : (run vanishing).isSome := by decide +kernel

/-- A socket subscribes, supplies no status, and is closed. -/
def leaving : List (Turn Call) :=
  [.start (.act .connect), .advance 0,
    .start (.act (.send 0 (subscribeMessage [js "user:alice"]))), .advance 1, .start (.serve 0)] ++
    advances 2 9 ++
  [.start (.act (.close 0)), .advance 3, .start .disconnected] ++ advances 4 3

theorem leaving_completed : (run leaving).isSome := by decide +kernel

end Sample

/-- The run of a socket that is `offline` instead announces the same presence. -/
theorem vanishing_masked :
    ∃ masked : GatewayPool,
      Pool.replay (program Sample.deployment) (fun _ _ => handle Sample.deployment)
        (fun _ _ => true) World.blank (Sample.vanishing.map (Translation.turn Call.mask)) =
          some masked ∧
      masked.shared.broadcasts.length = 1 := by
  obtain ⟨⟨masked, ran, same, -⟩, -⟩ := presence_masked ⟨fun _ => [], rfl⟩
    (Option.some_get Sample.vanishing_completed).symm
  refine ⟨masked, ran, ?_⟩
  rw [same]
  decide +kernel

/-- An exchange in which no status is supplied. -/
def suppliesNothing (event : Event gateway Call) : Bool :=
  match event.request, event.answer with
  | .receive _, message => (ClientMessage.supplied message).isNone
  | _, _ => true

theorem not_gaveStatus {history : History} (nothing : history.all suppliesNothing = true)
    (socket : SocketId) (status : UserStatus) : ¬ GaveStatus history socket status := by
  rintro ⟨index, message, received, supplied, -⟩
  obtain ⟨⟨thread, call, request, answer⟩, recorded, -, same⟩ := Pool.mem_exchanges.mp received
  cases same
  have unsupplied := List.all_eq_true.mp nothing _ recorded
  simp only [suppliesNothing, supplied, Option.isNone_some, Bool.false_eq_true] at unsupplied

/-- A presence was broadcast though no socket has supplied a status. -/
theorem unsupplied_presence :
    ∃ pool : GatewayPool, (gatewaySystem Sample.deployment).Reachable System.unguarded pool ∧
      pool.shared.presences ≠ [] ∧ ∀ socket status, ¬ GaveStatus pool.history socket status := by
  refine ⟨(Sample.run Sample.leaving).get Sample.leaving_completed,
    Sample.run_reachable Sample.leaving_completed, ?_, not_gaveStatus (by decide +kernel)⟩
  have announced : ((Sample.run Sample.leaving).get
      Sample.leaving_completed).shared.presences.length = 1 := by decide +kernel
  intro none_announced
  rw [none_announced] at announced
  cases announced

end Vortex.Gateway
