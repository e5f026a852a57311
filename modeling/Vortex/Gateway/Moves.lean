import Vortex.Gateway.Handle

/-!
# What an answer does to sockets and states

Whatever a request does to the world, sockets only enter rooms, change hands and get
sessions as the request says (`Request.allowance`), states only gain the channels of
those rooms, and a socket that is gone stays gone.
-/

variable {userId channelId : JsString} {record : SocketRecord}

namespace Vortex.Gateway

open Foundation

/-- The rooms a socket may enter, the channels a state may gain, and the owner and the
session a socket may get. -/
structure Allowance where
  joins : SocketId → JsString → Prop
  adds : StateRef → JsString → Prop
  owns : SocketId → JsString → Prop
  validates : SocketId → SessionEntry → Prop

/-- Nothing may be gained. -/
def Allowance.nothing : Allowance :=
  ⟨fun _ _ => False, fun _ _ => False, fun _ _ => False, fun _ _ => False⟩

/-- Only an owner may be recorded. -/
def Allowance.owner (socket : SocketId) (userId : JsString) : Allowance :=
  { Allowance.nothing with owns := fun other owner => other = socket ∧ owner = userId }

/-- What a request lets sockets gain in a world. -/
def Request.allowance (world : World) : Request → Allowance
  | .enroll socket userId validChannels _ =>
      { Allowance.owner socket userId with
        joins := fun other channelId => other = socket ∧ channelId ∈ validChannels
        adds := fun ref channelId => ref = world.stateRef socket ∧ channelId ∈ validChannels }
  | .init socket userId _ => .owner socket userId
  | .establish socket userId => .owner socket userId
  | .rejoin ref channelId =>
      { Allowance.nothing with
        joins := fun other joined => other = ref.socket ∧ joined = channelId
        adds := fun other joined => other = ref ∧ joined = channelId }
  | .setSession socket claims =>
      { Allowance.nothing with
        validates := fun other entry =>
          other = socket ∧ entry = ⟨world.clock, claims.userId, claims.iat⟩ }
  | _ => .nothing

/-- Sockets and states after a step, within an allowance. -/
structure Moves (allowed : Allowance) (before after : World) : Prop where
  rooms : ∀ socket, ∀ channelId ∈ (after.sockets socket).rooms,
    channelId ∈ (before.sockets socket).rooms ∨ allowed.joins socket channelId
  housed : (∀ socket, ∀ channelId ∈ (before.sockets socket).rooms,
      (before.sockets socket).connected = true) →
    ∀ socket, ∀ channelId ∈ (after.sockets socket).rooms, (after.sockets socket).connected = true
  gone : ∀ socket, (after.sockets socket).connected = true →
    (before.sockets socket).connected = true ∨
      (before.connections ≤ socket ∧ socket < after.connections)
  bound : before.connections ≤ after.connections
  owner : ∀ socket userId, (after.sockets socket).dataUserId = some userId →
    (before.sockets socket).dataUserId = some userId ∨ allowed.owns socket userId
  kept : ∀ socket, (before.sockets socket).dataUserId ≠ none →
    (after.sockets socket).dataUserId ≠ none
  session : ∀ socket entry, (after.sockets socket).session = some entry →
    (before.sockets socket).session = some entry ∨ allowed.validates socket entry
  channels : ∀ ref, ∀ channelId ∈ (after.states ref).subscribedChannels,
    channelId ∈ (before.states ref).subscribedChannels ∨ allowed.adds ref channelId
  users : ∀ ref, (after.states ref).userId = (before.states ref).userId ∨
    allowed.owns ref.socket (after.states ref).userId

variable {allowed : Allowance} {before middle after world : World} {socket : SocketId}
  {ref : StateRef}

/-- A step that leaves sockets and states alone. -/
theorem Moves.of_eq (sockets : after.sockets = before.sockets)
    (states : after.states = before.states) (connections : after.connections = before.connections) :
    Moves allowed before after where
  rooms socket channelId member := .inl (by rwa [← sockets])
  housed kept := by rwa [sockets]
  gone socket connected := .inl (by rwa [← sockets])
  bound := Nat.le_of_eq connections.symm
  owner socket userId recorded := .inl (by rwa [← sockets])
  kept socket recorded := by rwa [sockets]
  session socket entry cached := .inl (by rwa [← sockets])
  channels ref channelId member := .inl (by rwa [← states])
  users ref := .inl (by rw [states])

theorem Moves.refl (allowed : Allowance) (world : World) : Moves allowed world world :=
  .of_eq rfl rfl rfl

theorem Moves.trans (first : Moves allowed before middle) (second : Moves allowed middle after) :
    Moves allowed before after where
  rooms socket channelId member :=
    (second.rooms socket channelId member).elim (first.rooms socket channelId) .inr
  housed kept := second.housed (first.housed kept)
  gone socket connected := by
    rcases second.gone socket connected with earlier | ⟨low, high⟩
    · rcases first.gone socket earlier with earlier | ⟨low, high⟩
      · exact .inl earlier
      · exact .inr ⟨low, Nat.lt_of_lt_of_le high second.bound⟩
    · exact .inr ⟨Nat.le_trans first.bound low, high⟩
  bound := Nat.le_trans first.bound second.bound
  owner socket userId recorded :=
    (second.owner socket userId recorded).elim (first.owner socket userId) .inr
  kept socket recorded := second.kept socket (first.kept socket recorded)
  session socket entry cached :=
    (second.session socket entry cached).elim (first.session socket entry) .inr
  channels ref channelId member :=
    (second.channels ref channelId member).elim (first.channels ref channelId) .inr
  users ref := by
    rcases second.users ref with same | owned
    · rw [same]
      exact first.users ref
    · exact .inr owned

theorem Moves.foldl {β : Type} {step : World → β → World} {items : List β}
    (moves : ∀ world, ∀ item ∈ items, Moves allowed world (step world item)) (world : World) :
    Moves allowed world (items.foldl step world) := by
  induction items generalizing world with
  | nil => exact .refl _ _
  | cons item items ih =>
    exact (moves world item List.mem_cons_self).trans
      (ih (fun world other member => moves world other (List.mem_cons_of_mem item member)) _)

/-! ## Primitives -/

theorem sockets_setSocket_self (record : SocketRecord) :
    (world.setSocket socket record).sockets socket = record :=
  Function.update_self ..

theorem sockets_setSocket_of_ne {other : SocketId} (different : other ≠ socket)
    (record : SocketRecord) : (world.setSocket socket record).sockets other = world.sockets other :=
  Function.update_of_ne different ..

theorem states_setState_self (state : GatewaySocketState) :
    (world.setState ref state).states ref = state :=
  Function.update_self ..

theorem states_setState_of_ne {other : StateRef} (different : other ≠ ref)
    (state : GatewaySocketState) : (world.setState ref state).states other = world.states other :=
  Function.update_of_ne different ..

/-- A record after a step, within an allowance. -/
structure RecordMoves (allowed : Allowance) (socket : SocketId) (before after : SocketRecord) :
    Prop where
  rooms : ∀ channelId ∈ after.rooms,
    channelId ∈ before.rooms ∨ allowed.joins socket channelId := by exact fun _ => .inl
  housed : (before.rooms ≠ [] → before.connected = true) →
    after.rooms ≠ [] → after.connected = true := by exact id
  owner : ∀ userId, after.dataUserId = some userId →
    before.dataUserId = some userId ∨ allowed.owns socket userId := by exact fun _ => .inl
  kept : before.dataUserId ≠ none → after.dataUserId ≠ none := by exact id
  session : ∀ entry, after.session = some entry →
    before.session = some entry ∨ allowed.validates socket entry := by exact fun _ => .inl

theorem Moves.of_records
    (records : ∀ socket, RecordMoves allowed socket (before.sockets socket) (after.sockets socket))
    (gone : ∀ socket, (after.sockets socket).connected = true →
      (before.sockets socket).connected = true ∨
        (before.connections ≤ socket ∧ socket < after.connections))
    (bound : before.connections ≤ after.connections) (states : after.states = before.states) :
    Moves allowed before after where
  rooms socket := (records socket).rooms
  housed all socket channelId member := by
    refine (records socket).housed (fun occupied => ?_) (List.ne_nil_of_mem member)
    obtain ⟨channelId, member⟩ := List.exists_mem_of_ne_nil _ occupied
    exact all socket channelId member
  gone := gone
  bound := bound
  owner socket := (records socket).owner
  kept socket := (records socket).kept
  session socket := (records socket).session
  channels ref channelId member := .inl (by rwa [← states])
  users ref := .inl (by rw [states])

/-- One record changes, within the allowance. -/
theorem RecordMoves.setSocket (moves : RecordMoves allowed socket (world.sockets socket) record)
    (other : SocketId) :
    RecordMoves allowed other (world.sockets other)
      ((world.setSocket socket record).sockets other) := by
  by_cases same : other = socket
  · subst same
    rwa [sockets_setSocket_self]
  · rw [sockets_setSocket_of_ne same]
    exact {}

theorem Moves.setSocket (moves : RecordMoves allowed socket (world.sockets socket) record)
    (gone : record.connected = true → (world.sockets socket).connected = true) :
    Moves allowed world (world.setSocket socket record) := by
  refine .of_records moves.setSocket (fun other connected => .inl ?_) (Nat.le_refl _) rfl
  by_cases same : other = socket
  · subst same
    rw [sockets_setSocket_self] at connected
    exact gone connected
  · rwa [sockets_setSocket_of_ne same] at connected

/-- A record changes in what no room, owner or session depends on. -/
theorem Moves.setSocket_same (rooms : record.rooms = (world.sockets socket).rooms)
    (connected : record.connected = (world.sockets socket).connected)
    (owner : record.dataUserId = (world.sockets socket).dataUserId)
    (session : record.session = (world.sockets socket).session) :
    Moves allowed world (world.setSocket socket record) := by
  refine .setSocket ⟨?_, ?_, ?_, ?_, ?_⟩ (connected ▸ id)
  · exact fun channelId member => .inl (rooms ▸ member)
  · rw [rooms, connected]
    exact id
  · exact fun userId recorded => .inl (owner ▸ recorded)
  · rw [owner]
    exact id
  · exact fun entry cached => .inl (session ▸ cached)

theorem Moves.setState {state : GatewaySocketState}
    (channels : ∀ channelId ∈ state.subscribedChannels,
      channelId ∈ (world.states ref).subscribedChannels ∨ allowed.adds ref channelId)
    (users : state.userId = (world.states ref).userId ∨ allowed.owns ref.socket state.userId) :
    Moves allowed world (world.setState ref state) where
  rooms socket channelId member := .inl member
  housed kept := kept
  gone socket connected := .inl connected
  bound := Nat.le_refl _
  owner socket userId recorded := .inl recorded
  kept socket recorded := recorded
  session socket entry cached := .inl cached
  channels other channelId member := by
    by_cases same : other = ref
    · subst same
      rw [states_setState_self] at member
      exact channels channelId member
    · rw [states_setState_of_ne same] at member
      exact .inl member
  users other := by
    by_cases same : other = ref
    · subst same
      rw [states_setState_self]
      exact users
    · rw [states_setState_of_ne same]
      exact .inl rfl

theorem mem_insertNew {channel other : JsString} {channels : List JsString} :
    other ∈ insertNew channel channels ↔ other ∈ channels ∨ other = channel := by
  unfold insertNew
  split
  · rename_i known
    refine ⟨.inl, fun either => either.elim id ?_⟩
    rintro rfl
    exact List.contains_iff_mem.mp known
  · rw [List.mem_append, List.mem_singleton]

/-! ## Operations -/

section Operations

theorem Moves.emit (message : ServerMessage) (world : World) :
    Moves allowed world (world.emit socket message) := by
  unfold World.emit
  dsimp only
  split
  · exact .setSocket_same rfl rfl rfl rfl
  · exact .refl _ _

theorem Moves.broadcast (broadcast : Broadcast) (world : World) :
    Moves allowed world (world.broadcast broadcast) :=
  .of_eq rfl rfl rfl

theorem Moves.join (joins : allowed.joins socket channelId) (world : World) :
    Moves allowed world (world.join socket channelId) := by
  unfold World.join
  dsimp only
  split
  · rename_i connected
    refine .setSocket { rooms := fun other member => ?_, housed := fun _ _ => connected } id
    rcases mem_insertNew.mp member with early | rfl
    · exact .inl early
    · exact .inr joins
  · exact .refl _ _

theorem Moves.leave (channelId : JsString) (world : World) :
    Moves allowed world (world.leave socket channelId) := by
  refine .setSocket { rooms := ?_, housed := fun housed occupied => ?_ } id
  · exact fun other member => .inl (List.mem_filter.mp member).1
  · obtain ⟨other, member⟩ := List.exists_mem_of_ne_nil _ occupied
    exact housed (List.ne_nil_of_mem (List.mem_filter.mp member).1)

theorem Moves.setOwner (owns : allowed.owns socket userId) (world : World) :
    Moves allowed world (world.setOwner socket userId) := by
  refine .setSocket { owner := fun other recorded => ?_, kept := fun _ => ?_ } id
  · cases recorded
    exact .inr owns
  · exact Option.some_ne_none userId

theorem Moves.setSession {session : Option SessionEntry}
    (validates : ∀ entry, session = some entry → allowed.validates socket entry) (world : World) :
    Moves allowed world (world.setSession socket session) :=
  .setSocket { session := fun entry cached => .inr (validates entry cached) } id

theorem Moves.addChannel (adds : allowed.adds ref channelId) (world : World) :
    Moves allowed world (world.addChannel ref channelId) := by
  apply Moves.setState
  · intro other member
    rcases mem_insertNew.mp member with early | rfl
    · exact .inl early
    · exact .inr adds
  · exact .inl rfl

theorem Moves.removeChannel (channelId : JsString) (world : World) :
    Moves allowed world (world.removeChannel ref channelId) :=
  .setState (fun _ member => .inl (List.mem_filter.mp member).1) (.inl rfl)

theorem Moves.setStatus (status : UserStatus) (world : World) :
    Moves allowed world (world.setStatus ref status) :=
  .setState (fun _ => .inl) (.inl rfl)

theorem Moves.broadcastPresenceToChannels (channels : List JsString) (world : World) :
    Moves allowed world (world.broadcastPresenceToChannels ref channels) := by
  unfold World.broadcastPresenceToChannels
  dsimp only
  split
  · exact .refl _ _
  · exact .broadcast _ _

theorem Moves.stopTyping (state : GatewaySocketState) (world : World) :
    Moves allowed world (world.stopTyping state) := by
  apply Moves.foldl
  intro world channelId _
  split
  · exact .of_eq rfl rfl rfl
  · exact .refl _ _

/-- The record of a socket that is gone. -/
theorem Moves.setGone (rooms : record.rooms = []) (connected : record.connected = false)
    (owner : record.dataUserId = (world.sockets socket).dataUserId)
    (session : record.session = none) : Moves allowed world (world.setSocket socket record) := by
  refine .setSocket ⟨?_, fun _ occupied => absurd rooms occupied, ?_, ?_, ?_⟩ ?_
  · rw [rooms]
    exact fun _ member => absurd member List.not_mem_nil
  · exact fun userId recorded => .inl (owner ▸ recorded)
  · rw [owner]
    exact id
  · rw [session]
    exact fun _ impossible => nomatch impossible
  · rw [connected]
    exact fun impossible => nomatch impossible

theorem sockets_stopTyping (state : GatewaySocketState) (world : World) :
    (world.stopTyping state).sockets = world.sockets := by
  unfold World.stopTyping
  generalize state.subscribedChannels = channels
  induction channels generalizing world with
  | nil => rfl
  | cons channelId channels ih =>
    rw [List.foldl_cons, ih]
    split <;> rfl

theorem Moves.close (world : World) : Moves allowed world (world.close socket) := by
  unfold World.close
  dsimp only
  split
  · exact .refl _ _
  · split
    · exact .setGone rfl rfl rfl rfl
    · rename_i serial _
      have closing : Moves allowed world
          ((world.stopTyping (world.states ⟨socket, serial⟩)).beginClosing ⟨socket, serial⟩) :=
        (Moves.stopTyping _ world).trans (.of_eq rfl rfl rfl)
      refine closing.trans (.setGone rfl rfl ?_ rfl)
      change _ = ((world.stopTyping _).sockets socket).dataUserId
      rw [sockets_stopTyping]

theorem Moves.createState (owns : allowed.owns ref.socket userId) (world : World) :
    Moves allowed world (world.createState ref userId) := by
  have counted : Moves allowed world { world with allocated := world.allocated + 1 } :=
    .of_eq rfl rfl rfl
  refine counted.trans (.trans (.setState ?_ (.inr owns)) (.setSocket_same rfl rfl rfl rfl))
  exact fun _ member => absurd member List.not_mem_nil

theorem Moves.getOrCreateState (owns : allowed.owns socket userId) (world : World) :
    Moves allowed world (world.getOrCreateState socket userId) := by
  unfold World.getOrCreateState
  dsimp only
  split
  · exact .setState (fun _ => .inl) (.inr owns)
  · exact .createState owns world

theorem Moves.rejoin (joins : allowed.joins ref.socket channelId)
    (adds : allowed.adds ref channelId) (world : World) :
    Moves allowed world (world.rejoin ref channelId).2 :=
  (Moves.join joins world).trans (.addChannel adds _)

theorem Moves.establish (owns : allowed.owns socket userId) (world : World) :
    Moves allowed world (world.establish socket userId) :=
  (Moves.getOrCreateState owns world).trans (.setOwner owns _)

theorem Moves.enroll {validChannels denied : List JsString} (owns : allowed.owns socket userId)
    (joins : ∀ channelId ∈ validChannels, allowed.joins socket channelId)
    (adds : ∀ channelId ∈ validChannels, allowed.adds (world.stateRef socket) channelId) :
    Moves allowed world (world.enroll socket userId validChannels denied) := by
  refine (Moves.establish owns world).trans ?_
  refine .trans ?_ (.trans (.broadcastPresenceToChannels _ _) (.emit _ _))
  exact .foldl
    (fun world channelId member => .rejoin (joins channelId member) (adds channelId member) world) _

theorem Moves.unenroll (channelIds : List JsString) (world : World) :
    Moves allowed world (world.unenroll socket channelIds) := by
  unfold World.unenroll
  split
  · exact .refl _ _
  · exact .foldl (fun world channelId _ => (Moves.leave _ _).trans (.removeChannel _ _)) _

theorem Moves.whenSubscribed {relay : GatewaySocketState → World → World}
    (moves : ∀ state world, Moves allowed world (relay state world)) (world : World) :
    Moves allowed world (world.whenSubscribed socket channelId relay) := by
  unfold World.whenSubscribed
  split
  · exact .refl _ _
  · dsimp only
    split
    · exact moves _ _
    · exact .refl _ _

theorem Moves.typing (channelId : JsString) (isTyping : Bool) (world : World) :
    Moves allowed world (world.typing socket channelId isTyping) := by
  apply Moves.whenSubscribed
  exact fun _ _ => .of_eq rfl rfl rfl

theorem Moves.callSignal (channelId : JsString) (signal : CallSignal) (world : World) :
    Moves allowed world (world.callSignal socket channelId signal) := by
  apply Moves.whenSubscribed
  exact fun _ _ => .broadcast _ _

theorem Moves.checkRate (event : JsString) (limit : Nat) (world : World) :
    Moves allowed world (world.checkRate socket event limit).2 :=
  .setSocket_same rfl rfl rfl rfl

theorem Moves.disconnectAll (userId : JsString) (sockets : List (SocketId × Option JsString))
    (world : World) : Moves allowed world (world.disconnectAll userId sockets) := by
  apply Moves.foldl
  intro world socket _
  split
  · refine (Moves.setSession ?_ world).trans (.trans (.emit _ _) (.close _))
    exact fun _ impossible => nomatch impossible
  · exact .refl _ _

theorem Moves.dropChannel (deployment : Deployment) (replica : Nat) (userId channelId : JsString)
    (sockets : List (SocketId × Option JsString)) (world : World) :
    Moves allowed world (world.dropChannel deployment replica userId channelId sockets) := by
  have left : Moves allowed world (sockets.foldl (fun world socket =>
      if socket.2 = some userId then world.leave socket.1 channelId else world) world) := by
    apply Moves.foldl
    intro world socket _
    split
    · exact .leave _ _
    · exact .refl _ _
  refine left.trans ?_
  refine ⟨fun _ _ => .inl, id, fun _ => .inl, Nat.le_refl _, fun _ _ => .inl, fun _ => id,
    fun _ _ => .inl, fun ref other member => .inl ?_, fun ref => .inl ?_⟩
  · dsimp only [World.dropChannel] at member
    split at member
    · exact (List.mem_filter.mp member).1
    · exact member
  · dsimp only [World.dropChannel]
    split <;> rfl

theorem Moves.announceOffline (world : World) :
    Moves allowed world (world.announceOffline ref) := by
  unfold World.announceOffline
  dsimp only
  split
  · exact .refl _ _
  · exact .broadcast _ _

theorem Moves.command {α : Type} {key : Option JsString} {run : World → α × World}
    (moves : ∀ world, Moves allowed world (run world).2) (world : World) :
    Moves allowed world (world.command key run).2 := by
  unfold World.command
  split
  · exact (moves world).trans (.of_eq rfl rfl rfl)
  · exact .of_eq rfl rfl rfl

end Operations

/-! ## Actions and requests -/

theorem Moves.connect (client : Option ClientId) (greeting : List ClientMessage) (world : World) :
    Moves allowed world (world.connect client greeting) := by
  unfold World.connect
  refine .of_records ?_ (fun other connected => ?_) (Nat.le_succ _) rfl
  · apply RecordMoves.setSocket
    exact { housed := fun _ _ => rfl }
  · by_cases same : other = world.connections
    · exact .inr ⟨Nat.le_of_eq same.symm, same ▸ Nat.lt_succ_self _⟩
    · rw [sockets_setSocket_of_ne same] at connected
      exact .inl connected

theorem Moves.sendUpstream (messages : List ClientMessage) (world : World) :
    Moves allowed world (world.sendUpstream socket messages) := by
  unfold World.sendUpstream
  dsimp only
  split
  · exact .setSocket_same rfl rfl rfl rfl
  · exact .refl _ _

theorem Moves.setClient (client : ClientId) (record : Client) (world : World) :
    Moves allowed world (world.setClient client record) :=
  .of_eq rfl rfl rfl

theorem Moves.clientSubscribe (client : ClientId) (channelIds : List JsString) (world : World) :
    Moves allowed world (world.clientSubscribe client channelIds) := by
  unfold World.clientSubscribe
  dsimp only
  split
  · exact .setClient _ _ _
  · split
    · exact .setClient _ _ _
    · exact (Moves.setClient _ _ world).trans (.sendUpstream _ _)

theorem Moves.dispatch {replica : Nat} (moved : world.dispatch replica = some after) :
    Moves allowed world after := by
  obtain ⟨event, later, rfl⟩ := eq_of_dispatch moved
  refine .of_records (fun socket => ?_) (fun socket connected => .inl ?_) (Nat.le_refl _) rfl
  · dsimp only
    split
    · exact {}
    · exact {}
  · dsimp only at connected
    split at connected
    · exact connected
    · exact connected

theorem Moves.act {action : Action} (moved : action.act world = some after) :
    Moves allowed world after := by
  cases action with
  | addMember userId channelId =>
    obtain rfl := eq_of_addMember moved
    exact .of_eq rfl rfl rfl
  | connect =>
    cases moved
    exact .connect _ _ _
  | close socket =>
    cases moved
    exact .close _
  | send socket message =>
    obtain ⟨-, rfl⟩ := eq_of_send moved
    exact .sendUpstream _ _
  | typingTimeout userId channelId =>
    obtain rfl := eq_of_typingTimeout moved
    exact .of_eq rfl rfl rfl
  | dispatch replica => exact .dispatch moved
  | clientConnect client =>
    obtain rfl := eq_of_clientConnect moved
    exact (Moves.connect _ _ world).trans (.setClient _ _ _)
  | clientSubscribe client channelIds =>
    cases moved
    exact .clientSubscribe _ _ _
  | clientReceive client =>
    obtain ⟨socket, later, message, rfl⟩ := eq_of_clientReceive moved
    refine .trans ?_ (.setClient _ _ _)
    exact .setSocket_same rfl rfl rfl rfl
  | clientDisconnect client =>
    obtain rfl := eq_of_clientDisconnect moved
    exact .setClient _ _ _
  | _ =>
    cases moved
    exact .of_eq rfl rfl rfl

theorem eq_of_answered {α β : Type} {pair : α × β} {first : α} {second : β}
    (answered : some pair = some (first, second)) : second = pair.2 :=
  (congrArg Prod.snd (Option.some.inj answered)).symm

/-- An answer keeps within the allowance of its request. -/
theorem moves_of_handle {deployment : Deployment} {request : Request} {answer : request.Answer}
    (answered : handle deployment request world = some (answer, after)) :
    Moves (request.allowance world) world after := by
  cases request with
  | receive socket =>
    obtain ⟨later, -, rfl⟩ := eq_of_receive answered
    exact .setSocket_same rfl rfl rfl rfl
  | checkRate socket event limit =>
    cases answered
    exact .checkRate _ _ _
  | setSession socket claims =>
    cases answered
    refine .setSession ?_ world
    rintro entry same
    cases same
    exact ⟨rfl, rfl⟩
  | deleteSession socket =>
    cases answered
    refine .setSession ?_ world
    rintro entry ⟨⟩
  | disconnect socket =>
    cases answered
    exact .close world
  | emit socket message =>
    cases answered
    exact .emit _ _
  | enroll socket userId validChannels denied =>
    cases answered
    have owns : ((Request.enroll socket userId validChannels denied).allowance world).owns
        socket userId := ⟨rfl, rfl⟩
    exact .enroll owns (fun channelId member => ⟨rfl, member⟩) fun channelId member =>
      ⟨rfl, member⟩
  | unenroll socket channelIds =>
    cases answered
    exact .unenroll _ _
  | typing socket channelId isTyping =>
    cases answered
    exact .typing _ _ _
  | callSignal socket channelId signal =>
    cases answered
    exact .callSignal _ _ _
  | setStatus socket status =>
    rcases eq_of_setStatus answered with rfl | ⟨serial, -, rfl⟩
    · exact .refl _ _
    · exact .setStatus _ _
  | announce ref =>
    cases answered
    exact .broadcastPresenceToChannels _ _
  | init socket userId status =>
    cases answered
    have owns : ((Request.init socket userId status).allowance world).owns socket userId :=
      ⟨rfl, rfl⟩
    exact (Moves.establish owns world).trans (.setStatus _ _)
  | establish socket userId =>
    cases answered
    have owns : ((Request.establish socket userId).allowance world).owns socket userId :=
      ⟨rfl, rfl⟩
    exact .establish owns world
  | rejoin ref channelId =>
    cases answered
    have joins : ((Request.rejoin ref channelId).allowance world).joins ref.socket channelId :=
      ⟨rfl, rfl⟩
    exact .rejoin joins ⟨rfl, rfl⟩ world
  | complete ref rejoined channels gapTooLarge =>
    cases answered
    exact (Moves.broadcastPresenceToChannels _ world).trans (.emit _ _)
  | nextClosing =>
    obtain ⟨later, -, -, rfl⟩ := eq_of_nextClosing answered
    exact .of_eq rfl rfl rfl
  | announceOffline ref =>
    cases answered
    exact .announceOffline _
  | xrevrange channelId endId count =>
    rw [eq_of_answered answered]
    exact .command (fun _ => .refl _ _) world
  | xrange channelId start count =>
    rw [eq_of_answered answered]
    exact .command (fun _ => .refl _ _) world
  | xadd event =>
    rw [eq_of_answered answered]
    exact .command (fun _ => .of_eq rfl rfl rfl) world
  | publish event =>
    rw [eq_of_answered answered]
    exact .command (fun _ => .of_eq rfl rfl rfl) world
  | persistCutoff userId cutoffMs =>
    rcases eq_of_persistCutoff answered with rfl | rfl
    · exact .refl _ _
    · exact .of_eq rfl rfl rfl
  | disconnectAll userId sockets =>
    cases answered
    exact .disconnectAll _ _ _
  | deleteMember userId channelId =>
    rcases eq_of_deleteMember answered with rfl | rfl
    · exact .refl _ _
    · exact .of_eq rfl rfl rfl
  | dropChannel replica userId channelId sockets =>
    cases answered
    exact .dropChannel _ _ _ _ _ _
  | act action =>
    obtain ⟨_, moved, same⟩ := Option.map_eq_some_iff.mp answered
    cases same
    exact .act moved
  | _ =>
    cases answered
    first
      | exact .refl _ _
      | exact .of_eq rfl rfl rfl

end Vortex.Gateway
