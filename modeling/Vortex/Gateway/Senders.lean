import Vortex.Gateway.Rooms

/-!
# Who sends to a channel after a revocation

What a socket sends to a channel is decided by the state its replica keeps for it, and
a revocation clears the states of the replica it runs on. `revocation_silences` is about
the runs in which every revocation runs where the user's states that have the channel
are registered.
-/

namespace Vortex.Gateway

open Foundation

variable {deployment : Deployment} {world middle after shared : World} {socket : SocketId}
  {ref : StateRef} {userId channelId : JsString}

/-! ## Notices -/

/-- Notices are only added, and those of sockets go where a socket may send. -/
def Notices (may : SocketId → JsString → Prop) (before after : World) : Prop :=
  ∃ new, after.broadcasts = new ++ before.broadcasts ∧
    ∀ broadcast ∈ new, ∀ socket, broadcast.sender = some socket →
      ∀ channelId ∈ broadcast.channels, may socket channelId

namespace Notices

variable {may : SocketId → JsString → Prop}

theorem of_eq (same : after.broadcasts = world.broadcasts) : Notices may world after :=
  ⟨[], same, fun _ member => absurd member List.not_mem_nil⟩

theorem refl (world : World) : Notices may world world := of_eq rfl

theorem trans (first : Notices may world middle) (second : Notices may middle after) :
    Notices may world after := by
  obtain ⟨early, same, earlier⟩ := first
  obtain ⟨late, same', later⟩ := second
  refine ⟨late ++ early, ?_, fun broadcast member => ?_⟩
  · rw [same', same, List.append_assoc]
  · exact (List.mem_append.mp member).elim (later broadcast) (earlier broadcast)

theorem foldl {β : Type} {step : World → β → World} (items : List β)
    (notices : ∀ world, ∀ item ∈ items, Notices may world (step world item)) (world : World) :
    Notices may world (items.foldl step world) := by
  induction items generalizing world with
  | nil => exact refl world
  | cons item items ih =>
    exact (notices world item List.mem_cons_self).trans
      (ih (fun world other member => notices world other (List.mem_cons_of_mem item member)) _)

theorem broadcast {broadcast : Broadcast} (sends : ∀ socket, broadcast.sender = some socket →
      ∀ channelId ∈ broadcast.channels, may socket channelId) (world : World) :
    Notices may world (world.broadcast broadcast) :=
  ⟨[broadcast], rfl, fun _ member => by rwa [List.mem_singleton.mp member]⟩

/-- A notice of the server itself. -/
theorem unsent (channels : List JsString) (notice : Notice) (world : World) :
    Notices may world (world.broadcast ⟨none, channels, notice⟩) := by
  apply broadcast
  intro socket impossible
  cases impossible

theorem emit (message : ServerMessage) (world : World) :
    Notices may world (world.emit socket message) := by
  unfold World.emit
  dsimp only
  split
  · exact of_eq rfl
  · exact refl world

theorem rejoin (channelId : JsString) (world : World) :
    Notices may world (world.rejoin ref channelId).2 := by
  have joined : Notices may world (world.join ref.socket channelId) := by
    unfold World.join
    dsimp only
    split
    · exact of_eq rfl
    · exact refl world
  exact joined.trans (of_eq rfl)

theorem establish (userId : JsString) (world : World) :
    Notices may world (world.establish socket userId) := by
  have state : Notices may world (world.getOrCreateState socket userId) := by
    unfold World.getOrCreateState
    dsimp only
    split
    · exact of_eq rfl
    · exact of_eq rfl
  exact state.trans (of_eq rfl)

theorem broadcastPresenceToChannels {channels : List JsString}
    (sends : ∀ channelId ∈ channels, may ref.socket channelId) (world : World) :
    Notices may world (world.broadcastPresenceToChannels ref channels) := by
  unfold World.broadcastPresenceToChannels
  dsimp only
  split
  · exact refl world
  · apply broadcast
    intro socket sender
    cases sender
    exact sends

theorem stopTyping (state : GatewaySocketState) (world : World) :
    Notices may world (world.stopTyping state) := by
  apply foldl
  intro world channelId _
  split
  · exact (of_eq rfl).trans (unsent _ _ _)
  · exact refl world

theorem close (world : World) : Notices may world (world.close socket) := by
  unfold World.close
  dsimp only
  split
  · exact refl world
  · split
    · exact of_eq rfl
    · exact (stopTyping _ world).trans (of_eq rfl)

theorem disconnectAll (userId : JsString) (sockets : List (SocketId × Option JsString))
    (world : World) : Notices may world (world.disconnectAll userId sockets) := by
  apply foldl
  intro world found _
  split
  · have forgotten : Notices may world (world.setSession found.1 none) := of_eq rfl
    exact forgotten.trans ((emit _ _).trans (close _))
  · exact refl world

theorem enroll {validChannels : List JsString} (userId : JsString) (denied : List JsString)
    (sends : ∀ channelId ∈ validChannels, may socket channelId) (world : World) :
    Notices may world (world.enroll socket userId validChannels denied) := by
  have established : Notices may world (world.establish socket userId) := establish userId world
  have announces : ∀ newlyJoined : List JsString, (∀ channelId ∈ newlyJoined,
      channelId ∈ validChannels) → ∀ joined : World, Notices may joined
        ((joined.broadcastPresenceToChannels (world.stateRef socket) newlyJoined).emit socket
          (.subscribed validChannels denied)) := by
    intro newlyJoined valid joined
    exact (broadcastPresenceToChannels
      (fun channelId member => sends channelId (valid channelId member)) joined).trans (emit _ _)
  refine established.trans
    (.trans ?_ (announces _ (fun channelId member => (List.mem_filter.mp member).1) _))
  exact foldl validChannels (fun world channelId _ => rejoin channelId world) _

theorem unenroll (channelIds : List JsString) (world : World) :
    Notices may world (world.unenroll socket channelIds) := by
  unfold World.unenroll
  split
  · exact refl world
  · apply foldl
    intro world channelId _
    exact of_eq rfl

/-- A relay sends to a channel that the socket's state has. -/
theorem whenSubscribed {relay : GatewaySocketState → World → World}
    (relays : ∀ serial state, channelId ∈ (world.states ⟨socket, serial⟩).subscribedChannels →
      Notices may world (relay state world)) :
    Notices may world (world.whenSubscribed socket channelId relay) := by
  unfold World.whenSubscribed
  split
  · exact refl world
  · rename_i serial _
    dsimp only
    split
    · rename_i subscribed
      exact relays serial _ (List.contains_iff_mem.mp subscribed)
    · exact refl world

theorem dropChannel (replica : Nat) (sockets : List (SocketId × Option JsString)) (world : World) :
    Notices may world (world.dropChannel deployment replica userId channelId sockets) := by
  have left : Notices may world (sockets.foldl (fun world socket =>
      if socket.2 = some userId then world.leave socket.1 channelId else world) world) := by
    apply foldl
    intro world socket _
    split
    · exact of_eq rfl
    · exact refl world
  exact left.trans (of_eq rfl)

theorem announceOffline (world : World) : Notices may world (world.announceOffline ref) := by
  unfold World.announceOffline
  dsimp only
  split
  · exact refl world
  · exact unsent _ _ world

theorem command {α : Type} {key : Option JsString} {run : World → α × World}
    (kept : ∀ world, (run world).2.broadcasts = world.broadcasts) (world : World) :
    Notices may world (world.command key run).2 := by
  unfold World.command
  split
  · exact of_eq (kept world)
  · exact of_eq rfl

theorem sendUpstream (messages : List ClientMessage) (world : World) :
    Notices may world (world.sendUpstream socket messages) := by
  unfold World.sendUpstream
  dsimp only
  split
  · exact of_eq rfl
  · exact refl world

theorem clientSubscribe (client : ClientId) (channelIds : List JsString) (world : World) :
    Notices may world (world.clientSubscribe client channelIds) := by
  unfold World.clientSubscribe
  dsimp only
  split
  · exact of_eq rfl
  · split
    · exact of_eq rfl
    · exact .trans (of_eq rfl) (sendUpstream _ _)

/-- The environment sends nothing for a socket. -/
theorem act {action : Action} (moved : action.act world = some after) :
    Notices may world after := by
  cases action with
  | addMember userId channelId =>
    obtain rfl := eq_of_addMember moved
    exact of_eq rfl
  | close socket =>
    cases moved
    exact close world
  | send socket message =>
    obtain ⟨-, rfl⟩ := eq_of_send moved
    exact sendUpstream _ world
  | typingTimeout userId channelId =>
    obtain rfl := eq_of_typingTimeout moved
    exact .trans (of_eq rfl) (unsent _ _ _)
  | dispatch replica =>
    obtain ⟨_, _, rfl⟩ := eq_of_dispatch moved
    exact of_eq rfl
  | clientConnect client =>
    obtain rfl := eq_of_clientConnect moved
    exact of_eq rfl
  | clientSubscribe client channelIds =>
    cases moved
    exact clientSubscribe _ _ world
  | clientReceive client =>
    obtain ⟨socket, later, message, rfl⟩ := eq_of_clientReceive moved
    exact of_eq rfl
  | clientDisconnect client =>
    obtain rfl := eq_of_clientDisconnect moved
    exact of_eq rfl
  | _ =>
    cases moved
    exact of_eq rfl

end Notices

/-- Where a request lets a socket send: to the channels of its states, and to those it
has just entered. -/
def Request.sends (world : World) (socket : SocketId) (channelId : JsString) : Request → Prop
  | .enroll other _ validChannels _ => other = socket ∧ channelId ∈ validChannels
  | .complete ref rejoined _ _ => ref.socket = socket ∧ channelId ∈ rejoined
  | _ => ∃ serial, channelId ∈ (world.states ⟨socket, serial⟩).subscribedChannels

theorem notices_of_handle {request : Request} {answer : request.Answer}
    (answered : handle deployment request world = some (answer, after)) :
    Notices (fun socket channelId => request.sends world socket channelId) world after := by
  cases request with
  | receive socket =>
    obtain ⟨later, -, rfl⟩ := eq_of_receive answered
    exact .of_eq rfl
  | disconnect socket =>
    cases answered
    exact .close world
  | emit socket message =>
    cases answered
    exact .emit _ world
  | enroll socket userId validChannels denied =>
    cases answered
    exact .enroll _ _ (fun channelId member => ⟨rfl, member⟩) world
  | unenroll socket channelIds =>
    cases answered
    exact .unenroll _ world
  | typing socket channelId isTyping =>
    cases answered
    apply Notices.whenSubscribed
    intro serial state subscribed
    refine .trans (.of_eq rfl) (.broadcast ?_ _)
    intro sender same other member
    cases same
    cases List.mem_singleton.mp member
    exact ⟨serial, subscribed⟩
  | callSignal socket channelId signal =>
    cases answered
    apply Notices.whenSubscribed
    intro serial state subscribed
    apply Notices.broadcast
    intro sender same other member
    cases same
    cases List.mem_singleton.mp member
    exact ⟨serial, subscribed⟩
  | setStatus socket status =>
    rcases eq_of_setStatus answered with rfl | ⟨serial, -, rfl⟩
    · exact .refl _
    · exact .of_eq rfl
  | announce ref =>
    cases answered
    exact .broadcastPresenceToChannels (fun channelId member => ⟨ref.serial, member⟩) world
  | init socket userId status =>
    cases answered
    exact (Notices.establish userId world).trans (.of_eq rfl)
  | establish socket userId =>
    cases answered
    exact .establish userId world
  | rejoin ref channelId =>
    cases answered
    exact .rejoin channelId world
  | complete ref rejoined channels gapTooLarge =>
    cases answered
    refine .trans (.broadcastPresenceToChannels ?_ world) (.emit _ _)
    exact fun channelId member => ⟨rfl, member⟩
  | nextClosing =>
    obtain ⟨later, -, -, rfl⟩ := eq_of_nextClosing answered
    exact .of_eq rfl
  | announceOffline ref =>
    cases answered
    exact .announceOffline world
  | xrevrange channelId endId count =>
    rw [eq_of_answered answered]
    exact .command (fun _ => rfl) world
  | xrange channelId start count =>
    rw [eq_of_answered answered]
    exact .command (fun _ => rfl) world
  | xadd event =>
    rw [eq_of_answered answered]
    exact .command (fun _ => rfl) world
  | publish event =>
    rw [eq_of_answered answered]
    exact .command (fun _ => rfl) world
  | persistCutoff userId cutoffMs =>
    rcases eq_of_persistCutoff answered with rfl | rfl
    · exact .refl _
    · exact .of_eq rfl
  | disconnectAll userId sockets =>
    cases answered
    exact .disconnectAll _ _ world
  | deleteMember userId channelId =>
    rcases eq_of_deleteMember answered with rfl | rfl
    · exact .refl _
    · exact .of_eq rfl
  | dropChannel replica userId channelId sockets =>
    cases answered
    exact .dropChannel _ _ world
  | act action =>
    obtain ⟨_, moved, same⟩ := Option.map_eq_some_iff.mp answered
    cases same
    exact .act moved
  | _ =>
    cases answered
    exact .of_eq rfl

/-! ## Revocations -/

section

variable {guard : GatewayPool → Turn Call → Prop} {pool before later revoked : GatewayPool}
  {history : History} {index : Nat} {call : Call} {request : Request} {answer : request.Answer}

/-- A handler has been granted a channel. -/
def Granted (userId channelId : JsString) (seen : Exchanges) : Prop :=
  ∃ channelIds, ∃ granted : List JsString,
    ⟨.checkChannelAccess userId channelIds, granted⟩ ∈ seen ∧ channelId ∈ granted

/-- A handler of a subscription or of a resume. -/
def Subscribing (seen : Exchanges) : Prop :=
  ∃ socket, ∃ message : ClientMessage, ⟨.receive socket, message⟩ ∈ seen ∧
    (message.event = .subscribe ∨ message.event = .resume)

/-- A revocation runs where the user's states that have the channel are registered. -/
def Registered (deployment : Deployment) (pool : GatewayPool) : Turn Call → Prop
  | .start _ => True
  | .advance index => ∀ call replica userId channelId sockets next,
      pool.threads[index]? =
        some ⟨call, .await (.dropChannel replica userId channelId sockets) next⟩ →
      ∀ ref, deployment.user ref.socket = some userId →
        channelId ∈ (pool.shared.states ref).subscribedChannels →
        (pool.shared.sockets ref.socket).state = some ref.serial ∧
          deployment.replica ref.socket = replica

/-- A revocation has just completed on some replica. -/
def JustRevoked (pool : GatewayPool) (userId channelId : JsString) : Prop :=
  ∃ index call replica sockets earlier,
    pool.history = ⟨index, call, .dropChannel replica userId channelId sockets, ()⟩ :: earlier

/-- Since then the user has not been granted the channel. -/
def Ungranted (userId channelId : JsString) (events : History) : Prop :=
  ∀ event ∈ events, ∀ channelIds, ∀ granted : List JsString,
    (⟨event.request, event.answer⟩ : Proc.Exchange gateway) =
      ⟨.checkChannelAccess userId channelIds, granted⟩ → channelId ∉ granted

/-- Between two states of a run no socket of the user sends to the channel, unless the
user was granted the channel in between. -/
def StaysSilent (deployment : Deployment) (userId channelId : JsString)
    (revoked later : GatewayPool) : Prop :=
  ∀ recent, later.history = recent ++ revoked.history → Ungranted userId channelId recent →
    Notices (fun socket channel => deployment.user socket = some userId → channel ≠ channelId)
      revoked.shared later.shared

theorem not_granted_nil : ¬ Granted userId channelId [] := by
  rintro ⟨channelIds, granted, known, -⟩
  exact absurd known List.not_mem_nil

theorem granted_snoc {seen : Exchanges} {exchange : Proc.Exchange gateway}
    (granted : Granted userId channelId (seen ++ [exchange])) :
    Granted userId channelId seen ∨ Granted userId channelId [exchange] := by
  obtain ⟨channelIds, channels, known, member⟩ := granted
  exact (List.mem_append.mp known).imp (fun early => ⟨channelIds, channels, early, member⟩)
    fun last => ⟨channelIds, channels, last, member⟩

theorem MayJoin.granted {seen : Exchanges} (may : MayJoin userId channelId seen) :
    Granted userId channelId seen := by
  obtain ⟨channelIds, granted, known, member, -⟩ := may
  exact ⟨channelIds, granted, known, member⟩

/-- What a state gains its socket joins. -/
theorem joins_of_adds (adds : (request.allowance world).adds ref channelId) :
    (request.allowance world).joins ref.socket channelId := by
  cases request with
  | enroll socket owner validChannels denied =>
    obtain ⟨rfl, member⟩ := adds
    exact ⟨rfl, member⟩
  | rejoin other joined =>
    obtain ⟨rfl, rfl⟩ := adds
    exact ⟨rfl, rfl⟩
  | _ => cases adds

section

variable (reached : (gatewaySystem deployment).Reachable guard pool)

include reached

/-- Only handlers of subscriptions and resumes check memberships. -/
theorem subscribing_of_granted
    {thread : Thread gateway Unit Bool Call} (found : pool.threads[index]? = some thread)
    (granted : Granted userId channelId (Pool.exchanges pool.history index)) :
    Subscribing (Pool.exchanges pool.history index) := by
  obtain ⟨channelIds, channels, known, -⟩ := granted
  obtain ⟨seen, kept, socket, message, -, received, event⟩ :=
    Pool.justified_of_reachable reached found (disciplined deployment thread.call) known
  exact ⟨socket, message, kept _ received, event⟩

/-- A handler that has rejoined a channel was granted it. -/
theorem granted_of_rejoined
    {thread : Thread gateway Unit Bool Call} (found : pool.threads[index]? = some thread)
    {rejoined : Bool}
    (rejoins : ⟨.rejoin ref channelId, rejoined⟩ ∈ Pool.exchanges pool.history index)
    (owned : deployment.user ref.socket = some userId) :
    Granted userId channelId (Pool.exchanges pool.history index) := by
  obtain ⟨seen, kept, owner, channelIds, granted, entitled, checked, member, -⟩ :=
    Pool.justified_of_reachable reached found (disciplined deployment thread.call) rejoins
  obtain ⟨entry, same, cached⟩ := entitled.2.1
  have signed : Signed ref.socket owner (Pool.exchanges pool.history index) :=
    ⟨entry, same, kept _ cached⟩
  rw [(ownership_of_reachable reached).signed signed] at owned
  cases owned
  exact ⟨channelIds, granted, kept _ checked, member⟩

/-- Who sends to a channel has a state that has it, or was granted it. -/
theorem granted_of_sends {next : request.Answer → Proc gateway Unit Bool}
    (waiting : pool.threads[index]? = some ⟨call, .await request next⟩)
    (sends : request.sends pool.shared socket channelId)
    (owned : deployment.user socket = some userId) :
    (∃ serial, channelId ∈ (pool.shared.states ⟨socket, serial⟩).subscribedChannels) ∨
      Granted userId channelId (Pool.exchanges pool.history index) := by
  have justified := justified_pending reached waiting
  cases request with
  | enroll other owner validChannels denied =>
    obtain ⟨rfl, member⟩ := sends
    have joins : ((Request.enroll other owner validChannels denied).allowance pool.shared).joins
        other channelId := ⟨rfl, member⟩
    exact .inr ((ownership_of_reachable reached).mayJoin justified joins owned).granted
  | complete ref rejoined channels gapTooLarge =>
    obtain ⟨rfl, member⟩ := sends
    exact .inr (granted_of_rejoined reached waiting (justified channelId member) owned)
  | _ => exact .inl sends

end

/-- The states of the replica forget the channel. -/
theorem not_mem_subscribedChannels_dropChannel {replica : Nat}
    {sockets : List (SocketId × Option JsString)}
    (registered : (world.sockets ref.socket).state = some ref.serial)
    (here : deployment.replica ref.socket = replica) (owned : (world.states ref).userId = userId) :
    channelId ∉ ((world.dropChannel deployment replica userId channelId sockets).states
      ref).subscribedChannels := by
  have left : ∀ (sockets : List (SocketId × Option JsString)) (world : World),
      let swept := sockets.foldl (fun world socket =>
        if socket.2 = some userId then world.leave socket.1 channelId else world) world
      swept.states = world.states ∧
        (swept.sockets ref.socket).state = (world.sockets ref.socket).state := by
    intro sockets
    induction sockets with
    | nil => exact fun world => ⟨rfl, rfl⟩
    | cons other sockets ih =>
      intro world
      refine ⟨(ih _).1.trans ?_, (ih _).2.trans ?_⟩
      · dsimp only
        split
        · rfl
        · rfl
      · dsimp only
        split
        · by_cases same : ref.socket = other.1
          · rw [World.leave, same, sockets_setSocket_self]
          · rw [World.leave, sockets_setSocket_of_ne same]
        · rfl
  obtain ⟨states, state⟩ := left sockets world
  unfold World.dropChannel
  dsimp only
  rw [states, state, if_pos ⟨registered, here, owned⟩]
  simp

/-- Right after a revocation no state of the user has the channel. -/
theorem cleared_of_justRevoked
    (reached : (gatewaySystem deployment).Reachable (Registered deployment) pool)
    (revoked : JustRevoked pool userId channelId)
    (owned : deployment.user ref.socket = some userId) :
    channelId ∉ (pool.shared.states ref).subscribedChannels := by
  revert revoked
  refine reached.invariant (P := fun pool => JustRevoked pool userId channelId →
    channelId ∉ (pool.shared.states ref).subscribedChannels) ?_ ?_
  · rintro _ ⟨world, -, rfl⟩ ⟨index, call, replica, sockets, earlier, split⟩
    cases split
  · intro before label after reached kept admitted moved
    obtain ⟨call, -, rfl⟩ | ⟨index, call, request, next, answer, shared, rfl, waiting, answered,
      rfl⟩ := Pool.step_cases moved
    · exact kept
    · rintro ⟨index, call, replica, sockets, earlier, split⟩ member
      cases split
      rcases (moves_of_handle answered).channels ref channelId member with old | adds
      · obtain ⟨registered, here⟩ := admitted _ _ _ _ _ _ waiting ref owned old
        have held := (ownership_of_reachable reached).held ref channelId old
        rw [owned] at held
        cases answered
        exact not_mem_subscribedChannels_dropChannel registered here (Option.some.inj held).symm
          member
      · cases adds

/-- What holds after a revocation until the user is granted the channel again. -/
structure Cleared (deployment : Deployment) (userId channelId : JsString)
    (revoked pool : GatewayPool) : Prop where
  states : ∀ ref, deployment.user ref.socket = some userId →
    channelId ∉ (pool.shared.states ref).subscribedChannels
  ungranted : ¬ pool.Pending (Granted userId channelId)
  notices : Notices (fun socket channel => deployment.user socket = some userId →
    channel ≠ channelId) revoked.shared pool.shared

theorem Cleared.step (reached : (gatewaySystem deployment).Reachable guard before)
    {label : Turn Call} (moved : (gatewaySystem deployment).step before label later)
    (cleared : Cleared deployment userId channelId revoked before)
    (quiet : ∀ event, later.history = event :: before.history →
      Ungranted userId channelId [event]) : Cleared deployment userId channelId revoked later := by
  have sound := ownership_of_reachable reached
  have ungranted : ¬ later.Pending (Granted userId channelId) := by
    intro pending
    rcases Pool.pending_of_step not_granted_nil reached moved pending with early |
      ⟨index, call, request, next, answer, -, waiting, answered, newest, granted⟩
    · exact cleared.ungranted early
    · rcases granted_snoc granted with early | ⟨channelIds, channels, new, member⟩
      · exact cleared.ungranted ⟨index, _, waiting, ⟨request, next, rfl⟩, early⟩
      · exact quiet _ newest _ (List.mem_singleton_self _) channelIds channels
          (List.mem_singleton.mp new).symm member
  obtain ⟨call, -, rfl⟩ | ⟨index, call, request, next, answer, shared, rfl, waiting, answered,
    rfl⟩ := Pool.step_cases moved
  · exact ⟨cleared.states, ungranted, cleared.notices⟩
  · have justified := justified_pending reached waiting
    refine ⟨fun ref owned member => ?_, ungranted, cleared.notices.trans ?_⟩
    · rcases (moves_of_handle answered).channels ref channelId member with old | adds
      · exact cleared.states ref owned old
      · exact cleared.ungranted ⟨index, _, waiting, ⟨request, next, rfl⟩,
          (sound.mayJoin justified (joins_of_adds adds) owned).granted⟩
    · obtain ⟨new, same, sent⟩ := notices_of_handle answered
      refine ⟨new, same, fun broadcast member socket sender channel sends owned revoked => ?_⟩
      subst revoked
      rcases granted_of_sends reached waiting (sent broadcast member socket sender channel sends)
        owned with ⟨serial, old⟩ | granted
      · exact cleared.states ⟨socket, serial⟩ owned old
      · exact cleared.ungranted ⟨index, _, waiting, ⟨request, next, rfl⟩, granted⟩

end

/-! ## Samples -/

/-- No revocation is about to drop a channel. -/
def dropsNothing (pool : GatewayPool) : Turn Call → Bool
  | .start _ => true
  | .advance index =>
      match pool.threads[index]? with
      | some ⟨_, .await (.dropChannel _ _ _ _) _⟩ => false
      | _ => true

theorem dropsNothing_sound {pool : GatewayPool} {turn : Turn Call}
    (checked : dropsNothing pool turn = true) : Registered deployment pool turn := by
  cases turn with
  | start call => trivial
  | advance index =>
    intro call replica userId channelId sockets next waiting
    unfold dropsNothing at checked
    dsimp only at checked
    rw [waiting] at checked
    cases checked

theorem not_pending_of_finished {pool : GatewayPool} {kind : Exchanges → Prop}
    (finished : pool.threads.all (fun thread => thread.result?.isSome) = true) :
    ¬ pool.Pending kind := by
  rintro ⟨index, thread, found, flying, -⟩
  have ended := List.all_eq_true.mp finished thread (List.mem_of_getElem? found)
  rw [thread.inFlight_iff_result?.mp flying] at ended
  cases ended

theorem ungranted_of_all {events : History}
    (unchecked : events.all (fun event => !event.request.checksAccess) = true) :
    Ungranted userId channelId events := by
  intro event member channelIds granted same
  have other := List.all_eq_true.mp unchecked event member
  have asked : event.request = .checkChannelAccess userId channelIds := congrArg Sigma.fst same
  rw [asked] at other
  cases other

namespace Sample

/-- A member has joined, and a revocation on a replica has looked up the sockets. -/
def revoking (replica : Nat) : List (Turn Call) :=
  subscribing ++ advances 3 9 ++ [.start (.revokeChannelAccess replica (js "alice") (js "dm"))] ++
    advances 4 1

/-- The member starts to type. -/
def typingTurns : List (Turn Call) :=
  [.start (.act (.send 0 ⟨.typing, some (.obj
      [(js "channelId", .str (js "dm")), (js "isTyping", .bool true)])⟩)), .advance 5,
    .start (.serve 0)] ++ advances 6 6

theorem lookedUp_completed : (Pool.replay (program Sample.deployment)
    (fun _ _ => handle Sample.deployment) dropsNothing World.blank (revoking 0)).isSome := by
  decide

/-- The revocation runs on the replica of the member's socket. -/
def lookedUp : GatewayPool := (Pool.replay (program Sample.deployment)
    (fun _ _ => handle Sample.deployment) dropsNothing World.blank (revoking 0)).get
  lookedUp_completed

theorem lookedUp_reachable :
    (gatewaySystem Sample.deployment).Reachable (Registered Sample.deployment) lookedUp :=
  Pool.reachable_of_replay (fun _ _ => dropsNothing_sound) ⟨fun _ => [], rfl⟩ lookedUp_completed

theorem lookedUp_registered : Registered Sample.deployment lookedUp (.advance 4) := by
  intro call replica userId channelId sockets next waiting ref owned member
  have pending : lookedUp.threads[4]? = some ⟨.revokeChannelAccess 0 (js "alice") (js "dm"),
    .await (.dropChannel 0 (js "alice") (js "dm") [(0, some (js "alice"))]) _⟩ := rfl
  cases pending.symm.trans waiting
  have states : lookedUp.shared.states = Function.update (Function.update World.blank.states ⟨0, 0⟩ _)
    ⟨0, 0⟩ _ := rfl
  by_cases same : ref = ⟨0, 0⟩
  · subst same
    exact ⟨rfl, rfl⟩
  · rw [states, Function.update_of_ne same, Function.update_of_ne same] at member
    cases member

/-- The next step of a pool. -/
def turned (pool : GatewayPool) (turn : Turn Call) : Option GatewayPool :=
  Pool.turn (program Sample.deployment) (fun _ _ => handle Sample.deployment) pool turn

theorem dropped_completed : (turned lookedUp (.advance 4)).isSome := by decide

def dropped : GatewayPool := (turned lookedUp (.advance 4)).get dropped_completed

theorem dropped_reachable :
    (gatewaySystem Sample.deployment).Reachable (Registered Sample.deployment) dropped :=
  lookedUp_reachable.step lookedUp_registered (Option.some_get dropped_completed).symm

theorem dropped_finished : dropped.threads.all (fun thread => thread.result?.isSome) = true := by
  decide

theorem silenced_completed : (System.follow dropsNothing turned dropped typingTurns).isSome := by
  decide

/-- The member has started to type in vain. -/
def silenced : GatewayPool := (System.follow dropsNothing turned dropped typingTurns).get
  silenced_completed

theorem silenced_steps : (gatewaySystem Sample.deployment).Steps (Registered Sample.deployment)
    dropped silenced :=
  System.steps_of_follow (fun _ _ => dropsNothing_sound) (Option.some_get silenced_completed).symm

theorem elsewhere_completed : (run (revoking 1 ++ advances 4 1)).isSome := by decide

/-- The member's socket is on replica 0, the revocation has run on replica 1. -/
def elsewhere : GatewayPool := (run (revoking 1 ++ advances 4 1)).get elsewhere_completed

theorem typed_completed :
    (System.follow (fun _ _ => true) turned elsewhere typingTurns).isSome := by decide

def typed : GatewayPool := (System.follow (fun _ _ => true) turned elsewhere typingTurns).get
  typed_completed

end Sample

end Vortex.Gateway
