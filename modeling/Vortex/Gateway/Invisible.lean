import Vortex.Foundation.Translation
import Vortex.Gateway.Masking
import Vortex.Gateway.Validation

/-!
# Invisible is offline

Two runs of the gateway that differ in the statuses `invisible` and `offline` of the
payloads they are sent broadcast the same. The second is the first under a translation
that masks these statuses wherever they are.
-/

namespace Vortex.Gateway

open Foundation

/-! ## The environment -/

namespace World

variable (world : World) (socket : SocketId)

theorem mask_setClient (client : ClientId) (record : Client) :
    (world.setClient client record).mask = world.mask.setClient client record := rfl

theorem mask_connect (client : Option ClientId) {greeting : List ClientMessage}
    (plain : greeting.map ClientMessage.mask = greeting) :
    (world.connect client greeting).mask = world.mask.connect client greeting := by
  unfold connect
  rw [mask_setSocket]
  dsimp only [SocketRecord.mask]
  rw [plain]
  rfl

theorem mask_sendUpstream (messages : List ClientMessage) :
    (world.sendUpstream socket messages).mask =
      world.mask.sendUpstream socket (messages.map ClientMessage.mask) := by
  refine mask_ite Iff.rfl ?_ rfl
  rw [mask_setSocket]
  dsimp only [SocketRecord.mask]
  rw [List.map_append]
  rfl

/-- Nothing a client sends of itself has a status that is masked. -/
theorem mask_greeting (client : Client) :
    client.greeting.map ClientMessage.mask = client.greeting := by
  have online : ClientMessage.mask ⟨.init, some (.obj [(js "status", .str (js "online"))])⟩ =
      ⟨.init, some (.obj [(js "status", .str (js "online"))])⟩ := by rfl
  unfold Client.greeting
  rw [List.map_append, List.map_append, List.map_singleton, online]
  congr 1
  · congr 1
    split <;> rfl
  · split <;> rfl

theorem mask_clientConnect {client : ClientId} {after : World}
    (moved : world.clientConnect client = some after) :
    world.mask.clientConnect client = some after.mask := by
  unfold clientConnect at moved ⊢
  dsimp only [mask] at moved ⊢
  split at moved
  · cases moved
  · cases moved
    refine congrArg some ?_
    exact ((mask_setClient _ client _).trans (congrArg (setClient client _)
      (mask_connect world (some client) (mask_greeting _)))).symm

theorem mask_clientSubscribe (client : ClientId) (channelIds : List JsString) :
    (world.clientSubscribe client channelIds).mask = world.mask.clientSubscribe client channelIds := by
  unfold clientSubscribe
  dsimp only [mask]
  split
  · rfl
  · exact mask_ite Iff.rfl rfl (mask_sendUpstream _ _ _)

theorem mask_clientReceive {client : ClientId} {after : World}
    (moved : world.clientReceive client = some after) :
    world.mask.clientReceive client = some after.mask := by
  unfold clientReceive at moved ⊢
  dsimp only [mask, SocketRecord.mask] at moved ⊢
  split at moved
  · cases moved
  · split at moved
    · cases moved
    · cases moved
      rename_i socket _ _ message later _
      have taken := mask_setSocket world socket { world.sockets socket with inbox := later }
      exact congrArg some
        (congrArg (setClient client ((world.clients client).process message)) taken).symm

theorem mask_clientDisconnect {client : ClientId} {after : World}
    (moved : world.clientDisconnect client = some after) :
    world.mask.clientDisconnect client = some after.mask := by
  unfold clientDisconnect at moved ⊢
  dsimp only [mask, SocketRecord.mask] at moved ⊢
  split at moved
  · cases moved
  · split at moved
    · cases moved
    · cases moved
      rename_i gone
      exact if_neg gone

theorem mask_dispatch {replica : Nat} {after : World}
    (moved : world.dispatch replica = some after) :
    world.mask.dispatch replica = some after.mask := by
  unfold dispatch at moved ⊢
  split at moved
  · cases moved
  · cases moved
    rename_i event later waiting
    have same : world.mask.published replica = event :: later := waiting
    rw [same]
    refine congrArg some ?_
    have sockets : ∀ socket : SocketId,
        (if (world.sockets socket).rooms.contains event.channelId then
          { world.sockets socket with inbox := (world.sockets socket).inbox ++ [.event event] }
          else world.sockets socket).mask =
        if (world.mask.sockets socket).rooms.contains event.channelId then
          { world.mask.sockets socket with
            inbox := (world.mask.sockets socket).inbox ++ [.event event] }
          else world.mask.sockets socket := by
      intro socket
      by_cases inside : (world.sockets socket).rooms.contains event.channelId = true
      · rw [if_pos inside]
        exact (if_pos inside).symm
      · rw [if_neg inside]
        exact (if_neg inside).symm
    exact (congrArg (fun sockets => { world.mask with
      published := Function.update world.published replica later
      sockets := sockets }) (funext sockets)).symm

end World

theorem mask_act {action : Action} {world after : World} (moved : action.act world = some after) :
    action.mask.act world.mask = some after.mask := by
  cases action with
  | addMember userId channelId =>
    dsimp only [Action.act, Action.mask] at moved ⊢
    split at moved
    · cases moved
    · cases moved
      rename_i own
      rw [if_neg own]
      rfl
  | connect =>
    cases moved
    exact congrArg some (world.mask_connect none rfl).symm
  | close socket =>
    cases moved
    exact congrArg some (world.mask_close socket).symm
  | send socket message =>
    dsimp only [Action.act, Action.mask, World.mask_sockets, SocketRecord.mask] at moved ⊢
    split at moved
    · cases moved
      rename_i raw
      exact (if_pos raw).trans (congrArg some (world.mask_sendUpstream socket [message]).symm)
    · cases moved
  | typingTimeout userId channelId =>
    dsimp only [Action.act, Action.mask] at moved ⊢
    split at moved
    · cases moved
      rename_i active
      exact if_pos active
    · cases moved
  | dispatch replica => exact world.mask_dispatch moved
  | clientConnect client => exact world.mask_clientConnect moved
  | clientSubscribe client channelIds =>
    cases moved
    exact congrArg some (world.mask_clientSubscribe client channelIds).symm
  | clientReceive client => exact world.mask_clientReceive moved
  | clientDisconnect client => exact world.mask_clientDisconnect moved
  | _ =>
    cases moved
    rfl

/-! ## The translation -/

def Request.mask : Request → Request
  | .setStatus socket status => .setStatus socket status.mask
  | .init socket userId status => .init socket userId status.mask
  | .act action => .act action.mask
  | request => request

theorem answer_mask (request : Request) : request.Answer = request.mask.Answer := by
  cases request <;> rfl

def Request.maskAnswer : (request : Request) → request.Answer → request.mask.Answer
  | .receive _, message => ClientMessage.mask message
  | request, answer => cast (answer_mask request) answer

/-- Masked requests and answers, over masked worlds. -/
def masking : Translation gateway World := ⟨Request.mask, Request.maskAnswer, World.mask⟩

theorem commutes_handle (deployment : Deployment) : masking.Commutes (handle deployment) := by
  intro request answer before after answered
  cases request with
  | receive socket =>
    dsimp only [handle] at answered
    split at answered
    · cases answered
    · cases answered
      rename_i later waiting
      have masked : (before.mask.sockets socket).upstream =
          ClientMessage.mask answer :: later.map ClientMessage.mask :=
        congrArg (List.map ClientMessage.mask) waiting
      change handle deployment (.receive socket) before.mask = _
      dsimp only [handle]
      rw [masked]
      exact congrArg (fun world => some (ClientMessage.mask answer, world))
        (before.mask_setSocket socket { before.sockets socket with upstream := later }).symm
  | setStatus socket status =>
    dsimp only [handle] at answered
    split at answered
    · cases answered
      rename_i absent
      have masked : (before.mask.sockets socket).state = none := absent
      change handle deployment (.setStatus socket status.mask) before.mask = _
      dsimp only [handle]
      rw [masked]
      rfl
    · cases answered
      rename_i serial there
      have masked : (before.mask.sockets socket).state = some serial := there
      change handle deployment (.setStatus socket status.mask) before.mask = _
      dsimp only [handle]
      rw [masked]
      exact congrArg (fun world => some (some serial, world))
        (before.mask_setStatus ⟨socket, serial⟩ status).symm
  | init socket userId status =>
    cases answered
    have masked := (before.establish socket userId).mask_setStatus (before.stateRef socket) status
    rw [World.mask_establish] at masked
    exact congrArg (fun world => some ((before.stateRef socket).serial, world)) masked.symm
  | act action =>
    obtain ⟨_, moved, same⟩ := Option.map_eq_some_iff.mp answered
    cases same
    exact Option.map_eq_some_iff.mpr ⟨_, mask_act moved, rfl⟩
  | checkRate socket event limit =>
    cases answered
    exact congrArg some (before.mask_checkRate socket event limit)
  | setSession socket claims =>
    cases answered
    exact congrArg (fun world => some (_, world)) (before.mask_setSession socket _).symm
  | deleteSession socket =>
    cases answered
    exact congrArg (fun world => some ((), world)) (before.mask_setSession socket _).symm
  | disconnect socket =>
    cases answered
    exact congrArg (fun world => some ((), world)) (before.mask_close socket).symm
  | emit socket message =>
    cases answered
    exact congrArg (fun world => some ((), world)) (before.mask_emit socket message).symm
  | enroll socket userId validChannels denied =>
    cases answered
    exact congrArg (fun world => some ((), world)) (before.mask_enroll socket _ _ _).symm
  | unenroll socket channelIds =>
    cases answered
    exact congrArg (fun world => some ((), world)) (before.mask_unenroll socket _).symm
  | typing socket channelId isTyping =>
    cases answered
    exact congrArg (fun world => some ((), world))
      (before.mask_typing socket channelId isTyping).symm
  | callSignal socket channelId signal =>
    cases answered
    exact congrArg (fun world => some ((), world))
      (before.mask_callSignal socket channelId signal).symm
  | announce ref =>
    cases answered
    exact congrArg (fun world => some ((), world))
      (before.mask_broadcastPresenceToChannels ref _).symm
  | establish socket userId =>
    cases answered
    exact congrArg (fun world => some ((before.stateRef socket).serial, world))
      (before.mask_establish socket userId).symm
  | rejoin ref channelId =>
    cases answered
    exact congrArg some (before.mask_rejoin ref channelId)
  | complete ref rejoined channels gapTooLarge =>
    cases answered
    have masked := (before.broadcastPresenceToChannels ref rejoined).mask_emit ref.socket
      (.resumeComplete channels gapTooLarge)
    rw [World.mask_broadcastPresenceToChannels] at masked
    exact congrArg (fun world => some ((), world)) masked.symm
  | nextClosing =>
    dsimp only [handle] at answered
    split at answered
    · cases answered
    · cases answered
      rename_i ref later waiting
      have masked : before.mask.closing = ref :: later := waiting
      change handle deployment .nextClosing before.mask = _
      dsimp only [handle]
      rw [masked]
      rfl
  | announceOffline ref =>
    cases answered
    exact congrArg (fun world => some ((), world)) (before.mask_announceOffline ref).symm
  | xrevrange channelId endId count => exact before.mask_command (fun _ => rfl) answered
  | xrange channelId start count => exact before.mask_command (fun _ => rfl) answered
  | xadd event => exact before.mask_command (fun _ => rfl) answered
  | publish event => exact before.mask_command (fun _ => rfl) answered
  | persistCutoff userId cutoffMs =>
    dsimp only [handle] at answered
    split at answered
    · cases answered
      rename_i down
      exact if_pos down
    · cases answered
      rename_i up
      exact if_neg up
  | disconnectAll userId sockets =>
    cases answered
    exact congrArg (fun world => some ((), world)) (before.mask_disconnectAll userId sockets).symm
  | deleteMember userId channelId =>
    dsimp only [handle] at answered
    split at answered
    · cases answered
      rename_i down
      exact if_pos down
    · cases answered
      rename_i up
      exact if_neg up
  | dropChannel replica userId channelId sockets =>
    cases answered
    exact congrArg (fun world => some ((), world))
      (before.mask_dropChannel deployment replica userId channelId sockets).symm
  | _ =>
    cases answered
    rfl

/-! ## The programs -/

/-- What neither supplies a status nor delivers one, and does not see a socket off. -/
def Request.isUniform : Request → Bool
  | .receive _ => false
  | .setStatus _ _ => false
  | .init _ _ _ => false
  | .nextClosing => false
  | .announceOffline _ => false
  | .act _ => false
  | _ => true

theorem fixes_of_isUniform {request : Request} (uniform : request.isUniform = true) :
    masking.Fixes request := by
  cases request with
  | receive socket => cases uniform
  | setStatus socket status => cases uniform
  | init socket userId status => cases uniform
  | nextClosing => cases uniform
  | announceOffline ref => cases uniform
  | act action => cases uniform
  | _ => rfl

/-- A process that only issues uniform requests. -/
abbrev Uniform {α : Type} (process : Proc gateway Unit α) : Prop :=
  process.Along fun (request : Request) _ => request.isUniform = true

section

variable {deployment : Deployment} {socket : SocketId} {α : Type}

theorem relates_of_uniform {process : Proc gateway Unit α} (uniform : Uniform process) :
    masking.Relates process process :=
  .refl (uniform.mono fun _ _ => fixes_of_isUniform)

theorem relates_ask_bind {β : Type} {request : Request}
    {next next' : request.Answer → Proc gateway Unit β} (uniform : request.isUniform = true)
    (rest : ∀ answer, masking.Relates (next answer) (next' answer)) :
    masking.Relates (ask request >>= next) (ask request >>= next') :=
  .await_fixed (fixes_of_isUniform uniform) rest

theorem relates_ask_mask_bind {β : Type} (request : Request)
    {next : request.Answer → Proc gateway Unit β}
    {next' : request.mask.Answer → Proc gateway Unit β}
    (rest : ∀ answer, masking.Relates (next answer) (next' (request.maskAnswer answer))) :
    masking.Relates (ask request >>= next) (ask request.mask >>= next') :=
  .await rest

theorem isUniform_of_isSession (request : Request) (session : request.isSession = true) :
    request.isUniform = true := by
  cases request <;> first | rfl | cases session

/-- Only the handlers of `gateway:presence` and `gateway:init` supply a status. -/
theorem uniform_of_asks {event : ClientEvent} {process : Proc gateway Unit α}
    (along : Only event.asks process) (noPresence : event ≠ .presence) (noInit : event ≠ .init) :
    Uniform process := by
  refine along_wider along fun request asked => ?_
  cases event with
  | presence => exact absurd rfl noPresence
  | init => exact absurd rfl noInit
  | _ => cases request <;> first | rfl | cases asked

/-- Only a `disconnect` handler sees a socket off, and only the environment acts. -/
theorem uniform_of_call {call : Call} {process : Proc gateway Unit α}
    (along : Only call.asks process) (noDisconnect : call ≠ .disconnected)
    (noAct : ∀ action, call ≠ .act action) : Uniform process := by
  refine along_wider along fun request asked => ?_
  cases call with
  | disconnected => exact absurd rfl noDisconnect
  | act action => exact absurd rfl (noAct action)
  | _ => cases request <;> first | rfl | cases asked

theorem uniform_validateSession : Uniform (validateSession deployment socket) :=
  along_wider along_validateSession isUniform_of_isSession

theorem uniform_getSessionUserId : Uniform (getSessionUserId socket) :=
  along_wider along_getSessionUserId isUniform_of_isSession

/-- The masked status is set, announced and written as the status is. -/
theorem relates_setPresence (status : UserStatus) :
    masking.Relates (setPresence socket status) (setPresence socket status.mask) := by
  refine relates_ask_mask_bind (.setStatus socket status) fun state => ?_
  apply relates_of_uniform
  cases state with
  | none => trivial
  | some serial => exact along_ask_bind rfl fun _ => along_ask_bind rfl fun _ => trivial

theorem relates_initAs (status : UserStatus) :
    masking.Relates (initAs socket status) (initAs socket status.mask) := by
  refine .bind (relates_of_uniform uniform_getSessionUserId) fun userId => ?_
  cases userId with
  | none => exact .done _
  | some userId =>
    refine relates_ask_mask_bind (.init socket userId status) fun serial => ?_
    apply relates_of_uniform
    exact along_ask_bind rfl fun _ => along_ask_bind rfl fun _ => trivial

theorem relates_whenValid {event : JsString} {limit : Nat} {body body' : Proc gateway Unit Unit}
    (related : masking.Relates body body') :
    masking.Relates (whenValid deployment socket event limit (pure ()) body)
      (whenValid deployment socket event limit (pure ()) body') := by
  refine relates_ask_bind rfl fun allowed => ?_
  cases allowed
  · exact .done _
  · refine .bind (relates_of_uniform uniform_validateSession) fun valid => ?_
    cases valid
    · exact .done _
    · exact related

theorem relates_presence (data : Option Json) :
    masking.Relates (presence deployment socket data)
      (presence deployment socket (data.map maskStatus)) := by
  have masked := statusOf_maskStatus data
  unfold statusOf at masked
  unfold presence
  rw [masked]
  cases (Json.string? (property data (js "status"))).bind UserStatus.parse with
  | none => exact .done _
  | some status => exact relates_whenValid (relates_setPresence status)

theorem relates_init (data : Option Json) :
    masking.Relates (init deployment socket data) (init deployment socket (data.map maskStatus)) := by
  have masked := statusOf_maskStatus data
  unfold statusOf at masked
  unfold init
  rw [masked]
  refine .bind (relates_of_uniform uniform_validateSession) fun valid => ?_
  cases valid
  · exact .done _
  · cases (Json.string? (property data (js "status"))).bind UserStatus.parse with
    | none => exact relates_initAs .online
    | some status => exact relates_initAs status

/-- The handler of a masked message does what the handler of the message does. -/
theorem relates_serve : masking.Relates (serve deployment socket) (serve deployment socket) := by
  refine relates_ask_mask_bind (.receive socket) fun message => ?_
  obtain ⟨event, data⟩ := message
  cases event with
  | subscribe => exact relates_of_uniform (uniform_of_asks (along_subscribe data) nofun nofun)
  | unsubscribe => exact relates_of_uniform (uniform_of_asks (along_unsubscribe data) nofun nofun)
  | typing => exact relates_of_uniform (uniform_of_asks (along_typing data) nofun nofun)
  | callSignal => exact relates_of_uniform (uniform_of_asks (along_callSignal data) nofun nofun)
  | presence => exact relates_presence data
  | resume => exact relates_of_uniform (uniform_of_asks (along_resume data) nofun nofun)
  | init => exact relates_init data

theorem relates_disconnected : masking.Relates disconnected disconnected := by
  have offline : ∀ ref, masking.Relates (ask (.announceOffline ref)) (ask (.announceOffline ref)) :=
    fun ref => .await_fixed (show masking.Fixes (.announceOffline ref) from rfl) fun _ => .done _
  refine .await_fixed (show masking.Fixes .nextClosing from rfl) fun closing => ?_
  refine relates_ask_bind rfl fun found => ?_
  rcases found with error | sockets
  · exact offline _
  · have judged : ∀ others : Bool,
        masking.Relates (if others then pure () else ask (.announceOffline closing.1))
          (if others then pure () else ask (.announceOffline closing.1)) := by
      intro others
      cases others
      · exact offline _
      · exact .done _
    exact judged _

/-- Every call translates into the masked call. -/
theorem relates_program (call : Call) :
    masking.Relates (program deployment call) (program deployment call.mask) := by
  cases call with
  | serve socket => exact relates_serve.bind fun _ => .done _
  | disconnected => exact relates_disconnected.bind fun _ => .done _
  | act action => exact relates_ask_mask_bind (.act action) fun _ => .done _
  | _ =>
    apply relates_of_uniform
    exact uniform_of_call (along_program nofun) nofun nofun

end

/-! ## Two runs -/

theorem mask_initial {world : World} (initial : Initial world) : world.mask = world := by
  obtain ⟨outcomes, rfl⟩ := initial
  rfl

/-- The run with every `invisible` of its payloads replaced by `offline` broadcasts the
same, to the same rooms, and sends the same to every socket. -/
theorem broadcasts_masked {deployment : Deployment} {world : World} (initial : Initial world)
    {turns : List (Turn Call)} {pool : GatewayPool}
    (ran : Pool.replay (program deployment) (fun _ _ => handle deployment) (fun _ _ => true) world
      turns = some pool) :
    ∃ masked : GatewayPool,
      Pool.replay (program deployment) (fun _ _ => handle deployment) (fun _ _ => true) world
        (turns.map (Translation.turn Call.mask)) = some masked ∧
      masked.shared.broadcasts = pool.shared.broadcasts ∧
      ∀ socket, (masked.shared.sockets socket).rooms = (pool.shared.sockets socket).rooms ∧
        (masked.shared.sockets socket).inbox = (pool.shared.sockets socket).inbox := by
  have start : Translation.Mirrors masking Call.mask
      (Pool.fresh world : GatewayPool) (Pool.fresh world) :=
    ⟨(mask_initial initial).symm, .nil⟩
  obtain ⟨masked, followed, mirrors⟩ := start.follow (fun _ _ => commutes_handle deployment)
    (fun _ _ => rfl) relates_program ran
  refine ⟨masked, followed, ?_, fun socket => ?_⟩
  · rw [mirrors.shared]
    rfl
  · rw [mirrors.shared]
    exact ⟨rfl, rfl⟩

end Vortex.Gateway
