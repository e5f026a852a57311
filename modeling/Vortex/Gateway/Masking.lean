import Vortex.Gateway.Handlers

/-!
# Masked statuses

`invisible` replaced by `offline`: in the payloads of `gateway:init` and
`gateway:presence`, in the states of sockets, and so in a whole world. What the world
answers does not depend on the difference, and neither does anything it sends.
-/

namespace Vortex.Gateway

open Foundation
open Vortex.Web (startsWith)

def UserStatus.mask : UserStatus → UserStatus
  | .invisible => .offline
  | status => status

/-! ## Payloads -/

/-- A status as text. -/
def maskText : Json → Json
  | .str text => .str (if text = js "invisible" then js "offline" else text)
  | value => value

/-- Every `status` of a payload. -/
def maskStatus : Json → Json
  | .obj members => .obj (members.map fun member =>
      if member.1 = js "status" then (member.1, maskText member.2) else member)
  | value => value

def ClientMessage.mask (message : ClientMessage) : ClientMessage :=
  match message.event with
  | .init => { message with data := message.data.map maskStatus }
  | .presence => { message with data := message.data.map maskStatus }
  | _ => message

def Action.mask : Action → Action
  | .send socket message => .send socket message.mask
  | action => action

def Call.mask : Call → Call
  | .act action => .act action.mask
  | call => call

/-- The status a payload supplies, when it is a valid one. -/
def statusOf (data : Option Json) : Option UserStatus :=
  (Json.string? (property data (js "status"))).bind UserStatus.parse

theorem property_maskStatus (data : Option Json) :
    property (data.map maskStatus) (js "status") = (property data (js "status")).map maskText := by
  cases data with
  | none => rfl
  | some value =>
    cases value with
    | obj members =>
      simp only [property, Option.map_some, Option.bind_some, maskStatus, Json.get?,
        ← List.map_reverse, List.find?_map, Option.map_map]
      have kept : ((fun member : JsString × Json => decide (member.1 = js "status")) ∘
          fun member => if member.1 = js "status" then (member.1, maskText member.2) else member) =
          fun member => decide (member.1 = js "status") := by
        funext member
        simp only [Function.comp_apply]
        split <;> rfl
      rw [kept]
      cases found : members.reverse.find? fun member => member.1 = js "status" with
      | none => rfl
      | some member =>
        have named := List.find?_some found
        simp only [Option.map_some, Function.comp_apply, of_decide_eq_true named, ↓reduceIte]
    | _ => rfl

/-- A masked payload supplies the masked status. -/
theorem statusOf_maskStatus (data : Option Json) :
    statusOf (data.map maskStatus) = (statusOf data).map UserStatus.mask := by
  unfold statusOf
  rw [property_maskStatus]
  cases property data (js "status") with
  | none => rfl
  | some value =>
    cases value with
    | str text =>
      simp only [Option.map_some, maskText, Json.string?, Option.bind_some]
      by_cases invisible : text = js "invisible"
      · rw [if_pos invisible, invisible]
        decide
      · rw [if_neg invisible]
        unfold UserStatus.parse
        rw [if_neg invisible]
        split
        · rfl
        · split
          · rfl
          · split
            · rfl
            · split <;> rfl
    | _ => rfl

/-! ## Worlds -/

def GatewaySocketState.mask (state : GatewaySocketState) : GatewaySocketState :=
  { state with status := state.status.mask }

def SocketRecord.mask (record : SocketRecord) : SocketRecord :=
  { record with upstream := record.upstream.map ClientMessage.mask }

namespace World

def mask (world : World) : World :=
  { world with
    sockets := fun socket => (world.sockets socket).mask
    states := fun ref => (world.states ref).mask }

variable (world : World) (socket : SocketId) (ref : StateRef) (channel : JsString)

@[simp] theorem mask_sockets : world.mask.sockets socket = (world.sockets socket).mask := rfl

@[simp] theorem mask_states : world.mask.states ref = (world.states ref).mask := rfl

@[simp] theorem mask_setSocket (record : SocketRecord) :
    (world.setSocket socket record).mask = world.mask.setSocket socket record.mask := by
  have sockets : (fun other => (Function.update world.sockets socket record other).mask) =
      Function.update world.mask.sockets socket record.mask := by
    funext other
    by_cases same : other = socket
    · subst same
      simp only [Function.update_self]
    · simp only [Function.update_of_ne same, mask_sockets]
  simp only [mask, setSocket] at sockets ⊢
  rw [sockets]

@[simp] theorem mask_setState (state : GatewaySocketState) :
    (world.setState ref state).mask = world.mask.setState ref state.mask := by
  have states : (fun other => (Function.update world.states ref state other).mask) =
      Function.update world.mask.states ref state.mask := by
    funext other
    by_cases same : other = ref
    · subst same
      simp only [Function.update_self]
    · simp only [Function.update_of_ne same, mask_states]
  simp only [mask, setState] at states ⊢
  rw [states]

/-- A choice that does not depend on the mask. -/
theorem mask_ite {choice choice' : Prop} [Decidable choice] [Decidable choice']
    (same : choice ↔ choice') {left right left' right' : World} (first : left.mask = left')
    (second : right.mask = right') :
    (if choice then left else right).mask = if choice' then left' else right' := by
  by_cases taken : choice
  · rw [if_pos taken, if_pos (same.mp taken), first]
  · rw [if_neg taken, if_neg (taken ∘ same.mpr), second]

theorem mask_setStatus (status : UserStatus) :
    (world.setStatus ref status).mask = world.mask.setStatus ref status.mask :=
  mask_setState world ref _

theorem mask_setSession (session : Option SessionEntry) :
    (world.setSession socket session).mask = world.mask.setSession socket session :=
  mask_setSocket world socket _

theorem mask_setOwner (userId : JsString) :
    (world.setOwner socket userId).mask = world.mask.setOwner socket userId :=
  mask_setSocket world socket _

theorem mask_leave : (world.leave socket channel).mask = world.mask.leave socket channel :=
  mask_setSocket world socket _

theorem mask_addChannel : (world.addChannel ref channel).mask = world.mask.addChannel ref channel :=
  mask_setState world ref _

theorem mask_removeChannel :
    (world.removeChannel ref channel).mask = world.mask.removeChannel ref channel :=
  mask_setState world ref _

theorem mask_emit (message : ServerMessage) :
    (world.emit socket message).mask = world.mask.emit socket message := by
  exact mask_ite Iff.rfl (mask_setSocket world socket _) rfl

theorem mask_join : (world.join socket channel).mask = world.mask.join socket channel := by
  exact mask_ite Iff.rfl (mask_setSocket world socket _) rfl

theorem mask_rejoin :
    world.mask.rejoin ref channel = ((world.rejoin ref channel).1, (world.rejoin ref channel).2.mask) := by
  unfold rejoin
  rw [mask_addChannel, mask_join]
  rfl

theorem mask_createState (userId : JsString) :
    (world.createState ref userId).mask = world.mask.createState ref userId := by
  unfold createState
  rw [mask_setSocket, mask_setState]
  rfl

theorem mask_getOrCreateState (userId : JsString) :
    (world.getOrCreateState socket userId).mask = world.mask.getOrCreateState socket userId := by
  exact mask_ite Iff.rfl (mask_setState world _ _) (mask_createState world _ userId)

theorem mask_establish (userId : JsString) :
    (world.establish socket userId).mask = world.mask.establish socket userId := by
  unfold establish
  rw [mask_setOwner, mask_getOrCreateState]

/-- What is broadcast of a status is the masked one. -/
theorem mask_broadcastPresenceToChannels (channels : List JsString) :
    (world.broadcastPresenceToChannels ref channels).mask =
      world.mask.broadcastPresenceToChannels ref channels := by
  have shown : ∀ status : UserStatus,
      (if status.mask = .invisible then UserStatus.offline else status.mask) =
        if status = .invisible then .offline else status := by
    intro status
    cases status <;> rfl
  refine mask_ite Iff.rfl rfl ?_
  exact congrArg (fun status => world.mask.broadcast
    ⟨some ref.socket, channels, .presence (world.states ref).userId status world.clock⟩)
    (shown (world.states ref).status).symm

theorem mask_foldl {β : Type} {step : World → β → World}
    (commutes : ∀ world item, (step world item).mask = step world.mask item) (items : List β) :
    (items.foldl step world).mask = items.foldl step world.mask := by
  induction items generalizing world with
  | nil => rfl
  | cons item items ih =>
    rw [List.foldl_cons, List.foldl_cons, ih, commutes]

theorem mask_stopTyping (state : GatewaySocketState) :
    (world.stopTyping state).mask = world.mask.stopTyping state.mask := by
  apply mask_foldl
  intro world channel
  exact mask_ite Iff.rfl rfl rfl

theorem mask_beginClosing :
    (world.beginClosing ref).mask = world.mask.beginClosing ref := rfl

theorem mask_close : (world.close socket).mask = world.mask.close socket := by
  refine mask_ite Iff.rfl rfl ?_
  dsimp only [mask_sockets, SocketRecord.mask]
  split
  · exact mask_setSocket world socket _
  · rename_i serial _
    rw [mask_setSocket, mask_beginClosing, mask_stopTyping]
    rfl

theorem mask_disconnectAll (userId : JsString) (sockets : List (SocketId × Option JsString)) :
    (world.disconnectAll userId sockets).mask = world.mask.disconnectAll userId sockets := by
  apply mask_foldl
  intro world found
  refine mask_ite Iff.rfl ?_ rfl
  rw [mask_close, mask_emit, mask_setSession]

theorem mask_enroll (userId : JsString) (validChannels denied : List JsString) :
    (world.enroll socket userId validChannels denied).mask =
      world.mask.enroll socket userId validChannels denied := by
  have joined : ∀ (ref : StateRef) (world : World),
      (validChannels.foldl (fun world channelId => (world.rejoin ref channelId).2) world).mask =
        validChannels.foldl (fun world channelId => (world.rejoin ref channelId).2) world.mask :=
    fun ref world => mask_foldl world (fun world channelId => by rw [mask_rejoin]) validChannels
  unfold enroll
  dsimp only
  rw [mask_emit, mask_broadcastPresenceToChannels, joined, mask_establish, ← mask_establish]
  rfl

theorem mask_unenroll (channelIds : List JsString) :
    (world.unenroll socket channelIds).mask = world.mask.unenroll socket channelIds := by
  unfold unenroll
  dsimp only [mask_sockets, SocketRecord.mask]
  split
  · rfl
  · exact mask_foldl world (fun world channelId => by rw [mask_removeChannel, mask_leave]) channelIds

theorem mask_whenSubscribed {relay : GatewaySocketState → World → World}
    (commutes : ∀ state world, (relay state world).mask = relay state.mask world.mask) :
    (world.whenSubscribed socket channel relay).mask =
      world.mask.whenSubscribed socket channel relay := by
  unfold whenSubscribed
  dsimp only [mask_sockets, SocketRecord.mask, mask_states]
  split
  · rfl
  · exact mask_ite Iff.rfl (commutes _ _) rfl

theorem mask_typing (isTyping : Bool) :
    (world.typing socket channel isTyping).mask = world.mask.typing socket channel isTyping :=
  mask_whenSubscribed world socket channel fun _ _ => rfl

theorem mask_callSignal (signal : CallSignal) :
    (world.callSignal socket channel signal).mask = world.mask.callSignal socket channel signal :=
  mask_whenSubscribed world socket channel fun _ _ => rfl

theorem mask_setWindows (windows : List (JsString × Nat)) :
    (world.setSocket socket { world.sockets socket with windows := windows }).mask =
      world.mask.setSocket socket { world.mask.sockets socket with windows := windows } :=
  mask_setSocket world socket _

theorem mask_checkRate (event : JsString) (limit : Nat) :
    world.mask.checkRate socket event limit =
      ((world.checkRate socket event limit).1, (world.checkRate socket event limit).2.mask) :=
  congrArg (Prod.mk _) (mask_setWindows world socket _).symm

theorem mask_dropChannel (deployment : Deployment) (replica : Nat) (userId channelId : JsString)
    (sockets : List (SocketId × Option JsString)) :
    (world.dropChannel deployment replica userId channelId sockets).mask =
      world.mask.dropChannel deployment replica userId channelId sockets := by
  have left : ∀ world : World, (sockets.foldl (fun world socket =>
      if socket.2 = some userId then world.leave socket.1 channelId else world) world).mask =
      sockets.foldl (fun world socket =>
        if socket.2 = some userId then world.leave socket.1 channelId else world) world.mask := by
    intro world
    apply mask_foldl
    intro world found
    exact mask_ite Iff.rfl (mask_leave world _ _) rfl
  unfold dropChannel
  dsimp only
  rw [← left]
  generalize (sockets.foldl _ world) = world
  have states : ∀ ref : StateRef, (if (world.sockets ref.socket).state = some ref.serial ∧
          deployment.replica ref.socket = replica ∧ (world.states ref).userId = userId then
        { world.states ref with
          subscribedChannels := (world.states ref).subscribedChannels.filter (· ≠ channelId) }
        else world.states ref).mask =
      if (world.mask.sockets ref.socket).state = some ref.serial ∧
          deployment.replica ref.socket = replica ∧ (world.mask.states ref).userId = userId then
        { world.mask.states ref with
          subscribedChannels := (world.mask.states ref).subscribedChannels.filter (· ≠ channelId) }
        else world.mask.states ref := by
    intro ref
    by_cases dropped : (world.sockets ref.socket).state = some ref.serial ∧
        deployment.replica ref.socket = replica ∧ (world.states ref).userId = userId
    · rw [if_pos dropped]
      exact (if_pos dropped).symm
    · rw [if_neg dropped]
      exact (if_neg dropped).symm
  exact congrArg (fun states => { world.mask with states := states }) (funext states)

theorem mask_announceOffline :
    (world.announceOffline ref).mask = world.mask.announceOffline ref := by
  exact mask_ite Iff.rfl rfl rfl

theorem mask_command {α : Type} {key : Option JsString} {run : World → α × World}
    (commutes : ∀ world, run world.mask = ((run world).1, (run world).2.mask))
    {answer : Except Unit α} {after : World}
    (answered : some (world.command key run) = some (answer, after)) :
    some (world.mask.command key run) = some (answer, after.mask) := by
  unfold command at answered ⊢
  rw [commutes]
  by_cases succeeds : (world.redisOutcomes key).headD true = true
  · rw [if_pos succeeds] at answered
    cases answered
    exact congrArg some (if_pos succeeds)
  · rw [if_neg succeeds] at answered
    cases answered
    exact congrArg some (if_neg succeeds)

end World

end Vortex.Gateway
