import Vortex.Gateway.Announcements
import Vortex.Gateway.Registry
import Vortex.Gateway.Services
import Vortex.Web.Presence

/-!
# A user who does not want to be seen

The tabs of the web app open the sockets of their users and send their presences over
them, next to the `gateway:init`, `gateway:subscribe` and `gateway:resume` that
`useGateway` sends on every connect. The `gateway:init` always says `online`, whatever the
user has chosen, so a presence is only right when one that the tab has sent was handled
after it (`invisible_unannounced`).
-/

variable {status : UserStatus} {changed : SocketId} {broadcast : Broadcast} {index : Nat}
  {seen : Exchanges} {call : Call}

namespace Vortex.Gateway

open Foundation
open Vortex.Web (Tab TabEvent PresenceBroadcastMessage)

/-- Which clients are in one browser, what the user of each has chosen, and the client that
opens each socket, when it is one of the web app. -/
structure Household where
  browser : ClientId → Nat
  chosen : ClientId → UserStatus
  opener : SocketId → Option ClientId

def presenceMessage (status : UserStatus) : ClientMessage :=
  ⟨.presence, some (.obj [(js "status", .str status.text)])⟩

theorem supplied_presenceMessage (status : UserStatus) :
    (presenceMessage status).supplied = some status := by
  cases status <;> decide

/-- A world with the tabs of the web app: the messages other tabs have posted to each, and
the presences its socket sends once it is connected again, when there is a socket. -/
structure Tabbed where
  world : World
  tabs : ClientId → Tab
  mail : ClientId → List PresenceBroadcastMessage
  buffered : ClientId → Option (List UserStatus)

namespace Tabbed

variable (household : Household) (client : ClientId) (tabbed : Tabbed)

/-- `socketRef.current?.emit("gateway:presence", ...)`; a socket that is not connected
buffers what it emits. -/
def sendPresence (tabbed : Tabbed) (status : UserStatus) : Tabbed :=
  match (tabbed.world.clients client).socket with
  | some socket =>
      { tabbed with world := tabbed.world.sendUpstream socket [presenceMessage status] }
  | none =>
      { tabbed with
        buffered := Function.update tabbed.buffered client
          ((tabbed.buffered client).map fun statuses => statuses ++ [status]) }

/-- Post messages to the other tabs of the browser that listen. -/
def post (messages : List PresenceBroadcastMessage) : Tabbed :=
  { tabbed with
    mail := fun other =>
      if other ≠ client ∧ household.browser other = household.browser client ∧
          (tabbed.tabs other).listening then
        tabbed.mail other ++ messages
      else tabbed.mail other }

/-- An event of a tab, with all that follows. -/
def react (event : TabEvent) : Tabbed :=
  let reaction := (tabbed.tabs client).react (household.chosen client) client tabbed.world.clock event
  reaction.sends.foldl (sendPresence client)
    ({ tabbed with tabs := Function.update tabbed.tabs client reaction.tab }.post household client
      reaction.posts)

/-- What happens in a tab; a message is the next one posted to it. -/
def happen (event : TabEvent) : Tabbed :=
  match event with
  | .message message =>
      match tabbed.mail client with
      | [] => tabbed
      | first :: later =>
          if first = message then
            { tabbed with mail := Function.update tabbed.mail client later }.react household client event
          else tabbed
  | _ => tabbed.react household client event

/-- A client that has connected sends what its socket has buffered before all else. -/
def flush : Tabbed :=
  match (tabbed.world.clients client).socket with
  | none => tabbed
  | some socket =>
      let record := tabbed.world.sockets socket
      { tabbed with
        world := tabbed.world.setSocket socket
          { record with
            upstream := ((tabbed.buffered client).getD []).map presenceMessage ++ record.upstream }
        buffered := Function.update tabbed.buffered client (some []) }

end Tabbed

/-- A connection is opened by the client that opens this socket. -/
def Household.admits (household : Household) (world : World) : Request → Bool
  | .act .connect => (household.opener world.connections).isNone
  | .act (.clientConnect client) => household.opener world.connections = some client
  | _ => true

/-- What the tabs do when a request is answered: a client that connects sends what was
buffered, and something may happen in a tab as time goes by. -/
def Request.domestic (household : Household) (turn : Option (ClientId × TabEvent))
    (tabbed : Tabbed) : Request → Tabbed
  | .act (.clientConnect client) => tabbed.flush client
  | .act (.wait _) =>
      match turn with
      | some (client, event) => tabbed.happen household client event
      | none => tabbed
  | _ => tabbed

def handleTabs (deployment : Deployment) (household : Household)
    (turn : Option (ClientId × TabEvent)) : Handler gateway Tabbed
  | request, tabbed =>
      if household.admits tabbed.world request then
        (handle deployment request tabbed.world).map fun (answer, after) =>
          (answer, request.domestic household turn { tabbed with world := after })
      else none

def InitialTabs (household : Household) (tabbed : Tabbed) : Prop :=
  Initial tabbed.world ∧
    (∀ client, ∃ now, tabbed.tabs client = Tab.load (household.chosen client) now) ∧
    tabbed.mail = (fun _ => []) ∧ tabbed.buffered = fun _ => none

abbrev TabPool : Type := Pool gateway Unit Bool Call Tabbed

/-- The gateway with the tabs of its clients; the scheduler chooses what happens in them. -/
def tabSystem (deployment : Deployment) (household : Household)
    (turns : Nat → Option (ClientId × TabEvent)) : System TabPool (Turn Call) :=
  Pool.system (InitialTabs household) (program deployment)
    fun index _ => handleTabs deployment household (turns index)

/-- The event whose handler has supplied a state with its status by an exchange. -/
def suppliedBy (ref : StateRef) (event : Event gateway Call) : Option ClientEvent :=
  match event.request, event.answer with
  | .init socket _ _, serial => if ref = ⟨socket, serial⟩ then some .init else none
  | .setStatus socket _, some serial => if ref = ⟨socket, serial⟩ then some .presence else none
  | _, _ => none

/-- The event that has last supplied a state with its status. -/
def supplier (history : History) (ref : StateRef) : Option ClientEvent :=
  history.findSome? (suppliedBy ref)

/-- The state whose presence a request may announce. -/
def Request.announcer (world : World) : Request → Option StateRef
  | .enroll socket _ _ _ => some (world.stateRef socket)
  | .announce ref => some ref
  | .complete ref _ _ _ => some ref
  | _ => none

/-- The presence of a socket of the user is only announced when a `gateway:presence` of the
socket was handled after its last `gateway:init`. -/
def Corrected (deployment : Deployment) (userId : JsString) (pool : TabPool) : Turn Call → Prop
  | .start _ => True
  | .advance index => ∀ call request next,
      pool.threads[index]? = some ⟨call, .await request next⟩ →
      ∀ ref, request.announcer pool.shared.world = some ref →
        (request.announces pool.shared.world).isSome → deployment.user ref.socket = some userId →
        supplier pool.history ref = some .presence

/-! ## What is on its way to the server -/

section

variable {deployment : Deployment} {household : Household} {world after : World} {socket : SocketId}
  {ref : StateRef} {userId : JsString} {request : Request}

/-- What a request has a socket say. -/
def Request.utters (world : World) (socket : SocketId) (message : ClientMessage) : Request → Prop
  | .act (.clientConnect client) =>
      socket = world.connections ∧ message ∈ (world.clients client).greeting
  | .act (.send other said) =>
      socket = other ∧ message = said ∧ (world.sockets socket).connected = true ∧
        (world.sockets socket).client = none
  | .act (.clientSubscribe _ _) => ∃ channelIds, message = subscribeMessage channelIds
  | _ => False

namespace Registry

variable {registry last : Registry} {message : ClientMessage} {said : Prop}

/-- What an entry that changes has on its way. -/
theorem utters_set (registry : Registry) {changed : SocketId} {entry : Entry}
    (member : message ∈ (last.entries socket).upstream)
    (entries : last.entries = Function.update registry.entries changed entry)
    (kept : socket = changed → message ∈ entry.upstream →
      message ∈ (registry.entries socket).upstream ∨ said) :
    message ∈ (registry.entries socket).upstream ∨ said := by
  rw [entries] at member
  by_cases same : socket = changed
  · subst same
    rw [Function.update_self] at member
    exact kept rfl member
  · rw [Function.update_of_ne same] at member
    exact .inl member

theorem utters_send {changed : SocketId} {messages : List ClientMessage}
    (member : message ∈ ((registry.send changed messages).entries socket).upstream)
    (sent : socket = changed → (registry.entries socket).connected = true → message ∈ messages → said) :
    message ∈ (registry.entries socket).upstream ∨ said := by
  unfold send at member
  dsimp only at member
  split at member
  · rename_i connected
    refine utters_set registry member rfl fun same later => ?_
    subst same
    exact (List.mem_append.mp later).imp id (sent rfl connected)
  · exact .inl member

theorem utters_close (member : message ∈ ((registry.close changed).entries socket).upstream) :
    message ∈ (registry.entries socket).upstream := by
  unfold close at member
  dsimp only at member
  split at member
  · exact (utters_set registry member rfl fun _ => nofun).resolve_right (id : ¬ False)
  · exact member

/-- An entry that keeps what it has on its way. -/
theorem utters_same {entry : Entry}
    (member : message ∈ ((registry.set changed entry).entries socket).upstream)
    (same : entry.upstream = (registry.entries changed).upstream) :
    message ∈ (registry.entries socket).upstream := by
  refine (utters_set registry member rfl ?_).resolve_right (id : ¬ False)
  rintro rfl early
  exact .inl (same ▸ early)

theorem utters_closeAll {owner : JsString} {sockets : List (SocketId × Option JsString)}
    (member : message ∈ ((registry.closeAll owner sockets).entries socket).upstream) :
    message ∈ (registry.entries socket).upstream :=
  closeAll_induction (P := fun later => message ∈ (later.entries socket).upstream →
      message ∈ (registry.entries socket).upstream)
    (fun _ _ earlier later => earlier (utters_same (utters_close later) rfl)) sockets id member

end Registry

theorem utters_of_handle {answer : request.Answer} {message : ClientMessage}
    (answered : handle deployment request world = some (answer, after))
    (member : message ∈ (after.sockets socket).upstream) :
    message ∈ (world.sockets socket).upstream ∨ request.utters world socket message := by
  have books := registry_of_handle answered
  have said : message ∈ (after.registry.entries socket).upstream := member
  rw [books] at said
  cases request with
  | receive other =>
    refine Registry.utters_set world.registry said rfl ?_
    rintro rfl early
    exact .inl (List.mem_of_mem_tail early)
  | setSession other claims => exact .inl (Registry.utters_same said rfl)
  | deleteSession other => exact .inl (Registry.utters_same said rfl)
  | disconnect other => exact .inl (Registry.utters_close said)
  | disconnectAll owner sockets => exact .inl (Registry.utters_closeAll said)
  | enroll other owner validChannels denied => exact .inl (Registry.utters_same said rfl)
  | init other owner status => exact .inl (Registry.utters_same said rfl)
  | establish other owner => exact .inl (Registry.utters_same said rfl)
  | act action =>
    cases action with
    | connect =>
      exact .inl ((Registry.utters_set world.registry said rfl fun _ => nofun).resolve_right
        (id : ¬ False))
    | clientConnect client =>
      exact Registry.utters_set world.registry said rfl fun same greeting =>
        .inr ⟨same, greeting⟩
    | close other => exact .inl (Registry.utters_close said)
    | send other sent =>
      refine Registry.utters_send said fun same connected only =>
        ⟨same, List.mem_singleton.mp only, connected, ?_⟩
      subst same
      obtain ⟨_, moved, -⟩ := Option.map_eq_some_iff.mp answered
      exact (eq_of_send moved).1
    | clientSubscribe client channelIds =>
      dsimp only [Request.registered, Action.registered] at said
      split at said
      · exact .inl said
      · split at said
        · exact .inl said
        · refine Registry.utters_send said fun _ _ only => ⟨_, List.mem_singleton.mp only⟩
    | _ => exact .inl said
  | _ => exact .inl said

/-! ## Who opens the sockets -/

/-- A connected socket was opened by the client that opens it. -/
def Registry.Opened (opener : SocketId → Option ClientId) (registry : Registry) : Prop :=
  ∀ socket, (registry.entries socket).connected = true →
    (registry.entries socket).client = opener socket

namespace Registry

variable {registry last : Registry} {opener : SocketId → Option ClientId}

theorem Opened.set (opened : registry.Opened opener) {entry : Entry}
    (entries : last.entries = Function.update registry.entries changed entry)
    (kept : entry.connected = true → entry.client = opener changed) : last.Opened opener := by
  intro other connected
  rw [entries] at connected ⊢
  by_cases same : other = changed
  · subst same
    rw [Function.update_self] at connected ⊢
    exact kept connected
  · rw [Function.update_of_ne same] at connected ⊢
    exact opened other connected

theorem Opened.send (opened : registry.Opened opener) (changed : SocketId)
    (messages : List ClientMessage) : (registry.send changed messages).Opened opener := by
  unfold Registry.send
  dsimp only
  split
  · exact opened.set rfl (opened changed)
  · exact opened

theorem Opened.close (opened : registry.Opened opener) (changed : SocketId) :
    (registry.close changed).Opened opener := by
  unfold Registry.close
  dsimp only
  split
  · exact opened.set rfl nofun
  · exact opened

end Registry

theorem opened_of_handle {answer : request.Answer} (opened : world.registry.Opened household.opener)
    (admitted : household.admits world request = true)
    (answered : handle deployment request world = some (answer, after)) :
    after.registry.Opened household.opener := by
  rw [registry_of_handle answered]
  cases request with
  | receive socket => exact opened.set rfl (opened socket)
  | setSession socket claims => exact opened.set rfl (opened socket)
  | deleteSession socket => exact opened.set rfl (opened socket)
  | disconnect socket => exact opened.close socket
  | disconnectAll owner sockets =>
    refine Registry.closeAll_induction (fun registry socket earlier => ?_) sockets opened
    have dropped : (registry.cache socket false).Opened _ := earlier.set rfl (earlier socket)
    exact dropped.close socket
  | enroll socket owner validChannels denied => exact opened.set rfl (opened socket)
  | init socket owner status => exact opened.set rfl (opened socket)
  | establish socket owner => exact opened.set rfl (opened socket)
  | act action =>
    cases action with
    | connect =>
      exact opened.set rfl fun _ => (Option.isNone_iff_eq_none.mp admitted).symm
    | clientConnect client => exact opened.set rfl fun _ => (of_decide_eq_true admitted).symm
    | close socket => exact opened.close socket
    | send socket message => exact opened.send socket _
    | clientSubscribe client channelIds =>
      exact Registry.clientSubscribe_induction opened fun _ _ => opened.send _ _
    | _ => exact opened
  | _ => exact opened

/-! ## What the tabs say -/

/-- A message that tells no presence but `invisible`. -/
def ClientMessage.Discreet (message : ClientMessage) : Prop :=
  message.event = .presence → message.supplied = some .invisible

/-- The socket is opened by a client whose user has chosen to be invisible. -/
def Household.Hides (household : Household) (socket : SocketId) : Prop :=
  ∃ client, household.opener socket = some client ∧ household.chosen client = .invisible

structure Unseen (household : Household) (tabbed : Tabbed) (history : History) : Prop where
  tabs : ∀ client, household.chosen client = .invisible → (tabbed.tabs client).Hidden
  buffers : ∀ client statuses, household.chosen client = .invisible →
    tabbed.buffered client = some statuses → ∀ status ∈ statuses, status = .invisible
  opened : tabbed.world.registry.Opened household.opener
  owned : ∀ client socket, (tabbed.world.clients client).socket = some socket →
    household.opener socket = some client
  spoken : ∀ socket, household.Hides socket →
    ∀ message ∈ (tabbed.world.sockets socket).upstream, message.Discreet
  heard : ∀ socket message, household.Hides socket → Happened history ⟨.receive socket, message⟩ →
    message.Discreet
  supplied : ∀ ref, household.Hides ref.socket → supplier history ref = some .presence →
    (tabbed.world.states ref).statusKnown = true → (tabbed.world.states ref).status = .invisible

theorem discreet_subscribeMessage (channelIds : List JsString) :
    (subscribeMessage channelIds).Discreet := nofun

theorem discreet_greeting {client : Client} {message : ClientMessage}
    (member : message ∈ client.greeting) : message.Discreet := by
  unfold Client.greeting at member
  rcases List.mem_append.mp member with first | last
  · rcases List.mem_append.mp first with init | resubscribe
    · cases List.mem_singleton.mp init
      exact nofun
    · split at resubscribe
      · cases resubscribe
      · cases List.mem_singleton.mp resubscribe
        exact discreet_subscribeMessage _
  · split at last
    · cases last
    · cases List.mem_singleton.mp last
      exact nofun

section

variable {tabbed : Tabbed} {history : History} {client : ClientId}

/-- Only discreet messages get on the way over a socket that hides its user. -/
theorem Unseen.utters (unseen : Unseen household tabbed history) {answer : request.Answer}
    (answered : handle deployment request tabbed.world = some (answer, after))
    (hides : household.Hides socket) :
    ∀ message ∈ (after.sockets socket).upstream, message.Discreet := by
  intro message member
  rcases utters_of_handle answered member with early | uttered
  · exact unseen.spoken socket hides message early
  cases request with
  | act action =>
    cases action with
    | clientConnect client => exact discreet_greeting uttered.2
    | clientSubscribe client channelIds =>
      obtain ⟨channelIds, rfl⟩ := uttered
      exact discreet_subscribeMessage channelIds
    | send other said =>
      obtain ⟨rfl, rfl, connected, raw⟩ := uttered
      obtain ⟨client, opens, -⟩ := hides
      have same : (tabbed.world.sockets socket).client = household.opener socket :=
        unseen.opened socket connected
      rw [raw, opens] at same
      cases same
    | _ => cases uttered
  | _ => cases uttered

theorem supplier_cons (event : Event gateway Call) (history : History) (ref : StateRef) :
    supplier (event :: history) ref = (suppliedBy ref event).or (supplier history ref) := by
  unfold supplier
  rw [List.findSome?_cons]
  cases suppliedBy ref event <;> rfl

section

variable (unseen : Unseen household tabbed history)

include unseen

/-- A handler of `gateway:presence` only records what the tab has sent. -/
theorem Unseen.recorded (supplying : Supplying seen (.setStatus socket status))
    (known : ∀ exchange ∈ seen, exchange ∈ Pool.exchanges history index)
    (hides : household.Hides socket) : status = .invisible := by
  obtain ⟨message, received, event, given⟩ := supplying
  have discreet := unseen.heard _ message hides ⟨index, known _ received⟩ event
  exact Option.some.inj (given.symm.trans discreet)

/-- A state that was last supplied by a `gateway:presence` is invisible after a request. -/
theorem Unseen.supplies {answer : request.Answer} (supplying : Supplying seen request)
    (known : ∀ exchange ∈ seen, exchange ∈ Pool.exchanges history index)
    (answered : handle deployment request tabbed.world = some (answer, after))
    (hides : household.Hides ref.socket)
    (last : supplier (⟨index, call, request, answer⟩ :: history) ref = some .presence)
    (statusKnown : (after.states ref).statusKnown = true) :
    (after.states ref).status = .invisible := by
  rw [supplier_cons] at last
  rcases (announces_of_handle answered).known ref statusKnown with ⟨earlier, same⟩ | supplies
  · have unchanged : suppliedBy ref ⟨index, call, request, answer⟩ = none →
        (after.states ref).status = .invisible := by
      intro silent
      rw [silent] at last
      rw [same]
      exact unseen.supplied ref hides last earlier
    cases request with
    | init socket owner status =>
      dsimp only [suppliedBy] at last unchanged
      split at last
      · cases last
      · rename_i other
        exact unchanged (if_neg other)
    | setStatus socket status =>
      dsimp only [handle] at answered
      split at answered
      · cases answered
        exact unchanged rfl
      · rename_i serial held
        cases answered
        by_cases mine : ref = ⟨socket, serial⟩
        · subst mine
          unfold World.setStatus
          rw [states_setState_self]
          exact unseen.recorded supplying known hides
        · exact unchanged (if_neg mine)
    | _ => exact unchanged rfl
  · cases request with
    | setStatus socket status =>
      obtain ⟨rfl, -, told⟩ := supplies
      rw [told]
      exact unseen.recorded supplying known hides
    | init socket owner status =>
      obtain ⟨same, -⟩ := supplies
      cases answered
      have initialised : ref = ⟨socket, (tabbed.world.stateRef socket).serial⟩ := same
      dsimp only [suppliedBy] at last
      rw [if_pos initialised] at last
      cases last
    | _ => cases supplies

theorem Unseen.answered {index : Nat} {call : Call}
    {answer : request.Answer} {seen : Exchanges} (supplying : Supplying seen request)
    (known : ∀ exchange ∈ seen, exchange ∈ Pool.exchanges history index)
    (admitted : household.admits tabbed.world request = true)
    (answered : handle deployment request tabbed.world = some (answer, after)) :
    Unseen household { tabbed with world := after } (⟨index, call, request, answer⟩ :: history) where
  tabs := unseen.tabs
  buffers := unseen.buffers
  opened := opened_of_handle unseen.opened admitted answered
  owned client socket on := by
    rcases socket_of_handle answered on with early | ⟨rfl, rfl⟩
    · exact unseen.owned client socket early
    · exact of_decide_eq_true admitted
  spoken socket hides := unseen.utters answered hides
  heard socket message hides happened := by
    rcases happened_cases happened with new | earlier
    · cases new
      obtain ⟨later, waiting, -⟩ := eq_of_receive answered
      refine unseen.spoken socket hides message ?_
      rw [waiting]
      exact List.mem_cons_self
    · exact unseen.heard socket message hides earlier
  supplied ref hides last statusKnown :=
    unseen.supplies supplying known answered hides last statusKnown

/-- A tab sends a presence. -/
theorem Unseen.sendPresence (hidden : household.chosen client = .invisible → status = .invisible) :
    Unseen household (tabbed.sendPresence client status) history := by
  unfold Tabbed.sendPresence
  cases on : (tabbed.world.clients client).socket with
  | none =>
    refine ⟨unseen.tabs, fun other statuses chosen buffered => ?_, unseen.opened, unseen.owned,
      unseen.spoken, unseen.heard, unseen.supplied⟩
    dsimp only at buffered
    by_cases same : other = client
    · subst same
      rw [Function.update_self] at buffered
      obtain ⟨earlier, held, rfl⟩ := Option.map_eq_some_iff.mp buffered
      intro told member
      rcases List.mem_append.mp member with early | last
      · exact unseen.buffers other earlier chosen held told early
      · rw [List.mem_singleton.mp last]
        exact hidden chosen
    · rw [Function.update_of_ne same] at buffered
      exact unseen.buffers other statuses chosen buffered
  | some socket =>
    dsimp only
    have books := World.registry_sendUpstream tabbed.world socket [presenceMessage status]
    refine ⟨unseen.tabs, unseen.buffers, ?_, fun other found => ?_, fun other hides message => ?_,
      unseen.heard, fun ref => ?_⟩
    · rw [books]
      exact unseen.opened.send socket _
    · dsimp only
      rw [clients_sendUpstream]
      exact unseen.owned other found
    · intro member
      have sent : message ∈ ((tabbed.world.registry.send socket
          [presenceMessage status]).entries other).upstream := books ▸ member
      rcases Registry.utters_send sent (fun same _ only => And.intro same (List.mem_singleton.mp only))
        with early | ⟨rfl, rfl⟩
      · exact unseen.spoken other hides message early
      · obtain ⟨opener, opens, chosen⟩ := hides
        cases opens.symm.trans (unseen.owned client other on)
        rw [hidden chosen]
        exact fun _ => supplied_presenceMessage .invisible
    · have states : (tabbed.world.sendUpstream socket [presenceMessage status]).states =
          tabbed.world.states := by
        unfold World.sendUpstream
        dsimp only
        split <;> rfl
      dsimp only
      rw [states]
      exact unseen.supplied ref

theorem Unseen.sendPresences {statuses : List UserStatus}
    (hidden : household.chosen client = .invisible → ∀ status ∈ statuses, status = .invisible) :
    Unseen household (statuses.foldl (Tabbed.sendPresence client) tabbed) history := by
  induction statuses generalizing tabbed with
  | nil => exact unseen
  | cons status statuses ih =>
    refine ih (unseen.sendPresence fun chosen => hidden chosen status List.mem_cons_self)
      fun chosen other member => hidden chosen other (List.mem_cons_of_mem status member)

/-- A tab that stays hidden may react to anything. -/
theorem Unseen.react (client : ClientId)
    (event : TabEvent) : Unseen household (tabbed.react household client event) history := by
  have keeps : household.chosen client = .invisible →
      Tab.KeepsHidden ((tabbed.tabs client).react (household.chosen client) client
        tabbed.world.clock event) := by
    intro chosen
    rw [chosen]
    exact Tab.react_hidden (unseen.tabs client chosen) _ event
  unfold Tabbed.react
  generalize (tabbed.tabs client).react (household.chosen client) client tabbed.world.clock event =
    reaction at keeps ⊢
  apply Unseen.sendPresences
  · refine ⟨fun other chosen => ?_, unseen.buffers, unseen.opened, unseen.owned, unseen.spoken,
      unseen.heard, unseen.supplied⟩
    change (Function.update tabbed.tabs client reaction.tab other).Hidden
    by_cases same : other = client
    · subst same
      rw [Function.update_self]
      exact (keeps chosen).hidden
    · rw [Function.update_of_ne same]
      exact unseen.tabs other chosen
  · exact fun chosen => (keeps chosen).sends

theorem Unseen.happen (client : ClientId)
    (event : TabEvent) : Unseen household (tabbed.happen household client event) history := by
  unfold Tabbed.happen
  split
  · split
    · exact unseen
    · split
      · apply Unseen.react
        exact ⟨unseen.tabs, unseen.buffers, unseen.opened, unseen.owned, unseen.spoken,
          unseen.heard,
          unseen.supplied⟩
      · exact unseen
  · exact unseen.react client event

/-- A client that connects sends what its hidden tab had left to send. -/
theorem Unseen.flush (client : ClientId) : Unseen household (tabbed.flush client) history := by
  unfold Tabbed.flush
  cases on : (tabbed.world.clients client).socket with
  | none => exact unseen
  | some socket =>
    refine ⟨unseen.tabs, fun other statuses chosen buffered => ?_, ?_, unseen.owned,
      fun other hides message member => ?_, unseen.heard, unseen.supplied⟩
    · dsimp only at buffered
      by_cases same : other = client
      · subst same
        rw [Function.update_self] at buffered
        cases buffered
        exact nofun
      · rw [Function.update_of_ne same] at buffered
        exact unseen.buffers other statuses chosen buffered
    · dsimp only
      rw [World.registry_setSocket]
      exact unseen.opened.set rfl (unseen.opened socket)
    · by_cases same : other = socket
      · subst same
        dsimp only at member
        rw [sockets_setSocket_self] at member
        rcases List.mem_append.mp member with left | early
        · obtain ⟨opener, opens, chosen⟩ := hides
          cases opens.symm.trans (unseen.owned client other on)
          obtain ⟨status, buffered, rfl⟩ := List.mem_map.mp left
          cases held : tabbed.buffered client with
          | none =>
            rw [held] at buffered
            cases buffered
          | some statuses =>
            rw [held] at buffered
            rw [unseen.buffers client statuses chosen held status buffered]
            exact fun _ => supplied_presenceMessage .invisible
        · exact unseen.spoken other hides message early
      · dsimp only at member
        rw [sockets_setSocket_of_ne same] at member
        exact unseen.spoken other hides message member

theorem Unseen.domestic
    (turn : Option (ClientId × TabEvent)) (request : Request) :
    Unseen household (request.domestic household turn tabbed) history := by
  cases request with
  | act action =>
    cases action with
    | clientConnect client => exact unseen.flush client
    | wait ms =>
      cases turn with
      | none => exact unseen
      | some turn => exact unseen.happen turn.1 turn.2
    | _ => exact unseen
  | _ => exact unseen

end

/-! ## What the tabs do to the gateway -/

/-- What is on its way changes, and nothing else that is known of sockets and states. -/
structure Delivers (before after : World) : Prop where
  moves : Moves .nothing before after
  states : after.states = before.states
  broadcasts : after.broadcasts = before.broadcasts

theorem Delivers.refl (world : World) : Delivers world world := ⟨.refl _ _, rfl, rfl⟩

theorem Delivers.trans {middle : World} (first : Delivers world middle)
    (second : Delivers middle after) : Delivers world after :=
  ⟨first.moves.trans second.moves, second.states.trans first.states,
    second.broadcasts.trans first.broadcasts⟩

theorem Delivers.sendUpstream (messages : List ClientMessage) (world : World) :
    Delivers world (world.sendUpstream socket messages) := by
  refine ⟨.sendUpstream messages world, ?_, ?_⟩
  · unfold World.sendUpstream
    dsimp only
    split <;> rfl
  · unfold World.sendUpstream
    dsimp only
    split <;> rfl

theorem delivers_sendPresences (client : ClientId) (statuses : List UserStatus) (tabbed : Tabbed) :
    Delivers tabbed.world (statuses.foldl (Tabbed.sendPresence client) tabbed).world := by
  induction statuses generalizing tabbed with
  | nil => exact .refl _
  | cons status statuses ih =>
    have first : Delivers tabbed.world (tabbed.sendPresence client status).world := by
      unfold Tabbed.sendPresence
      split
      · exact .sendUpstream _ _
      · exact .refl _
    exact first.trans (ih _)

theorem delivers_react (household : Household) (client : ClientId) (event : TabEvent)
    (tabbed : Tabbed) : Delivers tabbed.world (tabbed.react household client event).world := by
  let reaction := (tabbed.tabs client).react (household.chosen client) client tabbed.world.clock event
  exact delivers_sendPresences client reaction.sends
    ({ tabbed with tabs := Function.update tabbed.tabs client reaction.tab }.post household client
      reaction.posts)

theorem delivers_happen (household : Household) (client : ClientId) (event : TabEvent)
    (tabbed : Tabbed) : Delivers tabbed.world (tabbed.happen household client event).world := by
  unfold Tabbed.happen
  split
  · split
    · exact .refl _
    · split
      · rename_i message _ _ later _ _
        exact delivers_react household client (.message message)
          { tabbed with mail := Function.update tabbed.mail client later }
      · exact .refl _
  · exact delivers_react household client event tabbed

theorem delivers_flush (client : ClientId) (tabbed : Tabbed) :
    Delivers tabbed.world (tabbed.flush client).world := by
  unfold Tabbed.flush
  split
  · exact .refl _
  · exact ⟨.setSocket_same rfl rfl rfl rfl, rfl, rfl⟩

theorem delivers_domestic (household : Household) (turn : Option (ClientId × TabEvent))
    (request : Request) (tabbed : Tabbed) :
    Delivers tabbed.world (request.domestic household turn tabbed).world := by
  cases request with
  | act action =>
    cases action with
    | clientConnect client => exact delivers_flush client tabbed
    | wait ms =>
      cases turn with
      | none => exact .refl _
      | some turn => exact delivers_happen household turn.1 turn.2 tabbed
    | _ => exact .refl _
  | _ => exact .refl _

/-! ## Runs -/

/-- What holds of a user who hides, in every run. -/
structure Covered (deployment : Deployment) (household : Household) (userId : JsString)
    (tabbed : Tabbed) (history : History) : Prop where
  sound : Sound deployment tabbed.world history
  unseen : Unseen household tabbed history
  rejoined : ∀ ref channelId, Happened history ⟨.rejoin ref channelId, true⟩ →
    deployment.user ref.socket = some (tabbed.world.states ref).userId
  offline : ∀ broadcast ∈ tabbed.world.presences, ∀ status updatedAt,
    broadcast.notice = .presence userId status updatedAt → status = .offline

theorem Covered.domestic (covered : Covered deployment household userId tabbed history)
    (turn : Option (ClientId × TabEvent)) (request : Request) :
    Covered deployment household userId (request.domestic household turn tabbed) history where
  sound := covered.sound.moves (delivers_domestic household turn request tabbed).moves
  unseen := covered.unseen.domestic turn request
  rejoined ref channelId happened := by
    rw [(delivers_domestic household turn request tabbed).states]
    exact covered.rejoined ref channelId happened
  offline broadcast member := by
    unfold World.presences at member
    rw [(delivers_domestic household turn request tabbed).broadcasts] at member
    exact covered.offline broadcast member

/-- A presence is announced for a state whose status was supplied, after nothing that
changes it. -/
theorem announces_cases (announces : request.announces world = some broadcast) :
    (∃ ref, request = .announceOffline ref) ∨
      ∃ ref channels middle, request.announcer world = some ref ∧ Quiet world middle ∧
        middle.presenceOf ref channels = some broadcast := by
  cases request with
  | enroll socket owner validChannels denied =>
    exact .inr ⟨_, _, _, rfl, .establish owner world, announces⟩
  | announce ref => exact .inr ⟨ref, _, world, rfl, .refl world, announces⟩
  | complete ref rejoined channels gapTooLarge =>
    exact .inr ⟨ref, _, world, rfl, .refl world, announces⟩
  | announceOffline ref => exact .inl ⟨ref, rfl⟩
  | _ => cases announces

theorem presenceOf_eq_some {channels : List JsString}
    (presence : world.presenceOf ref channels = some broadcast) :
    (world.states ref).statusKnown = true ∧ channels ≠ [] ∧
      broadcast.notice = .presence (world.states ref).userId
        (if (world.states ref).status = .invisible then .offline else (world.states ref).status)
        world.clock := by
  unfold World.presenceOf at presence
  dsimp only at presence
  split at presence
  · cases presence
  · rename_i shown
    cases presence
    rw [Bool.or_eq_true, not_or, Bool.not_eq_true, Bool.not_eq_false'] at shown
    exact ⟨shown.1, fun none => shown.2 (List.isEmpty_iff.mpr none), rfl⟩

section

variable (covered : Covered deployment household userId tabbed history)

include covered

/-- A presence names the user of its socket. -/
theorem Covered.names
    (justified : Discipline deployment call (Pool.exchanges history index) request)
    (announces : request.announces tabbed.world = some broadcast)
    (announcer : request.announcer tabbed.world = some ref) {owner : JsString} {updatedAt : Nat}
    (notice : broadcast.notice = .presence owner status updatedAt) :
    deployment.user ref.socket = some owner := by
  cases request with
  | enroll socket named validChannels denied =>
    cases announcer
    have told := (presenceOf_eq_some announces).2.2.symm.trans notice
    rw [userId_establish] at told
    cases told
    exact covered.sound.signed justified.1.2.1
  | announce other =>
    cases announcer
    obtain ⟨-, somewhere, told⟩ := presenceOf_eq_some announces
    cases told.symm.trans notice
    obtain ⟨channelId, member⟩ := List.exists_mem_of_ne_nil _ somewhere
    exact covered.sound.held ref channelId member
  | complete other rejoined channels gapTooLarge =>
    cases announcer
    obtain ⟨-, somewhere, told⟩ := presenceOf_eq_some announces
    cases told.symm.trans notice
    obtain ⟨channelId, member⟩ := List.exists_mem_of_ne_nil _ somewhere
    exact covered.rejoined ref channelId ⟨index, justified channelId member⟩
  | _ => cases announcer

section

variable (hides : ∀ socket, deployment.user socket = some userId → household.Hides socket)

include hides

/-- What a request announces of a user who hides is `offline`. -/
theorem Covered.announced
    (justified : Discipline deployment call (Pool.exchanges history index) request)
    (corrected : ∀ ref, request.announcer tabbed.world = some ref →
      (request.announces tabbed.world).isSome → deployment.user ref.socket = some userId →
        supplier history ref = some .presence)
    (announces : request.announces tabbed.world = some broadcast) {updatedAt : Nat}
    (notice : broadcast.notice = .presence userId status updatedAt) : status = .offline := by
  rcases announces_cases announces with ⟨ref, rfl⟩ | ⟨ref, channels, middle, announcer, quiet, presence⟩
  · dsimp only [Request.announces, World.offlineOf] at announces
    split at announces
    · cases announces
    · cases announces
      cases notice
      rfl
  · have named : deployment.user ref.socket = some userId :=
      covered.names justified announces announcer notice
    have last : supplier history ref = some .presence :=
      corrected ref announcer (Option.isSome_of_eq_some announces) named
    obtain ⟨known, -, told⟩ := presenceOf_eq_some presence
    obtain ⟨earlier, same⟩ := quiet.known ref known
    have chosen : (middle.states ref).status = .invisible :=
      same.trans (covered.unseen.supplied ref (hides _ named) last earlier)
    rw [chosen] at told
    cases told.symm.trans notice
    rfl

theorem Covered.answered
    {index : Nat}
    {call : Call} {answer : request.Answer} {seen : Exchanges} (supplying : Supplying seen request)
    (known : ∀ exchange ∈ seen, exchange ∈ Pool.exchanges history index)
    (justified : Discipline deployment call (Pool.exchanges history index) request)
    (corrected : ∀ ref, request.announcer tabbed.world = some ref →
      (request.announces tabbed.world).isSome → deployment.user ref.socket = some userId →
      supplier history ref = some .presence)
    (admitted : household.admits tabbed.world request = true)
    (answered : handle deployment request tabbed.world = some (answer, after)) :
    Covered deployment household userId { tabbed with world := after }
      (⟨index, call, request, answer⟩ :: history) where
  sound := covered.sound.step justified answered
  unseen := covered.unseen.answered supplying known admitted answered
  rejoined ref channelId happened := by
    rcases happened_cases happened with new | earlier
    · cases new
      exact covered.sound.adds justified answered ⟨rfl, rfl⟩
    · exact covered.sound.users justified answered (covered.rejoined ref channelId earlier)
  offline broadcast member := by
    rw [(announces_of_handle answered).presences] at member
    rcases List.mem_append.mp member with new | old
    · exact fun status updatedAt notice =>
        covered.announced hides justified corrected (Option.mem_toList.mp new) notice
    · exact covered.offline broadcast old

end

end

theorem covered_initial (initial : InitialTabs household tabbed) :
    Covered deployment household userId tabbed [] := by
  rcases tabbed with ⟨world, tabs, mail, buffered⟩
  obtain ⟨start, loaded, rfl, rfl⟩ := initial
  have sound : Sound deployment world [] := sound_initial start
  obtain ⟨outcomes, rfl⟩ := start
  have nothing : ∀ exchange, ¬ Happened [] exchange := by
    rintro exchange ⟨index, known⟩
    cases known
  refine ⟨sound, ⟨fun client chosen => ?_, ?_, ?_, ?_, ?_, ?_, ?_⟩, ?_, ?_⟩
  · obtain ⟨now, same⟩ := loaded client
    rw [same, chosen]
    exact Tab.hidden_load now
  · exact fun _ _ _ impossible => nomatch impossible
  · exact fun _ impossible => nomatch impossible
  · exact fun _ _ impossible => nomatch impossible
  · exact fun _ _ _ impossible => nomatch impossible
  · exact fun _ _ _ happened => (nothing _ happened).elim
  · exact fun _ _ impossible => nomatch impossible
  · exact fun _ _ happened => (nothing _ happened).elim
  · exact fun _ impossible => nomatch impossible

end

end

/-- In every run in which a user has chosen to be invisible and each presence of a socket of
theirs is only announced when a `gateway:presence` of the socket was handled after its last
`gateway:init`, no presence that is broadcast of the user is other than `offline`. -/
theorem invisible_unannounced {deployment : Deployment} {household : Household}
    {turns : Nat → Option (ClientId × TabEvent)} {userId : JsString} {pool : TabPool}
    (hides : ∀ socket, deployment.user socket = some userId → household.Hides socket)
    (reached : (tabSystem deployment household turns).Reachable (Corrected deployment userId) pool)
    {broadcast : Broadcast} (broadcasted : broadcast ∈ pool.shared.world.broadcasts)
    {status : UserStatus} {updatedAt : Nat}
    (notice : broadcast.notice = .presence userId status updatedAt) : status = .offline := by
  have covered : Covered deployment household userId pool.shared pool.history := by
    refine reached.invariant
      (P := fun pool => Covered deployment household userId pool.shared pool.history) ?_ ?_
    · rintro _ ⟨shared, initial, rfl⟩
      exact covered_initial initial
    · intro before label later reached covered corrected moved
      obtain ⟨call, -, rfl⟩ | ⟨index, call, request, next, answer, shared, rfl, pending, answered,
        rfl⟩ := Pool.step_cases moved
      · exact covered
      · have justified : Discipline deployment call (Pool.exchanges before.history index) request :=
          Pool.justified_of_pending reached pending (disciplined deployment call)
        have obeys := Pool.obeys_of_reachable reached pending (supplied_program call)
        dsimp only [handleTabs] at answered
        split at answered
        · rename_i admitted
          obtain ⟨⟨_, after⟩, handled, same⟩ := Option.map_eq_some_iff.mp answered
          cases same
          refine Covered.domestic ?_ _ _
          exact covered.answered hides obeys.1
            (fun exchange member => (Monitor.mem_remember_recorder.mp member).1) justified
            (corrected call request next pending) admitted handled
        · cases answered
  have presence : broadcast ∈ pool.shared.world.presences :=
    List.mem_filter.mpr ⟨broadcasted, by rw [notice]; rfl⟩
  exact covered.offline broadcast presence status updatedAt notice

/-! ## Samples -/

/-- Check that the presences of the user are announced after a `gateway:presence`. -/
def corrected (deployment : Deployment) (userId : JsString) (pool : TabPool) : Turn Call → Bool
  | .start _ => true
  | .advance index =>
      match pool.threads[index]? with
      | some ⟨_, .await request _⟩ =>
          (request.announcer pool.shared.world).all fun ref =>
            (request.announces pool.shared.world).isNone || deployment.user ref.socket ≠ some userId ||
              supplier pool.history ref = some .presence
      | _ => true

theorem corrected_sound {deployment : Deployment} {userId : JsString} {pool : TabPool}
    {turn : Turn Call} (checked : corrected deployment userId pool turn = true) :
    Corrected deployment userId pool turn := by
  cases turn with
  | start call => trivial
  | advance index =>
    intro call request next pending ref announcer announces named
    unfold corrected at checked
    dsimp only at checked
    rw [pending] at checked
    dsimp only at checked
    rw [announcer, Option.all_some, Option.isNone_eq_false_iff.mpr announces] at checked
    simpa [named] using checked

namespace Sample

/-- All sockets are opened by one tab, whose user has chosen to be invisible. -/
def household : Household := ⟨fun _ => 0, fun _ => .invisible, fun _ => some 0⟩

def tabs : Tabbed := ⟨World.blank, fun _ => Tab.load .invisible 0, fun _ => [], fun _ => none⟩

theorem initial_tabs :
    InitialTabs household tabs := ⟨⟨fun _ => [], rfl⟩, fun _ => ⟨0, rfl⟩, rfl, rfl⟩

/-- The effect of the hook runs in the tab while time goes by. -/
def effects (_ : Nat) : Option (ClientId × TabEvent) := some (0, .effect)

def tabRun (check : TabPool → Turn Call → Bool) (turns : List (Turn Call)) : Option TabPool :=
  Pool.replay (program deployment) (fun index _ => handleTabs deployment household (effects index))
    check tabs turns

/-- The tab connects, has its presence handled, and is in its user's own channel then. -/
def concealed : List (Turn Call) :=
  [.start (.act (.clientConnect 0)), .advance 0, .start (.serve 0)] ++ advances 1 9 ++
  [.start (.act (.wait 0)), .advance 2, .start (.serve 0)] ++ advances 3 8 ++
  [.start (.act (.clientSubscribe 0 [js "user:alice"])), .advance 4, .start (.serve 0)] ++ advances 5 8

/-- The tab is in its user's own channel when it connects. -/
def exposed : List (Turn Call) :=
  [.start (.act (.clientSubscribe 0 [js "user:alice"])), .advance 0,
    .start (.act (.clientConnect 0)), .advance 1, .start (.serve 0)] ++ advances 2 9 ++
  [.start (.serve 0)] ++ advances 3 8

theorem concealed_completed : (tabRun (corrected deployment (js "alice")) concealed).isSome := by
  decide

theorem exposed_completed : (tabRun (fun _ _ => true) exposed).isSome := by decide

theorem exposed_reachable : (tabSystem deployment household effects).Reachable System.unguarded
    ((tabRun (fun _ _ => true) exposed).get exposed_completed) :=
  Pool.reachable_of_replay (fun _ _ _ => trivial) initial_tabs exposed_completed

/-- The presences that were broadcast of a user. -/
def told (pool : TabPool) (userId : JsString) : List UserStatus :=
  pool.shared.world.broadcasts.filterMap fun broadcast =>
    match broadcast.notice with
    | .presence about status _ => if about = userId then some status else none
    | _ => none

theorem mem_told {pool : TabPool} {userId : JsString} (told : status ∈ told pool userId) :
    ∃ broadcast ∈ pool.shared.world.broadcasts, ∃ updatedAt,
      broadcast.notice = .presence userId status updatedAt := by
  obtain ⟨broadcast, member, shown⟩ := List.mem_filterMap.mp told
  refine ⟨broadcast, member, ?_⟩
  cases notice : broadcast.notice with
  | presence about status updatedAt =>
    rw [notice] at shown
    obtain ⟨rfl, same⟩ := Option.ite_none_right_eq_some.mp shown
    cases same
    exact ⟨updatedAt, rfl⟩
  | _ =>
    rw [notice] at shown
    cases shown

end Sample

/-- Something was told of the user, and only `offline`. -/
theorem concealed_unannounced :
    Sample.told ((Sample.tabRun (corrected Sample.deployment (js "alice")) Sample.concealed).get
        Sample.concealed_completed) (js "alice") ≠ [] ∧
      ∀ broadcast ∈ ((Sample.tabRun (corrected Sample.deployment (js "alice")) Sample.concealed).get
          Sample.concealed_completed).shared.world.broadcasts, ∀ status updatedAt,
        broadcast.notice = .presence (js "alice") status updatedAt → status = .offline :=
  ⟨by decide, fun _ member _ _ notice => invisible_unannounced
    (fun socket _ => (⟨0, rfl, rfl⟩ : Sample.household.Hides socket))
    (Pool.reachable_of_replay (fun _ _ => corrected_sound) Sample.initial_tabs
      Sample.concealed_completed) member notice⟩

/-- The `gateway:init` of a user who has chosen to be invisible announces them as online. -/
theorem invisible_online :
    ¬ ∀ (deployment : Deployment) (household : Household) (turns : Nat → Option (ClientId × TabEvent))
      (userId : JsString) (pool : TabPool),
      (∀ socket, deployment.user socket = some userId → household.Hides socket) →
      (tabSystem deployment household turns).Reachable System.unguarded pool →
      ∀ broadcast ∈ pool.shared.world.broadcasts, ∀ status updatedAt,
        broadcast.notice = .presence userId status updatedAt → status = .offline := by
  intro always
  have online : .online ∈ Sample.told ((Sample.tabRun (fun _ _ => true) Sample.exposed).get
      Sample.exposed_completed) (js "alice") := by decide
  obtain ⟨broadcast, member, updatedAt, notice⟩ := Sample.mem_told online
  cases always _ Sample.household _ _ _ (fun socket _ => ⟨0, rfl, rfl⟩) Sample.exposed_reachable
    broadcast member _ _ notice

end Vortex.Gateway
