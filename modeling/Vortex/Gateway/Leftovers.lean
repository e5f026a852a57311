import Vortex.Gateway.Ghosts

/-!
# What a closed socket leaves behind

Besides the books of the sockets there is the presence record of each user in Redis, which
`gateway:init` sets, `gateway:presence` changes where it finds one, and the last
`disconnect` handler deletes. In the runs in which handlers only write for sockets that are
still connected, and for users who are still there, nothing is left of a closed socket
(`nothing_left`).
-/

namespace Vortex.Gateway

open Foundation

def PRESENCE_TTL_SECONDS : Nat := 30

/-- The presence record of a user; a record that only an update has written names no
socket. -/
structure PresenceRecord where
  status : UserStatus
  socketId : Option SocketId
  expiresAt : Nat

/-- A world with the presence records of Redis, and what each process has found there to
update. -/
structure Roster where
  world : World
  presence : JsString → Option PresenceRecord
  found : Nat → Option (JsString × UserStatus)

namespace Roster

/-- The record of a user, unless it has expired. -/
def presenceOf (userId : JsString) (roster : Roster) : Option PresenceRecord :=
  (roster.presence userId).filter fun record => roster.world.clock < record.expiresAt

def setPresence (userId : JsString) (record : Option PresenceRecord) (roster : Roster) : Roster :=
  { roster with presence := Function.update roster.presence userId record }

/-- `PresenceManager.setOnline` -/
def setOnline (userId : JsString) (socket : SocketId) (status : UserStatus) (roster : Roster) :
    Roster :=
  roster.setPresence userId
    (some ⟨status, some socket, roster.world.clock + PRESENCE_TTL_SECONDS * 1000⟩)

/-- `PresenceManager.updateStatus` looks whether there is a record. -/
def findRecord (index : Nat) (userId : JsString) (status : UserStatus) (roster : Roster) : Roster :=
  { roster with
    found := Function.update roster.found index
      (if (roster.presenceOf userId).isSome then some (userId, status) else none) }

/-- `PresenceManager.updateStatus` goes on where it has found a record. -/
def updateStatus (index : Nat) (roster : Roster) : Roster :=
  match roster.found index with
  | none => roster
  | some (userId, status) =>
      { roster.setPresence userId (some ⟨status,
          (roster.presenceOf userId).bind PresenceRecord.socketId,
          roster.world.clock + PRESENCE_TTL_SECONDS * 1000⟩) with
        found := Function.update roster.found index none }

/-- `PresenceManager.setOffline` -/
def setOffline (userId : JsString) (roster : Roster) : Roster := roster.setPresence userId none

end Roster

/-- What the stretch of a handler that makes a request does to the presence records: the
commands are carried out in the order in which they are issued. -/
def Request.attends (index : Nat) (roster : Roster) : Request → Roster
  | .init socket userId status => roster.setOnline userId socket status
  | .setStatus socket status =>
      match (roster.world.sockets socket).state with
      | none => roster
      | some serial => roster.findRecord index (roster.world.states ⟨socket, serial⟩).userId status
  | .writePresence => roster.updateStatus index
  | .announceOffline ref => roster.setOffline (roster.world.states ref).userId
  | _ => roster

def handleRoster (deployment : Deployment) (index : Nat) : Handler gateway Roster
  | request, roster =>
      (handle deployment request roster.world).map fun (answer, after) =>
        (answer, { request.attends index roster with world := after })

def InitialRoster (roster : Roster) : Prop :=
  Initial roster.world ∧ roster.presence = (fun _ => none) ∧ roster.found = fun _ => none

abbrev RosterPool : Type := Pool gateway Unit Bool Call Roster

/-- The gateway with its presence records. -/
def rosterSystem (deployment : Deployment) : System RosterPool (Turn Call) :=
  Pool.system InitialRoster (program deployment) fun index _ => handleRoster deployment index

/-- Whether a request makes an entry of a socket: one of the session cache, or a state. -/
def Request.enters (socket : SocketId) : Request → Prop
  | .setSession entered _ => entered = socket
  | .enroll entered _ _ _ => entered = socket
  | .init entered _ _ => entered = socket
  | .establish entered _ => entered = socket
  | _ => False

/-- Entries are only made of sockets that are still connected, and a record that was found
is only written for a user who is still there. -/
def WhileConnected (deployment : Deployment) (pool : RosterPool) : Turn Call → Prop
  | .start _ => True
  | .advance index => ∀ call request next,
      pool.threads[index]? = some ⟨call, .await request next⟩ →
      (∀ socket, request.enters socket → (pool.shared.world.sockets socket).connected = true) ∧
      ∀ userId status, request = .writePresence → pool.shared.found index = some (userId, status) →
        There deployment (pool.view Roster.world) userId

/-- The handlers of the events of a socket, and the validations of its session, have
finished. -/
def Finished (pool : RosterPool) (socket : SocketId) : Prop :=
  ∀ (index : Nat) (thread : Thread gateway Unit Bool Call), pool.threads[index]? = some thread →
    thread.call = .serve socket ∨ thread.call = .validate socket → ¬ thread.InFlight

/-- When its handlers have finished, a closed socket has no state and no session, and no
presence of its user is left once nobody of the user is there. -/
def NothingLeft (deployment : Deployment) (pool : RosterPool) : Prop :=
  ∀ socket, (pool.shared.world.sockets socket).connected = false → Finished pool socket →
    (pool.shared.world.sockets socket).state = none ∧
    (pool.shared.world.sockets socket).session = none ∧
    ∀ userId, deployment.user socket = some userId →
      ¬ There deployment (pool.view Roster.world) userId → pool.shared.presenceOf userId = none

section

variable {deployment : Deployment} {guard : RosterPool → Turn Call → Prop} {pool : RosterPool}
  {socket : SocketId} {request : Request}

/-! ## Entries -/

/-- Nothing is kept of a socket that is not connected. -/
def Registry.Swept (registry : Registry) : Prop :=
  ∀ socket, (registry.entries socket).connected = false →
    (registry.entries socket).state = none ∧ (registry.entries socket).cached = false

namespace Registry

variable {registry last : Registry}

section

variable (swept : registry.Swept)

include swept

theorem Swept.set {entry : Entry}
    (entries : last.entries = Function.update registry.entries socket entry)
    (kept : entry.connected = false → entry.state = none ∧ entry.cached = false) : last.Swept := by
  intro other gone
  rw [entries] at gone ⊢
  by_cases same : other = socket
  · subst same
    rw [Function.update_self] at gone ⊢
    exact kept gone
  · rw [Function.update_of_ne same] at gone ⊢
    exact swept other gone

theorem Swept.connect (client : Option ClientId)
    (greeting : List ClientMessage) : (registry.connect client greeting).Swept :=
  swept.set rfl nofun

theorem Swept.send (socket : SocketId) (messages : List ClientMessage) :
    (registry.send socket messages).Swept := by
  unfold Registry.send
  dsimp only
  split
  · exact swept.set rfl (swept socket)
  · exact swept

theorem Swept.drop (socket : SocketId) : (registry.cache socket false).Swept :=
  swept.set rfl fun gone => ⟨(swept socket gone).1, rfl⟩

theorem Swept.close (socket : SocketId) : (registry.close socket).Swept := by
  unfold Registry.close
  dsimp only
  split
  · exact swept.set rfl fun _ => ⟨rfl, rfl⟩
  · exact swept

/-- An entry of a connected socket leaves nothing behind. -/
theorem Swept.establish
    (connected : (registry.entries socket).connected = true) (userId : JsString) :
    (registry.establish socket userId).Swept :=
  swept.set rfl fun gone => Bool.noConfusion (connected.symm.trans gone)

end

end Registry

theorem Registry.Swept.registered {registry : Registry} (swept : registry.Swept) (world : World)
    (connected : ∀ socket, request.enters socket → (registry.entries socket).connected = true) :
    (request.registered world registry).Swept := by
  cases request with
  | receive socket => exact swept.set rfl (swept socket)
  | setSession socket claims =>
    exact swept.set rfl fun gone => Bool.noConfusion ((connected socket rfl).symm.trans gone)
  | deleteSession socket => exact swept.drop socket
  | disconnect socket => exact swept.close socket
  | disconnectAll userId sockets =>
    exact Registry.closeAll_induction (fun _ _ earlier => (earlier.drop _).close _) sockets swept
  | enroll socket userId validChannels denied => exact swept.establish (connected socket rfl) userId
  | init socket userId status => exact swept.establish (connected socket rfl) userId
  | establish socket userId => exact swept.establish (connected socket rfl) userId
  | act action =>
    cases action with
    | connect => exact swept.connect _ _
    | clientConnect client => exact swept.connect _ _
    | close socket => exact swept.close socket
    | send socket message => exact swept.send socket _
    | clientSubscribe client channelIds =>
      exact Registry.clientSubscribe_induction swept fun _ _ => swept.send _ _
    | _ => exact swept
  | _ => exact swept

/-! ## Presences -/

theorem answers_of_roster {index : Nat} {answer : request.Answer} {roster later : Roster}
    (answered : handleRoster deployment index request roster = some (answer, later)) :
    handle deployment request roster.world = some (answer, later.world) ∧
      later.presence = (request.attends index roster).presence := by
  obtain ⟨⟨_, after⟩, replied, same⟩ := Option.map_eq_some_iff.mp answered
  cases same
  exact ⟨replied, rfl⟩

/-- A run with presence records is one of the gateway. -/
theorem gateway_of_roster (reached : (rosterSystem deployment).Reachable guard pool) :
    (gatewaySystem deployment).Reachable System.unguarded (pool.view Roster.world) :=
  Pool.reachable_view (fun _ initial => initial.1)
    (fun _ _ _ _ _ _ answered => (answers_of_roster answered).1) (fun _ _ _ => trivial) reached

/-- Where a presence record comes from: an initialisation or an update has written it, or
it was there and was not deleted. -/
theorem presence_cases {index : Nat} {roster : Roster} {userId : JsString}
    (present : (request.attends index roster).presence userId ≠ none) :
    (∃ socket status, request = .init socket userId status) ∨
      (request = .writePresence ∧ ∃ status, roster.found index = some (userId, status)) ∨
      (roster.presence userId ≠ none ∧ ∀ ref, request = .announceOffline ref →
        (roster.world.states ref).userId ≠ userId) := by
  cases request with
  | init socket owner status =>
    by_cases same : owner = userId
    · exact .inl ⟨socket, status, by rw [same]⟩
    · refine .inr (.inr ⟨fun absent => present ?_, nofun⟩)
      exact (Function.update_of_ne (Ne.symm same) ..).trans absent
  | setStatus socket status =>
    refine .inr (.inr ⟨fun absent => present ?_, nofun⟩)
    dsimp only [Request.attends]
    split
    · exact absent
    · exact absent
  | writePresence =>
    dsimp only [Request.attends, Roster.updateStatus] at present
    split at present
    · exact .inr (.inr ⟨present, nofun⟩)
    · rename_i owner status recorded
      by_cases same : owner = userId
      · subst same
        exact .inr (.inl ⟨rfl, status, recorded⟩)
      · refine .inr (.inr ⟨fun absent => present ?_, nofun⟩)
        exact (Function.update_of_ne (Ne.symm same) ..).trans absent
  | announceOffline ref =>
    by_cases same : (roster.world.states ref).userId = userId
    · subst same
      exact (present (Function.update_self ..)).elim
    · refine .inr (.inr ⟨fun absent => present ?_, ?_⟩)
      · exact (Function.update_of_ne (Ne.symm same) ..).trans absent
      · rintro _ ⟨⟩
        exact same
  | _ => exact .inr (.inr ⟨present, nofun⟩)

/-- The user of a connected socket that was initialised is there. -/
theorem attached_of_init {world after : World} {userId : JsString} {status : UserStatus}
    {answer : Request.Answer (.init socket userId status)}
    (connected : (world.sockets socket).connected = true)
    (answered : handle deployment (.init socket userId status) world = some (answer, after)) :
    Attached deployment after userId := by
  have books := registry_of_handle answered
  have entry : after.registry.entries socket =
      { world.registry.entries socket with
        state := some (world.registry.stateRef socket).serial, owner := some userId } := by
    rw [books]
    exact Registry.entries_set_self _
  have owned : (after.registry.entries socket).owner = some userId := by rw [entry]
  have stays : (after.registry.entries socket).connected = true := by rw [entry]; exact connected
  exact .inl ⟨socket, stays, owned⟩

/-- A state whose owner is announced offline for the last time is under the user of its
socket. -/
theorem user_of_announceOffline {gatewayPool : GatewayPool} {guard : GatewayPool → Turn Call → Prop}
    (reached : (gatewaySystem deployment).Reachable guard gatewayPool) {index : Nat} {call : Call}
    {ref : StateRef} {next : Unit → Proc gateway Unit Bool}
    (pending : gatewayPool.threads[index]? = some ⟨call, .await (.announceOffline ref) next⟩) :
    deployment.user ref.socket = some (gatewayPool.shared.states ref).userId := by
  obtain ⟨-, owner, found, seen⟩ :=
    Pool.justified_of_pending reached pending (departs_program deployment call)
  refine ((lodged_of_reachable reached).2.taken ref owner ⟨index, ?_⟩).2
  rw [seen]
  exact List.mem_cons_self

theorem there_of_present
    (reached : (rosterSystem deployment).Reachable (WhileConnected deployment) pool) :
    pool.shared.world.registry.Swept ∧ ∀ userId, pool.shared.presence userId ≠ none →
      There deployment (pool.view Roster.world) userId := by
  refine reached.invariant (P := fun pool => pool.shared.world.registry.Swept ∧
    ∀ userId, pool.shared.presence userId ≠ none →
      There deployment (pool.view Roster.world) userId) ?_ ?_
  · rintro _ ⟨⟨_, presence, found⟩, ⟨⟨outcomes, rfl⟩, rfl, rfl⟩, rfl⟩
    exact ⟨fun _ _ => ⟨rfl, rfl⟩, fun userId present => (present rfl).elim⟩
  intro before label later reached kept admitted moved
  obtain ⟨swept, kept⟩ := kept
  have reachedBefore := gateway_of_roster reached
  have movedView : (gatewaySystem deployment).step (before.view Roster.world) label
      (later.view Roster.world) :=
    Pool.step_view (fun _ _ _ _ _ _ answered => (answers_of_roster answered).1) moved
  have stays : ∀ userId, There deployment (before.view Roster.world) userId → _ :=
    fun userId => there_of_step reachedBefore trivial movedView
  obtain ⟨call, rfl, rfl⟩ | ⟨index, call, request, next, answer, roster, rfl, pending, answered,
    rfl⟩ := Pool.step_cases moved
  · refine ⟨swept, fun userId present => (stays userId (kept userId present)).resolve_right ?_⟩
    rintro ⟨_, _, _, _, impossible, -⟩
    cases impossible
  obtain ⟨connected, found⟩ := admitted call request next pending
  obtain ⟨replied, presence⟩ := answers_of_roster answered
  have pendingView : (before.view Roster.world).threads[index]? =
      some ⟨call, .await request next⟩ := pending
  constructor
  · have books := registry_of_handle replied
    change roster.world.registry.Swept
    rw [books]
    exact swept.registered _ connected
  intro userId present
  change roster.presence userId ≠ none at present
  rw [presence] at present
  rcases presence_cases present with ⟨socket, status, rfl⟩ | ⟨rfl, status, recorded⟩ | ⟨earlier, other⟩
  · exact .inl (attached_of_init (connected socket rfl) replied)
  · refine (stays userId (found userId status rfl recorded)).resolve_right ?_
    rintro ⟨_, _, ref, _, same, waiting, -⟩
    cases same
    cases pendingView.symm.trans waiting
  · refine (stays userId (kept userId earlier)).resolve_right ?_
    rintro ⟨_, _, ref, _, same, waiting, user⟩
    cases same
    cases pendingView.symm.trans waiting
    have owned := user_of_announceOffline reachedBefore pendingView
    exact other ref rfl (Option.some.inj (owned.symm.trans user))

end

/-- In every run in which entries are only made of connected sockets and records only
updated for users who are there, a closed socket leaves no state, no session and, once
nobody of its user is there, no presence. -/
theorem nothing_left {deployment : Deployment} {pool : RosterPool}
    (reached : (rosterSystem deployment).Reachable (WhileConnected deployment) pool) :
    NothingLeft deployment pool := by
  obtain ⟨swept, present⟩ := there_of_present reached
  intro socket gone _
  obtain ⟨stateless, uncached⟩ := swept socket gone
  refine ⟨stateless, Option.isSome_eq_false_iff.mp uncached |> Option.isNone_iff_eq_none.mp, ?_⟩
  intro userId _ left
  have absent : pool.shared.presence userId = none := by
    by_contra there
    exact left (present userId there)
  unfold Roster.presenceOf
  rw [absent]
  rfl

/-! ## Samples -/

/-- The socket a request makes an entry of. -/
def Request.entered? : Request → Option SocketId
  | .setSession socket _ => some socket
  | .enroll socket _ _ _ => some socket
  | .init socket _ _ => some socket
  | .establish socket _ => some socket
  | _ => none

/-- Check that entries are made of connected sockets, and that records are only updated
for users with a connected socket. -/
def whileConnected (pool : RosterPool) : Turn Call → Bool
  | .start _ => true
  | .advance index =>
      match pool.threads[index]? with
      | some ⟨_, .await request _⟩ =>
          ((Request.entered? request).all fun socket => (pool.shared.world.sockets socket).connected) &&
          (pool.shared.found index).all fun found =>
            (pool.shared.world.connectedIn none).any fun socket => socket.2 = some found.1
      | _ => true

theorem whileConnected_sound {deployment : Deployment} {pool : RosterPool} {turn : Turn Call}
    (checked : whileConnected pool turn = true) : WhileConnected deployment pool turn := by
  cases turn with
  | start call => trivial
  | advance index =>
    intro call request next pending
    unfold whileConnected at checked
    dsimp only at checked
    rw [pending] at checked
    obtain ⟨connected, found⟩ := Bool.and_eq_true_iff.mp checked
    refine ⟨fun socket enters => ?_, fun userId status _ recorded => ?_⟩
    · have entered : Request.entered? request = some socket := by
        cases request <;> first | cases enters; rfl | cases enters
      rw [entered] at connected
      exact connected
    · rw [recorded] at found
      obtain ⟨⟨socket, owner⟩, listed, same⟩ := List.any_eq_true.mp found
      cases of_decide_eq_true same
      exact .inl (.inl ⟨socket, connected_of_connectedIn listed⟩)

namespace Sample

def roster : Roster := ⟨World.blank, fun _ => none, fun _ => none⟩

def rosterRun (check : RosterPool → Turn Call → Bool) (turns : List (Turn Call)) :
    Option RosterPool :=
  Pool.replay (program deployment) (fun index _ => handleRoster deployment index) check roster turns

/-- A socket is online and idle, and is closed. -/
def idling : List (Turn Call) :=
  arriving ++
  [.start (.act (.send 0 ⟨.presence, some (.obj [(js "status", .str (js "idle"))])⟩)), .advance 5,
    .start (.serve 0)] ++ advances 6 8 ++
  [.start (.act (.close 0)), .advance 7, .start .disconnected] ++ advances 8 3

/-- A socket is closed while its initialisation validates the session. -/
def lingering : List (Turn Call) :=
  [.start (.act .connect), .advance 0, .start (.act (greeting 0)), .advance 1, .start (.serve 0)] ++
    advances 2 4 ++
  [.start (.act (.close 0)), .advance 3] ++ advances 2 5

theorem idling_completed : (rosterRun whileConnected idling).isSome := by decide +kernel

theorem lingering_completed : (rosterRun (fun _ _ => true) lingering).isSome := by decide +kernel

theorem lingering_reachable : (rosterSystem deployment).Reachable System.unguarded
    ((rosterRun (fun _ _ => true) lingering).get lingering_completed) :=
  Pool.reachable_of_replay (fun _ _ _ => trivial) ⟨⟨fun _ => [], rfl⟩, rfl, rfl⟩ lingering_completed

end Sample

/-- Nothing is left of the socket, nor of its user. -/
theorem idling_leaves_nothing :
    NothingLeft Sample.deployment
      ((Sample.rosterRun whileConnected Sample.idling).get Sample.idling_completed) :=
  nothing_left (Pool.reachable_of_replay (fun _ _ => whileConnected_sound)
    ⟨⟨fun _ => [], rfl⟩, rfl, rfl⟩ Sample.idling_completed)

/-- The initialisation of a closed socket has left a session, a state and a presence. -/
theorem closed_socket_lingers :
    ¬ ∀ (deployment : Deployment) (pool : RosterPool),
      (rosterSystem deployment).Reachable System.unguarded pool → NothingLeft deployment pool := by
  intro always
  have finished : ((Sample.rosterRun (fun _ _ => true) Sample.lingering).get
      Sample.lingering_completed).threads.all (fun thread => thread.result?.isSome) = true := by
    decide +kernel
  have kept : (((Sample.rosterRun (fun _ _ => true) Sample.lingering).get
      Sample.lingering_completed).shared.world.sockets 0).state.isSome = true := by decide +kernel
  obtain ⟨stateless, -⟩ := always _ _ Sample.lingering_reachable 0 (by decide +kernel)
    fun index thread found _ flying => by
      have ended := List.all_eq_true.mp finished thread (List.mem_of_getElem? found)
      rw [thread.inFlight_iff_result?.mp flying] at ended
      cases ended
  rw [stateless] at kept
  cases kept

end Vortex.Gateway
