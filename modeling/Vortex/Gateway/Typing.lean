import Vortex.Foundation.Timers
import Vortex.Gateway.Validation

/-!
# Typing indicators and their timers

`activeTyping` of one replica with its timers told apart, under the handlers of the
gateway: an entry is written under `userId:channelId` with the timer that will stop it,
and a timer that goes off deletes whatever is under its key. What the world says of
typing is not read here.
-/

namespace Vortex.Gateway

open Foundation

/-- `${userId}:${channelId}` -/
def typingKey (userId channelId : JsString) : JsString := userId ++ 58 :: channelId

structure TypingEntry where
  userId : JsString
  channelId : JsString

/-- What the callback of a timer refers to: a channel, and the state of a socket, whose
user it reads when it runs. -/
structure TypingClosure where
  channelId : JsString
  state : StateRef

/-- `activeTyping` with its timers, and the `gateway:typing` notices, newest first. -/
structure Typing where
  table : TimerTable JsString TypingEntry TypingClosure
  notices : List Broadcast

namespace Typing

def announce (sender : Option SocketId) (channelId userId : JsString) (isTyping : Bool)
    (typing : Typing) : Typing :=
  { typing with
    notices := ⟨sender, [channelId], .typing channelId userId isTyping⟩ :: typing.notices }

/-- The rest of the `gateway:typing` handler of a subscribed socket. -/
def relay (socket : SocketId) (ref : StateRef) (userId channelId : JsString) (isTyping : Bool)
    (typing : Typing) : Typing :=
  let key := typingKey userId channelId
  { typing with
    table :=
      if isTyping then typing.table.arm key ⟨userId, channelId⟩ ⟨channelId, ref⟩
      else typing.table.clear key }.announce (some socket) channelId userId isTyping

/-- `gateway:typing`, after the session was validated. -/
def onTyping (world : World) (socket : SocketId) (channelId : JsString) (isTyping : Bool)
    (typing : Typing) : Typing :=
  match (world.sockets socket).state with
  | none => typing
  | some serial =>
      let state := world.states ⟨socket, serial⟩
      if state.subscribedChannels.contains channelId then
        typing.relay socket ⟨socket, serial⟩ state.userId channelId isTyping
      else typing

/-- The loop of the `disconnect` handler over the channels of its state. -/
def stopAll (state : GatewaySocketState) (typing : Typing) : Typing :=
  state.subscribedChannels.foldl (fun typing channelId =>
    let key := typingKey state.userId channelId
    if (typing.table.entries key).isSome then
      { typing with table := typing.table.clear key }.announce none channelId state.userId false
    else typing) typing

/-- The `disconnect` handler of a socket. -/
def onDisconnect (world : World) (socket : SocketId) (typing : Typing) : Typing :=
  if !(world.sockets socket).connected then typing
  else
    match (world.sockets socket).state with
    | none => typing
    | some serial => typing.stopAll (world.states ⟨socket, serial⟩)

/-- The callback of a timer. -/
def onTimeout (world : World) (timer : Nat) (key : JsString) (closure : TypingClosure)
    (typing : Typing) : Typing :=
  { typing with table := typing.table.expire timer key }.announce none closure.channelId
    (world.states closure.state).userId false

/-- Several sockets are disconnected one after the other. -/
def onSweep (userId : JsString) (sockets : List (SocketId × Option JsString)) (world : World)
    (typing : Typing) : Typing :=
  (sockets.foldl (fun (state : World × Typing) socket =>
    if socket.2 = some userId then
      let warned := (state.1.setSession socket.1 none).emit socket.1 (.error (js "Session revoked"))
      (warned.close socket.1, state.2.onDisconnect warned socket.1)
    else state) (world, typing)).2

end Typing

/-- What a request does to the typing entries of a replica. -/
def Request.typed (world : World) (typing : Typing) : Request → Typing
  | .typing socket channelId isTyping => typing.onTyping world socket channelId isTyping
  | .disconnect socket => typing.onDisconnect world socket
  | .disconnectAll userId sockets => typing.onSweep userId sockets world
  | .act (.close socket) => typing.onDisconnect world socket
  | _ => typing

/-- A world with the typing entries and timers of its replica. -/
structure Timed where
  world : World
  typing : Typing

/-- A timeout is the one of a live timer, chosen by the scheduler. -/
def handleTimed (deployment : Deployment) (expiring : Nat) : Handler gateway Timed
  | .act (.typingTimeout userId channelId), timed =>
      match timed.typing.table.timers expiring with
      | none => none
      | some (key, closure) =>
          if key = typingKey userId channelId then
            some ((), ⟨((Action.typingTimeout userId channelId).act timed.world).getD timed.world,
              timed.typing.onTimeout timed.world expiring key closure⟩)
          else none
  | request, timed =>
      (handle deployment request timed.world).map fun (answer, after) =>
        (answer, ⟨after, request.typed timed.world timed.typing⟩)

def InitialTimed (timed : Timed) : Prop :=
  Initial timed.world ∧ timed.typing = ⟨.empty, []⟩

/-- Every interleaving of the handlers with the timers, which go off in any order. -/
def timedSystem (deployment : Deployment) (expiring : Nat → Nat) :
    System (Pool gateway Unit Bool Call Timed) (Turn Call) :=
  Pool.system InitialTimed (program deployment) fun index _ => handleTimed deployment (expiring index)

/-- The last typing notice about a user in the room of a channel. -/
def lastTyping (notices : List Broadcast) (userId channelId : JsString) : Option Bool :=
  notices.findSome? fun broadcast =>
    match broadcast.notice with
    | .typing _ typist isTyping =>
        if typist = userId ∧ channelId ∈ broadcast.channels then some isTyping else none
    | _ => none

/-- The ids of users have no colon: they are UUIDs, or the letters and digits that the
authentication library draws. -/
def Deployment.PlainIds (deployment : Deployment) : Prop :=
  ∀ token userId, (deployment.payload token).sub = some userId → 58 ∉ userId

/-! ## Keys and notices -/

/-- The key of a user without a colon tells the user and the channel. -/
theorem typingKey_inj {userId userId' channelId channelId' : JsString} (plain : 58 ∉ userId)
    (plain' : 58 ∉ userId') (same : typingKey userId channelId = typingKey userId' channelId') :
    userId = userId' ∧ channelId = channelId' := by
  unfold typingKey at same
  induction userId generalizing userId' with
  | nil =>
    cases userId' with
    | nil => exact ⟨rfl, (List.cons.inj same).2⟩
    | cons unit rest =>
      have first := (List.cons.inj same).1
      rw [first] at plain'
      exact absurd List.mem_cons_self plain'
  | cons unit rest ih =>
    cases userId' with
    | nil =>
      have first := (List.cons.inj same).1
      rw [← first] at plain
      exact absurd List.mem_cons_self plain
    | cons unit' rest' =>
      obtain ⟨first, tail⟩ := List.cons.inj same
      obtain ⟨rest_eq, channel_eq⟩ := ih (fun member => plain (List.mem_cons_of_mem _ member))
        (fun member => plain' (List.mem_cons_of_mem _ member)) tail
      rw [first, rest_eq]
      exact ⟨rfl, channel_eq⟩

theorem lastTyping_announce (sender : Option SocketId) (channelId userId : JsString)
    (isTyping : Bool) (typing : Typing) (other room : JsString) :
    lastTyping (typing.announce sender channelId userId isTyping).notices other room =
      if userId = other ∧ room = channelId then some isTyping
      else lastTyping typing.notices other room := by
  unfold lastTyping Typing.announce
  rw [List.findSome?_cons]
  simp only [List.mem_singleton]
  split
  · split <;> simp_all
  · split <;> simp_all

/-! ## The invariant -/

section

variable {deployment : Deployment} {world after : World} {typing : Typing} {socket : SocketId}
  {userId channelId : JsString} {history : History} {index : Nat} {call : Call}
  {request : Request} {answer : request.Answer}

/-- Entries and timers are paired; a timer is set for the user of its state; notices are
about users without a colon, and the last one about a user who has no entry is a stop. -/
structure Tracked (deployment : Deployment) (world : World) (typing : Typing) : Prop where
  paired : typing.table.Paired
  owners : ∀ timer key closure, typing.table.timers timer = some (key, closure) →
    deployment.user closure.state.socket = some (world.states closure.state).userId ∧
      key = typingKey (world.states closure.state).userId closure.channelId
  spoken : ∀ userId channelId, 58 ∈ userId → lastTyping typing.notices userId channelId = none
  settled : ∀ userId channelId, 58 ∉ userId →
    typing.table.entries (typingKey userId channelId) = none →
      lastTyping typing.notices userId channelId ≠ some true

theorem plain_of_user (plain : deployment.PlainIds)
    (user : deployment.user socket = some userId) : 58 ∉ userId := by
  unfold Deployment.user Deployment.owner at user
  obtain ⟨claims, owned, rfl⟩ := Option.map_eq_some_iff.mp user
  obtain ⟨token, -, claimed⟩ := Option.bind_eq_some_iff.mp owned
  obtain ⟨subject, named, rfl⟩ := Option.map_eq_some_iff.mp claimed
  exact plain token subject named

section

variable (tracked : Tracked deployment world typing)

include tracked

theorem Tracked.spoken_announce (plain : 58 ∉ userId)
    (sender : Option SocketId) (isTyping : Bool) (other room : JsString) (colon : 58 ∈ other) :
    lastTyping (typing.announce sender channelId userId isTyping).notices other room = none := by
  rw [lastTyping_announce, if_neg, tracked.spoken other room colon]
  rintro ⟨rfl, -⟩
  exact plain colon

/-- A key is cleared and its stop announced. -/
theorem Tracked.clear (plain : 58 ∉ userId)
    (sender : Option SocketId) :
    Tracked deployment world
      ({ typing with table := typing.table.clear (typingKey userId channelId) }.announce sender
        channelId userId false) where
  paired := tracked.paired.clear _
  owners timer key closure live :=
    tracked.owners timer key closure (tracked.paired.live_of_clear live)
  spoken other room colon := tracked.spoken_announce plain sender false other room colon
  settled other room plain' absent := by
    rw [lastTyping_announce]
    split
    · exact Bool.noConfusion ∘ Option.some.inj
    · rename_i different
      apply tracked.settled other room plain'
      change (typing.table.clear (typingKey userId channelId)).entries _ = none at absent
      rwa [TimerTable.entries_clear, Function.update_of_ne] at absent
      intro same
      obtain ⟨same, same'⟩ := typingKey_inj plain' plain same
      exact different ⟨same.symm, same'⟩

/-- A key is armed and its start announced. -/
theorem Tracked.arm (plain : 58 ∉ userId)
    (sender : Option SocketId) {ref : StateRef}
    (user : deployment.user ref.socket = some userId) (same : (world.states ref).userId = userId) :
    Tracked deployment world
      ({ typing with
        table := typing.table.arm (typingKey userId channelId) ⟨userId, channelId⟩
          ⟨channelId, ref⟩ }.announce sender channelId userId true) where
  paired := tracked.paired.arm _ _ _
  owners timer key closure live := by
    rcases tracked.paired.live_of_arm live with ⟨rfl, rfl⟩ | live
    · rw [same]
      exact ⟨user, rfl⟩
    · exact tracked.owners timer key closure live
  spoken other room colon := tracked.spoken_announce plain sender true other room colon
  settled other room plain' absent := by
    change (typing.table.arm (typingKey userId channelId) _ _).entries _ = none at absent
    rw [TimerTable.entries_arm] at absent
    by_cases armed : typingKey other room = typingKey userId channelId
    · rw [armed, Function.update_self] at absent
      cases absent
    · rw [Function.update_of_ne armed] at absent
      rw [lastTyping_announce, if_neg]
      · exact tracked.settled other room plain' absent
      · rintro ⟨rfl, rfl⟩
        exact armed rfl

theorem Tracked.onTyping (plain : deployment.PlainIds)
    (held : ∀ ref, ∀ channelId ∈ (world.states ref).subscribedChannels,
      deployment.user ref.socket = some (world.states ref).userId) (isTyping : Bool) :
    Tracked deployment world (typing.onTyping world socket channelId isTyping) := by
  unfold Typing.onTyping
  split
  · exact tracked
  · rename_i serial there
    dsimp only
    split
    · rename_i subscribed
      have user := held ⟨socket, serial⟩ channelId (List.contains_iff_mem.mp subscribed)
      cases isTyping with
      | true => exact tracked.arm (plain_of_user plain user) _ user rfl
      | false => exact tracked.clear (plain_of_user plain user) _
    · exact tracked

theorem Tracked.stopAll {state : GatewaySocketState}
    (plain : ∀ channelId ∈ state.subscribedChannels, 58 ∉ state.userId) :
    Tracked deployment world (typing.stopAll state) := by
  unfold Typing.stopAll
  generalize state.subscribedChannels = channels at plain
  induction channels generalizing typing with
  | nil => exact tracked
  | cons channelId channels ih =>
    rw [List.foldl_cons]
    refine ih ?_ fun other member => plain other (List.mem_cons_of_mem channelId member)
    dsimp only
    split
    · exact tracked.clear (plain channelId List.mem_cons_self) none
    · exact tracked

theorem Tracked.onDisconnect (plain : deployment.PlainIds) {current : World}
    (held : ∀ ref, ∀ channelId ∈ (current.states ref).subscribedChannels,
      deployment.user ref.socket = some (current.states ref).userId) (socket : SocketId) :
    Tracked deployment world (typing.onDisconnect current socket) := by
  unfold Typing.onDisconnect
  split
  · exact tracked
  · split
    · exact tracked
    · rename_i serial _
      exact tracked.stopAll fun channelId member =>
        plain_of_user plain (held ⟨socket, serial⟩ channelId member)

end

theorem states_close (socket : SocketId) (world : World) :
    (world.close socket).states = world.states := by
  have stopped : ∀ (state : GatewaySocketState) (world : World),
      (world.stopTyping state).states = world.states := by
    intro state world
    unfold World.stopTyping
    generalize state.subscribedChannels = channels
    induction channels generalizing world with
    | nil => rfl
    | cons channelId channels ih =>
      rw [List.foldl_cons, ih]
      split <;> rfl
  unfold World.close
  dsimp only
  split
  · rfl
  · split
    · rfl
    · exact stopped _ _

theorem states_emit (socket : SocketId) (message : ServerMessage) (world : World) :
    (world.emit socket message).states = world.states := by
  unfold World.emit
  dsimp only
  split <;> rfl

section

variable (tracked : Tracked deployment world typing)

include tracked

theorem Tracked.onSweep (plain : deployment.PlainIds)
    (held : ∀ ref, ∀ channelId ∈ (world.states ref).subscribedChannels,
      deployment.user ref.socket = some (world.states ref).userId)
    (userId : JsString) (sockets : List (SocketId × Option JsString)) :
    Tracked deployment world (typing.onSweep userId sockets world) := by
  unfold Typing.onSweep
  have folded : ∀ (current : World) (typing : Typing), current.states = world.states →
      Tracked deployment world typing → Tracked deployment world
        (sockets.foldl (fun (state : World × Typing) socket =>
          if socket.2 = some userId then
            let warned := (state.1.setSession socket.1 none).emit socket.1
              (.error (js "Session revoked"))
            (warned.close socket.1, state.2.onDisconnect warned socket.1)
          else state) (current, typing)).2 := by
    induction sockets with
    | nil => exact fun current typing same tracked => tracked
    | cons found sockets ih =>
      intro current typing same tracked
      rw [List.foldl_cons]
      split
      · have warned : ((current.setSession found.1 none).emit found.1
            (.error (js "Session revoked"))).states = world.states :=
          (states_emit _ _ _).trans same
        apply ih
        · exact (states_close _ _).trans warned
        · apply tracked.onDisconnect plain
          rw [warned]
          exact held
      · exact ih current typing same tracked
  exact folded world typing rfl tracked

/-- A timer that goes off stops the user it was set for. -/
theorem Tracked.onTimeout (plain : deployment.PlainIds)
    {timer : Nat} {key : JsString} {closure : TypingClosure}
    (live : typing.table.timers timer = some (key, closure)) :
    Tracked deployment world (typing.onTimeout world timer key closure) := by
  obtain ⟨user, rfl⟩ := tracked.owners timer key closure live
  unfold Typing.onTimeout
  rw [tracked.paired.expire_eq live]
  exact tracked.clear (plain_of_user plain user) none

/-- The world moves on; the users of states that are known to be their sockets' stay. -/
theorem Tracked.moved
    (users : ∀ ref, deployment.user ref.socket = some (world.states ref).userId →
      deployment.user ref.socket = some (after.states ref).userId) :
    Tracked deployment after typing where
  paired := tracked.paired
  owners timer key closure live := by
    obtain ⟨user, named⟩ := tracked.owners timer key closure live
    have later := users closure.state user
    rw [user] at later
    rw [← Option.some.inj later]
    exact ⟨user, named⟩
  spoken := tracked.spoken
  settled := tracked.settled

end

/-! ## Runs -/

section

variable {guard : Pool gateway Unit Bool Call Timed → Turn Call → Prop}
  {pool : Pool gateway Unit Bool Call Timed} {expiring : Nat → Nat} {timed later : Timed}

/-- A timer goes off, or the world answers as ever. -/
theorem handleTimed_cases {timer : Nat}
    (answered : handleTimed deployment timer request timed = some (answer, later)) :
    (∃ userId channelId key closure, request = .act (.typingTimeout userId channelId) ∧
        timed.typing.table.timers timer = some (key, closure) ∧ later.world =
          ((Action.typingTimeout userId channelId).act timed.world).getD timed.world ∧
        later.typing = timed.typing.onTimeout timed.world timer key closure) ∨
      (handle deployment request timed.world = some (answer, later.world) ∧
        later.typing = request.typed timed.world timed.typing) := by
  have ever : ∀ {request : Request} {answer : request.Answer},
      ((handle deployment request timed.world).map fun (answer, after) =>
        (answer, (⟨after, request.typed timed.world timed.typing⟩ : Timed))) =
          some (answer, later) →
      handle deployment request timed.world = some (answer, later.world) ∧
        later.typing = request.typed timed.world timed.typing := by
    intro request answer mapped
    obtain ⟨⟨answer', after⟩, replied, same⟩ := Option.map_eq_some_iff.mp mapped
    cases same
    exact ⟨replied, rfl⟩
  cases request with
  | act action =>
    cases action with
    | typingTimeout userId channelId =>
      dsimp only [handleTimed] at answered
      split at answered
      · cases answered
      · rename_i key closure live
        split at answered
        · cases answered
          exact .inl ⟨userId, channelId, key, closure, rfl, live, rfl, rfl⟩
        · cases answered
    | _ => exact .inr (ever answered)
  | _ => exact .inr (ever answered)

/-- What a request does to the typing entries keeps them tracked. -/
theorem Tracked.typed (tracked : Tracked deployment world typing) (plain : deployment.PlainIds)
    (held : ∀ ref, ∀ channelId ∈ (world.states ref).subscribedChannels,
      deployment.user ref.socket = some (world.states ref).userId) (request : Request) :
    Tracked deployment world (request.typed world typing) := by
  cases request with
  | typing socket channelId isTyping => exact tracked.onTyping plain held isTyping
  | disconnect socket => exact tracked.onDisconnect plain held socket
  | disconnectAll userId sockets => exact tracked.onSweep plain held userId sockets
  | act action =>
    cases action with
    | close socket => exact tracked.onDisconnect plain held socket
    | _ => exact tracked
  | _ => exact tracked

theorem typingTimeout_act (deployment : Deployment) (userId channelId : JsString) (world : World) :
    handle deployment (.act (.typingTimeout userId channelId)) world =
        some ((), ((Action.typingTimeout userId channelId).act world).getD world) ∨
      ((Action.typingTimeout userId channelId).act world).getD world = world := by
  cases acted : (Action.typingTimeout userId channelId).act world with
  | none => exact .inr rfl
  | some after =>
    left
    dsimp only [handle]
    rw [acted]
    rfl

theorem tracked_of_reachable (plain : deployment.PlainIds)
    (reached : (timedSystem deployment expiring).Reachable guard pool) :
    Sound deployment pool.shared.world pool.history ∧
      Tracked deployment pool.shared.world pool.shared.typing := by
  refine reached.invariant (P := fun pool => Sound deployment pool.shared.world pool.history ∧
    Tracked deployment pool.shared.world pool.shared.typing) ?_ ?_
  · rintro _ ⟨⟨world, typing⟩, ⟨initial, same⟩, rfl⟩
    dsimp only at initial same
    subst same
    refine ⟨sound_initial initial, TimerTable.paired_empty, ?_, fun _ _ _ => rfl, ?_⟩
    · exact fun _ _ _ impossible => nomatch impossible
    · exact fun _ _ _ _ impossible => nomatch impossible
  · rintro before label last reached ⟨sound, tracked⟩ - moved
    obtain ⟨call, -, rfl⟩ | ⟨index, call, request, next, answer, later, -, pending, answered,
      rfl⟩ := Pool.step_cases moved
    · exact ⟨sound, tracked⟩
    · have justified := Pool.justified_of_pending reached pending (disciplined deployment call)
      rcases handleTimed_cases answered with
        ⟨userId, channelId, key, closure, rfl, live, moved, typing⟩ | ⟨answered, typing⟩
      · have stopped := tracked.onTimeout plain live
        rw [typing, moved]
        rcases typingTimeout_act deployment userId channelId before.shared.world with answered | same
        · exact ⟨sound.step justified answered,
            stopped.moved fun ref known => sound.users justified answered known⟩
        · rw [same]
          exact ⟨sound.unheard _ _ rfl, stopped⟩
      · rw [typing]
        exact ⟨sound.step justified answered, (tracked.typed plain sound.held request).moved
          fun ref known => sound.users justified answered known⟩

end

end

/-- In every run, whichever timer goes off when, each entry of `activeTyping` has exactly
one live timer and each live timer its entry; and where there is none for a user in a
channel, the last notice about the user in the room of the channel, if any, is a stop. -/
theorem typing_settled {deployment : Deployment} (plain : deployment.PlainIds)
    {expiring : Nat → Nat}
    {pool : Pool gateway Unit Bool Call Timed}
    (reached : (timedSystem deployment expiring).Reachable System.unguarded pool) :
    (∀ key entry timer, pool.shared.typing.table.entries key = some (entry, timer) →
      (∃ closure, pool.shared.typing.table.timers timer = some (key, closure)) ∧
        ∀ other closure, pool.shared.typing.table.timers other = some (key, closure) →
          other = timer) ∧
    (∀ timer key closure, pool.shared.typing.table.timers timer = some (key, closure) →
      ∃ entry, pool.shared.typing.table.entries key = some (entry, timer)) ∧
    ∀ userId channelId, pool.shared.typing.table.entries (typingKey userId channelId) = none →
      lastTyping pool.shared.typing.notices userId channelId ≠ some true := by
  obtain ⟨-, tracked⟩ := tracked_of_reachable plain reached
  refine ⟨fun key entry timer there => ⟨tracked.paired.live key entry timer there, ?_⟩,
    tracked.paired.owned, fun userId channelId absent => ?_⟩
  · intro other closure live
    obtain ⟨entry', there'⟩ := tracked.paired.owned other key closure live
    rw [there] at there'
    cases there'
    rfl
  · by_cases colon : 58 ∈ userId
    · rw [tracked.spoken userId channelId colon]
      exact nofun
    · exact tracked.settled userId channelId colon absent

namespace Sample

theorem plainIds : deployment.PlainIds := by
  intro token userId named
  cases named
  decide

/-- A socket subscribes to its user's own channel and starts to type; the timer goes off. -/
def pausing : List (Turn Call) :=
  [.start (.act .connect), .advance 0,
    .start (.act (.send 0 (subscribeMessage [js "user:alice"]))), .advance 1, .start (.serve 0)] ++
    advances 2 9 ++
  [.start (.act (.send 0 ⟨.typing, some (.obj
      [(js "channelId", .str (js "user:alice")), (js "isTyping", .bool true)])⟩)),
    .advance 3, .start (.serve 0)] ++ advances 4 6 ++
  [.start (.act (.typingTimeout (js "alice") (js "user:alice"))), .advance 5]

def runTimed (turns : List (Turn Call)) : Option (Pool gateway Unit Bool Call Timed) :=
  Pool.replay (program deployment) (fun _ _ => handleTimed deployment 0) (fun _ _ => true)
    ⟨World.blank, ⟨.empty, []⟩⟩ turns

theorem pausing_completed : (runTimed pausing).isSome := by decide

theorem pausing_reachable : (timedSystem deployment fun _ => 0).Reachable System.unguarded
    ((runTimed pausing).get pausing_completed) :=
  Pool.reachable_of_replay (fun _ _ _ => trivial) ⟨⟨fun _ => [], rfl⟩, rfl⟩ pausing_completed

end Sample

/-- The user was announced typing and is announced to have stopped. -/
theorem pausing_settled :
    lastTyping ((Sample.runTimed Sample.pausing).get Sample.pausing_completed).shared.typing.notices
        (js "alice") (js "user:alice") = some false ∧
      ∀ channelId, ((Sample.runTimed Sample.pausing).get
          Sample.pausing_completed).shared.typing.table.entries
            (typingKey (js "alice") channelId) = none →
        lastTyping ((Sample.runTimed Sample.pausing).get
          Sample.pausing_completed).shared.typing.notices (js "alice") channelId ≠ some true := by
  refine ⟨by decide, fun channelId absent => ?_⟩
  exact (typing_settled Sample.plainIds Sample.pausing_reachable).2.2 (js "alice") channelId absent

end Vortex.Gateway
