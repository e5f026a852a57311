import Vortex.Gateway.Services
import Vortex.Gateway.Validation

/-!
# Rooms after a removal

A removal deletes the membership, looks up the sockets in the channel's room and makes
those of the user leave. A handler that was granted the channel before joins it whenever
it goes on, also after that. `revocation_sticks` is about the runs in which no removal
looks up the sockets while there is such a handler.
-/

variable {removal : Nat} {socket : SocketId}

namespace Vortex.Gateway

open Foundation List

variable {deployment : Deployment} {guard : GatewayPool → Turn Call → Prop}
  {pool before after : GatewayPool} {world shared : World} {history : History} {index : Nat} {call : Call}
  {request : Request} {answer : request.Answer} {userId channelId : JsString}

/-! ## Grants -/

/-- A handler has been granted a channel and has not joined it yet. -/
def MayJoin (userId channelId : JsString) (seen : Exchanges) : Prop :=
  ∃ channelIds, ∃ granted : List JsString,
    ⟨.checkChannelAccess userId channelIds, granted⟩ ∈ seen ∧ channelId ∈ granted ∧
      Unjoined channelId seen

theorem not_mayJoin_nil : ¬ MayJoin userId channelId [] := by
  rintro ⟨channelIds, granted, known, -⟩
  exact absurd known not_mem_nil

/-- A handler is granted a channel by the answer it gets, or was granted it before. -/
theorem mayJoin_snoc {seen : Exchanges} {exchange : Proc.Exchange gateway}
    (may : MayJoin userId channelId (seen ++ [exchange])) :
    MayJoin userId channelId seen ∨ ∃ channelIds, ∃ granted : List JsString,
      exchange = ⟨.checkChannelAccess userId channelIds, granted⟩ ∧ channelId ∈ granted := by
  obtain ⟨channelIds, granted, known, member, rejoins, enrolls⟩ := may
  rcases mem_append.mp known with early | last
  · left
    refine ⟨channelIds, granted, early, member, fun ref rejoined earlier => ?_,
      fun socket owner validChannels denied earlier => ?_⟩
    · exact rejoins ref rejoined (mem_append_left _ earlier)
    · exact enrolls socket owner validChannels denied (mem_append_left _ earlier)
  · exact .inr ⟨channelIds, granted, (mem_singleton.mp last).symm, member⟩

/-- Who enters a room has been granted it under the user of the socket's token. -/
theorem Sound.mayJoin (sound : Sound deployment world history)
    (justified : Discipline deployment call (Pool.exchanges history index) request)
    (joins : (request.allowance world).joins socket channelId)
    (owned : deployment.user socket = some userId) :
    MayJoin userId channelId (Pool.exchanges history index) := by
  cases request with
  | enroll other owner validChannels denied =>
    obtain ⟨rfl, member⟩ := joins
    obtain ⟨entitled, ⟨channelIds, checked⟩, unjoined⟩ := justified
    rw [sound.signed entitled.2.1] at owned
    cases owned
    exact ⟨channelIds, validChannels, checked, member, unjoined channelId⟩
  | rejoin ref joined =>
    obtain ⟨rfl, rfl⟩ := joins
    obtain ⟨owner, channelIds, granted, entitled, checked, member, -, unjoined⟩ := justified
    rw [sound.signed entitled.2.1] at owned
    cases owned
    exact ⟨channelIds, granted, checked, member, unjoined⟩
  | _ => cases joins

/-- Only members are granted a channel that is not their own. -/
theorem mem_members_of_granted {channelIds : List JsString}
    (granted : channelId ∈ world.checkChannelAccess userId channelIds)
    (foreign : channelId ≠ USER_CHANNEL_PREFIX ++ userId) :
    (channelId, userId) ∈ world.members := by
  rcases mem_append.mp granted with own | member
  · exact absurd (mem_ownChannels.mp own).2 foreign
  · split at member
    · cases member
    · exact contains_iff_mem.mp (mem_filter.mp member).2

/-! ## Removals -/

/-- The user was removed by this call, and has not been added again. -/
def RemovedSince (history : History) (removal : Nat) (userId channelId : JsString) : Prop :=
  ∃ later call earlier,
    history = later ++ ⟨removal, call, .deleteMember userId channelId, true⟩ :: earlier ∧
      ∀ event ∈ later, event.request ≠ .act (.addMember userId channelId)

/-- What holds after a removal: the user is not a member; and once the sockets have been
looked up, nobody may still join, and the user's sockets in the room are among those
found and still to leave it. -/
structure Removed (deployment : Deployment) (pool : GatewayPool) (removal : Nat)
    (userId channelId : JsString) : Prop where
  absent : (channelId, userId) ∉ pool.shared.members
  swept : ∀ found, ⟨.fetchSockets (some channelId), found⟩ ∈ Pool.exchanges pool.history removal →
    channelId ≠ USER_CHANNEL_PREFIX ++ userId ∧ ¬ pool.Pending (MayJoin userId channelId) ∧
      ∀ socket, deployment.user socket = some userId →
        channelId ∈ (pool.shared.sockets socket).rooms →
        (∃ sockets, found = .ok sockets ∧ (socket, some userId) ∈ sockets) ∧
          ∀ replica sockets, ⟨.dropChannel replica userId channelId sockets, ()⟩ ∉
            Pool.exchanges pool.history removal

/-- A removal looks up the sockets while the adapter answers and no handler in flight
has been granted the channel, which is not the user's own one. -/
def Settled (pool : GatewayPool) : Turn Call → Prop
  | .start _ => True
  | .advance index => ∀ replica userId channelId next,
      pool.threads[index]? = some ⟨.removeMember replica userId channelId,
        .await (.fetchSockets (some channelId)) next⟩ →
      pool.shared.adapterDown = false ∧ channelId ≠ USER_CHANNEL_PREFIX ++ userId ∧
        ¬ pool.Pending (MayJoin userId channelId)

/-- Once a removal and all handlers started before it have finished, no socket of the
user is in the room, unless the user was added again. -/
def RevocationSticks (deployment : Deployment) (pool : GatewayPool) : Prop :=
  ∀ removal replica userId channelId,
    pool.threads[removal]? = some ⟨.removeMember replica userId channelId, .done (.ok true)⟩ →
    (∀ earlier < removal, ∀ socket rest, pool.threads[earlier]? = some ⟨.serve socket, rest⟩ →
      ∃ result, rest = .done result) →
    RemovedSince pool.history removal userId channelId →
    ∀ socket, deployment.user socket = some userId →
      channelId ∉ (pool.shared.sockets socket).rooms

/-! ## What a step keeps -/

theorem mem_members_of_handle (answered : handle deployment request world = some (answer, shared))
    (member : (channelId, userId) ∈ shared.members) :
    (channelId, userId) ∈ world.members ∨ request = .act (.addMember userId channelId) := by
  cases decides_of_handle answered with
  | none _ same =>
    rw [same.members] at member
    exact .inl member
  | add other joined members revocations =>
    rw [members] at member
    rcases mem_append.mp member with early | new
    · exact .inl early
    · cases mem_singleton.mp new
      exact .inr rfl
  | delete other left members revocations =>
    rw [members] at member
    exact .inl (mem_filter.mp member).1
  | revoke other cutoffMs members revocations =>
    rw [members] at member
    exact .inl member

/-- The user's sockets that were found are not in the room any more. -/
theorem not_mem_rooms_dropChannel {replica : Nat} {sockets : List (SocketId × Option JsString)}
    (found : (socket, some userId) ∈ sockets) (world : World) :
    channelId ∉
      ((world.dropChannel deployment replica userId channelId sockets).sockets socket).rooms := by
  have stays : ∀ (sockets : List (SocketId × Option JsString)) world,
      Moves .nothing world (sockets.foldl (fun world socket =>
        if socket.2 = some userId then world.leave socket.1 channelId else world) world) := by
    intro sockets
    apply Moves.foldl
    intro world socket _
    split
    · exact .leave _ _
    · exact .refl _ _
  have left : ∀ world : World, channelId ∉ ((sockets.foldl (fun world socket =>
      if socket.2 = some userId then world.leave socket.1 channelId else world) world).sockets
        socket).rooms := by
    induction sockets with
    | nil => cases found
    | cons other sockets ih =>
      intro world member
      rcases mem_cons.mp found with rfl | found
      · have early := ((stays sockets _).rooms socket channelId member).resolve_right id
        dsimp only at early
        rw [if_pos rfl, World.leave, sockets_setSocket_self] at early
        simpa using (mem_filter.mp early).2
      · exact ih found _ member
  exact left world

theorem removedSince_cons {event : Event gateway Call}
    (removed : RemovedSince (event :: history) removal userId channelId) :
    (∃ call, event = ⟨removal, call, .deleteMember userId channelId, true⟩) ∨
      RemovedSince history removal userId channelId ∧
        event.request ≠ .act (.addMember userId channelId) := by
  obtain ⟨later, call, earlier, split, quiet⟩ := removed
  cases later with
  | nil => exact .inl ⟨call, (cons.inj split).1⟩
  | cons head later =>
    obtain ⟨rfl, rest⟩ := cons.inj split
    exact .inr ⟨⟨later, call, earlier, rest, fun other member =>
      quiet other (mem_cons_of_mem _ member)⟩, quiet _ mem_cons_self⟩

theorem RemovedSince.deleted (removed : RemovedSince history removal userId channelId) :
    ⟨.deleteMember userId channelId, true⟩ ∈ Pool.exchanges history removal := by
  obtain ⟨later, call, earlier, rfl, -⟩ := removed
  exact Pool.mem_exchanges.mpr ⟨_, mem_append_right _ mem_cons_self, rfl, rfl⟩

/-- Only a removal removes. -/
theorem RemovedSince.called (removed : RemovedSince pool.history removal userId channelId)
    (reached : (gatewaySystem deployment).Reachable guard pool)
    {thread : Thread gateway Unit Bool Call} (found : pool.threads[removal]? = some thread) :
    ∃ replica, thread.call = .removeMember replica userId channelId := by
  obtain ⟨seen, -, justified⟩ := Pool.justified_of_reachable reached found
    (disciplined deployment thread.call) removed.deleted
  exact justified.1

/-- Nobody comes to be able to join a channel that the user is not a member of. -/
theorem not_mayJoin_of_step (reached : (gatewaySystem deployment).Reachable guard before)
    {label : Turn Call} (moved : (gatewaySystem deployment).step before label after)
    (foreign : channelId ≠ USER_CHANNEL_PREFIX ++ userId)
    (absent : (channelId, userId) ∉ before.shared.members)
    (settled : ¬ before.Pending (MayJoin userId channelId)) :
    ¬ after.Pending (MayJoin userId channelId) := by
  intro pending
  rcases Pool.pending_of_step not_mayJoin_nil reached moved pending with early |
    ⟨index, call, request, next, answer, -, waiting, answered, -, may⟩
  · exact settled early
  · rcases mayJoin_snoc may with early | ⟨channelIds, granted, same, member⟩
    · exact settled ⟨index, _, waiting, ⟨request, next, rfl⟩, early⟩
    · cases same
      rw [(Prod.mk.inj (Option.some.inj answered)).1.symm] at member
      exact absent (mem_members_of_granted member foreign)

/-! ## Runs -/

/-- The lookup of a removal finds every socket of the user in the room. -/
theorem Sound.found (sound : Sound deployment world history)
    (owned : deployment.user socket = some userId)
    (member : channelId ∈ (world.sockets socket).rooms) :
    (socket, some userId) ∈ world.connectedIn (some channelId) := by
  have connected := sound.connected socket channelId member
  have owner : (world.sockets socket).dataUserId = some userId := by
    obtain ⟨recorded, same⟩ :=
      Option.ne_none_iff_exists'.mp (sound.recorded socket channelId member)
    rw [same, ← owned, sound.owners socket recorded same]
  unfold World.connectedIn
  rw [← owner]
  apply mem_map_of_mem (f := fun socket => (socket, (world.sockets socket).dataUserId))
  apply mem_filter.mpr
  refine ⟨mem_range.mpr (sound.bounded socket connected), ?_⟩
  simp [connected, member]

theorem removed_step (reached : (gatewaySystem deployment).Reachable Settled before)
    {label : Turn Call} (admitted : Settled before label)
    (moved : (gatewaySystem deployment).step before label after)
    (kept : ∀ removal userId channelId, RemovedSince before.history removal userId channelId →
      Removed deployment before removal userId channelId)
    {removal : Nat} (removed : RemovedSince after.history removal userId channelId) :
    Removed deployment after removal userId channelId := by
  have sound := ownership_of_reachable reached
  obtain ⟨call, -, rfl⟩ | ⟨index, call, request, next, answer, shared, rfl, waiting, answered,
    rfl⟩ := Pool.step_cases moved
  · have same := kept removal userId channelId removed
    refine ⟨same.absent, fun found fetched => ?_⟩
    obtain ⟨foreign, settled, leaving⟩ := same.swept found fetched
    exact ⟨foreign, not_mayJoin_of_step reached moved foreign same.absent settled, leaving⟩
  · have justified := justified_pending reached waiting
    rcases removedSince_cons removed with ⟨_, same⟩ | ⟨earlier, quiet⟩
    · cases same
      constructor
      · dsimp only [handle] at answered
        split at answered
        · cases answered
        · cases answered
          simp
      · intro found fetched
        rcases exchanges_cases fetched with ⟨-, impossible⟩ | early
        · cases impossible
        · cases justified.2 _ early
    · have same := kept removal userId channelId earlier
      have absent : (channelId, userId) ∉ shared.members := by
        intro member
        rcases mem_members_of_handle answered member with old | added
        · exact same.absent old
        · exact quiet added
      refine ⟨absent, fun found fetched => ?_⟩
      rcases exchanges_cases fetched with ⟨rfl, new⟩ | early
      · cases new
        obtain ⟨replica, called⟩ := earlier.called reached waiting
        cases called
        obtain ⟨up, foreign, settled⟩ := admitted replica userId channelId next waiting
        refine ⟨foreign, not_mayJoin_of_step reached moved foreign same.absent settled, ?_⟩
        intro socket owned member
        dsimp only [handle] at answered
        rw [up] at answered
        cases answered
        refine ⟨⟨_, rfl, sound.found owned member⟩, fun replica sockets dropped => ?_⟩
        rcases exchanges_cases dropped with ⟨-, impossible⟩ | early
        · cases impossible
        · cases justified _ early
      · obtain ⟨foreign, settled, leaving⟩ := same.swept found early
        refine ⟨foreign, not_mayJoin_of_step reached moved foreign same.absent settled, ?_⟩
        intro socket owned member
        rcases (moves_of_handle answered).rooms socket channelId member with old | joins
        · obtain ⟨listed, undropped⟩ := leaving socket owned old
          refine ⟨listed, fun replica sockets dropped => ?_⟩
          rcases exchanges_cases dropped with ⟨rfl, new⟩ | early'
          · cases new
            cases answered
            obtain ⟨all, rfl, known⟩ := listed
            have same := justified.2 _ early
            dsimp only [Except.toOption, Option.getD] at same
            subst same
            exact not_mem_rooms_dropChannel known _ member
          · exact undropped replica sockets early'
        · exact absurd ⟨index, _, waiting, ⟨request, next, rfl⟩,
            sound.mayJoin justified joins owned⟩ settled

theorem removed_of_reachable (reached : (gatewaySystem deployment).Reachable Settled pool)
    (removed : RemovedSince pool.history removal userId channelId) :
    Removed deployment pool removal userId channelId := by
  have all : ∀ removal userId channelId, RemovedSince pool.history removal userId channelId →
      Removed deployment pool removal userId channelId := by
    refine reached.invariant (P := fun pool => ∀ removal userId channelId,
      RemovedSince pool.history removal userId channelId →
      Removed deployment pool removal userId channelId) ?_ ?_
    · rintro _ ⟨world, -, rfl⟩ removal userId channelId ⟨later, call, earlier, split, -⟩
      exact absurd split.symm (append_ne_nil_of_right_ne_nil _ (cons_ne_nil _ _))
    · intro before label after reached kept admitted moved removal userId channelId
      exact removed_step reached admitted moved kept
  exact all removal userId channelId removed

/-- Removals stick in every state of a run in which each of them looks up the sockets
while nobody else may still join. -/
theorem revocation_sticks (reached : (gatewaySystem deployment).Reachable Settled pool) :
    RevocationSticks deployment pool := by
  intro removal replica userId channelId finished _ removed socket owned member
  obtain ⟨found, sockets, -, fetched, dropped⟩ := ended_finished reached finished rfl
  obtain ⟨-, -, leaving⟩ := (removed_of_reachable reached removed).swept found fetched
  exact (leaving socket owned member).2 replica sockets dropped

/-! ## Samples -/

def Request.checksAccess : Request → Bool
  | .checkChannelAccess _ _ => true
  | _ => false

/-- No memberships were checked. -/
def unchecked (history : History) (index : Nat) : Bool :=
  (Pool.exchanges history index).all fun exchange => !exchange.1.checksAccess

/-- Check that a removal looks up the sockets when no handler in flight has checked any
memberships. -/
def settled (pool : GatewayPool) : Turn Call → Bool
  | .start _ => true
  | .advance index =>
      match pool.threads[index]? with
      | some ⟨.removeMember _ userId channelId, .await (.fetchSockets (some _)) _⟩ =>
          !pool.shared.adapterDown && channelId ≠ USER_CHANNEL_PREFIX ++ userId &&
            (List.range pool.threads.length).all fun other =>
              (pool.threads[other]?.bind Thread.result?).isSome || unchecked pool.history other
      | _ => true

theorem not_mayJoin_of_unchecked (silent : unchecked history index = true) :
    ¬ MayJoin userId channelId (Pool.exchanges history index) := by
  rintro ⟨channelIds, granted, known, -⟩
  cases all_eq_true.mp silent _ known

theorem settled_sound {turn : Turn Call} (checked : settled pool turn = true) :
    Settled pool turn := by
  cases turn with
  | start call => trivial
  | advance index =>
    intro replica userId channelId next waiting
    unfold settled at checked
    dsimp only at checked
    rw [waiting] at checked
    simp only [Bool.and_eq_true, Bool.not_eq_true', decide_eq_true_eq] at checked
    refine ⟨checked.1.1, checked.1.2, ?_⟩
    rintro ⟨other, thread, found, flying, may⟩
    obtain ⟨bound, -⟩ := List.getElem?_eq_some_iff.mp found
    have either := all_eq_true.mp checked.2 other (mem_range.mpr bound)
    rw [found, Option.bind_some, thread.inFlight_iff_result?.mp flying] at either
    exact not_mayJoin_of_unchecked (by simpa using either) may

/-- What the environment does. -/
def Request.isAct : Request → Bool
  | .act _ => true
  | _ => false

/-- After a removal the environment has done nothing. -/
theorem removedSince_of_getElem? (position : Nat)
    (deleted : history[position]? = some ⟨removal, call, .deleteMember userId channelId, true⟩)
    (quiet : (history.take position).all (fun event => !event.request.isAct) = true) :
    RemovedSince history removal userId channelId := by
  obtain ⟨bound, same⟩ := List.getElem?_eq_some_iff.mp deleted
  refine ⟨history.take position, call, history.drop (position + 1), ?_, fun event member => ?_⟩
  · rw [← same, ← drop_eq_getElem_cons bound, take_append_drop]
  · intro added
    have other := all_eq_true.mp quiet event member
    rw [added] at other
    cases other

namespace Sample

/-- A member connects and asks for the channel. -/
def subscribing : List (Turn Call) :=
  [.start (.act (.addMember (js "alice") (js "dm"))), .advance 0, .start (.act .connect), .advance 1,
    .start (.act (.send 0 (subscribeMessage [js "dm"]))), .advance 2, .start (.serve 0)]

/-- The subscription is finished before the member is removed. -/
def removing : List (Turn Call) :=
  subscribing ++ advances 3 9 ++ [.start (.removeMember 0 (js "alice") (js "dm"))] ++ advances 4 4

/-- The member is removed between the check of the subscription and its joining. -/
def overtaken : List (Turn Call) :=
  subscribing ++ advances 3 8 ++ [.start (.removeMember 0 (js "alice") (js "dm"))] ++
    advances 4 4 ++ advances 3 1

def settledRun (turns : List (Turn Call)) : Option GatewayPool :=
  Pool.replay (program Sample.deployment) (fun _ _ => handle Sample.deployment) settled
    World.blank turns

theorem removing_completed : (settledRun removing).isSome := by decide

theorem overtaken_completed : (run overtaken).isSome := by decide

end Sample

/-- The removal of a member who had joined. -/
theorem removal_sticks :
    ((Sample.settledRun Sample.removing).get Sample.removing_completed).threads[4]? =
        some ⟨.removeMember 0 (js "alice") (js "dm"), .done (.ok true)⟩ ∧
      RevocationSticks Sample.deployment
        ((Sample.settledRun Sample.removing).get Sample.removing_completed) :=
  ⟨rfl, revocation_sticks (Pool.reachable_of_replay (fun _ _ => settled_sound)
    ⟨fun _ => [], rfl⟩ Sample.removing_completed)⟩

/-- A member who was granted the channel before the removal joins it after the sweep. -/
theorem removed_member_in_room :
    ¬ ∀ (deployment : Deployment) (pool : GatewayPool),
      (gatewaySystem deployment).Reachable System.unguarded pool →
      RevocationSticks deployment pool := by
  intro sticks
  have stuck := sticks Sample.deployment _ (Sample.run_reachable Sample.overtaken_completed) 4 0
    (js "alice") (js "dm") rfl ?_ ?_ 0 rfl
  · exact stuck (by decide)
  · intro earlier before socket rest found
    have finished : (((Sample.run Sample.overtaken).get Sample.overtaken_completed).threads.take
        4).all (fun thread => thread.result?.isSome) = true := by decide
    have member := List.mem_of_getElem? (List.getElem?_take_of_lt before ▸ found)
    have ended := List.all_eq_true.mp finished _ member
    cases rest with
    | done result => exact ⟨result, rfl⟩
    | await request next => cases ended
  · exact removedSince_of_getElem? 4 rfl (by decide)

end Vortex.Gateway
