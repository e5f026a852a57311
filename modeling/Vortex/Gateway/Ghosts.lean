import Vortex.Gateway.Departures

/-!
# Nobody is shown who has left

The presence of a user is announced in rooms by any of the user's sockets, but the last
`disconnect` handler only announces in the rooms of its own socket. In the runs in which
that covers the rooms where the user is still shown, and in which presences are only
announced for users who are there, a user who has left is shown nowhere (`no_ghosts`).
-/

namespace Vortex.Gateway

open Foundation

section

variable {deployment : Deployment} {pool : GatewayPool} {world after : World} {socket : SocketId}
  {ref : StateRef} {userId channelId : JsString} {request : Request}

/-- The status of a user that a broadcast shows in the room of a channel. -/
def Broadcast.shows (broadcast : Broadcast) (userId channelId : JsString) : Option UserStatus :=
  match broadcast.notice with
  | .presence about status _ =>
      if about = userId ∧ channelId ∈ broadcast.channels then some status else none
  | _ => none

/-- The last presence of a user that was broadcast to the room of a channel. -/
def World.lastPresence (world : World) (userId channelId : JsString) : Option UserStatus :=
  world.presences.findSome? fun broadcast => broadcast.shows userId channelId

/-- A user is shown in a room as something else than offline. -/
def Shown (world : World) (userId channelId : JsString) : Prop :=
  ∃ status, world.lastPresence userId channelId = some status ∧ status ≠ .offline

/-- A presence other than offline is only announced for a user who is there, and the last
announcement of a `disconnect` handler reaches every room where the user is shown. -/
def Attended (deployment : Deployment) (pool : GatewayPool) : Turn Call → Prop
  | .start _ => True
  | .advance index => ∀ call request next,
      pool.threads[index]? = some ⟨call, .await request next⟩ →
      (∀ broadcast userId channelId status, request.announces pool.shared = some broadcast →
        broadcast.shows userId channelId = some status → status ≠ .offline →
        There deployment pool userId) ∧
      ∀ ref userId, request = .announceOffline ref → deployment.user ref.socket = some userId →
        Elsewhere deployment pool userId index ∨
          ∀ channelId, Shown pool.shared userId channelId →
            channelId ∈ (pool.shared.states ref).subscribedChannels

/-- Once nothing is left of a user's sockets, the last presence of the user in any room
that ever received one is offline. -/
def NoGhosts (deployment : Deployment) (pool : GatewayPool) : Prop :=
  ∀ userId, ¬ There deployment pool userId → ∀ channelId status,
    pool.shared.lastPresence userId channelId = some status → status = .offline

/-- Who is shown was announced just now, or was shown before. -/
theorem shown_of_announces (announces : Announces request world after)
    (shown : Shown after userId channelId) :
    (∃ broadcast status, request.announces world = some broadcast ∧
        broadcast.shows userId channelId = some status ∧ status ≠ .offline) ∨
      (Shown world userId channelId ∧ ∀ broadcast, request.announces world = some broadcast →
        broadcast.shows userId channelId = none) := by
  obtain ⟨status, last, present⟩ := shown
  unfold World.lastPresence at last
  rw [announces.presences] at last
  cases announced : request.announces world with
  | none =>
    rw [announced] at last
    exact .inr ⟨⟨status, last, present⟩, nofun⟩
  | some broadcast =>
    rw [announced, Option.toList_some, List.singleton_append, List.findSome?_cons] at last
    cases shows : broadcast.shows userId channelId with
    | some told =>
      rw [shows] at last
      cases last
      exact .inl ⟨broadcast, status, rfl, shows, present⟩
    | none =>
      rw [shows] at last
      refine .inr ⟨⟨status, last, present⟩, ?_⟩
      rintro _ ⟨⟩
      exact shows

/-- The last announcement of a `disconnect` handler shows the user offline in the rooms of
its state. -/
theorem shows_offlineOf (member : channelId ∈ (world.states ref).subscribedChannels) :
    ∃ broadcast, world.offlineOf ref = some broadcast ∧
      broadcast.shows (world.states ref).userId channelId = some .offline := by
  unfold World.offlineOf
  dsimp only
  have occupied : (world.states ref).subscribedChannels.isEmpty = false :=
    List.isEmpty_eq_false_iff.mpr (List.ne_nil_of_mem member)
  rw [occupied]
  exact ⟨_, rfl, if_pos ⟨rfl, member⟩⟩

theorem offline_of_offlineOf {broadcast : Broadcast} {status : UserStatus}
    (announced : world.offlineOf ref = some broadcast)
    (shows : broadcast.shows userId channelId = some status) : status = .offline := by
  unfold World.offlineOf at announced
  dsimp only at announced
  split at announced
  · cases announced
  · cases announced
    unfold Broadcast.shows at shows
    dsimp only at shows
    split at shows
    · exact (Option.some.inj shows).symm
    · cases shows

/-- Whoever is shown somewhere is there. -/
theorem there_of_shown (reached : (gatewaySystem deployment).Reachable (Attended deployment) pool)
    (shown : Shown pool.shared userId channelId) : There deployment pool userId := by
  revert userId channelId
  refine reached.invariant (P := fun pool => ∀ {userId channelId},
    Shown pool.shared userId channelId → There deployment pool userId) ?_ ?_
  · rintro _ ⟨_, ⟨outcomes, rfl⟩, rfl⟩ userId channelId ⟨status, last, -⟩
    cases last
  intro before label later reached kept admitted moved userId channelId shown
  have stays : There deployment before userId → _ := there_of_step reached admitted moved
  obtain ⟨call, rfl, rfl⟩ | ⟨index, call, request, next, answer, shared, rfl, pending, answered,
    rfl⟩ := Pool.step_cases moved
  · refine (stays (kept shown)).resolve_right ?_
    rintro ⟨_, _, _, _, impossible, -⟩
    cases impossible
  obtain ⟨attended, covered⟩ := admitted call request next pending
  rcases shown_of_announces (announces_of_handle answered) shown with
    ⟨broadcast, status, announced, shows, present⟩ | ⟨earlier, silent⟩
  · refine (stays (attended _ _ _ _ announced shows present)).resolve_right ?_
    rintro ⟨_, _, ref, _, same, waiting, -⟩
    cases same
    cases pending.symm.trans waiting
    exact present (offline_of_offlineOf announced shows)
  · rcases stays (kept earlier) with there | ⟨_, _, ref, _, same, waiting, user⟩
    · exact there
    cases same
    cases pending.symm.trans waiting
    rcases covered ref userId rfl user with elsewhere | reaches
    · exact there_of_elsewhere reached admitted moved elsewhere
    · have member := reaches channelId earlier
      have owner := (ownership_of_reachable reached).held ref channelId member
      cases owner.symm.trans user
      obtain ⟨broadcast, announced, shows⟩ := shows_offlineOf member
      cases (silent broadcast announced).symm.trans shows

/-- Check that presences are announced for users with a connected socket, and that a last
announcement reaches every room that ever received a presence. -/
def attended (pool : GatewayPool) : Turn Call → Bool
  | .start _ => true
  | .advance index =>
      match pool.threads[index]? with
      | some ⟨_, .await request _⟩ =>
          ((Request.announces pool.shared request).all fun broadcast =>
            match broadcast.notice with
            | .presence userId status _ =>
                status = .offline || (pool.shared.connectedIn none).any fun socket =>
                  socket.2 = some userId
            | _ => true) &&
          match request with
          | .announceOffline ref => pool.shared.presences.all fun broadcast =>
              broadcast.channels.all (pool.shared.states ref).subscribedChannels.contains
          | _ => true
      | _ => true

theorem attended_sound {turn : Turn Call} (checked : attended pool turn = true) :
    Attended deployment pool turn := by
  cases turn with
  | start call => trivial
  | advance index =>
    intro call request next pending
    unfold attended at checked
    dsimp only at checked
    rw [pending] at checked
    obtain ⟨announced, reaches⟩ := Bool.and_eq_true_iff.mp checked
    refine ⟨fun broadcast userId channelId status announces shows present => ?_,
      fun ref userId asked _ => .inr fun channelId shown => ?_⟩
    · rw [announces] at announced
      unfold Broadcast.shows at shows
      rcases broadcast with ⟨sender, channels, notice⟩
      cases notice with
      | presence about told updatedAt =>
        dsimp only at shows
        split at shows
        · rename_i concerns
          cases shows
          obtain ⟨rfl, -⟩ := concerns
          have connected : (pool.shared.connectedIn none).any
              (fun socket => socket.2 = some about) = true := by
            simpa [present] using announced
          obtain ⟨⟨socket, recorded⟩, found, same⟩ := List.any_eq_true.mp connected
          cases of_decide_eq_true same
          exact .inl (.inl ⟨socket, connected_of_connectedIn found⟩)
        · cases shows
      | _ => cases shows
    · subst asked
      obtain ⟨status, last, -⟩ := shown
      obtain ⟨broadcast, member, shows⟩ := List.exists_of_findSome?_eq_some last
      have within := List.all_eq_true.mp (List.all_eq_true.mp reaches broadcast member) channelId
      refine List.contains_iff_mem.mp (within ?_)
      unfold Broadcast.shows at shows
      split at shows
      · split at shows
        · rename_i concerns
          exact concerns.2
        · cases shows
      · cases shows

/-- Check that no socket is connected, no state is left and every process has finished. -/
def deserted (pool : GatewayPool) : Bool :=
  (pool.shared.connectedIn none).isEmpty && pool.shared.closing.isEmpty &&
    pool.threads.all fun thread => thread.result?.isSome

theorem not_there_of_deserted {guard : GatewayPool → Turn Call → Prop}
    (reached : (gatewaySystem deployment).Reachable guard pool) (checked : deserted pool = true)
    (userId : JsString) : ¬ There deployment pool userId := by
  obtain ⟨⟨empty, none_left⟩, finished⟩ := by
    simpa only [deserted, Bool.and_eq_true] using checked
  rintro ((⟨socket, connected, recorded⟩ | ⟨ref, left, -⟩) | ⟨index, ⟨thread, found, flying⟩, -⟩)
  · have bound := (ownership_of_reachable reached).bounded socket connected
    have found : (socket, some userId) ∈ pool.shared.connectedIn none := by
      refine List.mem_map.mpr ⟨socket, List.mem_filter.mpr ⟨List.mem_range.mpr bound, ?_⟩, ?_⟩
      · simp [connected]
      · rw [recorded]
    rw [List.isEmpty_iff.mp empty] at found
    cases found
  · rw [List.isEmpty_iff.mp none_left] at left
    cases left
  · have ended := List.all_eq_true.mp finished thread (List.mem_of_getElem? found)
    rw [thread.inFlight_iff_result?.mp flying] at ended
    cases ended

end

namespace Sample

def greeting (socket : SocketId) : Action :=
  .send socket ⟨.init, some (.obj [(js "status", .str (js "online"))])⟩

/-- A socket that is online in its user's own channel. -/
def arriving : List (Turn Call) :=
  [.start (.act .connect), .advance 0,
    .start (.act (.send 0 (subscribeMessage [js "user:alice"]))), .advance 1, .start (.serve 0)] ++
    advances 2 9 ++
  [.start (.act (greeting 0)), .advance 3, .start (.serve 0)] ++ advances 4 8

/-- The socket is closed. -/
def quitting : List (Turn Call) :=
  arriving ++ [.start (.act (.close 0)), .advance 5, .start .disconnected] ++ advances 6 3

/-- Another socket of the user is open while the first one is closed, and closed then. -/
def haunting : List (Turn Call) :=
  arriving ++
  [.start (.act .connect), .advance 5, .start (.act (greeting 1)), .advance 6, .start (.serve 1)] ++
    advances 7 9 ++
  [.start (.act (.close 0)), .advance 8, .start .disconnected] ++ advances 9 2 ++
  [.start (.act (.close 1)), .advance 10, .start .disconnected] ++ advances 11 3

def attendedRun (turns : List (Turn Call)) : Option GatewayPool :=
  Pool.replay (program deployment) (fun _ _ => handle deployment) attended World.blank turns

theorem quitting_completed : (attendedRun quitting).isSome := by decide +kernel

theorem haunting_completed : (run haunting).isSome := by decide +kernel

end Sample

end Vortex.Gateway
