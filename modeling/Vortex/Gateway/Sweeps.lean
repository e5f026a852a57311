import Vortex.Gateway.Senders

/-!
# Sockets after a session revocation

A revocation writes a cutoff and then disconnects the sockets that are recorded as the
user's. A socket has no owner recorded until a handler of it has been let through, so a
handler that was let through before the cutoff enters rooms after the sweep.
`sessions_revoked` is about the runs in which no lookup overlooks such a socket, and the
cutoff stays in force.
-/

namespace Vortex.Gateway

open Foundation

variable {deployment : Deployment} {guard : GatewayPool → Turn Call → Prop}
  {pool before after : GatewayPool} {world shared : World} {history : History} {index : Nat}
  {call : Call} {request : Request} {answer : request.Answer} {userId : JsString}
  {socket : SocketId} {claims : VerifiedClaims}

/-! ## Let through -/

/-- A handler of a subscription or resume of a socket has read the claims as not revoked. -/
def Passed (socket : SocketId) (claims : VerifiedClaims) (seen : Exchanges) : Prop :=
  (∃ message : ClientMessage, ⟨.receive socket, message⟩ ∈ seen ∧
      (message.event = .subscribe ∨ message.event = .resume)) ∧
    ⟨.isRevoked claims.userId claims.iat, .ok false⟩ ∈ seen

theorem not_passed_nil : ¬ Passed socket claims [] :=
  fun passed => absurd passed.2 List.not_mem_nil

/-- A handler that was let through as a user acts for the owner of its socket. -/
theorem Sound.clear (sound : Sound deployment world history)
    (entitled : Entitled deployment call socket userId (Pool.exchanges history index))
    (owned : deployment.owner socket = some claims) :
    ⟨.isRevoked claims.userId claims.iat, .ok false⟩ ∈ Pool.exchanges history index := by
  obtain ⟨-, ⟨entry, -, cached⟩, accepted⟩ := entitled
  obtain ⟨configured, -⟩ := sound.read socket entry ⟨index, cached⟩
  obtain ⟨validated, stamp, decided, vouched, clear, -⟩ := accepted configured
  have same : deployment.owner socket = some validated := by
    rcases vouched with ⟨read, -, -⟩ | ⟨token, carried, verified, -, -⟩
    · exact sound.owner (sound.read socket _ ⟨index, read⟩)
    · rw [Deployment.owner, carried]
      exact sound.verified token validated ⟨index, verified⟩
  rw [owned] at same
  cases same
  exact clear

/-- Who enters a room was let through by a handler of a subscription or resume. -/
theorem passed_of_joins (reached : (gatewaySystem deployment).Reachable guard pool)
    {next : request.Answer → Proc gateway Unit Bool}
    (waiting : pool.threads[index]? = some ⟨call, .await request next⟩) {channelId : JsString}
    (joins : (request.allowance pool.shared).joins socket channelId)
    (owned : deployment.owner socket = some claims) :
    Passed socket claims (Pool.exchanges pool.history index) := by
  have sound := ownership_of_reachable reached
  have justified := justified_pending reached waiting
  have checked : ∀ userId channelIds, ∀ granted : List JsString,
      ⟨.checkChannelAccess userId channelIds, granted⟩ ∈ Pool.exchanges pool.history index →
      Entitled deployment call socket userId (Pool.exchanges pool.history index) →
      Passed socket claims (Pool.exchanges pool.history index) := by
    intro userId channelIds granted known entitled
    refine ⟨?_, sound.clear entitled owned⟩
    obtain ⟨seen, kept, other, message, serves, received, event⟩ :=
      Pool.justified_of_reachable reached waiting (disciplined deployment call) known
    have same : socket = other := Call.serve.inj (entitled.1.symm.trans serves)
    exact ⟨message, kept _ (same ▸ received), event⟩
  cases request with
  | enroll other userId validChannels denied =>
    obtain ⟨rfl, -⟩ := joins
    obtain ⟨entitled, ⟨channelIds, known⟩, -⟩ := justified
    exact checked _ _ _ known entitled
  | rejoin ref joined =>
    obtain ⟨rfl, rfl⟩ := joins
    obtain ⟨userId, channelIds, granted, entitled, known, -⟩ := justified
    exact checked _ _ _ known entitled
  | _ => cases joins

/-! ## Revocations -/

/-- The token of a socket was issued before a cutoff of its user. -/
def Old (deployment : Deployment) (userId : JsString) (cutoffMs : Nat) (socket : SocketId)
    (claims : VerifiedClaims) : Prop :=
  deployment.owner socket = some claims ∧ claims.userId = userId ∧ claims.iat * 1000 < cutoffMs

/-- A socket that was connected and will not be again. -/
def Gone (world : World) (socket : SocketId) : Prop :=
  (world.sockets socket).connected = false ∧ socket < world.connections

/-- Cutoffs stay in force and lookups overlook nobody: a cutoff never replaces a later
one; a token is not compared with a cutoff that would revoke it after that has expired;
and when a revocation looks up the sockets, no handler was let through for a socket with
an old token that is not found, as no owner is recorded for it yet. -/
def InForce (deployment : Deployment) (pool : GatewayPool) : Turn Call → Prop
  | .start _ => True
  | .advance index =>
      (∀ call userId cutoffMs next,
        pool.threads[index]? = some ⟨call, .await (.persistCutoff userId cutoffMs) next⟩ →
        ∀ entry, pool.shared.revocations userId = some entry → entry.cutoffMs ≤ cutoffMs) ∧
      (∀ call userId iat next,
        pool.threads[index]? = some ⟨call, .await (.isRevoked userId iat) next⟩ →
        ∀ entry, pool.shared.revocations userId = some entry → iat * 1000 < entry.cutoffMs →
        pool.shared.clock ≤ entry.expiresAt) ∧
      ∀ userId next,
        pool.threads[index]? = some ⟨.revokeSessions userId, .await (.fetchSockets none) next⟩ →
        ∀ cutoffMs, ⟨.persistCutoff userId cutoffMs, true⟩ ∈ Pool.exchanges pool.history index →
        ∀ socket claims, Old deployment userId cutoffMs socket claims →
        (socket, some userId) ∉ pool.shared.connectedIn none → ¬ Gone pool.shared socket →
        ¬ pool.Pending (Passed socket claims)

/-- What holds after a cutoff was persisted: the store has it or a later one; and once
the sockets have been looked up, each socket with an old token is gone, or was found and
is still to be disconnected, or is in no room and nobody is let through for it. -/
structure CutOff (deployment : Deployment) (pool : GatewayPool) (revocation : Nat)
    (userId : JsString) (cutoffMs : Nat) : Prop where
  stored : ∃ entry, pool.shared.revocations userId = some entry ∧ cutoffMs ≤ entry.cutoffMs
  swept : ∀ sockets, ⟨.fetchSockets none, .ok sockets⟩ ∈ Pool.exchanges pool.history revocation →
    ∀ socket claims, Old deployment userId cutoffMs socket claims →
      Gone pool.shared socket ∨
      ((socket, some userId) ∈ sockets ∧ socket < pool.shared.connections ∧
        ∀ all, ⟨.disconnectAll userId all, ()⟩ ∉ Pool.exchanges pool.history revocation) ∨
      ((pool.shared.sockets socket).rooms = [] ∧ ¬ pool.Pending (Passed socket claims))

/-- The processes that had exchanged something before a process did so for the last time. -/
def Overlapped (history : History) (last other : Nat) : Prop :=
  ∃ later event earlier, history = later ++ event :: earlier ∧ event.thread = last ∧
    ∃ known ∈ earlier, known.thread = other

/-- Once a revocation has completed and all that was in flight meanwhile has finished, no
socket whose token was issued before the cutoff is in a room. -/
def SessionsRevoked (deployment : Deployment) (pool : GatewayPool) : Prop :=
  ∀ revocation userId cutoffMs,
    pool.threads[revocation]? = some ⟨.revokeSessions userId, .done (.ok true)⟩ →
    ⟨.persistCutoff userId cutoffMs, true⟩ ∈ Pool.exchanges pool.history revocation →
    (∀ other thread, Overlapped pool.history revocation other →
      pool.threads[other]? = some thread → ∃ result, thread.rest = .done result) →
    ∀ socket claims, Old deployment userId cutoffMs socket claims →
      (pool.shared.sockets socket).rooms = []

/-! ## What a step keeps -/

theorem connected_close (world : World) :
    ((world.close socket).sockets socket).connected = false := by
  unfold World.close
  dsimp only
  split
  · rename_i gone
    simpa using gone
  · split
    · rw [sockets_setSocket_self]
    · rw [sockets_setSocket_self]

/-- The user's sockets that were found are gone after the sweep. -/
theorem connected_disconnectAll {sockets : List (SocketId × Option JsString)}
    (found : (socket, some userId) ∈ sockets) (world : World) :
    ((world.disconnectAll userId sockets).sockets socket).connected = false := by
  have stays : ∀ (sockets : List (SocketId × Option JsString)) (world : World),
      (world.sockets socket).connected = false →
      ((world.disconnectAll userId sockets).sockets socket).connected = false := by
    intro sockets world gone
    have services : (world.disconnectAll userId sockets).services.connections =
        world.services.connections := by rw [World.services_disconnectAll]
    have same : (world.disconnectAll userId sockets).connections = world.connections := services
    by_contra connected
    have moves : Moves .nothing world (world.disconnectAll userId sockets) := .disconnectAll _ _ _
    rcases moves.gone socket (by simpa using connected) with early | ⟨low, high⟩
    · rw [gone] at early
      cases early
    · exact absurd (Nat.lt_of_lt_of_eq high same) (Nat.not_lt.mpr low)
  induction sockets generalizing world with
  | nil => cases found
  | cons other sockets ih =>
    rcases List.mem_cons.mp found with rfl | found
    · apply stays sockets
      dsimp only
      rw [if_pos rfl]
      exact connected_close _
    · exact ih found _

/-- The lookup of a revocation finds every connected socket with an owner recorded. -/
theorem Sound.looked (sound : Sound deployment world history)
    (owned : deployment.user socket = some userId) {channelId : JsString}
    (member : channelId ∈ (world.sockets socket).rooms) :
    (socket, some userId) ∈ world.connectedIn none := by
  have within := sound.found owned member
  unfold World.connectedIn at within ⊢
  obtain ⟨other, known, same⟩ := List.mem_map.mp within
  obtain ⟨bound, both⟩ := List.mem_filter.mp known
  refine List.mem_map.mpr ⟨other, List.mem_filter.mpr ⟨bound, ?_⟩, same⟩
  simpa using (Bool.and_eq_true _ _ ▸ both).1

theorem isRevoked_of_answered {iat : Nat}
    (answered : handle deployment (.isRevoked userId iat) world = some (.ok false, shared)) :
    world.isRevoked userId iat = false := by
  have outcome : (if world.storeDown then (.error () : Except Unit Bool)
      else .ok (world.isRevoked userId iat)) = .ok false :=
    (Prod.mk.inj (Option.some.inj answered)).1
  split at outcome
  · cases outcome
  · exact Except.ok.inj outcome

theorem connectedIn_of_answered {room : Option JsString}
    {sockets : List (SocketId × Option JsString)}
    (answered : handle deployment (.fetchSockets room) world = some (.ok sockets, shared)) :
    sockets = world.connectedIn room ∧ world = shared := by
  obtain ⟨found, same⟩ := Prod.mk.inj (Option.some.inj answered)
  refine ⟨?_, same⟩
  have outcome : (if world.adapterDown then .error ()
      else (.ok (world.connectedIn room) : Except Unit (List (SocketId × Option JsString)))) =
        .ok sockets := found
  split at outcome
  · cases outcome
  · exact (Except.ok.inj outcome).symm

/-- Nobody is let through for an old token while the cutoff is in force. -/
theorem not_passed_of_step (reached : (gatewaySystem deployment).Reachable guard before)
    {label : Turn Call} (admitted : InForce deployment before label)
    (moved : (gatewaySystem deployment).step before label after)
    {entry : Revocation} (stored : before.shared.revocations claims.userId = some entry)
    (old : claims.iat * 1000 < entry.cutoffMs) (clear : ¬ before.Pending (Passed socket claims)) :
    ¬ after.Pending (Passed socket claims) := by
  intro pending
  rcases Pool.pending_of_step not_passed_nil reached moved pending with early |
    ⟨index, call, request, next, answer, rfl, waiting, answered, -, ⟨message, known, event⟩, read⟩
  · exact clear early
  have passed : Passed socket claims (Pool.exchanges before.history index) → False :=
    fun passed => clear ⟨index, _, waiting, ⟨request, next, rfl⟩, passed⟩
  rcases List.mem_append.mp known with received | new
  · rcases List.mem_append.mp read with clear | new
    · exact passed ⟨⟨message, received, event⟩, clear⟩
    · cases List.mem_singleton.mp new
      have live := admitted.2.1 call claims.userId claims.iat next waiting entry stored old
      have revoked : before.shared.isRevoked claims.userId claims.iat = true := by
        simp [World.isRevoked, stored, live, old]
      rw [isRevoked_of_answered answered] at revoked
      cases revoked
  · cases List.mem_singleton.mp new
    have first : Pool.exchanges before.history index = [] := justified_pending reached waiting
    rw [first, List.nil_append] at read
    cases List.mem_singleton.mp read

/-- A cutoff is only replaced by later ones. -/
theorem stored_of_step {label : Turn Call} (admitted : InForce deployment before label)
    (moved : (gatewaySystem deployment).step before label after) {cutoffMs : Nat}
    (stored : ∃ entry, before.shared.revocations userId = some entry ∧ cutoffMs ≤ entry.cutoffMs) :
    ∃ entry, after.shared.revocations userId = some entry ∧ cutoffMs ≤ entry.cutoffMs := by
  obtain ⟨call, -, rfl⟩ | ⟨index, call, request, next, answer, shared, rfl, waiting, answered,
    rfl⟩ := Pool.step_cases moved
  · exact stored
  · cases decides_of_handle answered with
    | none _ same =>
      dsimp only
      rwa [same.revocations]
    | add other joined members revocations =>
      dsimp only
      rwa [revocations]
    | delete other left members revocations =>
      dsimp only
      rwa [revocations]
    | revoke other later members revocations =>
      obtain ⟨entry, recorded, above⟩ := stored
      dsimp only
      rw [revocations]
      by_cases same : userId = other
      · subst same
        rw [Function.update_self]
        have grows := admitted.1 call userId later next waiting entry recorded
        exact ⟨_, rfl, Nat.le_trans above grows⟩
      · rw [Function.update_of_ne same]
        exact ⟨entry, recorded, above⟩

theorem Old.user {cutoffMs : Nat} (old : Old deployment userId cutoffMs socket claims) :
    deployment.user socket = some userId := by
  rw [Deployment.user, old.1, ← old.2.1]
  rfl

theorem cutOff_step (reached : (gatewaySystem deployment).Reachable (InForce deployment) before)
    {label : Turn Call} (admitted : InForce deployment before label)
    (moved : (gatewaySystem deployment).step before label after)
    (kept : ∀ revocation userId cutoffMs,
      ⟨.persistCutoff userId cutoffMs, true⟩ ∈ Pool.exchanges before.history revocation →
      CutOff deployment before revocation userId cutoffMs) {revocation cutoffMs : Nat}
    (persisted : ⟨.persistCutoff userId cutoffMs, true⟩ ∈ Pool.exchanges after.history revocation) :
    CutOff deployment after revocation userId cutoffMs := by
  have sound := ownership_of_reachable reached
  obtain ⟨call, -, rfl⟩ | ⟨index, call, request, next, answer, shared, rfl, waiting, answered,
    rfl⟩ := Pool.step_cases moved
  · have same := kept revocation userId cutoffMs persisted
    refine ⟨same.stored, fun sockets fetched socket claims old => ?_⟩
    rcases same.swept sockets fetched socket claims old with gone | listed | ⟨empty, clear⟩
    · exact .inl gone
    · exact .inr (.inl listed)
    · obtain ⟨entry, stored, above⟩ := same.stored
      rw [← old.2.1] at stored
      exact .inr (.inr ⟨empty, not_passed_of_step reached admitted moved stored
        (Nat.lt_of_lt_of_le old.2.2 above) clear⟩)
  · have justified := justified_pending reached waiting
    rcases exchanges_cases persisted with ⟨rfl, new⟩ | earlier
    · cases new
      constructor
      · dsimp only [handle] at answered
        split at answered
        · cases answered
        · cases answered
          exact ⟨_, Function.update_self .., Nat.le_refl _⟩
      · intro sockets fetched
        rcases exchanges_cases fetched with ⟨-, impossible⟩ | early
        · cases impossible
        · cases justified.2 _ early
    · have same := kept revocation userId cutoffMs earlier
      refine ⟨stored_of_step admitted moved same.stored,
        fun sockets fetched socket claims old => ?_⟩
      obtain ⟨entry, stored, above⟩ := same.stored
      rw [← old.2.1] at stored
      have unpassed : ¬ before.Pending (Passed socket claims) →
          ¬ Pool.Pending (Passed socket claims) _ :=
        not_passed_of_step reached admitted moved stored (Nat.lt_of_lt_of_le old.2.2 above)
      have moves := moves_of_handle answered
      rcases exchanges_cases fetched with ⟨rfl, new⟩ | early
      · cases new
        obtain ⟨found, rfl⟩ := connectedIn_of_answered answered
        have called : call = .revokeSessions userId := by
          obtain ⟨seen, -, justified⟩ := Pool.justified_of_reachable reached waiting
            (disciplined deployment call) earlier
          exact justified.1
        cases called
        by_cases known : (socket, some userId) ∈ sockets
        · refine .inr (.inl ⟨known, ?_, fun all done => ?_⟩)
          · rw [found] at known
            obtain ⟨other, member, same⟩ := List.mem_map.mp known
            rw [← (Prod.mk.inj same).1]
            exact List.mem_range.mp (List.mem_filter.mp member).1
          · rcases exchanges_cases done with ⟨-, impossible⟩ | early
            · cases impossible
            · cases justified _ early
        · by_cases gone : Gone before.shared socket
          · exact .inl gone
          · right
            right
            rw [found] at known
            refine ⟨List.eq_nil_iff_forall_not_mem.mpr fun channelId member => ?_,
              unpassed (admitted.2.2 userId next waiting cutoffMs earlier socket claims old known gone)⟩
            exact known (sound.looked old.user member)
      · rcases same.swept sockets early socket claims old with ⟨gone, bound⟩ | ⟨listed, bound, undone⟩ |
          ⟨empty, clear⟩
        · left
          refine ⟨?_, Nat.lt_of_lt_of_le bound moves.bound⟩
          by_contra connected
          rcases moves.gone socket (by simpa using connected) with early | ⟨low, -⟩
          · rw [gone] at early
            cases early
          · exact absurd bound (Nat.not_lt.mpr low)
        · by_cases done : ∃ all, ⟨.disconnectAll userId all, ()⟩ ∈
              Pool.exchanges (⟨index, call, request, answer⟩ :: before.history) revocation
          · obtain ⟨all, done⟩ := done
            rcases exchanges_cases done with ⟨rfl, new⟩ | already
            · cases new
              cases justified.2 _ early
              cases answered
              exact .inl ⟨connected_disconnectAll listed _, Nat.lt_of_lt_of_le bound moves.bound⟩
            · exact absurd already (undone all)
          · exact .inr (.inl ⟨listed, Nat.lt_of_lt_of_le bound moves.bound,
              fun all known => done ⟨all, known⟩⟩)
        · right
          right
          refine ⟨List.eq_nil_iff_forall_not_mem.mpr fun channelId member => ?_, unpassed clear⟩
          rcases moves.rooms socket channelId member with early | joins
          · rw [empty] at early
            cases early
          · exact clear ⟨index, _, waiting, ⟨request, next, rfl⟩,
              passed_of_joins reached waiting joins old.1⟩

theorem cutOff_of_reachable (reached : (gatewaySystem deployment).Reachable (InForce deployment) pool)
    {revocation cutoffMs : Nat}
    (persisted : ⟨.persistCutoff userId cutoffMs, true⟩ ∈ Pool.exchanges pool.history revocation) :
    CutOff deployment pool revocation userId cutoffMs := by
  revert revocation userId cutoffMs
  refine reached.invariant (P := fun pool => ∀ {userId : JsString} {revocation cutoffMs : Nat},
    ⟨.persistCutoff userId cutoffMs, true⟩ ∈ Pool.exchanges pool.history revocation →
    CutOff deployment pool revocation userId cutoffMs) ?_ ?_
  · rintro _ ⟨world, -, rfl⟩ userId revocation cutoffMs persisted
    cases persisted
  · intro before label after reached kept admitted moved userId revocation cutoffMs
    exact cutOff_step reached admitted moved fun _ _ _ => kept

/-- In every run in which cutoffs stay in force and no lookup overlooks a socket that a
handler was let through for, revocations are complete in every state. -/
theorem sessions_revoked (reached : (gatewaySystem deployment).Reachable (InForce deployment) pool) :
    SessionsRevoked deployment pool := by
  intro revocation userId cutoffMs finished persisted _ socket claims old
  obtain ⟨-, sockets, -, fetched, done⟩ := ended_finished reached finished rfl
  rcases (cutOff_of_reachable reached persisted).swept sockets fetched socket claims old with
    ⟨gone, -⟩ | ⟨-, -, undone⟩ | ⟨empty, -⟩
  · refine List.eq_nil_iff_forall_not_mem.mpr fun channelId member => ?_
    rw [(ownership_of_reachable reached).connected socket channelId member] at gone
    cases gone
  · exact absurd done (undone sockets)
  · exact empty

/-! ## Samples -/

def Request.readsRevocation : Request → Bool
  | .isRevoked _ _ => true
  | _ => false

/-- Check that cutoffs stay in force, and that the sockets are looked up when no handler
in flight has read a cutoff. -/
def inForce (pool : GatewayPool) : Turn Call → Bool
  | .start _ => true
  | .advance index =>
      match pool.threads[index]? with
      | some ⟨_, .await (.persistCutoff userId cutoffMs) _⟩ =>
          (pool.shared.revocations userId).all fun entry => entry.cutoffMs ≤ cutoffMs
      | some ⟨_, .await (.isRevoked userId _) _⟩ =>
          (pool.shared.revocations userId).all fun entry => pool.shared.clock ≤ entry.expiresAt
      | some ⟨_, .await (.fetchSockets none) _⟩ =>
          (List.range pool.threads.length).all fun other =>
            (pool.threads[other]?.bind Thread.result?).isSome ||
              (Pool.exchanges pool.history other).all fun exchange => !exchange.1.readsRevocation
      | _ => true

theorem inForce_sound {turn : Turn Call} (checked : inForce pool turn = true) :
    InForce deployment pool turn := by
  cases turn with
  | start call => trivial
  | advance index =>
    unfold inForce at checked
    dsimp only at checked
    refine ⟨fun call userId cutoffMs next waiting entry recorded => ?_,
      fun call userId iat next waiting entry recorded _ => ?_,
      fun userId next waiting cutoffMs _ socket claims _ _ _ => ?_⟩
    · rw [waiting] at checked
      dsimp only at checked
      rw [recorded] at checked
      exact of_decide_eq_true checked
    · rw [waiting] at checked
      dsimp only at checked
      rw [recorded] at checked
      exact of_decide_eq_true checked
    · rw [waiting] at checked
      rintro ⟨other, thread, found, flying, -, read⟩
      obtain ⟨bound, -⟩ := List.getElem?_eq_some_iff.mp found
      have either := List.all_eq_true.mp checked other (List.mem_range.mpr bound)
      rw [found, Option.bind_some, thread.inFlight_iff_result?.mp flying] at either
      have silent : (Pool.exchanges pool.history other).all
          (fun exchange => !exchange.1.readsRevocation) = true := by simpa using either
      cases List.all_eq_true.mp silent _ read

namespace Sample

/-- The subscription is finished before the sessions are revoked. -/
def revokingSessions : List (Turn Call) :=
  subscribing ++ advances 3 9 ++ [.start (.act (.wait 5000)), .advance 4,
    .start (.revokeSessions (js "alice"))] ++ advances 5 4

/-- The sessions are revoked while the subscription is let through but has not joined. -/
def overlooked : List (Turn Call) :=
  subscribing ++ advances 3 5 ++ [.start (.act (.wait 5000)), .advance 4,
    .start (.revokeSessions (js "alice"))] ++ advances 5 4 ++ advances 3 4

def inForceRun (turns : List (Turn Call)) : Option GatewayPool :=
  Pool.replay (program Sample.deployment) (fun _ _ => handle Sample.deployment) inForce
    World.blank turns

theorem revokingSessions_completed : (inForceRun revokingSessions).isSome := by decide

theorem overlooked_completed : (run overlooked).isSome := by decide

end Sample

/-- The sessions of a user who had joined a room are revoked. -/
theorem joined_session_revoked :
    ((Sample.inForceRun Sample.revokingSessions).get Sample.revokingSessions_completed).threads[5]? =
        some ⟨.revokeSessions (js "alice"), .done (.ok true)⟩ ∧
      SessionsRevoked Sample.deployment
        ((Sample.inForceRun Sample.revokingSessions).get Sample.revokingSessions_completed) :=
  ⟨rfl, sessions_revoked (Pool.reachable_of_replay (fun _ _ => inForce_sound)
    ⟨fun _ => [], rfl⟩ Sample.revokingSessions_completed)⟩

/-- A handler that was let through before the cutoff enters a room after the sweep. -/
theorem revoked_session_in_room :
    ¬ ∀ (deployment : Deployment) (pool : GatewayPool),
      (gatewaySystem deployment).Reachable System.unguarded pool →
      SessionsRevoked deployment pool := by
  intro complete
  have finished : ((Sample.run Sample.overlooked).get Sample.overlooked_completed).threads.all
      (fun thread => thread.result?.isSome) = true := by decide
  have empty := complete Sample.deployment _ (Sample.run_reachable Sample.overlooked_completed) 5
    (js "alice") 5000 rfl ?_ ?_ 0 ⟨js "alice", 1⟩ ⟨rfl, rfl, by decide⟩
  · have joined : (((Sample.run Sample.overlooked).get
        Sample.overlooked_completed).shared.sockets 0).rooms = [js "dm"] := by decide
    rw [joined] at empty
    cases empty
  · exact Pool.mem_exchanges.mpr ⟨⟨5, _, .persistCutoff (js "alice") 5000, true⟩,
      List.mem_of_getElem? (i := 6) rfl, rfl, rfl⟩
  · intro other thread _ found
    have ended := List.all_eq_true.mp finished thread (List.mem_of_getElem? found)
    obtain ⟨call, result | ⟨request, next⟩⟩ := thread
    · exact ⟨result, rfl⟩
    · cases ended

end Vortex.Gateway
