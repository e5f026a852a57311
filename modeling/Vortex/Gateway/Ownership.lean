import Vortex.Gateway.Justified
import Vortex.Gateway.Moves

/-!
# Whose sockets are whose

In every run a cached session was stamped by a call that had verified the socket's own
token, the owner recorded on a socket and on its states is the one of that token, and
only connected sockets with a recorded owner are in rooms.
-/

namespace Vortex.Gateway

open Foundation

/-- The answered requests of a gateway, newest first. -/
abbrev History : Type := List (Event gateway Call)

/-- Some process had this exchange. -/
def Happened (history : History) (exchange : Proc.Exchange gateway) : Prop :=
  ∃ index, exchange ∈ Pool.exchanges history index

variable {deployment : Deployment} {guard : GatewayPool → Turn Call → Prop} {pool : GatewayPool}
  {world after : World} {history : History} {index : Nat} {call : Call} {request : Request}
  {answer : request.Answer}

theorem exchanges_grow {exchange : Proc.Exchange gateway}
    (known : exchange ∈ Pool.exchanges history index) (event : Event gateway Call) :
    exchange ∈ Pool.exchanges (event :: history) index := by
  obtain ⟨earlier, recorded, same⟩ := Pool.mem_exchanges.mp known
  exact Pool.mem_exchanges.mpr ⟨earlier, List.mem_cons_of_mem event recorded, same⟩

/-- An exchange is the newest one of its process, or an earlier one. -/
theorem exchanges_cases {exchange : Proc.Exchange gateway} {other : Nat}
    (known : exchange ∈ Pool.exchanges (⟨index, call, request, answer⟩ :: history) other) :
    (other = index ∧ exchange = ⟨request, answer⟩) ∨ exchange ∈ Pool.exchanges history other := by
  obtain ⟨event, recorded, mine, same⟩ := Pool.mem_exchanges.mp known
  rcases List.mem_cons.mp recorded with rfl | recorded
  · exact .inl ⟨mine.symm, same.symm⟩
  · exact .inr (Pool.mem_exchanges.mpr ⟨event, recorded, mine, same⟩)

theorem exchanges_self :
    ⟨request, answer⟩ ∈ Pool.exchanges (⟨index, call, request, answer⟩ :: history) index :=
  Pool.mem_exchanges.mpr ⟨_, List.mem_cons_self, rfl, rfl⟩

theorem happened_cases {exchange : Proc.Exchange gateway}
    (happened : Happened (⟨index, call, request, answer⟩ :: history) exchange) :
    exchange = ⟨request, answer⟩ ∨ Happened history exchange := by
  obtain ⟨other, known⟩ := happened
  exact (exchanges_cases known).imp And.right fun earlier => ⟨other, earlier⟩

/-- A pending request is justified by the earlier exchanges of its process. -/
theorem justified_pending (reached : (gatewaySystem deployment).Reachable guard pool)
    {next : request.Answer → Proc gateway Unit Bool}
    (pending : pool.threads[index]? = some ⟨call, .await request next⟩) :
    Discipline deployment call (Pool.exchanges pool.history index) request :=
  Pool.justified_of_pending reached pending (disciplined deployment call)

/-- A finished process has ended as its call says. -/
theorem ended_finished (reached : (gatewaySystem deployment).Reachable guard pool)
    {thread : Thread gateway Unit Bool Call} (found : pool.threads[index]? = some thread)
    {result : Except Unit Bool} (finished : thread.result? = some result) :
    Ended deployment thread.call (Pool.exchanges pool.history index) result := by
  have ended := Pool.ended_of_reachable reached found (disciplined deployment thread.call) finished
  have remembered : Pool.memory (discipline deployment thread.call) [] pool.history index = _ :=
    Pool.memory_recorder _ _ _
  rwa [remembered] at ended

/-- What holds of a fresh gateway and is kept by every justified answer holds in every
run. -/
theorem gateway_invariant {P : World → History → Prop} (start : ∀ world, Initial world → P world [])
    (step : ∀ (world after : World) (history : History) (index : Nat) (call : Call)
      (request : Request) (answer : request.Answer), P world history →
      Discipline deployment call (Pool.exchanges history index) request →
      handle deployment request world = some (answer, after) →
      P after (⟨index, call, request, answer⟩ :: history))
    (reached : (gatewaySystem deployment).Reachable guard pool) : P pool.shared pool.history := by
  refine reached.invariant (P := fun pool => P pool.shared pool.history) ?_ ?_
  · rintro _ ⟨world, initial, rfl⟩
    exact start world initial
  · intro before label later reached kept _ moved
    obtain ⟨call, -, rfl⟩ | ⟨index, call, request, next, answer, shared, -, pending, answered,
      rfl⟩ := Pool.step_cases moved
    · exact kept
    · exact step _ _ _ _ _ _ _ kept (justified_pending reached pending) answered

/-! ## Sessions and owners -/

theorem claims_of_verifyAuthToken {token : JsString} {claims : VerifiedClaims}
    (verified : verifyAuthToken deployment token world = .ok (some claims)) :
    deployment.claims token = some claims := by
  unfold verifyAuthToken at verified
  split at verified
  · cases verified
  · exact Except.ok.inj verified

/-- A call that had verified the socket's own token made this cache entry. -/
def Stamped (deployment : Deployment) (history : History) (socket : SocketId)
    (entry : SessionEntry) : Prop :=
  deployment.jwks = true ∧ ∃ index token, deployment.token socket = some token ∧
    ⟨.verifyAuthToken token, .ok (some ⟨entry.userId, entry.iat⟩)⟩ ∈
      Pool.exchanges history index ∧
    ⟨.setSession socket ⟨entry.userId, entry.iat⟩, entry.validatedAt⟩ ∈
      Pool.exchanges history index

/-- The user a socket's own token names. -/
def Deployment.user (deployment : Deployment) (socket : SocketId) : Option JsString :=
  (deployment.owner socket).map VerifiedClaims.userId

structure Sound (deployment : Deployment) (world : World) (history : History) : Prop where
  verified : ∀ token claims, Happened history ⟨.verifyAuthToken token, .ok (some claims)⟩ →
    deployment.claims token = some claims
  stamped : ∀ socket entry, (world.sockets socket).session = some entry →
    Stamped deployment history socket entry
  read : ∀ socket entry, Happened history ⟨.sessionOf socket, some entry⟩ →
    Stamped deployment history socket entry
  bounded : ∀ socket, (world.sockets socket).connected = true → socket < world.connections
  owners : ∀ socket userId, (world.sockets socket).dataUserId = some userId →
    deployment.user socket = some userId
  connected : ∀ socket, ∀ channelId ∈ (world.sockets socket).rooms,
    (world.sockets socket).connected = true
  recorded : ∀ socket, ∀ channelId ∈ (world.sockets socket).rooms,
    (world.sockets socket).dataUserId ≠ none
  established : ∀ socket userId serial, Happened history ⟨.establish socket userId, serial⟩ →
    (world.sockets socket).dataUserId ≠ none ∧
      deployment.user socket = some (world.states ⟨socket, serial⟩).userId
  held : ∀ ref, ∀ channelId ∈ (world.states ref).subscribedChannels,
    deployment.user ref.socket = some (world.states ref).userId

theorem Stamped.grow {socket : SocketId} {entry : SessionEntry}
    (stamped : Stamped deployment history socket entry) (event : Event gateway Call) :
    Stamped deployment (event :: history) socket entry := by
  obtain ⟨configured, index, token, carried, verified, set⟩ := stamped
  exact ⟨configured, index, token, carried, exchanges_grow verified event, exchanges_grow set event⟩

section

variable (sound : Sound deployment world history)

include sound

/-- A stamped session is the one of the socket's own token. -/
theorem Sound.owner {socket : SocketId}
    {entry : SessionEntry} (stamped : Stamped deployment history socket entry) :
    deployment.owner socket = some ⟨entry.userId, entry.iat⟩ := by
  obtain ⟨-, index, token, carried, verified, -⟩ := stamped
  rw [Deployment.owner, carried]
  exact sound.verified _ _ ⟨index, verified⟩

/-- A user id read from the cache of a socket is the one its token names. -/
theorem Sound.signed {socket : SocketId}
    {userId : JsString} (signed : Signed socket userId (Pool.exchanges history index)) :
    deployment.user socket = some userId := by
  obtain ⟨entry, rfl, cached⟩ := signed
  rw [Deployment.user, sound.owner (sound.read socket entry ⟨index, cached⟩)]
  rfl

theorem Sound.owns (justified : Discipline deployment call (Pool.exchanges history index) request)
    {socket : SocketId} {userId : JsString} (owns : (request.allowance world).owns socket userId) :
    deployment.user socket = some userId := by
  cases request with
  | enroll other owner validChannels denied =>
    obtain ⟨rfl, rfl⟩ := owns
    exact sound.signed justified.1.2.1
  | init other owner status =>
    obtain ⟨rfl, rfl⟩ := owns
    exact sound.signed justified.2.1
  | establish other owner =>
    obtain ⟨rfl, rfl⟩ := owns
    exact sound.signed justified.2.1
  | _ => cases owns

end

theorem userId_establish (socket : SocketId) (userId : JsString) (world : World) :
    ((world.establish socket userId).states (world.stateRef socket)).userId = userId := by
  unfold World.establish World.getOrCreateState
  dsimp only [World.setOwner, World.setSocket]
  split
  · exact congrArg GatewaySocketState.userId (states_setState_self _)
  · exact congrArg GatewaySocketState.userId (states_setState_self _)

theorem dataUserId_establish (socket : SocketId) (userId : JsString) (world : World) :
    ((world.establish socket userId).sockets socket).dataUserId = some userId :=
  congrArg SocketRecord.dataUserId (sockets_setSocket_self _)

/-- After an enrolment the state of the socket is under the user. -/
theorem userId_enroll (socket : SocketId) (userId : JsString) (validChannels denied : List JsString)
    (world : World) :
    ((world.enroll socket userId validChannels denied).states (world.stateRef socket)).userId =
      userId := by
  have rest : Moves ⟨fun _ _ => True, fun _ _ => True, fun _ _ => False, fun _ _ => True⟩
      (world.establish socket userId) (world.enroll socket userId validChannels denied) := by
    refine .trans ?_ (.trans (.broadcastPresenceToChannels _ _) (.emit _ _))
    exact .foldl (fun world channelId _ => .rejoin trivial trivial world) _
  rw [(rest.users _).resolve_right id, userId_establish]

theorem dataUserId_enroll (socket : SocketId) (userId : JsString)
    (validChannels denied : List JsString) (world : World) :
    ((world.enroll socket userId validChannels denied).sockets socket).dataUserId ≠ none := by
  have rest : Moves ⟨fun _ _ => True, fun _ _ => True, fun _ _ => True, fun _ _ => True⟩
      (world.establish socket userId) (world.enroll socket userId validChannels denied) := by
    refine .trans ?_ (.trans (.broadcastPresenceToChannels _ _) (.emit _ _))
    exact .foldl (fun world channelId _ => .rejoin trivial trivial world) _
  apply rest.kept
  rw [dataUserId_establish]
  exact Option.some_ne_none userId

section

variable (sound : Sound deployment world history)

include sound

section

variable (justified : Discipline deployment call (Pool.exchanges history index) request)

include justified

section

variable (answered : handle deployment request world = some (answer, after))

include answered

/-- A socket that enters a room has an owner recorded. -/
theorem Sound.joins {socket : SocketId}
    {channelId : JsString} (joins : (request.allowance world).joins socket channelId) :
    (after.sockets socket).dataUserId ≠ none := by
  cases request with
  | enroll other owner validChannels denied =>
    obtain ⟨rfl, -⟩ := joins
    cases answered
    exact dataUserId_enroll _ _ _ _ _
  | rejoin ref joined =>
    obtain ⟨rfl, rfl⟩ := joins
    obtain ⟨userId, -, -, -, -, -, established, -⟩ := justified
    exact (moves_of_handle answered).kept _ (sound.established _ _ _ ⟨index, established⟩).1
  | _ => cases joins

/-- A state that gains a channel is under the user of its socket. -/
theorem Sound.adds {ref : StateRef}
    {channelId : JsString} (adds : (request.allowance world).adds ref channelId) :
    deployment.user ref.socket = some (after.states ref).userId := by
  cases request with
  | enroll socket owner validChannels denied =>
    obtain ⟨rfl, -⟩ := adds
    cases answered
    rw [userId_enroll]
    exact sound.signed justified.1.2.1
  | rejoin other joined =>
    obtain ⟨rfl, rfl⟩ := adds
    obtain ⟨userId, -, -, -, -, -, established, -⟩ := justified
    rw [((moves_of_handle answered).users ref).resolve_right id]
    exact (sound.established _ _ _ ⟨index, established⟩).2
  | _ => cases adds

theorem Sound.users {ref : StateRef}
    (known : deployment.user ref.socket = some (world.states ref).userId) :
    deployment.user ref.socket = some (after.states ref).userId := by
  rcases (moves_of_handle answered).users ref with same | owns
  · rw [same]
    exact known
  · exact sound.owns justified owns

theorem Sound.step : Sound deployment after (⟨index, call, request, answer⟩ :: history) := by
  have moves := moves_of_handle answered
  have stamped : ∀ socket entry, (after.sockets socket).session = some entry →
      Stamped deployment (⟨index, call, request, answer⟩ :: history) socket entry := by
    intro socket entry cached
    rcases moves.session socket entry cached with early | validates
    · exact (sound.stamped socket entry early).grow _
    · cases request with
      | setSession other claims =>
        obtain ⟨rfl, rfl⟩ := validates
        obtain ⟨configured, token, carried, verified⟩ := justified
        cases answered
        exact ⟨configured, index, token, carried, exchanges_grow verified _, exchanges_self⟩
      | _ => cases validates
  constructor
  · intro token claims happened
    rcases happened_cases happened with new | earlier
    · cases new
      exact claims_of_verifyAuthToken (Prod.mk.inj (Option.some.inj answered)).1
    · exact sound.verified token claims earlier
  · exact stamped
  · intro socket entry happened
    rcases happened_cases happened with new | earlier
    · cases new
      have cached : (world.sockets socket).session = some entry :=
        (Prod.mk.inj (Option.some.inj answered)).1
      exact (sound.stamped socket entry cached).grow _
    · exact (sound.read socket entry earlier).grow _
  · intro socket connected
    rcases moves.gone socket connected with early | ⟨-, bound⟩
    · exact Nat.lt_of_lt_of_le (sound.bounded socket early) moves.bound
    · exact bound
  · intro socket userId recorded
    rcases moves.owner socket userId recorded with early | owns
    · exact sound.owners socket userId early
    · exact sound.owns justified owns
  · exact moves.housed sound.connected
  · intro socket channelId member
    rcases moves.rooms socket channelId member with early | joins
    · exact moves.kept socket (sound.recorded socket channelId early)
    · exact sound.joins justified answered joins
  · intro socket userId serial happened
    rcases happened_cases happened with new | earlier
    · cases new
      cases answered
      rw [dataUserId_establish]
      refine ⟨Option.some_ne_none userId, ?_⟩
      rw [sound.signed justified.2.1]
      exact congrArg some (userId_establish socket userId world).symm
    · obtain ⟨recorded, known⟩ := sound.established socket userId serial earlier
      have same : deployment.user (StateRef.mk socket serial).socket =
          some (after.states ⟨socket, serial⟩).userId := sound.users justified answered known
      exact ⟨moves.kept socket recorded, same⟩
  · intro ref channelId member
    rcases moves.channels ref channelId member with early | adds
    · exact sound.users justified answered (sound.held ref channelId early)
    · exact sound.adds justified answered adds

end

end

end

/-- The exchanges by which a handler learns whose a socket is. -/
def Request.isCredential : Request → Bool
  | .verifyAuthToken _ => true
  | .sessionOf _ => true
  | .establish _ _ => true
  | _ => false

/-- Another exchange by which nobody learns whose a socket is. -/
theorem Sound.unheard (sound : Sound deployment world history) (request : Request)
    (answer : request.Answer) (other : request.isCredential = false) :
    Sound deployment world (⟨index, call, request, answer⟩ :: history) where
  verified token claims happened := by
    rcases happened_cases happened with new | earlier
    · cases new
      cases other
    · exact sound.verified token claims earlier
  stamped socket entry cached := (sound.stamped socket entry cached).grow _
  read socket entry happened := by
    rcases happened_cases happened with new | earlier
    · cases new
      cases other
    · exact (sound.read socket entry earlier).grow _
  bounded := sound.bounded
  owners := sound.owners
  connected := sound.connected
  recorded := sound.recorded
  established socket userId serial happened := by
    rcases happened_cases happened with new | earlier
    · cases new
      cases other
    · exact sound.established socket userId serial earlier
  held := sound.held

/-- Nothing about ownership changes when no socket and no state gains anything. -/
theorem Sound.moves (sound : Sound deployment world history) (moves : Moves .nothing world after) :
    Sound deployment after history where
  verified := sound.verified
  stamped socket entry cached :=
    sound.stamped socket entry ((moves.session socket entry cached).resolve_right id)
  read := sound.read
  bounded socket connected := by
    rcases moves.gone socket connected with early | ⟨-, bound⟩
    · exact Nat.lt_of_lt_of_le (sound.bounded socket early) moves.bound
    · exact bound
  owners socket userId recorded :=
    sound.owners socket userId ((moves.owner socket userId recorded).resolve_right id)
  connected := moves.housed sound.connected
  recorded socket channelId member :=
    moves.kept socket (sound.recorded socket channelId
      ((moves.rooms socket channelId member).resolve_right id))
  established socket userId serial happened := by
    obtain ⟨recorded, known⟩ := sound.established socket userId serial happened
    exact ⟨moves.kept socket recorded,
      ((moves.users ⟨socket, serial⟩).resolve_right id).symm ▸ known⟩
  held ref channelId member := by
    rw [(moves.users ref).resolve_right id]
    exact sound.held ref channelId ((moves.channels ref channelId member).resolve_right id)

theorem sound_initial (initial : Initial world) : Sound deployment world [] := by
  obtain ⟨outcomes, rfl⟩ := initial
  have nothing : ∀ exchange, ¬ Happened [] exchange := by
    rintro exchange ⟨index, known⟩
    cases known
  constructor
  · exact fun _ _ happened => (nothing _ happened).elim
  · exact fun _ _ impossible => nomatch impossible
  · exact fun _ _ happened => (nothing _ happened).elim
  · exact fun _ impossible => nomatch impossible
  · exact fun _ _ impossible => nomatch impossible
  · exact fun _ _ impossible => nomatch impossible
  · exact fun _ _ impossible => nomatch impossible
  · exact fun _ _ _ happened => (nothing _ happened).elim
  · exact fun _ _ impossible => nomatch impossible

theorem ownership_of_reachable (reached : (gatewaySystem deployment).Reachable guard pool) :
    Sound deployment pool.shared pool.history :=
  gateway_invariant (P := Sound deployment) (fun _ => sound_initial)
    (fun _ _ _ _ _ _ _ sound justified answered => sound.step justified answered) reached

end Vortex.Gateway
