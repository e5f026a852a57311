import Vortex.Gateway.Ownership

/-!
# What a successful validation has established

Whatever else goes on in the gateway, an answer `true` of `validateSession` rests on a
stamp made right after the socket's own token was verified, on an age below the limit
when it was tested, and on a revocation read of the same call.
-/

namespace Vortex.Gateway

open Foundation

/-- What a call of `validateSession` that ended in `true` rests on: a cache entry for
the socket, made by a call that had verified the socket's own token; the moment at which
its age was judged (its stamp itself when the call made it); and the answer of the
revocation store in this call. -/
structure Vouched (deployment : Deployment) (history : History) (index : Nat)
    (socket : SocketId) : Prop where
  vouched : ∃ token, ∃ claims : VerifiedClaims, ∃ stamp decided : Nat,
    deployment.token socket = some token ∧
    (∃ stamping, ⟨.verifyAuthToken token, .ok (some claims)⟩ ∈ Pool.exchanges history stamping ∧
      ⟨.setSession socket claims, stamp⟩ ∈ Pool.exchanges history stamping) ∧
    (⟨.sessionOf socket, some ⟨stamp, claims.userId, claims.iat⟩⟩ ∈ Pool.exchanges history index ∧
        ⟨.now, decided⟩ ∈ Pool.exchanges history index ∨
      ⟨.setSession socket claims, decided⟩ ∈ Pool.exchanges history index) ∧
    decided < stamp + SESSION_FALLBACK_MAX_AGE_MS ∧
    ⟨.isRevoked claims.userId claims.iat, .ok false⟩ ∈ Pool.exchanges history index
  answered : ∀ userId iat, ⟨.isRevoked userId iat, .error ()⟩ ∉ Pool.exchanges history index

theorem vouched_of_accepted {deployment : Deployment} {world : World} {history : History}
    {index : Nat} {socket : SocketId} (sound : Sound deployment world history)
    (accepted : Accepted deployment socket (Pool.exchanges history index)) :
    Vouched deployment history index socket := by
  obtain ⟨claims, stamp, decided, validated, clear, answered⟩ := accepted
  refine ⟨?_, answered⟩
  rcases validated with ⟨cached, tested, young⟩ | ⟨token, carried, verified, stamped, rfl⟩
  · obtain ⟨-, stamping, token, carried, verified, set⟩ :=
      sound.read socket ⟨stamp, claims.userId, claims.iat⟩ ⟨index, cached⟩
    exact ⟨token, claims, stamp, decided, carried, ⟨stamping, verified, set⟩,
      .inl ⟨cached, tested⟩, young, clear⟩
  · refine ⟨token, claims, decided, decided, carried, ⟨index, verified, stamped⟩, .inr stamped,
      ?_, clear⟩
    exact Nat.lt_add_of_pos_right (by decide)

/-- With a JWKS configured, in every run a validation that answers `true` is vouched
for. The decision is the age test: the answer follows it without another look at the
clock. -/
theorem validateSession_sound {deployment : Deployment} (configured : deployment.jwks = true)
    {pool : GatewayPool}
    (reached : (gatewaySystem deployment).Reachable System.unguarded pool) {index : Nat}
    {socket : SocketId}
    (accepted : pool.threads[index]? = some ⟨.validate socket, .done (.ok true)⟩) :
    Vouched deployment pool.history index socket :=
  vouched_of_accepted (ownership_of_reachable reached)
    (ended_finished reached accepted rfl configured)

/-- In every run a socket is taken for the user its own token names: in its cached session, in its
recorded owner, and in its states with subscriptions. One in a room is connected and has an
owner. -/
theorem sockets_owned {deployment : Deployment} {guard : GatewayPool → Turn Call → Prop}
    {pool : GatewayPool} (reached : (gatewaySystem deployment).Reachable guard pool)
    (socket : SocketId) :
    (∀ entry, (pool.shared.sockets socket).session = some entry →
      deployment.owner socket = some ⟨entry.userId, entry.iat⟩) ∧
    (∀ userId, (pool.shared.sockets socket).dataUserId = some userId →
      deployment.user socket = some userId) ∧
    (∀ serial, ∀ channelId ∈ (pool.shared.states ⟨socket, serial⟩).subscribedChannels,
      deployment.user socket = some (pool.shared.states ⟨socket, serial⟩).userId) ∧
    ∀ channelId ∈ (pool.shared.sockets socket).rooms,
      (pool.shared.sockets socket).connected = true ∧ deployment.user socket ≠ none := by
  have sound := ownership_of_reachable reached
  refine ⟨fun entry cached => sound.owner (sound.stamped socket entry cached),
    sound.owners socket, fun serial => sound.held ⟨socket, serial⟩, fun channelId member => ?_⟩
  obtain ⟨userId, recorded⟩ :=
    Option.ne_none_iff_exists'.mp (sound.recorded socket channelId member)
  refine ⟨sound.connected socket channelId member, ?_⟩
  rw [sound.owners socket userId recorded]
  exact Option.some_ne_none userId

namespace Sample

/-- One replica, one token, and the user it names; it verifies at any time. -/
def deployment : Deployment where
  jwks := true
  token socket := some (js "token-" ++ decimalText socket)
  replica _ := 0
  payload _ := ⟨some (js "alice"), some 1⟩
  verifies _ _ := true
  uuid number := List.replicate number 48
  distinct first second same := by simpa using congrArg List.length same

/-- Let a process answer so many requests. -/
def advances (index count : Nat) : List (Turn Call) := List.replicate count (.advance index)

/-- A socket connects, is validated, and is validated again after the keys were lost. -/
def validating : List (Turn Call) :=
  [.start (.act .connect), .advance 0, .start (.validate 0)] ++ advances 1 4 ++
    [.start (.act (.jwks true)), .advance 2, .start (.act (.wait 12000)), .advance 3,
      .start (.validate 0)] ++ advances 4 5

def run (turns : List (Turn Call)) : Option GatewayPool :=
  Pool.replay (program deployment) (fun _ _ => handle deployment) (fun _ _ => true) World.blank turns

theorem run_reachable {turns : List (Turn Call)} (completed : (run turns).isSome) :
    (gatewaySystem deployment).Reachable System.unguarded ((run turns).get completed) :=
  Pool.reachable_of_replay (fun _ _ _ => trivial) ⟨fun _ => [], rfl⟩ completed

theorem validating_completed : (run validating).isSome := by decide

end Sample

/-- The second validation falls back on the stamp of the first. -/
theorem fallback_vouched :
    Vouched Sample.deployment
      ((Sample.run Sample.validating).get Sample.validating_completed).history 4 0 :=
  validateSession_sound rfl (Sample.run_reachable Sample.validating_completed) rfl

/-- The validated socket is Alice's. -/
theorem validated_owned : Sample.deployment.owner 0 = some ⟨js "alice", 1⟩ :=
  (sockets_owned (Sample.run_reachable Sample.validating_completed) 0).1 ⟨0, js "alice", 1⟩ (by decide)

end Vortex.Gateway
