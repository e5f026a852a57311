import Vortex.Gateway.Registry
import Vortex.Gateway.Sweeps

/-!
# Sockets of ended web sessions

A sign-out, a password change or a revocation of sessions first has the gateway sessions of
the user revoked, in its `before` hook, and then Better Auth deletes the sessions that it
affects. Until then each of these still mints tokens, and a token that is minted at the
cutoff or later is let in (`ended_session_let_in`). `ended_sessions_kept_out` is about the
operations that delete their sessions before any of them has minted such a token.
-/

variable {request : Request}

namespace Vortex.Gateway

open Foundation

/-- The name of a session of Better Auth. -/
abbrev SessionId : Type := Nat

/-- A session of Better Auth; it is live until it is deleted. -/
structure WebSession where
  userId : JsString
  live : Bool

/-- A world with the sessions of the web app and the tokens that were minted from them. -/
structure Accounts where
  world : World
  sessions : SessionId → Option WebSession
  minted : List JsString

/-- What happens in the web app: a user signs in, a device fetches a gateway token, and an
operation deletes sessions of a user. -/
inductive AccountEvent
  | signIn (session : SessionId) (userId : JsString)
  | mint (token : JsString)
  | endSessions (userId : JsString) (affected : List SessionId)

namespace Accounts

/-- A token is minted from a live session, for its user and as of now. -/
def mints (deployment : Deployment) (token : JsString) (session : WebSession)
    (accounts : Accounts) : Bool :=
  session.live && (deployment.payload token).sub = some session.userId &&
    (deployment.payload token).iat = some (accounts.world.clock / 1000)

/-- What happens in the web app; `origin` says which session each token is minted from. -/
def happen (deployment : Deployment) (origin : JsString → Option SessionId) (event : AccountEvent)
    (accounts : Accounts) : Accounts :=
  match event with
  | .signIn session userId =>
      if (accounts.sessions session).isSome then accounts
      else
        { accounts with
          sessions := Function.update accounts.sessions session (some ⟨userId, true⟩) }
  | .mint token =>
      if ((origin token).bind accounts.sessions).any fun session => accounts.mints deployment token session
      then { accounts with minted := token :: accounts.minted }
      else accounts
  | .endSessions userId affected =>
      { accounts with
        sessions := fun session => (accounts.sessions session).map fun found =>
          if found.userId = userId ∧ session ∈ affected then { found with live := false } else found }

/-- A socket is opened with a token that was minted, with one that no session has minted,
or with none. -/
def admits (deployment : Deployment) (origin : JsString → Option SessionId) (accounts : Accounts)
    (request : Request) : Bool :=
  match request with
  | .act .connect => usable
  | .act (.clientConnect _) => usable
  | _ => true
where
  usable : Bool := (deployment.token accounts.world.connections).all fun token =>
    (origin token).isNone || accounts.minted.contains token

/-- The sessions that an operation deletes. -/
def Affects (userId : JsString) (affected : List SessionId) (session : SessionId)
    (accounts : Accounts) : Prop :=
  session ∈ affected ∧ (accounts.sessions session).map WebSession.userId = some userId

end Accounts

/-- Something may happen in the web app as time goes by. -/
def Request.accounted (deployment : Deployment) (origin : JsString → Option SessionId)
    (event : Option AccountEvent) (accounts : Accounts) : Request → Accounts
  | .act (.wait _) =>
      match event with
      | some event => accounts.happen deployment origin event
      | none => accounts
  | _ => accounts

def handleAccounts (deployment : Deployment) (origin : JsString → Option SessionId)
    (event : Option AccountEvent) : Handler gateway Accounts
  | request, accounts =>
      if accounts.admits deployment origin request then
        (handle deployment request accounts.world).map fun (answer, after) =>
          (answer, request.accounted deployment origin event { accounts with world := after })
      else none

def InitialAccounts (accounts : Accounts) : Prop :=
  Initial accounts.world ∧ accounts.sessions = (fun _ => none) ∧ accounts.minted = []

abbrev AccountPool : Type := Pool gateway Unit Bool Call Accounts

/-- The gateway with the web app; the scheduler chooses what happens there as time goes by. -/
def accountSystem (deployment : Deployment) (origin : JsString → Option SessionId)
    (events : Nat → Option AccountEvent) : System AccountPool (Turn Call) :=
  Pool.system InitialAccounts (program deployment)
    fun index _ => handleAccounts deployment origin (events index)

section

variable {deployment : Deployment} {origin : JsString → Option SessionId}
  {events : Nat → Option AccountEvent} {pool before after later : AccountPool} {userId : JsString}
  {revocation cutoffMs : Nat} {affected : List SessionId}

/-- An operation: its hook has revoked the gateway sessions of the user, and it deletes the
sessions it affects. -/
structure Operation (deployment : Deployment) (origin : JsString → Option SessionId)
    (events : Nat → Option AccountEvent) (revocation : Nat) (userId : JsString) (cutoffMs : Nat)
    (affected : List SessionId) (before after : AccountPool) : Prop where
  revoked : before.threads[revocation]? = some ⟨.revokeSessions userId, .done (.ok true)⟩
  persisted : ⟨.persistCutoff userId cutoffMs, true⟩ ∈ Pool.exchanges before.history revocation
  deletes : ∃ index ms next,
    before.threads[index]? = some ⟨.act (.wait ms), .await (.act (.wait ms)) next⟩ ∧
    events index = some (.endSessions userId affected) ∧
    (accountSystem deployment origin events).step before (.advance index) after

/-- A validation of the socket, or one of its handlers, has read the claims of its token as
not revoked. -/
def LetIn (deployment : Deployment) (history : History) (socket : SocketId) : Prop :=
  ∃ event ∈ history, (event.call = .serve socket ∨ event.call = .validate socket) ∧
    ∃ claims, deployment.owner socket = some claims ∧
      (⟨event.request, event.answer⟩ : Proc.Exchange gateway) =
        ⟨.isRevoked claims.userId claims.iat, .ok false⟩

/-- No connected socket with a token of a session that the operation has deleted has been
let in since, and once all that was in flight meanwhile has finished, such a socket
is in no room. -/
def KeptOut (deployment : Deployment) (origin : JsString → Option SessionId) (revocation : Nat)
    (userId : JsString) (affected : List SessionId) (before after later : AccountPool) : Prop :=
  ∀ socket token session, (later.shared.world.sockets socket).connected = true →
    deployment.token socket = some token → origin token = some session →
    before.shared.Affects userId affected session →
    (∀ recent, later.history = recent ++ after.history → ¬ LetIn deployment recent socket) ∧
    ((∀ other thread, Overlapped later.history revocation other →
        later.threads[other]? = some thread → ∃ result, thread.rest = .done result) →
      (later.shared.world.sockets socket).rooms = [])

/-- The cutoff spares none of the tokens that the sessions have minted. -/
def Accounts.Unspared (deployment : Deployment) (origin : JsString → Option SessionId)
    (userId : JsString) (affected : List SessionId) (cutoffMs : Nat) (accounts : Accounts) : Prop :=
  ∀ token ∈ accounts.minted, ∀ session, origin token = some session →
    accounts.Affects userId affected session →
    (deployment.payload token).iat.getD 0 * 1000 < cutoffMs

/-- The cutoffs of the gateway stay in force. -/
def CutoffsHold (deployment : Deployment) (pool : AccountPool) : Turn Call → Prop :=
  InForce deployment (pool.view Accounts.world)

/-! ## The gateway without the web app -/

theorem accounted_world (event : Option AccountEvent) (accounts : Accounts) (request : Request) :
    (request.accounted deployment origin event accounts).world = accounts.world := by
  cases request with
  | act action =>
    cases action with
    | wait ms =>
      cases event with
      | none => rfl
      | some event =>
        cases event with
        | signIn session userId =>
          dsimp only [Request.accounted, Accounts.happen]
          split <;> rfl
        | mint token =>
          dsimp only [Request.accounted, Accounts.happen]
          split <;> rfl
        | endSessions userId affected => rfl
    | _ => rfl
  | _ => rfl

theorem answered_of_accounts {event : Option AccountEvent} {answer : request.Answer}
    {accounts last : Accounts}
    (answered : handleAccounts deployment origin event request accounts = some (answer, last)) :
    accounts.admits deployment origin request = true ∧
      handle deployment request accounts.world = some (answer, last.world) ∧
      last = request.accounted deployment origin event { accounts with world := last.world } := by
  dsimp only [handleAccounts] at answered
  split at answered
  · rename_i admitted
    obtain ⟨⟨given, world⟩, handled, same⟩ := Option.map_eq_some_iff.mp answered
    cases same
    rw [accounted_world]
    exact ⟨admitted, handled, rfl⟩
  · cases answered

theorem gateway_of_accounts
    (reached : (accountSystem deployment origin events).Reachable (CutoffsHold deployment) pool) :
    (gatewaySystem deployment).Reachable (InForce deployment) (pool.view Accounts.world) :=
  Pool.reachable_view (fun _ initial => initial.1)
    (fun _ _ _ _ _ _ answered => (answered_of_accounts answered).2.1) (fun _ _ => id) reached

/-! ## Sessions and tokens -/

/-- Sessions stay, with their users, and are not revived; only live ones mint tokens. -/
structure Accounts.Evolves (deployment : Deployment) (origin : JsString → Option SessionId)
    (before after : Accounts) : Prop where
  sessions : ∀ session found, before.sessions session = some found → ∃ last,
    after.sessions session = some last ∧ last.userId = found.userId ∧
      (last.live = true → found.live = true)
  minted : ∀ token ∈ after.minted, token ∈ before.minted ∨ ∃ session found,
    origin token = some session ∧ before.sessions session = some found ∧ found.live = true ∧
      (deployment.payload token).sub = some found.userId
  kept : ∀ token ∈ before.minted, token ∈ after.minted

theorem Accounts.Evolves.of_eq {before after : Accounts}
    (sessions : after.sessions = before.sessions)
    (minted : after.minted = before.minted) : Accounts.Evolves deployment origin before after where
  sessions _ found known := ⟨found, sessions ▸ known, rfl, id⟩
  minted _ member := .inl (minted ▸ member)
  kept _ member := minted ▸ member

theorem evolves_happen (event : AccountEvent) (accounts : Accounts) :
    Accounts.Evolves deployment origin accounts (accounts.happen deployment origin event) := by
  cases event with
  | signIn session userId =>
    dsimp only [Accounts.happen]
    split
    · exact .of_eq rfl rfl
    · rename_i absent
      refine ⟨fun other found known => ⟨found, ?_, rfl, id⟩, fun token member => .inl member,
        fun token member => member⟩
      have different : other ≠ session := by
        rintro rfl
        rw [known] at absent
        exact absent rfl
      exact (Function.update_of_ne different ..).trans known
  | mint token =>
    dsimp only [Accounts.happen]
    split
    · rename_i mints
      refine ⟨fun session found known => ⟨found, known, rfl, id⟩, fun other member => ?_,
        fun other member => List.mem_cons_of_mem token member⟩
      rcases List.mem_cons.mp member with rfl | earlier
      · obtain ⟨found, known, allowed⟩ := (Option.any_eq_true _ _).mp mints
        obtain ⟨session, named, known⟩ := Option.bind_eq_some_iff.mp known
        simp only [Accounts.mints, Bool.and_eq_true, decide_eq_true_eq] at allowed
        exact .inr ⟨session, found, named, known, allowed.1.1, allowed.1.2⟩
      · exact .inl earlier
    · exact .of_eq rfl rfl
  | endSessions userId affected =>
    refine ⟨fun session found known => ?_, fun token member => .inl member,
      fun token member => member⟩
    dsimp only [Accounts.happen]
    rw [known]
    refine ⟨_, rfl, ?_, ?_⟩
    · dsimp only
      split <;> rfl
    · dsimp only
      split
      · exact nofun
      · exact id

theorem evolves_of_answered {event : Option AccountEvent} {answer : request.Answer}
    {accounts last : Accounts}
    (answered : handleAccounts deployment origin event request accounts = some (answer, last)) :
    Accounts.Evolves deployment origin accounts last := by
  have happened := (answered_of_accounts answered).2.2
  cases request with
  | act action =>
    cases action with
    | wait ms =>
      cases event with
      | none =>
        rw [happened]
        exact .of_eq rfl rfl
      | some event =>
        have evolves : Accounts.Evolves deployment origin { accounts with world := last.world }
            ({ accounts with world := last.world }.happen deployment origin event) :=
          evolves_happen event _
        rw [happened]
        exact ⟨evolves.sessions, evolves.minted, evolves.kept⟩
    | _ =>
      rw [happened]
      exact .of_eq rfl rfl
  | _ =>
    rw [happened]
    exact .of_eq rfl rfl

/-- Tokens were minted by sessions for their users, and sockets carry minted tokens. -/
structure Accounts.Tallied (deployment : Deployment) (origin : JsString → Option SessionId)
    (accounts : Accounts) : Prop where
  minted : ∀ token ∈ accounts.minted, ∃ session found, origin token = some session ∧
    accounts.sessions session = some found ∧ (deployment.payload token).sub = some found.userId
  carried : ∀ socket token session, (accounts.world.sockets socket).connected = true →
    deployment.token socket = some token → origin token = some session → token ∈ accounts.minted

/-- The actions that open a socket. -/
def Request.connects : Request → Bool
  | .act .connect => true
  | .act (.clientConnect _) => true
  | _ => false

namespace Registry

theorem connections_send (socket : SocketId) (messages : List ClientMessage) (registry : Registry) :
    (registry.send socket messages).connections = registry.connections := by
  unfold send
  dsimp only
  split <;> rfl

theorem connections_close (socket : SocketId) (registry : Registry) :
    (registry.close socket).connections = registry.connections := by
  unfold close
  dsimp only
  split <;> rfl

end Registry

theorem connections_registered (world : World) (registry : Registry) (request : Request) :
    (request.registered world registry).connections =
      if request.connects then registry.connections + 1 else registry.connections := by
  cases request with
  | disconnect socket => exact Registry.connections_close socket registry
  | disconnectAll userId sockets =>
    exact Registry.closeAll_induction (P := fun later => later.connections = registry.connections)
      (fun _ _ earlier => (Registry.connections_close _ _).trans earlier) sockets rfl
  | act action =>
    cases action with
    | close socket => exact Registry.connections_close socket registry
    | send socket message => exact Registry.connections_send socket [message] registry
    | clientSubscribe client channelIds =>
      exact Registry.clientSubscribe_induction
        (P := fun later => later.connections = registry.connections) rfl
        fun _ _ => Registry.connections_send _ _ _
    | _ => rfl
  | _ => rfl

/-- A socket that is connected was connected before, or has just been opened. -/
theorem opened_of_connected {world after : World} {answer : request.Answer} {socket : SocketId}
    (answered : handle deployment request world = some (answer, after))
    (connected : (after.sockets socket).connected = true) :
    (world.sockets socket).connected = true ∨
      (request.connects = true ∧ socket = world.connections) := by
  rcases (moves_of_handle answered).gone socket connected with early | ⟨low, high⟩
  · exact .inl early
  · have books : after.connections =
        if request.connects then world.connections + 1 else world.connections := by
      have counted := connections_registered world world.registry request
      rw [← registry_of_handle answered] at counted
      exact counted
    rw [books] at high
    split at high
    · rename_i connects
      exact .inr ⟨connects, Nat.le_antisymm (Nat.le_of_lt_succ high) low⟩
    · exact absurd high (Nat.not_lt.mpr low)

theorem Accounts.Tallied.answered {event : Option AccountEvent} {answer : request.Answer}
    {accounts last : Accounts} (tallied : accounts.Tallied deployment origin)
    (answered : handleAccounts deployment origin event request accounts = some (answer, last)) :
    last.Tallied deployment origin := by
  have evolves := evolves_of_answered answered
  constructor
  · intro token member
    have known : ∃ session found, origin token = some session ∧
        accounts.sessions session = some found ∧
        (deployment.payload token).sub = some found.userId := by
      rcases evolves.minted token member with early | ⟨session, found, named, known, -, signed⟩
      · exact tallied.minted token early
      · exact ⟨session, found, named, known, signed⟩
    obtain ⟨session, found, named, known, signed⟩ := known
    obtain ⟨later, stays, same, -⟩ := evolves.sessions session found known
    exact ⟨session, later, named, stays, same ▸ signed⟩
  · intro socket token session connected carried named
    obtain ⟨admitted, handled, -⟩ := answered_of_accounts answered
    rcases opened_of_connected handled connected with early | ⟨connects, rfl⟩
    · exact evolves.kept token (tallied.carried socket token session early carried named)
    · have usable : Accounts.admits.usable deployment origin accounts = true := by
        cases request with
        | act action =>
          cases action with
          | connect => exact admitted
          | clientConnect client => exact admitted
          | _ => cases connects
        | _ => cases connects
      unfold Accounts.admits.usable at usable
      rw [carried, Option.all_some, named] at usable
      exact evolves.kept token (by simpa using usable)

theorem tallied_of_reachable {guard : AccountPool → Turn Call → Prop}
    (reached : (accountSystem deployment origin events).Reachable guard pool) :
    pool.shared.Tallied deployment origin := by
  refine Pool.shared_invariant (P := Accounts.Tallied deployment origin) ?_ ?_ reached
  · rintro ⟨world, sessions, minted⟩ ⟨⟨outcomes, rfl⟩, -, rfl⟩
    exact ⟨fun _ impossible => (nomatch impossible), fun _ _ _ impossible => (nomatch impossible)⟩
  · exact fun _ _ _ _ _ _ tallied answered => tallied.answered answered

/-! ## After an operation -/

/-- A session that is deleted stays so, and mints no more tokens. -/
structure Accounts.Closed (origin : JsString → Option SessionId) (userId : JsString)
    (session : SessionId) (accounts before : Accounts) : Prop where
  deleted : accounts.sessions session = some ⟨userId, false⟩
  minted : ∀ token ∈ accounts.minted, origin token = some session → token ∈ before.minted

theorem Accounts.Closed.evolve {start accounts last : Accounts} {session : SessionId}
    (closed : accounts.Closed origin userId session start)
    (evolves : Accounts.Evolves deployment origin accounts last) :
    last.Closed origin userId session start := by
  constructor
  · obtain ⟨⟨owner, live⟩, known, rfl, revives⟩ := evolves.sessions session _ closed.deleted
    cases live with
    | false => exact known
    | true => cases revives rfl
  · intro token member named
    rcases evolves.minted token member with early | ⟨other, found, named', known, live, -⟩
    · exact closed.minted token early named
    · cases named.symm.trans named'
      cases closed.deleted.symm.trans known
      cases live

theorem Operation.closed
    (operation : Operation deployment origin events revocation userId cutoffMs affected before after)
    {session : SessionId} (affects : before.shared.Affects userId affected session) :
    after.shared.Closed origin userId session before.shared := by
  obtain ⟨-, -, index, ms, next, waiting, happens, moved⟩ := operation
  obtain ⟨call, impossible, -⟩ | ⟨_, call, request, _, answer, shared, same, found, answered, rfl⟩ :=
    Pool.step_cases moved
  · cases impossible
  · cases same
    rw [waiting] at found
    cases found
    have happened := (answered_of_accounts answered).2.2
    rw [happens] at happened
    obtain ⟨listed, owned⟩ := affects
    obtain ⟨⟨owner, live⟩, known, rfl⟩ := Option.map_eq_some_iff.mp owned
    constructor
    · change shared.sessions session = _
      rw [happened]
      dsimp only [Request.accounted, Accounts.happen]
      rw [known]
      exact congrArg some (if_pos ⟨rfl, listed⟩)
    · change ∀ token ∈ shared.minted, _
      rw [happened]
      exact fun token member _ => member

/-- Every step that reads a claim older than a cutoff in force reads it as revoked. -/
theorem unauthenticated_of_step
    (reached : (accountSystem deployment origin events).Reachable (CutoffsHold deployment) before)
    {label : Turn Call} (admitted : CutoffsHold deployment before label)
    (moved : (accountSystem deployment origin events).step before label after)
    (persisted : ⟨.persistCutoff userId cutoffMs, true⟩ ∈ Pool.exchanges before.history revocation)
    {claims : VerifiedClaims} (owned : claims.userId = userId) (old : claims.iat * 1000 < cutoffMs)
    {event : Event gateway Call} (newest : after.history = event :: before.history) :
    (⟨event.request, event.answer⟩ : Proc.Exchange gateway) ≠
      ⟨.isRevoked claims.userId claims.iat, .ok false⟩ := by
  have reachedGateway := gateway_of_accounts reached
  obtain ⟨entry, stored, above⟩ := (cutOff_of_reachable reachedGateway persisted).stored
  obtain ⟨call, -, rfl⟩ | ⟨index, call, request, next, answer, shared, rfl, waiting, answered, rfl⟩ :=
    Pool.step_cases moved
  · exact absurd newest.symm (List.cons_ne_self _ _)
  · obtain ⟨rfl, -⟩ := List.cons.inj newest
    intro read
    cases read
    have revokes : claims.iat * 1000 < entry.cutoffMs := Nat.lt_of_lt_of_le old above
    rw [← owned] at stored
    have live := admitted.2.1 call claims.userId claims.iat next waiting entry stored revokes
    have revoked : before.shared.world.isRevoked claims.userId claims.iat = true := by
      have store : before.shared.world.revocations claims.userId = some entry := stored
      have clock : before.shared.world.clock ≤ entry.expiresAt := live
      simp [World.isRevoked, store, clock, revokes]
    rw [isRevoked_of_answered (answered_of_accounts answered).2.1] at revoked
    cases revoked

/-- What has been read since an operation. -/
theorem unauthenticated_since
    (reached : (accountSystem deployment origin events).Reachable (CutoffsHold deployment) after)
    (persisted : ⟨.persistCutoff userId cutoffMs, true⟩ ∈ Pool.exchanges after.history revocation)
    (path : (accountSystem deployment origin events).Steps (CutoffsHold deployment) after later) :
    ∃ recent, later.history = recent ++ after.history ∧
      ∀ event ∈ recent, ∀ claims : VerifiedClaims, claims.userId = userId →
        claims.iat * 1000 < cutoffMs → (⟨event.request, event.answer⟩ : Proc.Exchange gateway) ≠
          ⟨.isRevoked claims.userId claims.iat, .ok false⟩ := by
  induction path with
  | refl => exact ⟨[], rfl, fun _ impossible => nomatch impossible⟩
  | @step middle last label path admitted moved ih =>
    obtain ⟨recent, split, unread⟩ := ih
    have known : ⟨.persistCutoff userId cutoffMs, true⟩ ∈ Pool.exchanges middle.history revocation :=
      path.invariant (P := fun pool => ⟨.persistCutoff userId cutoffMs, true⟩ ∈
        Pool.exchanges pool.history revocation)
        (fun _ _ _ earlier _ moved => Pool.exchanges_of_step moved earlier) persisted
    rcases Pool.history_of_step moved with same | ⟨newest, same⟩
    · exact ⟨recent, same.trans split, unread⟩
    · refine ⟨newest :: recent, same.trans (congrArg _ split),
        fun event member claims owned old => ?_⟩
      rcases List.mem_cons.mp member with rfl | earlier
      · exact unauthenticated_of_step (reached.steps path) admitted moved known owned old same
      · exact unread event earlier claims owned old

/-- The claims of a token that was minted before an operation from a session it deletes. -/
theorem Operation.old
    (operation : Operation deployment origin events revocation userId cutoffMs affected before after)
    (reached : (accountSystem deployment origin events).Reachable (CutoffsHold deployment) before)
    (unspared : before.shared.Unspared deployment origin userId affected cutoffMs)
    (path : (accountSystem deployment origin events).Steps (CutoffsHold deployment) after later)
    (tallied : later.shared.Tallied deployment origin)
    {socket : SocketId} {token : JsString} {session : SessionId}
    (connected : (later.shared.world.sockets socket).connected = true)
    (carried : deployment.token socket = some token) (named : origin token = some session)
    (affects : before.shared.Affects userId affected session) :
    ∃ claims, Old deployment userId cutoffMs socket claims := by
  have closed : later.shared.Closed origin userId session before.shared := by
    refine path.invariant (P := fun pool => pool.shared.Closed origin userId session before.shared) ?_
      (operation.closed affects)
    intro first label last kept _ moved
    obtain ⟨call, -, rfl⟩ | ⟨index, call, request, next, answer, shared, rfl, -, answered, rfl⟩ :=
      Pool.step_cases moved
    · exact kept
    · exact kept.evolve (evolves_of_answered answered)
  have minted : token ∈ before.shared.minted :=
    closed.minted token (tallied.carried socket token session connected carried named) named
  obtain ⟨other, found, named', known, signed⟩ :=
    (tallied_of_reachable reached).minted token minted
  cases named.symm.trans named'
  have owner : found.userId = userId := by
    have owned := affects.2
    rw [known] at owned
    exact Option.some.inj owned
  refine ⟨⟨userId, (deployment.payload token).iat.getD 0⟩, ?_, rfl,
    unspared token minted session named affects⟩
  rw [Deployment.owner, carried]
  change deployment.claims token = _
  rw [Deployment.claims, signed, owner]
  rfl

end

/-- In every run in which the cutoffs of the gateway stay in force, an operation whose
cutoff spares none of the tokens that its sessions have minted keeps them out. -/
theorem ended_sessions_kept_out {deployment : Deployment} {origin : JsString → Option SessionId}
    {events : Nat → Option AccountEvent} {before after later : AccountPool} {userId : JsString}
    {revocation cutoffMs : Nat} {affected : List SessionId}
    (reached : (accountSystem deployment origin events).Reachable (CutoffsHold deployment) before)
    (operation : Operation deployment origin events revocation userId cutoffMs affected before after)
    (unspared : before.shared.Unspared deployment origin userId affected cutoffMs)
    (path : (accountSystem deployment origin events).Steps (CutoffsHold deployment) after later) :
    KeptOut deployment origin revocation userId affected before after later := by
  obtain ⟨index, ms, next, waiting, -, moved⟩ := operation.deletes
  have admitted : CutoffsHold deployment before (.advance index) := by
    have pending : (before.view Accounts.world).threads[index]? =
        some ⟨.act (.wait ms), .await (.act (.wait ms)) next⟩ := waiting
    refine ⟨fun call owner cutoff next asks => ?_, fun call owner iat next asks => ?_,
      fun owner next asks => ?_⟩
    · cases pending.symm.trans asks
    · cases pending.symm.trans asks
    · cases pending.symm.trans asks
  have first := System.Steps.single admitted moved
  have reachedAfter := reached.steps first
  have persisted := Pool.exchanges_of_step moved operation.persisted
  intro socket token session connected carried named affects
  obtain ⟨claims, old⟩ := operation.old reached unspared path
    (tallied_of_reachable (reachedAfter.steps path)) connected carried named affects
  constructor
  · obtain ⟨recent, split, unread⟩ := unauthenticated_since reachedAfter persisted path
    rintro recent' split' ⟨event, member, -, others, owned, read⟩
    rw [List.append_cancel_right (split'.symm.trans split)] at member
    cases old.1.symm.trans owned
    exact unread event member claims old.2.1 old.2.2 read
  · intro resting
    have finished : later.threads[revocation]? = some ⟨.revokeSessions userId, .done (.ok true)⟩ :=
      Pool.finished_of_steps (first.trans path) operation.revoked rfl
    have known : ⟨.persistCutoff userId cutoffMs, true⟩ ∈ Pool.exchanges later.history revocation :=
      path.invariant (P := fun pool => ⟨.persistCutoff userId cutoffMs, true⟩ ∈
        Pool.exchanges pool.history revocation)
        (fun _ _ _ earlier _ moved => Pool.exchanges_of_step moved earlier) persisted
    exact sessions_revoked (gateway_of_accounts (reachedAfter.steps path)) revocation userId cutoffMs
      finished known resting socket claims old

/-! ## Samples -/

namespace Sample

/-- Every socket is opened with one token. -/
def holding (token : JsString) : Deployment :=
  { deployment with
    token := fun _ => some token
    payload := fun token => ⟨some (js "alice"), some (if token = js "old" then 1 else 5)⟩ }

/-- A user signs in and a token is minted, before or after the hook of an operation. -/
def webEvents (minting : Nat) (token : JsString) (index : Nat) : Option AccountEvent :=
  if index = 0 then some (.signIn 0 (js "alice"))
  else if index = minting then some (.mint token)
  else if index = 5 then some (.endSessions (js "alice") [0])
  else none

/-- The hook of an operation has run. -/
def hooked : List (Turn Call) :=
  [.start (.act (.wait 1000)), .advance 0, .start (.act (.wait 0)), .advance 1,
    .start (.act (.wait 4000)), .advance 2, .start (.revokeSessions (js "alice"))] ++ advances 3 4 ++
  [.start (.act (.wait 0)), .advance 4, .start (.act (.wait 0))]

/-- A device opens a socket and subscribes to its user. -/
def reconnecting : List (Turn Call) :=
  [.start (.act .connect), .advance 6,
    .start (.act (.send 0 (subscribeMessage [js "user:alice"]))), .advance 7, .start (.serve 0)]

def accounts : Accounts := ⟨World.blank, fun _ => none, []⟩

def webTurn (minting : Nat) (token : JsString) (pool : AccountPool) (turn : Turn Call) :
    Option AccountPool :=
  Pool.turn (program (holding token))
    (fun index _ => handleAccounts (holding token) (fun _ => some 0) (webEvents minting token index))
    pool turn

def webRun (minting : Nat) (token : JsString) (check : AccountPool → Turn Call → Bool) :
    AccountPool → List (Turn Call) → Option AccountPool :=
  System.follow check (webTurn minting token)

def cutoffsHold (pool : AccountPool) (turn : Turn Call) : Bool :=
  inForce (pool.view Accounts.world) turn

theorem hooked_completed :
    (webRun 1 (js "old") cutoffsHold (Pool.fresh accounts) hooked).isSome := by decide

/-- The token was minted before the hook. -/
def closing : AccountPool :=
  (webRun 1 (js "old") cutoffsHold (Pool.fresh accounts) hooked).get hooked_completed

theorem closed_completed : (webTurn 1 (js "old") closing (.advance 5)).isSome := by decide

def closed : AccountPool := (webTurn 1 (js "old") closing (.advance 5)).get closed_completed

theorem refused_completed :
    (webRun 1 (js "old") cutoffsHold closed (reconnecting ++ advances 8 5)).isSome := by decide

def refused : AccountPool :=
  (webRun 1 (js "old") cutoffsHold closed (reconnecting ++ advances 8 5)).get refused_completed

theorem operation_closed :
    Operation (holding (js "old")) (fun _ => some 0) (webEvents 1 (js "old")) 3
    (js "alice") 5000 [0] closing closed where
  revoked := rfl
  persisted := Pool.mem_exchanges.mpr ⟨⟨3, _, .persistCutoff (js "alice") 5000, true⟩,
    List.mem_of_getElem? (i := 3) rfl, rfl, rfl⟩
  deletes := ⟨5, 0, _, rfl, rfl, (Option.some_get closed_completed).symm⟩

theorem unspared_closing :
    closing.shared.Unspared (holding (js "old")) (fun _ => some 0) (js "alice") [0] 5000 := by
  have minted : closing.shared.minted = [js "old"] := rfl
  intro token member _ _ _
  rw [minted] at member
  cases List.mem_singleton.mp member
  decide

theorem exposing_completed :
    (webRun 4 (js "new") (fun _ _ => true) (Pool.fresh accounts) hooked).isSome := by decide

/-- The token was minted after the hook. -/
def exposing : AccountPool :=
  (webRun 4 (js "new") (fun _ _ => true) (Pool.fresh accounts) hooked).get exposing_completed

theorem left_completed : (webTurn 4 (js "new") exposing (.advance 5)).isSome := by decide

def left : AccountPool := (webTurn 4 (js "new") exposing (.advance 5)).get left_completed

theorem returned_completed :
    (webRun 4 (js "new") (fun _ _ => true) left (reconnecting ++ advances 8 9)).isSome := by
  decide

def returned : AccountPool :=
  (webRun 4 (js "new") (fun _ _ => true) left (reconnecting ++ advances 8 9)).get returned_completed

/-- A handler of the first socket has read the newer token as not revoked. -/
def readsClear (event : Event gateway Call) : Bool :=
  match event with
  | ⟨_, .serve 0, .isRevoked userId 5, .ok false⟩ => userId = js "alice"
  | _ => false

theorem read_returned : ∃ event ∈ returned.history, readsClear event = true :=
  List.any_eq_true.mp (by decide)

theorem operation_left : Operation (holding (js "new")) (fun _ => some 0) (webEvents 4 (js "new")) 3
    (js "alice") 5000 [0] exposing left where
  revoked := rfl
  persisted := Pool.mem_exchanges.mpr ⟨⟨3, _, .persistCutoff (js "alice") 5000, true⟩,
    List.mem_of_getElem? (i := 3) rfl, rfl, rfl⟩
  deletes := ⟨5, 0, _, rfl, rfl, (Option.some_get left_completed).symm⟩

theorem initial_accounts : InitialAccounts accounts := ⟨⟨fun _ => [], rfl⟩, rfl, rfl⟩

end Sample

/-- A device of the deleted session is refused when it opens a socket with its old token. -/
theorem signed_out_kept_out :
    (Sample.refused.shared.world.sockets 0).connected = true ∧
      KeptOut (Sample.holding (js "old")) (fun _ => some 0) 3 (js "alice") [0] Sample.closing
        Sample.closed Sample.refused :=
  ⟨by decide, ended_sessions_kept_out
    (System.reachable_of_follow (fun _ _ => inForce_sound) ⟨_, Sample.initial_accounts, rfl⟩
      Sample.hooked_completed)
    Sample.operation_closed Sample.unspared_closing
    (System.steps_of_follow (fun _ _ => inForce_sound) (Option.some_get Sample.refused_completed).symm)⟩

/-- A token that was minted between the hook and the deletion is let in for the deleted
session. -/
theorem ended_session_let_in :
    ¬ ∀ (deployment : Deployment) (origin : JsString → Option SessionId)
      (events : Nat → Option AccountEvent) (before after later : AccountPool) (userId : JsString)
      (revocation cutoffMs : Nat) (affected : List SessionId),
      (accountSystem deployment origin events).Reachable System.unguarded before →
      Operation deployment origin events revocation userId cutoffMs affected before after →
      (accountSystem deployment origin events).Steps System.unguarded after later →
      KeptOut deployment origin revocation userId affected before after later := by
  intro always
  have path : (accountSystem (Sample.holding (js "new")) (fun _ => some 0)
      (Sample.webEvents 4 (js "new"))).Steps System.unguarded Sample.left Sample.returned :=
    System.steps_of_follow (fun _ _ _ => trivial) (Option.some_get Sample.returned_completed).symm
  obtain ⟨unread, -⟩ := always _ _ _ _ _ _ _ _ _ _
    (System.reachable_of_follow (fun _ _ _ => trivial) ⟨_, Sample.initial_accounts, rfl⟩
      Sample.exposing_completed)
    Sample.operation_left path 0 (js "new") 0 (by decide) rfl rfl ⟨by decide, rfl⟩
  obtain ⟨recent, split⟩ := Pool.history_of_steps path
  obtain ⟨event, read, clear⟩ := Sample.read_returned
  rw [split] at read
  rcases List.mem_append.mp read with since | before
  · unfold Sample.readsClear at clear
    split at clear
    · cases of_decide_eq_true clear
      exact unread recent split ⟨_, since, .inl rfl, ⟨js "alice", 5⟩, rfl, rfl⟩
    · cases clear
  · have silent : Sample.left.history.any Sample.readsClear = false := by decide
    exact absurd clear (List.any_eq_false.mp silent event before)

end Vortex.Gateway
