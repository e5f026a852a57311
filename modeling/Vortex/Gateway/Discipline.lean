import Vortex.Gateway.Handlers

/-!
# What a handler has exchanged before it acts

Each request of a handler that lets a socket in, records an owner, caches a session
or revokes something is justified by the earlier exchanges of the same handler. What
is justified (`Discipline`) and how a call has ended (`Ended`) is proved once for every
program, and then known of every process of the pool (`Pool.obeys_of_reachable`).
-/

namespace Vortex.Gateway

open Foundation List

/-- The exchanges of a process, oldest first. -/
abbrev Exchanges : Type := List (Proc.Exchange gateway)

/-- What is asked before a handler is let through. -/
def Request.isSession : Request → Bool
  | .checkRate _ _ _ => true
  | .now => true
  | .sessionOf _ => true
  | .verifyAuthToken _ => true
  | .isRevoked _ _ => true
  | .setSession _ _ => true
  | .deleteSession _ => true
  | .disconnect _ => true
  | _ => false

/-- What a replay asks. -/
def Request.isReplay : Request → Bool
  | .emit _ _ => true
  | .xrevrange _ _ _ => true
  | .xrange _ _ _ => true
  | .busDestroyed => true
  | _ => false

/-- What looks up sockets, or acts on those found. -/
def Request.isSweep : Request → Bool
  | .fetchSockets _ => true
  | .disconnectAll _ _ => true
  | .dropChannel _ _ _ _ => true
  | _ => false

/-- No sockets have been looked up yet. -/
def Unswept (seen : Exchanges) : Prop := ∀ exchange ∈ seen, exchange.1.isSweep = false

/-- The user id was read from the session cache of the socket. -/
def Signed (socket : SocketId) (userId : JsString) (seen : Exchanges) : Prop :=
  ∃ entry : SessionEntry, entry.userId = userId ∧ ⟨.sessionOf socket, some entry⟩ ∈ seen

/-- A validation of the socket's session was stamped, and it has not been accepted too
long after: a cached one was young when its age was tested, or the token was verified
at once. -/
def Validated (deployment : Deployment) (socket : SocketId) (claims : VerifiedClaims)
    (stamp decided : Nat) (seen : Exchanges) : Prop :=
  (⟨.sessionOf socket, some ⟨stamp, claims.userId, claims.iat⟩⟩ ∈ seen ∧
      ⟨.now, decided⟩ ∈ seen ∧ decided < stamp + SESSION_FALLBACK_MAX_AGE_MS) ∨
    (∃ token, deployment.token socket = some token ∧
      ⟨.verifyAuthToken token, .ok (some claims)⟩ ∈ seen ∧
      ⟨.setSession socket claims, stamp⟩ ∈ seen ∧ decided = stamp)

/-- The session of a socket was validated, and its claims were read as not revoked. -/
def Accepted (deployment : Deployment) (socket : SocketId) (seen : Exchanges) : Prop :=
  ∃ claims stamp decided, Validated deployment socket claims stamp decided seen ∧
    ⟨.isRevoked claims.userId claims.iat, .ok false⟩ ∈ seen ∧
    ∀ userId iat, ⟨.isRevoked userId iat, .error ()⟩ ∉ seen

/-- What is known of a handler that was let through to act for a user. -/
def Entitled (deployment : Deployment) (call : Call) (socket : SocketId) (userId : JsString)
    (seen : Exchanges) : Prop :=
  call = .serve socket ∧ Signed socket userId seen ∧
    (deployment.jwks = true → Accepted deployment socket seen)

/-- Nothing was rejoined on a channel yet. -/
def Unjoined (channelId : JsString) (seen : Exchanges) : Prop :=
  (∀ ref rejoined, ⟨.rejoin ref channelId, rejoined⟩ ∉ seen) ∧
    ∀ socket userId validChannels denied,
      ⟨.enroll socket userId validChannels denied, ()⟩ ∉ seen

/-- The earlier exchanges that justify a request. -/
def Discipline (deployment : Deployment) (call : Call) (seen : Exchanges) : Request → Prop
  | .receive _ => seen = []
  | .setSession socket claims =>
      deployment.jwks = true ∧ ∃ token, deployment.token socket = some token ∧
        ⟨.verifyAuthToken token, .ok (some claims)⟩ ∈ seen
  | .checkChannelAccess _ _ =>
      ∃ socket message, call = .serve socket ∧ ⟨.receive socket, message⟩ ∈ seen ∧
        (message.event = .subscribe ∨ message.event = .resume)
  | .enroll socket userId validChannels _ =>
      Entitled deployment call socket userId seen ∧
        (∃ channelIds, ⟨.checkChannelAccess userId channelIds, validChannels⟩ ∈ seen) ∧
        ∀ channelId, Unjoined channelId seen
  | .init socket userId _ => Entitled deployment call socket userId seen
  | .establish socket userId => Entitled deployment call socket userId seen
  | .rejoin ref channelId =>
      ∃ userId channelIds, ∃ granted : List JsString, Entitled deployment call ref.socket userId seen ∧
        ⟨.checkChannelAccess userId channelIds, granted⟩ ∈ seen ∧ channelId ∈ granted ∧
        ⟨.establish ref.socket userId, ref.serial⟩ ∈ seen ∧ Unjoined channelId seen
  | .complete ref rejoined _ _ =>
      ∀ channelId ∈ rejoined, ⟨.rejoin ref channelId, true⟩ ∈ seen
  | .fetchSockets _ => Unswept seen
  | .persistCutoff userId _ => call = .revokeSessions userId ∧ Unswept seen
  | .disconnectAll userId sockets =>
      call = .revokeSessions userId ∧
        ∀ found, ⟨.fetchSockets none, found⟩ ∈ seen → found = .ok sockets
  | .deleteMember userId channelId =>
      (∃ replica, call = .removeMember replica userId channelId) ∧ Unswept seen
  | .dropChannel replica userId channelId sockets =>
      (call = .revokeChannelAccess replica userId channelId ∨
        call = .removeMember replica userId channelId) ∧
        ∀ found, ⟨.fetchSockets (some channelId), found⟩ ∈ seen →
          sockets = (Except.toOption found).getD []
  | .act action => call = .act action
  | _ => True

def discipline (deployment : Deployment) (call : Call) : Monitor gateway Exchanges :=
  .recorder (fun _ => true) (Discipline deployment call)

/-- How the calls end that say they have done what they were called for. -/
def Ended (deployment : Deployment) : Call → Exchanges → Except Unit Bool → Prop
  | .validate socket, seen, .ok true => deployment.jwks = true → Accepted deployment socket seen
  | .revokeSessions userId, seen, .ok true =>
      ∃ cutoffMs sockets, ⟨.persistCutoff userId cutoffMs, true⟩ ∈ seen ∧
        ⟨.fetchSockets none, .ok sockets⟩ ∈ seen ∧ ⟨.disconnectAll userId sockets, ()⟩ ∈ seen
  | .removeMember replica userId channelId, seen, .ok true =>
      ∃ found sockets, ⟨.deleteMember userId channelId, true⟩ ∈ seen ∧
        ⟨.fetchSockets (some channelId), found⟩ ∈ seen ∧
        ⟨.dropChannel replica userId channelId sockets, ()⟩ ∈ seen
  | _, _, _ => True

variable {deployment : Deployment} {call : Call} {socket : SocketId} {α β : Type}

/-! ## Rules -/

theorem obeys_ask_bind {request : Request} {next : request.Answer → Proc gateway Unit β}
    {post : Exchanges → Except Unit β → Prop} {seen : Exchanges}
    (justified : Discipline deployment call seen request)
    (rest : ∀ answer, (next answer).Obeys (discipline deployment call) post
      (seen ++ [⟨request, answer⟩])) :
    (ask request >>= next).Obeys (discipline deployment call) post seen :=
  ⟨justified, rest⟩

theorem obeys_ask {request : Request} {post : Exchanges → Except Unit request.Answer → Prop}
    {seen : Exchanges} (justified : Discipline deployment call seen request)
    (ends : ∀ answer, post (seen ++ [⟨request, answer⟩]) (.ok answer)) :
    (ask request).Obeys (discipline deployment call) post seen :=
  ⟨justified, ends⟩

/-- Some requests of a kind later. -/
def After (kind : Request → Bool) (seen later : Exchanges) : Prop :=
  ∃ extra, later = seen ++ extra ∧ ∀ exchange ∈ extra, kind exchange.1 = true

section

variable {kind : Request → Bool} {seen later : Exchanges}

theorem After.mem (after : After kind seen later) {exchange : Proc.Exchange gateway}
    (known : exchange ∈ seen) : exchange ∈ later := by
  obtain ⟨extra, rfl, -⟩ := after
  exact mem_append_left extra known

theorem After.earlier (after : After kind seen later) {exchange : Proc.Exchange gateway}
    (known : exchange ∈ later) (other : kind exchange.1 = false) : exchange ∈ seen := by
  obtain ⟨extra, rfl, kinds⟩ := after
  rcases mem_append.mp known with early | late
  · exact early
  · rw [kinds exchange late] at other
    cases other

theorem After.refl (seen : Exchanges) : After kind seen seen :=
  ⟨[], (append_nil seen).symm, fun _ member => nomatch member⟩

theorem After.trans {last : Exchanges} (left : After kind seen later)
    (right : After kind later last) : After kind seen last := by
  obtain ⟨middle, rfl, early⟩ := left
  obtain ⟨extra, rfl, late⟩ := right
  refine ⟨middle ++ extra, append_assoc .., fun exchange member => ?_⟩
  exact (mem_append.mp member).elim (early exchange) (late exchange)

theorem After.snoc (after : After kind seen later) (exchange : Proc.Exchange gateway)
    (same : kind exchange.1 = true) : After kind seen (later ++ [exchange]) := by
  refine after.trans ⟨[exchange], rfl, fun other member => ?_⟩
  rwa [mem_singleton.mp member]

end

/-- A process that only asks what needs no justification. -/
theorem obeys_of_kind {kind : Request → Bool}
    (free : ∀ request seen, kind request = true → Discipline deployment call seen request)
    {process : Proc gateway Unit β} {post : Exchanges → Except Unit β → Prop}
    {start seen : Exchanges}
    (along : process.Along fun request _ => kind request = true) (after : After kind start seen)
    (ends : ∀ later result, After kind start later → post later result) :
    process.Obeys (discipline deployment call) post seen := by
  induction process generalizing seen with
  | done result => exact ends seen result after
  | await request rest ih =>
    exact ⟨free request seen along.1, fun answer =>
      ih answer (along.2 answer) (after.snoc _ along.1)⟩

/-! ## Validation -/

/-- The revocation store has not been asked. -/
def Unread (seen : Exchanges) : Prop :=
  ∀ userId iat answer, ⟨.isRevoked userId iat, answer⟩ ∉ seen

theorem Unread.snoc {seen : Exchanges} (unread : Unread seen) (exchange : Proc.Exchange gateway)
    (other : ∀ userId iat, exchange.1 ≠ .isRevoked userId iat) : Unread (seen ++ [exchange]) := by
  intro userId iat answer member
  rcases mem_append.mp member with early | last
  · exact unread userId iat answer early
  · apply other userId iat
    rw [← mem_singleton.mp last]

theorem Validated.mono {claims : VerifiedClaims} {stamp decided : Nat} {seen later : Exchanges}
    (validated : Validated deployment socket claims stamp decided seen)
    (kept : ∀ exchange ∈ seen, exchange ∈ later) :
    Validated deployment socket claims stamp decided later := by
  rcases validated with ⟨cached, tested, young⟩ | ⟨token, carried, verified, stamped, same⟩
  · exact .inl ⟨kept _ cached, kept _ tested, young⟩
  · exact .inr ⟨token, carried, kept _ verified, kept _ stamped, same⟩

theorem obeys_isSessionRevoked_bind {userId : JsString} {iat : Nat}
    {next : Bool → Proc gateway Unit β} {post : Exchanges → Except Unit β → Prop} {seen : Exchanges}
    (revoked : ∀ answer, (next true).Obeys (discipline deployment call) post
      (seen ++ [⟨.isRevoked userId iat, answer⟩]))
    (clear : (next false).Obeys (discipline deployment call) post
      (seen ++ [⟨.isRevoked userId iat, .ok false⟩])) :
    (isSessionRevoked userId iat >>= next).Obeys (discipline deployment call) post seen := by
  apply Proc.Obeys.bind
  unfold isSessionRevoked
  refine obeys_ask_bind trivial fun answer => ?_
  rcases answer with error | (_ | _)
  · exact revoked (.error error)
  · exact clear
  · exact revoked (.ok true)

theorem obeys_freshEntry_bind {cached : Option SessionEntry} {maxAge : Nat}
    {next : Option SessionEntry → Proc gateway Unit β}
    {post : Exchanges → Except Unit β → Prop} {seen : Exchanges}
    (fresh : ∀ entry now, cached = some entry → now < entry.validatedAt + maxAge →
      (next (some entry)).Obeys (discipline deployment call) post (seen ++ [⟨.now, now⟩]))
    (stale : ∀ later, After Request.isSession seen later → (Unread seen → Unread later) →
      (next none).Obeys (discipline deployment call) post later) :
    (freshEntry cached maxAge >>= next).Obeys (discipline deployment call) post seen := by
  cases cached with
  | none => exact stale seen (.refl seen) id
  | some entry =>
    apply Proc.Obeys.bind
    refine obeys_ask_bind trivial fun now => ?_
    have tested : ∀ now : Nat, (next (if now - entry.validatedAt < maxAge then some entry
        else none)).Obeys (discipline deployment call) post (seen ++ [⟨.now, now⟩]) := by
      intro now
      split
      · exact fresh entry now rfl (by omega)
      · exact stale _ ((After.refl seen).snoc _ rfl)
          fun unread => unread.snoc _ (fun _ _ other => nomatch other)
    exact tested now

section

variable {start seen : Exchanges} {post : Exchanges → Except Unit Bool → Prop}

theorem obeys_dropSession (rejected : ∀ later, After Request.isSession start later → post later (.ok false))
    (after : After Request.isSession start seen) :
    (dropSession socket).Obeys (discipline deployment call) post seen := by
  unfold dropSession
  refine obeys_ask_bind trivial fun _ => ?_
  refine obeys_ask_bind trivial fun _ => ?_
  exact rejected _ ((after.snoc _ rfl).snoc _ rfl)

theorem obeys_acceptCached {entry : SessionEntry} {now maxAge : Nat}
    (accepted : ∀ later, After Request.isSession start later → Accepted deployment socket later →
      post later (.ok true))
    (rejected : ∀ later, After Request.isSession start later → post later (.ok false))
    (after : After Request.isSession start seen) (unread : Unread seen)
    (cached : ⟨.sessionOf socket, some entry⟩ ∈ seen) (tested : ⟨.now, now⟩ ∈ seen)
    (young : now < entry.validatedAt + maxAge) (short : maxAge ≤ SESSION_FALLBACK_MAX_AGE_MS) :
    (acceptCached socket entry).Obeys (discipline deployment call) post seen := by
  unfold acceptCached
  apply obeys_isSessionRevoked_bind
  · intro answer
    exact obeys_dropSession rejected (after.snoc _ rfl)
  · apply accepted _ (after.snoc _ rfl)
    refine ⟨⟨entry.userId, entry.iat⟩, entry.validatedAt, now, .inl ⟨?_, ?_, ?_⟩, ?_, ?_⟩
    · exact mem_append_left _ cached
    · exact mem_append_left _ tested
    · exact Nat.lt_of_lt_of_le young (Nat.add_le_add_left short _)
    · exact mem_append_right _ (mem_singleton_self _)
    · intro userId iat member
      rcases mem_append.mp member with early | last
      · exact unread _ _ _ early
      · cases mem_singleton.mp last

theorem obeys_revalidate {authToken : JsString} {next : Except Unit Bool → Proc gateway Unit Bool}
    (carried : deployment.token socket = some authToken) (configured : deployment.jwks = true)
    (accepted : ∀ later, After Request.isSession start later → Accepted deployment socket later →
      (next (.ok true)).Obeys (discipline deployment call) post later)
    (rejected : ∀ later, After Request.isSession start later →
      (next (.ok false)).Obeys (discipline deployment call) post later)
    (failed : ∀ later, After Request.isSession start later → Unread later →
      (∀ exchange ∈ seen, exchange ∈ later) →
      (next (.error ())).Obeys (discipline deployment call) post later)
    (after : After Request.isSession start seen) (unread : Unread seen) :
    ((revalidate socket authToken).attempt >>= next).Obeys (discipline deployment call) post
      seen := by
  apply Proc.Obeys.bind
  apply Proc.Obeys.attempt
  unfold revalidate
  refine obeys_ask_bind trivial fun answer => ?_
  have asked := after.snoc ⟨.verifyAuthToken authToken, answer⟩ rfl
  have still := unread.snoc ⟨.verifyAuthToken authToken, answer⟩ (fun _ _ other => nomatch other)
  rcases answer with error | (_ | claims)
  · exact failed _ asked still fun exchange known => mem_append_left _ known
  · refine obeys_ask_bind trivial fun _ => ?_
    exact rejected _ (asked.snoc _ rfl)
  · apply obeys_isSessionRevoked_bind
    · intro answer
      exact obeys_dropSession rejected (asked.snoc _ rfl)
    · have verified : ⟨.verifyAuthToken authToken, .ok (some claims)⟩ ∈
          seen ++ [(⟨.verifyAuthToken authToken, .ok (some claims)⟩ : Proc.Exchange gateway)] :=
        mem_append_right _ (mem_singleton_self _)
      refine obeys_ask_bind ⟨configured, authToken, carried, mem_append_left _ verified⟩ fun stamp => ?_
      apply accepted _ ((asked.snoc _ rfl).snoc _ rfl)
      refine ⟨claims, stamp, stamp, .inr ⟨authToken, carried, ?_, ?_, rfl⟩, ?_, ?_⟩
      · exact mem_append_left _ (mem_append_left _ verified)
      · exact mem_append_right _ (mem_singleton_self _)
      · exact mem_append_left _ (mem_append_right _ (mem_singleton_self _))
      · intro userId iat member
        rcases mem_append.mp member with early | last
        · rcases mem_append.mp early with early | last
          · exact still _ _ _ early
          · cases mem_singleton.mp last
        · cases mem_singleton.mp last

/-- A validation accepts the session of its socket or does not answer true. -/
theorem obeys_validateSession (accepted : ∀ later, After Request.isSession seen later →
      (deployment.jwks = true → Accepted deployment socket later) → post later (.ok true))
    (rejected : ∀ later, After Request.isSession seen later → post later (.ok false))
    (unread : Unread seen) :
    (validateSession deployment socket).Obeys (discipline deployment call) post seen := by
  unfold validateSession
  split
  · rename_i unconfigured
    apply accepted seen (.refl seen)
    intro configured
    rw [configured] at unconfigured
    cases unconfigured
  rename_i configured
  replace configured : deployment.jwks = true := by simpa using configured
  split
  · exact rejected seen (.refl seen)
  rename_i authToken carried
  split
  · exact rejected seen (.refl seen)
  refine obeys_ask_bind trivial fun cached => ?_
  have asked : After Request.isSession seen (seen ++ [⟨.sessionOf socket, cached⟩]) :=
    (After.refl seen).snoc _ rfl
  have still := unread.snoc ⟨.sessionOf socket, cached⟩ (fun _ _ other => nomatch other)
  have known : ⟨.sessionOf socket, cached⟩ ∈
      seen ++ [(⟨.sessionOf socket, cached⟩ : Proc.Exchange gateway)] :=
    mem_append_right _ (mem_singleton_self _)
  have vouched : ∀ later, After Request.isSession seen later → Accepted deployment socket later →
      post later (.ok true) := fun later after vouched => accepted later after fun _ => vouched
  apply obeys_freshEntry_bind
  · rintro entry now rfl young
    refine obeys_acceptCached vouched rejected (asked.snoc _ rfl)
      (still.snoc _ (fun _ _ other => nomatch other)) (mem_append_left _ known)
      (mem_append_right _ (mem_singleton_self _)) young (by decide)
  · intro later after quiet
    refine obeys_revalidate carried configured vouched rejected ?_ (asked.trans after) (quiet still)
    intro last tried unread kept
    apply obeys_freshEntry_bind
    · rintro entry now rfl young
      refine obeys_acceptCached vouched rejected (tried.snoc _ rfl)
        (unread.snoc _ (fun _ _ other => nomatch other)) (mem_append_left _ ?_)
        (mem_append_right _ (mem_singleton_self _)) young (Nat.le_refl _)
      exact kept _ (after.mem known)
    · intro final stale _
      exact obeys_dropSession rejected (tried.trans stale)

end

end Vortex.Gateway
