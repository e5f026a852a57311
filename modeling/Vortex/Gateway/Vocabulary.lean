import Vortex.Gateway.Discipline

/-!
# What each program may ask

The requests that the handler of each event of a client can come to, and those of every
other program. What a kind of request never does, a program that never asks one of that
kind never does.
-/

namespace Vortex.Gateway

open Foundation

/-- What reads a stream. -/
def Request.isRead : Request → Bool
  | .xrevrange _ _ _ => true
  | .xrange _ _ _ => true
  | .busDestroyed => true
  | _ => false

/-- What needs no justification outside of the handlers of a socket. -/
def Request.isFree : Request → Bool
  | .busDestroyed => true
  | .stamp => true
  | .xadd _ => true
  | .publish _ => true
  | _ => false

/-- What the handler of an event asks, once it has received the event. -/
def ClientEvent.asks (event : ClientEvent) (request : Request) : Bool :=
  request.isSession ||
    match event, request with
    | .subscribe, .emit _ (.error _) => true
    | .subscribe, .checkChannelAccess _ _ => true
    | .subscribe, .enroll _ _ _ _ => true
    | .unsubscribe, .unenroll _ _ => true
    | .typing, .typing _ _ _ => true
    | .callSignal, .callSignal _ _ _ => true
    | .presence, .setStatus _ _ => true
    | .presence, .writePresence => true
    | .presence, .announce _ => true
    | .resume, .emit _ (.error _) => true
    | .resume, .emit _ (.replay _ _ _) => true
    | .resume, .checkChannelAccess _ _ => true
    | .resume, .establish _ _ => true
    | .resume, .rejoin _ _ => true
    | .resume, .complete _ _ _ _ => true
    | .resume, request => request.isRead
    | .init, .init _ _ _ => true
    | .init, .writePresence => true
    | .init, .announce _ => true
    | _, _ => false

/-- What a program asks that does not serve a socket. -/
def Call.asks : Call → Request → Bool
  | .validate _, request => request.isSession
  | .disconnected, .nextClosing => true
  | .disconnected, .fetchSockets _ => true
  | .disconnected, .announceOffline _ => true
  | .revokeSessions _, .now => true
  | .revokeSessions _, .persistCutoff _ _ => true
  | .revokeSessions _, .fetchSockets _ => true
  | .revokeSessions _, .disconnectAll _ _ => true
  | .revokeChannelAccess _ _ _, .fetchSockets _ => true
  | .revokeChannelAccess _ _ _, .dropChannel _ _ _ _ => true
  | .removeMember _ _ _, .deleteMember _ _ => true
  | .removeMember _ _ _, .reachSignal => true
  | .removeMember _ _ _, .fetchSockets _ => true
  | .removeMember _ _ _, .dropChannel _ _ _ _ => true
  | .publish _, request => request.isFree
  | .act _, .act _ => true
  | _, _ => false

/-- A process that only asks requests of a kind. -/
abbrev Only {α : Type} (kind : Request → Bool) (process : Proc gateway Unit α) : Prop :=
  process.Along fun (request : Request) _ => kind request = true

section

variable {deployment : Deployment} {socket : SocketId} {kind : Request → Bool} {α : Type}

theorem along_wider {wider : Request → Bool} {process : Proc gateway Unit α}
    (along : Only kind process) (more : ∀ request, kind request = true → wider request = true) :
    Only wider process :=
  Proc.Along.mono (fun (request : Request) _ => more request) along

theorem along_ask_bind {request : Request} {next : request.Answer → Proc gateway Unit α}
    (here : kind request = true) (rest : ∀ answer, Only kind (next answer)) :
    Only kind (ask request >>= next) :=
  ⟨here, rest⟩

theorem along_ask {request : Request} (here : kind request = true) : Only kind (ask request) :=
  ⟨here, fun _ => trivial⟩

theorem along_command {answer : Proc gateway Unit (Except Unit α)} (along : Only kind answer) :
    Only kind (command answer) := by
  apply Proc.Along.bind along
  intro outcome
  cases outcome <;> trivial

/-! ## Sessions -/

theorem along_isSessionRevoked (userId : JsString) (iat : Nat) :
    Only Request.isSession (isSessionRevoked userId iat) := by
  apply along_ask_bind rfl
  intro answer
  cases answer <;> trivial

theorem along_dropSession : Only Request.isSession (dropSession socket) :=
  along_ask_bind rfl fun _ => along_ask_bind rfl fun _ => trivial

theorem along_freshEntry (cached : Option SessionEntry) (maxAge : Nat) :
    Only Request.isSession (freshEntry cached maxAge) := by
  cases cached with
  | none => trivial
  | some entry => exact along_ask_bind rfl fun _ => trivial

theorem along_acceptCached (entry : SessionEntry) :
    Only Request.isSession (acceptCached socket entry) := by
  apply Proc.Along.bind (along_isSessionRevoked _ _)
  intro revoked
  cases revoked
  · trivial
  · exact along_dropSession

theorem along_revalidate (authToken : JsString) :
    Only Request.isSession (revalidate socket authToken) := by
  apply along_ask_bind rfl
  intro answer
  rcases answer with error | (_ | claims)
  · trivial
  · exact along_ask_bind rfl fun _ => trivial
  · apply Proc.Along.bind (along_isSessionRevoked _ _)
    intro revoked
    cases revoked
    · exact along_ask_bind rfl fun _ => trivial
    · exact along_dropSession

theorem along_validateSession : Only Request.isSession (validateSession deployment socket) := by
  unfold validateSession
  split
  · trivial
  split
  · trivial
  split
  · trivial
  apply along_ask_bind rfl
  intro cached
  apply Proc.Along.bind (along_freshEntry _ _)
  intro recent
  cases recent with
  | some entry => exact along_acceptCached entry
  | none =>
    apply Proc.Along.tryCatch (along_revalidate _)
    intro error
    apply Proc.Along.bind (along_freshEntry _ _)
    intro recent
    cases recent with
    | some entry => exact along_acceptCached entry
    | none => exact along_dropSession

theorem along_getSessionUserId : Only Request.isSession (getSessionUserId socket) :=
  along_ask_bind rfl fun _ => trivial

/-! ## Streams -/

theorem along_findStreamEntryId (channelId eventId : JsString) (attempts : Nat)
    (endId : Option StreamId) :
    Only Request.isRead (EventBus.findStreamEntryId channelId eventId attempts endId) := by
  induction attempts generalizing endId with
  | zero => trivial
  | succ attempts ih =>
    unfold EventBus.findStreamEntryId
    apply Proc.Along.bind
    · exact along_command (along_ask rfl)
    · intro entries
      split
      · trivial
      · split
        · trivial
        · exact ih _

theorem along_readAfter (channelId afterEventId : JsString) (limit : Nat) :
    Only Request.isRead (EventBus.readAfter channelId afterEventId limit) := by
  apply Proc.Along.bind (along_findStreamEntryId _ _ _ _)
  intro streamEntryId
  apply Proc.Along.bind
  · exact along_command (along_ask rfl)
  · exact fun _ => trivial

theorem along_replay (channelId afterEventId : JsString) (limit : Nat) :
    Only Request.isRead (EventBus.replay channelId afterEventId limit) := by
  apply along_ask_bind rfl
  intro destroyed
  split
  · trivial
  · exact Proc.Along.tryCatch (along_readAfter _ _ _) fun _ => trivial

/-- A replay reads, and tells the socket what it has missed. -/
theorem along_replayChannel (reads : ∀ request, request.isRead = true → kind request = true)
    (tells : ∀ channelId events hasMore,
      kind (.emit socket (.replay channelId events hasMore)) = true)
    (channelId lastEventId : JsString) :
    Only kind (replayChannel socket channelId lastEventId) := by
  apply Proc.Along.tryCatch
  · apply Proc.Along.bind (along_wider (along_replay _ _ _) reads)
    intro events
    split
    · trivial
    · exact along_ask_bind (tells _ _ _) fun _ => trivial
  · exact fun _ => trivial

theorem along_publish (event : PartialEvent) : Only Request.isFree (EventBus.publish event) := by
  apply along_ask_bind rfl
  intro destroyed
  split
  · trivial
  apply along_ask_bind rfl
  intro stamp
  apply Proc.Along.bind
  · unfold EventBus.persist
    split
    · exact along_command (along_ask rfl)
    · trivial
  · intro _
    apply Proc.Along.bind
    · exact along_command (along_ask rfl)
    · exact fun _ => trivial

/-! ## Handlers -/

theorem asks_of_isSession (event : ClientEvent) (request : Request)
    (session : request.isSession = true) : event.asks request = true := by
  unfold ClientEvent.asks
  rw [session, Bool.true_or]

theorem along_whenValid {event : ClientEvent} {name : JsString} {limit : Nat}
    {limited body : Proc gateway Unit Unit} (first : Only event.asks limited)
    (second : Only event.asks body) :
    Only event.asks (whenValid deployment socket name limit limited body) := by
  apply along_ask_bind (asks_of_isSession event _ rfl)
  intro allowed
  cases allowed
  · exact first
  · apply Proc.Along.bind (along_wider along_validateSession (asks_of_isSession event))
    intro valid
    cases valid
    · trivial
    · exact second

theorem along_getSessionUserId_bind {event : ClientEvent}
    {next : Option JsString → Proc gateway Unit α}
    (rest : ∀ userId, Only event.asks (next userId)) :
    Only event.asks (getSessionUserId socket >>= next) :=
  Proc.Along.bind (along_wider along_getSessionUserId (asks_of_isSession event)) rest

/-- What is wrong with a subscription is told as an error. -/
theorem error_of_requestedChannels {data : Option Json} {message : ServerMessage}
    (refused : requestedChannels data = .error message) : ∃ text, message = .error text := by
  unfold requestedChannels at refused
  split at refused
  · cases refused
    exact ⟨_, rfl⟩
  · split at refused
    · cases refused
      exact ⟨_, rfl⟩
    · split at refused
      · cases refused
        exact ⟨_, rfl⟩
      · split at refused
        · cases refused
          exact ⟨_, rfl⟩
        · cases refused

section

variable (data : Option Json)

include data

theorem along_subscribe : Only ClientEvent.subscribe.asks (subscribe deployment socket data) := by
  unfold subscribe
  split
  · exact along_ask rfl
  · refine along_whenValid (along_ask rfl) (along_getSessionUserId_bind fun userId => ?_)
    cases userId with
    | none => exact along_ask rfl
    | some userId =>
      cases requested : requestedChannels data with
      | error message =>
        obtain ⟨text, rfl⟩ := error_of_requestedChannels requested
        simp only
        exact along_ask rfl
      | ok channelIds =>
        simp only
        exact along_ask_bind rfl fun _ => along_ask rfl

theorem along_unsubscribe : Only ClientEvent.unsubscribe.asks (unsubscribe socket data) := by
  unfold unsubscribe
  split
  · trivial
  · exact along_ask rfl

theorem along_typing : Only ClientEvent.typing.asks (typing deployment socket data) := by
  unfold typing
  split
  · exact along_whenValid trivial (along_ask rfl)
  · trivial

theorem along_callSignal :
    Only ClientEvent.callSignal.asks (callSignal deployment socket data) := by
  unfold callSignal
  split
  · exact along_whenValid trivial (along_ask rfl)
  · trivial

theorem along_presence : Only ClientEvent.presence.asks (presence deployment socket data) := by
  unfold presence
  split
  · trivial
  · refine along_whenValid trivial (along_ask_bind rfl fun state => ?_)
    cases state with
    | none => trivial
    | some serial => exact along_ask_bind rfl fun _ => along_ask rfl

end

theorem along_replayChannels (ref : StateRef) (cursors : List (JsString × JsString))
    (report : ResumeReport) : Only ClientEvent.resume.asks (replayChannels ref cursors report) := by
  induction cursors generalizing report with
  | nil => trivial
  | cons cursor cursors ih =>
    apply along_ask_bind rfl
    intro rejoined
    refine Proc.Along.bind (along_replayChannel (fun request reads => ?_) (fun _ _ _ => rfl) _ _)
      fun _ => ih _
    cases request <;> first | rfl | cases reads

theorem along_resume (data : Option Json) :
    Only ClientEvent.resume.asks (resume deployment socket data) := by
  unfold resume
  split
  · exact along_ask rfl
  · refine along_whenValid (along_ask rfl) (along_getSessionUserId_bind fun userId => ?_)
    cases userId with
    | none => trivial
    | some userId =>
      dsimp only
      split
      · exact along_ask rfl
      · split
        · exact along_ask rfl
        · refine along_ask_bind rfl fun _ => along_ask_bind rfl fun _ => ?_
          exact Proc.Along.bind (along_replayChannels _ _ _) fun _ => along_ask rfl

theorem along_init (data : Option Json) :
    Only ClientEvent.init.asks (init deployment socket data) := by
  apply Proc.Along.bind (along_wider along_validateSession (asks_of_isSession .init))
  intro valid
  cases valid
  · trivial
  · refine along_getSessionUserId_bind fun userId => ?_
    cases userId with
    | none => trivial
    | some userId => exact along_ask_bind rfl fun _ => along_ask_bind rfl fun _ => along_ask rfl

theorem along_serve (receives : kind (.receive socket) = true)
    (asks : ∀ event request, ClientEvent.asks event request = true → kind request = true) :
    Only kind (serve deployment socket) := by
  apply along_ask_bind receives
  rintro ⟨event, data⟩
  cases event with
  | subscribe => exact along_wider (along_subscribe data) (asks _)
  | unsubscribe => exact along_wider (along_unsubscribe data) (asks _)
  | typing => exact along_wider (along_typing data) (asks _)
  | callSignal => exact along_wider (along_callSignal data) (asks _)
  | presence => exact along_wider (along_presence data) (asks _)
  | resume => exact along_wider (along_resume data) (asks _)
  | init => exact along_wider (along_init data) (asks _)

/-! ## Programs -/

theorem along_revokeChannelAccess (replica : Nat) (userId channelId : JsString)
    (fetches : kind (.fetchSockets (some channelId)) = true)
    (drops : ∀ sockets, kind (.dropChannel replica userId channelId sockets) = true) :
    Only kind (revokeChannelAccess replica userId channelId) :=
  along_ask_bind fetches fun _ => along_ask (drops _)

theorem along_program {call : Call} (other : ∀ socket, call ≠ .serve socket) :
    Only call.asks (program deployment call) := by
  cases call with
  | serve socket => exact absurd rfl (other socket)
  | validate socket => exact along_validateSession
  | disconnected =>
    refine Proc.Along.bind (along_ask_bind rfl ?_) fun _ => trivial
    rintro ⟨ref, userId⟩
    refine along_ask_bind rfl fun found => ?_
    have judged : ∀ last : Bool, Only Call.disconnected.asks
        (if last then pure () else ask (.announceOffline ref)) := by
      intro last
      cases last
      · exact along_ask rfl
      · trivial
    cases found with
    | error error => exact along_ask rfl
    | ok sockets => exact judged _
  | revokeSessions userId =>
    refine along_ask_bind rfl fun cutoffMs => along_ask_bind rfl fun persisted => ?_
    cases persisted
    · trivial
    · exact Proc.Along.bind (along_command (along_ask rfl)) fun _ => along_ask_bind rfl fun _ =>
        trivial
  | revokeChannelAccess replica userId channelId =>
    exact Proc.Along.bind (along_revokeChannelAccess _ _ _ rfl fun _ => rfl) fun _ => trivial
  | removeMember replica userId channelId =>
    refine along_ask_bind rfl fun deleted => ?_
    cases deleted
    · trivial
    · refine along_ask_bind rfl fun reached => ?_
      cases reached
      · trivial
      · exact Proc.Along.bind (along_revokeChannelAccess _ _ _ rfl fun _ => rfl) fun _ => trivial
  | publish event => exact Proc.Along.bind (along_publish event) fun _ => trivial
  | act action => exact along_ask_bind rfl fun _ => trivial

end

end Vortex.Gateway
