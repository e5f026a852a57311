import Mathlib.Data.List.Nodup
import Vortex.Gateway.Vocabulary

/-!
# Every handler acts with justification

Program by program: each request is justified by the exchanges before it.
-/

variable {seen extra later : Exchanges} {event : ClientEvent} {userId channelId : JsString}
  {cursors : List (JsString × JsString)} {message : ClientMessage}

namespace Vortex.Gateway

open Foundation List

variable {deployment : Deployment} {call : Call} {socket : SocketId} {α β : Type}

/-- Every request is justified, however the process ends. -/
abbrev Justified (deployment : Deployment) (call : Call) (process : Proc gateway Unit α)
    (seen : Exchanges) : Prop :=
  process.Obeys (discipline deployment call) (fun _ _ => True) seen

theorem justified_request {request : Request} {seen : Exchanges}
    (justified : Discipline deployment call seen request) :
    Justified deployment call (ask request) seen :=
  ⟨justified, fun _ => trivial⟩

/-! ## Let through -/

/-- What a handler has exchanged when it has been let through. -/
structure Admitted (deployment : Deployment) (call : Call) (socket : SocketId)
    (event : ClientEvent) (seen : Exchanges) : Prop where
  serves : call = .serve socket
  received : ∃ message : ClientMessage, message.event = event ∧ ⟨.receive socket, message⟩ ∈ seen
  accepted : deployment.jwks = true → Accepted deployment socket seen
  unjoined : ∀ channelId, Unjoined channelId seen

theorem Unjoined.extend (unjoined : Unjoined channelId seen) (later : Unjoined channelId extra) :
    Unjoined channelId (seen ++ extra) :=
  ⟨fun ref rejoined member => (mem_append.mp member).elim
      (unjoined.1 ref rejoined) (later.1 ref rejoined),
    fun socket userId validChannels denied member => (mem_append.mp member).elim
      (unjoined.2 socket userId validChannels denied) (later.2 socket userId validChannels denied)⟩

theorem Accepted.extend (accepted : Accepted deployment socket seen)
    (unread : ∀ userId iat, ⟨.isRevoked userId iat, .error ()⟩ ∉ extra) :
    Accepted deployment socket (seen ++ extra) := by
  obtain ⟨claims, stamp, decided, validated, clear, reads⟩ := accepted
  refine ⟨claims, stamp, decided, validated.mono fun _ => mem_append_left _,
    mem_append_left _ clear, fun userId iat member => ?_⟩
  exact (mem_append.mp member).elim (reads userId iat) (unread userId iat)

/-- An exchange that joins nothing and reads no revocation. -/
def Request.isPlain : Request → Bool
  | .isRevoked _ _ => false
  | .rejoin _ _ => false
  | .enroll _ _ _ _ => false
  | _ => true

theorem unjoined_of_plain {exchange : Proc.Exchange gateway} (plain : exchange.1.isPlain = true) :
    Unjoined channelId [exchange] := by
  constructor
  · intro ref rejoined member
    rw [← mem_singleton.mp member] at plain
    cases plain
  · intro socket userId validChannels denied member
    rw [← mem_singleton.mp member] at plain
    cases plain

theorem Admitted.snoc (admitted : Admitted deployment call socket event seen)
    (exchange : Proc.Exchange gateway) (plain : exchange.1.isPlain = true) :
    Admitted deployment call socket event (seen ++ [exchange]) where
  serves := admitted.serves
  received := by
    obtain ⟨message, same, known⟩ := admitted.received
    exact ⟨message, same, mem_append_left _ known⟩
  accepted configured := (admitted.accepted configured).extend fun userId iat member => by
    rw [← mem_singleton.mp member] at plain
    cases plain
  unjoined channelId := (admitted.unjoined channelId).extend (unjoined_of_plain plain)

theorem admitted_of_after (serves : call = .serve socket) (same : message.event = event)
    (after : After Request.isSession [⟨.receive socket, message⟩] later)
    (accepted : deployment.jwks = true → Accepted deployment socket later) :
    Admitted deployment call socket event later where
  serves := serves
  received := ⟨message, same, after.mem (mem_singleton_self _)⟩
  accepted := accepted
  unjoined channelId := by
    constructor
    · intro ref rejoined member
      cases mem_singleton.mp (after.earlier member rfl)
    · intro socket userId validChannels denied member
      cases mem_singleton.mp (after.earlier member rfl)

theorem justified_validated {event : ClientEvent} {message : ClientMessage}
    {body : Proc gateway Unit Unit} {later : Exchanges} (serves : call = .serve socket)
    (same : message.event = event)
    (after : After Request.isSession [⟨.receive socket, message⟩] later) (unread : Unread later)
    (valid : ∀ last, Admitted deployment call socket event last →
      Justified deployment call body last) :
    Justified deployment call
      (do if ← validateSession deployment socket then body else pure ()) later := by
  apply Proc.Obeys.bind
  apply obeys_validateSession
  · intro last more accepted
    exact valid last (admitted_of_after serves same (after.trans more) accepted)
  · intro last _
    trivial
  · exact unread

theorem unread_received (message : ClientMessage) : Unread [⟨.receive socket, message⟩] :=
  fun _ _ _ member => nomatch mem_singleton.mp member

theorem justified_whenValid {event : ClientEvent} {name : JsString} {limit : Nat}
    {message : ClientMessage} {limited body : Proc gateway Unit Unit}
    (serves : call = .serve socket) (same : message.event = event)
    (refused : ∀ later, Justified deployment call limited later)
    (valid : ∀ last, Admitted deployment call socket event last →
      Justified deployment call body last) :
    Justified deployment call (whenValid deployment socket name limit limited body)
      [⟨.receive socket, message⟩] := by
  unfold whenValid
  refine obeys_ask_bind trivial fun allowed => ?_
  split
  · exact refused _
  · exact justified_validated serves same ((After.refl _).snoc _ rfl)
      ((unread_received message).snoc _ (fun _ _ other => nomatch other)) valid

/-! ## Handlers -/

theorem justified_refuse (message : ServerMessage) (seen : Exchanges) :
    Justified deployment call (refuse socket message) seen :=
  justified_request trivial

/-- The user id a handler goes on with was read from the cache of its socket. -/
theorem justified_getSessionUserId {event : ClientEvent}
    {next : Option JsString → Proc gateway Unit β} {seen : Exchanges}
    (admitted : Admitted deployment call socket event seen)
    (unknown : ∀ later, Justified deployment call (next none) later)
    (known : ∀ later userId, Admitted deployment call socket event later →
      Entitled deployment call socket userId later → Justified deployment call (next (some userId)) later) :
    Justified deployment call (getSessionUserId socket >>= next) seen := by
  apply Proc.Obeys.bind
  refine obeys_ask_bind trivial fun cached => ?_
  have later := admitted.snoc ⟨.sessionOf socket, cached⟩ rfl
  have answered : ∀ cached : Option SessionEntry, ⟨.sessionOf socket, cached⟩ ∈
      seen ++ [(⟨.sessionOf socket, cached⟩ : Proc.Exchange gateway)] :=
    fun _ => mem_append_right _ (mem_singleton_self _)
  cases cached with
  | none => exact unknown _
  | some entry =>
    change Justified deployment call
      (next ((some entry.userId).filter fun userId => !userId.isEmpty)) _
    rw [Option.filter_some]
    split
    · exact known _ entry.userId later
        ⟨later.serves, ⟨entry, rfl, answered (some entry)⟩, later.accepted⟩
    · exact unknown _

theorem justified_joinChannels {channelIds : List JsString}
    (admitted : Admitted deployment call socket event seen) (subscribing : event = .subscribe)
    (entitled : Entitled deployment call socket userId seen) :
    Justified deployment call (joinChannels socket userId channelIds) seen := by
  obtain ⟨message, same, received⟩ := admitted.received
  refine obeys_ask_bind ⟨socket, message, admitted.serves, received, .inl (same.trans subscribing)⟩
    fun validChannels => ?_
  have later := admitted.snoc ⟨.checkChannelAccess userId channelIds, validChannels⟩ rfl
  obtain ⟨serves, ⟨entry, signed, cached⟩, -⟩ := entitled
  exact justified_request ⟨⟨serves, ⟨entry, signed, mem_append_left _ cached⟩, later.accepted⟩,
      ⟨channelIds, mem_append_right _ (mem_singleton_self _)⟩, later.unjoined⟩

theorem justified_subscribeAs {data : Option Json}
    (admitted : Admitted deployment call socket event seen) (subscribing : event = .subscribe) :
    Justified deployment call (subscribeAs socket data) seen := by
  apply justified_getSessionUserId admitted
  · exact justified_refuse _
  · intro later userId admitted entitled
    dsimp only
    split
    · exact justified_refuse _ _
    · exact justified_joinChannels admitted subscribing entitled

theorem justified_setPresence {status : UserStatus} :
    Justified deployment call (setPresence socket status) seen := by
  refine obeys_ask_bind trivial fun state => ?_
  cases state with
  | none => trivial
  | some ref => exact obeys_ask_bind trivial fun _ => justified_request trivial

theorem justified_initAs {status : UserStatus}
    (admitted : Admitted deployment call socket event seen) :
    Justified deployment call (initAs socket status) seen := by
  apply justified_getSessionUserId admitted
  · exact fun _ => trivial
  · intro later userId admitted entitled
    exact obeys_ask_bind entitled fun _ => obeys_ask_bind trivial fun _ =>
      justified_request trivial

/-! ## Resumption -/

theorem keys_setEntry {key : JsString} {value : α} (entries : List (JsString × α)) :
    (setEntry key value entries).map Prod.fst =
      if key ∈ entries.map Prod.fst then entries.map Prod.fst else entries.map Prod.fst ++ [key] := by
  induction entries with
  | nil => rfl
  | cons entry rest ih =>
    unfold setEntry
    by_cases same : entry.1 = key
    · simp only [same, ↓reduceIte, map_cons, mem_cons, true_or]
    · rw [if_neg same, map_cons, ih]
      simp only [map_cons, mem_cons, Ne.symm same, false_or]
      split <;> rfl

theorem keys_setEntry_nodup {key : JsString} {value : α} {entries : List (JsString × α)}
    (distinct : (entries.map Prod.fst).Nodup) :
    ((setEntry key value entries).map Prod.fst).Nodup := by
  rw [keys_setEntry]
  split
  · exact distinct
  · rename_i absent
    exact List.Nodup.append distinct (nodup_singleton key) (disjoint_singleton.mpr absent)

theorem objectEntries_nodup (value : Json) : ((objectEntries value).map Prod.fst).Nodup := by
  have folded : ∀ (properties entries : List (JsString × Json)), (entries.map Prod.fst).Nodup →
      ((properties.foldl (fun entries entry => setEntry entry.1 entry.2 entries) entries).map
        Prod.fst).Nodup := by
    intro properties
    induction properties with
    | nil => exact fun _ distinct => distinct
    | cons entry rest ih => exact fun entries distinct => ih _ (keys_setEntry_nodup distinct)
  unfold objectEntries
  refine ((List.Perm.append_right _ (mergeSort_perm _ _)).trans
    (filter_append_perm _ _)).map Prod.fst |>.nodup_iff.mpr ?_
  exact folded (ownProperties value) [] nodup_nil

theorem cursorsOf_nodup {entries : List (JsString × Json)}
    (distinct : (entries.map Prod.fst).Nodup) : ((cursorsOf entries).map Prod.fst).Nodup := by
  refine distinct.sublist ?_
  induction entries with
  | nil => exact .slnil
  | cons entry rest ih =>
    unfold cursorsOf
    rw [filterMap_cons]
    have later := ih (nodup_cons.mp distinct).2
    cases Json.string? (some entry.2) with
    | none => exact later.cons _
    | some cursor => exact later.cons_cons _

/-- What the rest of a resume starts from. -/
structure Rejoining (deployment : Deployment) (call : Call) (ref : StateRef) (userId : JsString)
    (cursors : List (JsString × JsString)) (report : ResumeReport) (seen : Exchanges) : Prop where
  entitled : Entitled deployment call ref.socket userId seen
  granted : ∃ channelIds, ∃ allowed : List JsString,
    ⟨.checkChannelAccess userId channelIds, allowed⟩ ∈ seen ∧
      ∀ cursor ∈ cursors, cursor.1 ∈ allowed
  established : ⟨.establish ref.socket userId, ref.serial⟩ ∈ seen
  unjoined : ∀ cursor ∈ cursors, Unjoined cursor.1 seen
  distinct : (cursors.map Prod.fst).Nodup
  listed : ∀ channelId ∈ report.rejoined, ⟨.rejoin ref channelId, true⟩ ∈ seen

theorem unjoined_of_kind {kind : Request → Bool}
    (plain : ∀ request, kind request = true → request.isPlain = true)
    (kinds : ∀ exchange ∈ extra, kind exchange.1 = true) : Unjoined channelId extra := by
  constructor
  · intro ref rejoined member
    cases plain _ (kinds _ member)
  · intro socket userId validChannels denied member
    cases plain _ (kinds _ member)

theorem isReplay_of_isRead (request : Request) (reads : request.isRead = true) :
    request.isReplay = true := by
  cases request <;> first | rfl | cases reads

theorem isPlain_of_isReplay (request : Request) (replay : request.isReplay = true) :
    request.isPlain = true := by
  cases request <;> first | rfl | cases replay

theorem discipline_of_isReplay (request : Request) (seen : Exchanges)
    (replay : request.isReplay = true) : Discipline deployment call seen request := by
  cases request <;> trivial

/-- One channel is rejoined and replayed; the others are still to come. -/
theorem Rejoining.step {ref : StateRef} {userId channelId lastEventId : JsString}
    {cursors : List (JsString × JsString)} {report : ResumeReport} {seen later : Exchanges}
    {rejoined replayed : Bool}
    (rejoining : Rejoining deployment call ref userId ((channelId, lastEventId) :: cursors) report seen)
    (after : After Request.isReplay (seen ++ [⟨.rejoin ref channelId, rejoined⟩]) later) :
    Rejoining deployment call ref userId cursors (report.add channelId rejoined replayed) later := by
  obtain ⟨extra, rfl, kinds⟩ := after
  have kept : ∀ exchange ∈ seen, exchange ∈ seen ++ [(⟨.rejoin ref channelId, rejoined⟩ :
      Proc.Exchange gateway)] ++ extra :=
    fun exchange known => mem_append_left _ (mem_append_left _ known)
  obtain ⟨serves, ⟨entry, signed, cached⟩, accepted⟩ := rejoining.entitled
  obtain ⟨absent, distinct⟩ := nodup_cons.mp rejoining.distinct
  refine ⟨⟨serves, ⟨entry, signed, kept _ cached⟩, ?_⟩, ?_, kept _ rejoining.established, ?_,
    distinct, ?_⟩
  · intro configured
    rw [append_assoc]
    apply (accepted configured).extend
    intro userId iat member
    rcases mem_append.mp member with first | rest
    · cases mem_singleton.mp first
    · cases kinds _ rest
  · obtain ⟨channelIds, allowed, answered, all⟩ := rejoining.granted
    exact ⟨channelIds, allowed, kept _ answered,
      fun cursor member => all cursor (mem_cons_of_mem _ member)⟩
  · intro cursor member
    have different : cursor.1 ≠ channelId := by
      intro same
      exact absent (mem_map.mpr ⟨cursor, member, same⟩)
    refine ((rejoining.unjoined cursor (mem_cons_of_mem _ member)).extend ?_).extend
      (unjoined_of_kind isPlain_of_isReplay kinds)
    constructor
    · intro other again known
      cases mem_singleton.mp known
      exact different rfl
    · intro socket userId validChannels denied known
      cases mem_singleton.mp known
  · intro listed member
    unfold ResumeReport.add at member
    cases rejoined with
    | false => exact kept _ (rejoining.listed listed member)
    | true =>
      rcases mem_append.mp member with early | last
      · exact kept _ (rejoining.listed listed early)
      · rw [mem_singleton.mp last]
        exact mem_append_left _ (mem_append_right _ (mem_singleton_self _))

theorem obeys_replayChannels {ref : StateRef} {report : ResumeReport}
    (rejoining : Rejoining deployment call ref userId cursors report seen) :
    (replayChannels ref cursors report).Obeys (discipline deployment call)
      (fun later result => ∀ report, result = .ok report →
        ∀ channelId ∈ report.rejoined, ⟨.rejoin ref channelId, true⟩ ∈ later) seen := by
  induction cursors generalizing report seen with
  | nil =>
    intro final same
    cases same
    exact rejoining.listed
  | cons cursor cursors ih =>
    obtain ⟨channelId, lastEventId⟩ := cursor
    obtain ⟨channelIds, allowed, answered, all⟩ := rejoining.granted
    refine obeys_ask_bind ⟨userId, channelIds, allowed, rejoining.entitled, answered,
      all _ mem_cons_self, rejoining.established,
      rejoining.unjoined _ mem_cons_self⟩ fun rejoined => ?_
    apply Proc.Obeys.bind
    refine obeys_of_kind discipline_of_isReplay
      (along_replayChannel isReplay_of_isRead (fun _ _ _ => rfl) _ _) (.refl _) ?_
    intro later result after
    cases result with
    | error error => exact fun report impossible => nomatch impossible
    | ok replayed => exact ih (rejoining.step after)

theorem justified_resumeChannels (admitted : Admitted deployment call socket event seen)
    (resuming : event = .resume) (entitled : Entitled deployment call socket userId seen)
    (distinct : (cursors.map Prod.fst).Nodup) :
    Justified deployment call (resumeChannels socket userId cursors) seen := by
  obtain ⟨message, same, received⟩ := admitted.received
  refine obeys_ask_bind ⟨socket, message, admitted.serves, received, .inr (same.trans resuming)⟩
    fun allowed => ?_
  have answered := admitted.snoc ⟨.checkChannelAccess userId (cursors.map Prod.fst), allowed⟩ rfl
  obtain ⟨serves, ⟨entry, signed, cached⟩, -⟩ := entitled
  have still : Entitled deployment call socket userId
      (seen ++ [⟨.checkChannelAccess userId (cursors.map Prod.fst), allowed⟩]) :=
    ⟨serves, ⟨entry, signed, mem_append_left _ cached⟩, answered.accepted⟩
  refine obeys_ask_bind still fun serial => ?_
  have established := answered.snoc ⟨.establish socket userId, serial⟩ rfl
  have rejoining : Rejoining deployment call ⟨socket, serial⟩ userId
      (cursors.filter fun cursor => (allowed : List JsString).contains cursor.1) ⟨[], [], []⟩
      (seen ++ [⟨.checkChannelAccess userId (cursors.map Prod.fst), allowed⟩] ++
        [⟨.establish socket userId, serial⟩]) := by
    refine ⟨⟨serves, ⟨entry, signed, ?_⟩, established.accepted⟩,
      ⟨cursors.map Prod.fst, allowed, ?_, ?_⟩, ?_, fun cursor _ => established.unjoined cursor.1,
      distinct.sublist (filter_sublist.map _), fun _ member => nomatch member⟩
    · exact mem_append_left _ (mem_append_left _ cached)
    · exact mem_append_left _ (mem_append_right _ (mem_singleton_self _))
    · exact fun cursor member => contains_iff_mem.mp (mem_filter.mp member).2
    · exact mem_append_right _ (mem_singleton_self _)
  apply Proc.Obeys.bind
  refine (obeys_replayChannels rejoining).mono fun later result listed => ?_
  cases result with
  | error error => trivial
  | ok report => exact justified_request (listed report rfl)

theorem justified_resumeAs {data : Option Json}
    (admitted : Admitted deployment call socket event seen) (resuming : event = .resume) :
    Justified deployment call (resumeAs socket data) seen := by
  apply justified_getSessionUserId admitted
  · exact fun _ => trivial
  · intro later userId admitted entitled
    dsimp only
    split
    · exact justified_refuse _ _
    · split
      · exact justified_refuse _ _
      · exact justified_resumeChannels admitted resuming entitled
          (cursorsOf_nodup (objectEntries_nodup _))

/-! ## Programs -/

theorem justified_serve (serves : call = .serve socket) :
    Justified deployment call (serve deployment socket) [] := by
  refine obeys_ask_bind rfl fun message => ?_
  rcases message with ⟨event, data⟩
  have refused : ∀ (message : ServerMessage) later,
      Justified deployment call (refuse socket message) later := justified_refuse
  have silent : ∀ later, Justified deployment call (pure () : Proc gateway Unit Unit) later :=
    fun _ => trivial
  cases event with
  | subscribe =>
    change Justified deployment call (subscribe deployment socket data) _
    unfold subscribe
    split
    · exact refused _ _
    · exact justified_whenValid serves rfl (refused _)
        fun last admitted => justified_subscribeAs admitted rfl
  | unsubscribe =>
    change Justified deployment call (unsubscribe socket data) _
    unfold unsubscribe
    split
    · trivial
    · exact justified_request trivial
  | typing =>
    change Justified deployment call (typing deployment socket data) _
    unfold typing
    split
    · exact justified_whenValid serves rfl silent fun last _ => justified_request trivial
    · trivial
  | callSignal =>
    change Justified deployment call (callSignal deployment socket data) _
    unfold callSignal
    split
    · exact justified_whenValid serves rfl silent fun last _ => justified_request trivial
    · trivial
  | presence =>
    change Justified deployment call (presence deployment socket data) _
    unfold presence
    split
    · trivial
    · exact justified_whenValid serves rfl silent fun last _ => justified_setPresence
  | resume =>
    change Justified deployment call (resume deployment socket data) _
    unfold resume
    split
    · exact refused _ _
    · exact justified_whenValid serves rfl (refused _)
        fun last admitted => justified_resumeAs admitted rfl
  | init =>
    exact justified_validated serves rfl (.refl _) (unread_received _)
      fun last admitted => justified_initAs admitted

theorem unswept_nil : Unswept [] := fun _ member => absurd member not_mem_nil

theorem Unswept.snoc (unswept : Unswept seen) (exchange : Proc.Exchange gateway)
    (other : exchange.1.isSweep = false) : Unswept (seen ++ [exchange]) := by
  intro known member
  rcases mem_append.mp member with early | last
  · exact unswept known early
  · rwa [mem_singleton.mp last]

theorem obeys_revokeChannelAccess {replica : Nat} {userId channelId : JsString} {seen : Exchanges}
    (called : call = .revokeChannelAccess replica userId channelId ∨
      call = .removeMember replica userId channelId) (unswept : Unswept seen) :
    (revokeChannelAccess replica userId channelId).Obeys (discipline deployment call)
      (fun later _ => (∀ exchange ∈ seen, exchange ∈ later) ∧
        ∃ found sockets, ⟨.fetchSockets (some channelId), found⟩ ∈ later ∧
          ⟨.dropChannel replica userId channelId sockets, ()⟩ ∈ later) seen := by
  refine obeys_ask_bind unswept fun found => ?_
  refine obeys_ask ⟨called, fun other member => ?_⟩ fun _ => ?_
  · rcases mem_append.mp member with early | last
    · cases unswept _ early
    · cases mem_singleton.mp last
      rfl
  · refine ⟨fun exchange known => mem_append_left _ (mem_append_left _ known), found, _,
      ?_, mem_append_right _ (mem_singleton_self _)⟩
    exact mem_append_left _ (mem_append_right _ (mem_singleton_self _))

theorem obeys_removeMember {replica : Nat} :
    (removeMember replica userId channelId).Obeys
      (discipline deployment (.removeMember replica userId channelId))
      (Ended deployment (.removeMember replica userId channelId)) [] := by
  refine obeys_ask_bind ⟨⟨replica, rfl⟩, unswept_nil⟩ fun deleted => ?_
  cases deleted with
  | false => trivial
  | true =>
    refine obeys_ask_bind trivial fun reached => ?_
    cases reached with
    | false => trivial
    | true =>
      apply Proc.Obeys.bind
      refine (obeys_revokeChannelAccess (.inr rfl) ?_).mono ?_
      · exact (unswept_nil.snoc _ rfl).snoc _ rfl
      · rintro later result ⟨kept, found, sockets, fetched, dropped⟩
        cases result with
        | error error => trivial
        | ok _ => exact ⟨found, sockets, kept _ mem_cons_self, fetched, dropped⟩

theorem obeys_revokeSessions :
    (revokeSessions userId).Obeys (discipline deployment (.revokeSessions userId))
      (Ended deployment (.revokeSessions userId)) [] := by
  refine obeys_ask_bind trivial fun cutoffMs => ?_
  refine obeys_ask_bind ⟨rfl, unswept_nil.snoc _ rfl⟩ fun persisted => ?_
  cases persisted with
  | false => trivial
  | true =>
    apply Proc.Obeys.bind
    apply Proc.Obeys.bind
    refine obeys_ask ((unswept_nil.snoc _ rfl).snoc _ rfl) fun found => ?_
    cases found with
    | error error => trivial
    | ok sockets =>
      have fetched : ∀ before : Exchanges, ⟨.fetchSockets none, .ok sockets⟩ ∈ before ++
          [(⟨.fetchSockets none, .ok sockets⟩ : Proc.Exchange gateway)] :=
        fun _ => mem_append_right _ (mem_singleton_self _)
      have only : ∀ found, ⟨.fetchSockets none, found⟩ ∈ [] ++
          [(⟨.now, cutoffMs⟩ : Proc.Exchange gateway)] ++ [⟨.persistCutoff userId cutoffMs, true⟩] ++
          [⟨.fetchSockets none, .ok sockets⟩] → found = .ok sockets := by
        intro found member
        rcases mem_append.mp member with early | last
        · cases ((unswept_nil.snoc _ rfl).snoc _ rfl) _ early
        · cases mem_singleton.mp last
          rfl
      refine obeys_ask_bind ⟨rfl, only⟩ fun _ => ?_
      refine ⟨cutoffMs, sockets, ?_, mem_append_left _ (fetched _),
        mem_append_right _ (mem_singleton_self _)⟩
      exact mem_append_left _ (mem_append_left _ (mem_append_right _ (mem_singleton_self _)))

theorem justified_of_free {process : Proc gateway Unit α}
    (along : process.Along fun (request : Request) _ => request.isFree = true) :
    Justified deployment call process seen := by
  refine obeys_of_kind (fun request seen free => ?_) along (.refl seen) fun _ _ _ => trivial
  cases request <;> trivial

theorem justified_disconnected : Justified deployment call disconnected [] := by
  refine obeys_ask_bind trivial ?_
  rintro ⟨ref, userId⟩
  refine obeys_ask_bind (unswept_nil.snoc _ rfl) fun found => ?_
  have offline : ∀ ref later, Justified deployment call (ask (.announceOffline ref)) later :=
    fun _ _ => justified_request trivial
  cases found with
  | error error => exact offline _ _
  | ok sockets =>
    have judged : ∀ (last : Bool) later, Justified deployment call
        (if last then pure () else ask (.announceOffline ref)) later := by
      intro last later
      cases last
      · exact offline ref later
      · trivial
    exact judged _ _

theorem justified_done {process : Proc gateway Unit α}
    (unjudged : ∀ seen result, Ended deployment call seen result)
    (justified : Justified deployment call process []) :
    (do let _ ← process; pure true).Obeys (discipline deployment call) (Ended deployment call)
    [] := by
  apply Proc.Obeys.bind
  refine justified.mono fun later result _ => ?_
  cases result with
  | error error => exact unjudged _ _
  | ok value => exact unjudged _ _

/-- Every program is justified, and ends as its call says. -/
theorem disciplined (deployment : Deployment) (call : Call) :
    (program deployment call).Obeys (discipline deployment call) (Ended deployment call) [] := by
  cases call with
  | serve socket => exact justified_done (fun _ _ => trivial) (justified_serve rfl)
  | validate socket =>
    exact obeys_validateSession (fun later _ accepted => accepted) (fun later _ => trivial)
      fun _ _ _ member => absurd member not_mem_nil
  | disconnected =>
    exact justified_done (fun _ _ => trivial) justified_disconnected
  | revokeSessions userId => exact obeys_revokeSessions
  | revokeChannelAccess replica userId channelId =>
    exact justified_done (fun _ _ => trivial)
      ((obeys_revokeChannelAccess (.inl rfl) unswept_nil).mono fun _ _ _ => trivial)
  | removeMember replica userId channelId => exact obeys_removeMember
  | publish event =>
    exact justified_done (fun _ _ => trivial) (justified_of_free (along_publish event))
  | act action => exact obeys_ask_bind rfl fun _ => trivial

end Vortex.Gateway
