import Vortex.Gateway.Messages
import Vortex.Gateway.Validation

/-!
# From a stored message to its event

`POST /publish-event` of the signal server reads a body in chunks and refuses it once
there are more than 4096 bytes. The web app sends an event of any size and only logs
the refusal, so the event of a stored message is published exactly when it fits
(`published_iff`).
-/

namespace Vortex.Gateway

open Foundation

/-! ## The endpoint -/

def MAX_EVENT_BYTES : Nat := 4096

/-- Collect the chunks of a body, unless there are too many bytes. -/
def readBody (totalBytes : Nat) (received : List UInt8) : List (List UInt8) → Option (List UInt8)
  | [] => some received
  | chunk :: later =>
      if MAX_EVENT_BYTES < totalBytes + chunk.length then none
      else readBody (totalBytes + chunk.length) (received ++ chunk) later

/-- The event a parsed body describes. -/
def partialEvent? (parsed : Json) : Option PartialEvent :=
  match Json.string? (parsed.get? (js "type")), Json.string? (parsed.get? (js "channelId")),
      Json.string? (parsed.get? (js "actorId")) with
  | some type, some channelId, some actorId =>
      some ⟨type, channelId, Json.string? (parsed.get? (js "serverId")), actorId,
        (parsed.get? (js "data")).getD .null⟩
  | _, _, _ => none

def publishBody (body : List UInt8) : Proc gateway Unit HttpResponse :=
  match readJson body with
  | none => throw ()
  | some parsed =>
      if !isObject (some parsed) then pure (.error 400 (js "Invalid JSON body"))
      else
        match partialEvent? parsed with
        | none => pure (.error 400 (js "Missing required fields: type, channelId, actorId"))
        | some event => do
            let eventId ← EventBus.publish event
            pure (.json 200 (.obj [(js "ok", .bool true), (js "eventId", .str eventId)]))

/-- `POST /publish-event` on a server with an event bus or without, for a request whose
body arrives in chunks. -/
def publishEndpoint (secret : JsString) (eventBus : Bool) (request : HttpRequest)
    (chunks : List (List UInt8)) : Proc gateway Unit HttpResponse :=
  if secret.isEmpty then pure (.error 503 (js "Endpoint not configured"))
  else if (request.header (js "authorization")).getD [] ≠ bearer secret then
    pure (.error 401 (js "Unauthorized"))
  else if !eventBus then pure (.error 503 (js "Event bus not available"))
  else
    match readBody 0 [] chunks with
    | none => pure (.error 413 (js "Payload too large"))
    | some body =>
        tryCatch (publishBody body) fun _ => pure (.error 500 (js "Internal server error"))

/-! ## Reading the body -/

/-- The limit is on the bytes, however they are cut into chunks. -/
theorem readBody_eq (totalBytes : Nat) (received : List UInt8) (chunks : List (List UInt8))
    (within : totalBytes ≤ MAX_EVENT_BYTES) :
    readBody totalBytes received chunks =
      if totalBytes + chunks.flatten.length ≤ MAX_EVENT_BYTES then some (received ++ chunks.flatten)
      else none := by
  induction chunks generalizing totalBytes received with
  | nil => simp [readBody, within]
  | cons chunk later ih =>
    rw [readBody]
    split_ifs with exceeded fits fits
    · simp only [List.flatten_cons, List.length_append] at fits
      omega
    · rfl
    · rw [ih _ _ (by omega), if_pos (by simpa [Nat.add_assoc] using fits)]
      simp
    · rw [ih _ _ (by omega), if_neg (by simpa [Nat.add_assoc] using fits)]

/-! ## The size of an event -/

/-- The bytes of the event of a message: those of its five texts, and of what stands
between them. -/
def Message.eventBytes (message : Message) : Nat :=
  96 + JsString.literalBytes message.channelId + JsString.literalBytes message.senderId +
    JsString.literalBytes message.id + message.replyToId.bytes +
    JsString.literalBytes message.content

theorem length_eventBody {message : Message} (printable : message.replyToId.Printable) :
    (jsonBytes message.event.body).length = message.eventBytes := by
  have shown : message.event.body.Printable := by
    simp [GatewayEvent.body, Message.event, Json.Printable, Json.PrintableMembers, printable]
  have names : (js "type").literalBytes = 6 ∧ (js "message.created").literalBytes = 17 ∧
      (js "channelId").literalBytes = 11 ∧ (js "actorId").literalBytes = 9 ∧
      (js "data").literalBytes = 6 ∧ (js "messageId").literalBytes = 11 ∧
      (js "replyToId").literalBytes = 11 ∧ (js "content").literalBytes = 9 := by decide
  rw [Json.length_jsonBytes shown]
  simp only [GatewayEvent.body, Message.event, Json.bytes, Json.bytesOfMembers, names,
    Message.eventBytes]
  omega

/-! ## What is stored -/

/-- A reply is stored with no message to reply to, or with the id of one. -/
theorem printable_of_found {environment : MessageEnvironment} {channelId : JsString}
    {body shown : Json} (found : findReply environment channelId (replyToIdOf body) = .ok shown) :
    (replyToIdOf body).Printable := by
  unfold replyToIdOf at found ⊢
  cases given : body.get? (js "reply_to_id") with
  | none => simp [Json.Printable]
  | some value =>
    cases value with
    | num text =>
      simp only [given] at found ⊢
      split_ifs at found ⊢ with nonzero
      · simp [findReply, nonzero] at found
      · exact @Json.numberLiteral_digit 48 rfl
    | arr items => simp [given, findReply, truthy] at found
    | obj members => simp [given, findReply, truthy] at found
    | _ => simp [Json.Printable]

theorem printable_of_stored {environment : MessageEnvironment} {channelId : JsString}
    {body : Option Json} {message : Message} {rest : MessageRow × Json}
    (stored : storeMessage environment channelId body = .ok (message, rest)) :
    message.replyToId.Printable := by
  obtain ⟨_, _, _, _, _, -, -, -, found, -, rfl⟩ := storeMessage_cases stored
  exact printable_of_found found

/-- A stored message is published unless the profile of its sender cannot be read. -/
theorem event_of_stored {environment : MessageEnvironment} {channelId : JsString}
    {body : Option Json} {message : Message}
    (stored : (post environment channelId body).stored = some message) :
    message.replyToId.Printable ∧ (post environment channelId body).event =
        if environment.senderProfile.isOk then some message.event else none := by
  unfold post at stored ⊢
  cases outcome : storeMessage environment channelId body with
  | error response => simp [outcome] at stored
  | ok kept =>
    obtain ⟨kept, row, replyToMessage⟩ := kept
    have printable := printable_of_stored outcome
    cases profile : environment.senderProfile with
    | error error =>
      simp only [outcome, profile, Option.some.injEq] at stored
      exact ⟨stored ▸ printable, by simp [Except.isOk, Except.toBool]⟩
    | ok sender =>
      simp only [outcome, profile, Option.some.injEq] at stored
      exact ⟨stored ▸ printable, by simp [stored, Except.isOk, Except.toBool]⟩

/-! ## Publishing -/

/-- Redis answers every command, and the event bus has not been destroyed. -/
structure Reliable (world : World) : Prop where
  alive : world.busDestroyed = false
  succeeds : ∀ key, ∀ outcome ∈ world.redisOutcomes key, outcome = true

theorem Reliable.command {world : World} (reliable : Reliable world) {α : Type}
    (key : Option JsString) (run : World → α × World) :
    world.command key run = (.ok (run world).1, (run world).2.nextOutcome key) := by
  have next : (world.redisOutcomes key).headD true = true := by
    cases left : world.redisOutcomes key with
    | nil => rfl
    | cons outcome later => exact reliable.succeeds key outcome (by simp [left])
  rw [World.command, if_pos next]

theorem Reliable.nextOutcome {world : World} (reliable : Reliable world) (key : Option JsString) :
    Reliable (world.nextOutcome key) where
  alive := reliable.alive
  succeeds := by
    intro other outcome member
    by_cases same : other = key
    · simp only [World.nextOutcome, same, Function.update_self] at member
      exact reliable.succeeds key outcome (List.mem_of_mem_tail member)
    · simp only [World.nextOutcome, Function.update_of_ne same] at member
      exact reliable.succeeds other outcome member

/-- The event is the one entry appended to the stream of its channel, and to no other. -/
def AppendedOnce (event : VortexEvent) (before after : World) : Prop :=
  ∃ id, ∀ channelId, (after.streams channelId).log =
    (before.streams channelId).log ++ if channelId = event.channelId then [⟨id, some event⟩] else []

/-- Every replica gets the event once, and nothing else. -/
def PublishedOnce (event : VortexEvent) (before after : World) : Prop :=
  ∀ replica, after.published replica = before.published replica ++ [event]

theorem appendedOnce_xadd (event : VortexEvent) (world : World) :
    AppendedOnce event world (world.xadd event) := by
  refine ⟨.after ((world.streams event.channelId).log.getLast?.map StreamEntry.id) world.clock,
    fun channelId => ?_⟩
  by_cases same : channelId = event.channelId
  · simp [World.xadd, Stream.xadd, same]
  · simp [World.xadd, same]

variable (deployment : Deployment)

/-- A persisted event is appended once and published once. -/
theorem run_publish {event : PartialEvent}
    (persisted : PERSISTED_EVENT_TYPES.contains event.type = true)
    {world : World} (reliable : Reliable world) :
    ∃ id after, (EventBus.publish event).run (handle deployment) world = some (.ok id, after) ∧
      AppendedOnce (event.complete id world.clock) world after ∧
      PublishedOnce (event.complete id world.clock) world after := by
  let id := deployment.uuid world.drawn
  let stamped := { world with drawn := world.drawn + 1 }
  let appended := (stamped.xadd (event.complete id world.clock)).nextOutcome (some event.channelId)
  let after := (appended.publish (event.complete id world.clock)).nextOutcome none
  have ready : Reliable stamped := ⟨reliable.alive, reliable.succeeds⟩
  have still : Reliable (stamped.xadd (event.complete id world.clock)) :=
    ⟨reliable.alive, reliable.succeeds⟩
  have alive : (ask .busDestroyed).run (handle deployment) world = some (.ok false, world) :=
    run_ask (congrArg (fun destroyed => some (destroyed, world)) reliable.alive)
  have drawn : (ask .stamp).run (handle deployment) world = some (.ok (id, world.clock), stamped) :=
    run_ask rfl
  have kept : (EventBus.persist (event.complete id world.clock)).run (handle deployment) stamped =
      some (.ok (), appended) := by
    have recorded : (event.complete id world.clock).persisted = true := persisted
    rw [EventBus.persist, if_pos recorded]
    exact run_command (run_ask (congrArg some (ready.command _ _)))
  have sent : (command (ask (.publish (event.complete id world.clock)))).run (handle deployment)
      appended = some (.ok (), after) :=
    run_command (run_ask (congrArg some ((still.nextOutcome _).command _ _)))
  refine ⟨id, after, ?_, ?_, fun replica => rfl⟩
  · refine (Proc.run_bind_ok (handle deployment) alive).trans ?_
    refine (Proc.run_bind_ok (handle deployment) drawn).trans ?_
    refine (Proc.run_bind_ok (handle deployment) kept).trans ?_
    exact Proc.run_bind_ok (handle deployment) sent
  · obtain ⟨entry, logs⟩ := appendedOnce_xadd (event.complete id world.clock) stamped
    exact ⟨entry, logs⟩

/-! ## From the route to the stream -/

/-- Exactly one event says that a message was created: one entry of the stream of its
channel, and one message to every replica. -/
def Message.Announced (message : Message) (before after : World) : Prop :=
  ∃ event : VortexEvent, event.type = js "message.created" ∧ event.channelId = message.channelId ∧
    event.actorId = message.senderId ∧ event.data = message.event.data ∧
    AppendedOnce event before after ∧ PublishedOnce event before after

/-- Nothing was announced when nothing changed. -/
theorem Message.not_announced (message : Message) (world : World) :
    ¬ message.Announced world world := by
  intro announced
  obtain ⟨event, -, -, -, -, -, published⟩ := announced
  have longer := congrArg List.length (published 0)
  simp at longer

/-- What `after` leaves behind: the request for the event of a message reaches the signal
server in the chunks the network makes of its body. -/
def deliver (deployment : Deployment) (signalUrl secret : JsString)
    (network : List UInt8 → List (List UInt8)) (outcome : PostOutcome) (world : World) :
    Option World :=
  match outcome.event.bind (publishGatewayEvent signalUrl secret) with
  | none => some world
  | some request =>
      ((publishEndpoint secret true request (network request.body)).run (handle deployment) world).map
        Prod.snd

theorem run_publishBody {message : Message} (printable : message.replyToId.Printable)
    {world : World} (reliable : Reliable world) :
    ∃ response after, (publishBody (jsonBytes message.event.body)).run (handle deployment) world =
        some (.ok response, after) ∧ message.Announced world after := by
  have shown : message.event.body.Printable := by
    simp [GatewayEvent.body, Message.event, Json.Printable, Json.PrintableMembers, printable]
  let event : PartialEvent :=
    ⟨js "message.created", message.channelId, none, message.senderId, message.event.data⟩
  have created : PERSISTED_EVENT_TYPES.contains (js "message.created") = true := by decide
  have persisted : PERSISTED_EVENT_TYPES.contains event.type = true := created
  obtain ⟨id, after, ran, appended, published⟩ := run_publish deployment persisted reliable
  have answered : (publishBody (jsonBytes message.event.body)).run (handle deployment) world =
      some (.ok (.json 200 (.obj [(js "ok", .bool true), (js "eventId", .str id)])), after) := by
    rw [publishBody, readJson_jsonBytes shown]
    exact Proc.run_bind_ok (handle deployment) ran
  exact ⟨_, after, answered, _, rfl, rfl, rfl, rfl, appended, published⟩

/-- The endpoint publishes the event of a message if it fits, and does nothing if not. -/
theorem run_publishEndpoint {message : Message} (printable : message.replyToId.Printable)
    {secret signalUrl : JsString} (configured : secret ≠ []) {request : HttpRequest}
    (sent : publishGatewayEvent signalUrl secret message.event = some request)
    {chunks : List (List UInt8)} (whole : chunks.flatten = request.body) {world : World}
    (reliable : Reliable world) :
    ∃ response after, (publishEndpoint secret true request chunks).run (handle deployment) world =
        some (.ok response, after) ∧
      if message.eventBytes ≤ MAX_EVENT_BYTES then message.Announced world after
      else after = world ∧ response = .error 413 (js "Payload too large") := by
  have filled : secret.isEmpty = false := by simpa using configured
  simp only [publishGatewayEvent, filled, Bool.false_eq_true, if_false, Option.some.injEq] at sent
  subst sent
  have authorized : (serverFetch signalUrl PUBLISH_PATH
      [(js "content-type", js "application/json"), (js "authorization", bearer secret)]
      (jsonBytes message.event.body)).header (js "authorization") = some (bearer secret) := rfl
  have received : readBody 0 [] chunks =
      if message.eventBytes ≤ MAX_EVENT_BYTES then some (jsonBytes message.event.body) else none := by
    rw [readBody_eq 0 [] chunks (Nat.zero_le _), whole, ← length_eventBody printable]
    simp [serverFetch]
  unfold publishEndpoint
  simp only [filled, authorized, received, Option.getD_some, ne_eq, not_true_eq_false,
    Bool.not_true,
    Bool.false_eq_true, if_false]
  split_ifs with fits
  · obtain ⟨response, after, ran, announced⟩ := run_publishBody deployment printable reliable
    exact ⟨response, after, Proc.run_tryCatch_ok (handle deployment) ran, announced⟩
  · exact ⟨_, world, rfl, rfl, rfl⟩

/-- The event of a message changes the world if it fits. -/
theorem deliver_event {outcome : PostOutcome} {message : Message}
    (event : outcome.event = some message.event) (printable : message.replyToId.Printable)
    {signalUrl secret : JsString} (configured : secret ≠ [])
    {network : List UInt8 → List (List UInt8)} (whole : ∀ bytes, (network bytes).flatten = bytes)
    {world : World} (reliable : Reliable world) :
    ∃ after, deliver deployment signalUrl secret network outcome world = some after ∧
      if message.eventBytes ≤ MAX_EVENT_BYTES then message.Announced world after
      else after = world := by
  have filled : secret.isEmpty = false := by simpa using configured
  obtain ⟨request, sent⟩ : ∃ request,
      publishGatewayEvent signalUrl secret message.event = some request := by
    simp [publishGatewayEvent, filled]
  obtain ⟨response, after, ran, ended⟩ := run_publishEndpoint deployment printable configured sent
    (whole request.body) reliable
  refine ⟨after, by simp [deliver, event, sent, ran], ?_⟩
  split_ifs at ended ⊢ with fits
  · exact ended
  · exact ended.1

/-- A stored message is announced exactly when its sender's profile can be read and its
event fits into a request. -/
theorem published_iff {environment : MessageEnvironment} {channelId : JsString}
    {body : Option Json} {message : Message}
    (stored : (post environment channelId body).stored = some message)
    {signalUrl secret : JsString} (configured : secret ≠ [])
    {network : List UInt8 → List (List UInt8)} (whole : ∀ bytes, (network bytes).flatten = bytes)
    {world : World} (reliable : Reliable world) :
    ∃ after, deliver deployment signalUrl secret network (post environment channelId body) world =
        some after ∧
      (message.Announced world after ↔
        environment.senderProfile.isOk ∧ message.eventBytes ≤ MAX_EVENT_BYTES) := by
  obtain ⟨printable, event⟩ := event_of_stored stored
  by_cases read : environment.senderProfile.isOk = true
  · rw [if_pos read] at event
    obtain ⟨after, delivered, ended⟩ :=
      deliver_event deployment event printable configured whole reliable
    refine ⟨after, delivered, ?_⟩
    split_ifs at ended with fits
    · simp [read, fits, ended]
    · simp [fits, ended, Message.not_announced]
  · rw [if_neg read] at event
    exact ⟨world, by simp [deliver, event], by simp [read, Message.not_announced]⟩

/-- No content of 4096 code units fits. -/
theorem Message.too_large {message : Message} (long : MAX_EVENT_BYTES ≤ message.content.length) :
    MAX_EVENT_BYTES < message.eventBytes := by
  have content := JsString.length_le_escapedBytes message.content
  unfold Message.eventBytes JsString.literalBytes
  omega

namespace Sample

/-- Alice may write to Bob in a channel that is not encrypted. -/
def posting : MessageEnvironment where
  user := .ok (some (js "alice"))
  limited := .ok false
  channelMembers := .ok [js "alice", js "bob"]
  isBlocked := fun _ => .ok false
  channel := .ok (some ⟨false, 1, js "olm"⟩)
  message := fun _ => .ok none
  insert := .ok (some ⟨js "m1", []⟩)
  senderProfile := .ok none

def messageBody (content : JsString) : Json := .obj [(js "content", .str content)]

def message (content : JsString) : Message := ⟨js "m1", js "dm", js "alice", content, .null⟩

/-- What is not empty and has no white space at its ends is stored as it is. -/
theorem stored_posting {content : JsString} (trimmed : trim content = content)
    (filled : content ≠ []) :
    (post posting (js "dm") (some (messageBody content))).stored = some (message content) := by
  have accepted : checkContent posting (messageBody content) = .ok content := by
    change (do
      if (trim content).isEmpty then throw (.error 400 (js "Content required"))
      checkEncryption ⟨false, 1, js "olm"⟩ (trim content)
      return trim content) = (.ok content : Except HttpResponse JsString)
    rw [trimmed]
    cases content with
    | nil => exact absurd rfl filled
    | cons unit rest => rfl
  have allowed : authorize posting = .ok (js "alice") := rfl
  have reply : replyToIdOf (messageBody content) = .null := rfl
  have inserted : posting.insert = .ok (some ⟨js "m1", []⟩) := rfl
  have profile : posting.senderProfile = .ok none := rfl
  simp [post, storeMessage, allowed, accepted, reply, inserted, profile, findReply, truthy,
    failWith,
    message, bind, Except.bind, pure, Except.pure]

theorem trim_letters (count : Nat) : trim (List.replicate count 97) = List.replicate count 97 := by
  have visible : isWhiteSpace 97 = false := by decide
  simp [trim, visible]

/-- The network keeps a body in one piece. -/
def network (bytes : List UInt8) : List (List UInt8) := [bytes]

theorem reliable_blank : Reliable World.blank := ⟨rfl, fun _ _ member => by cases member⟩

theorem network_whole (bytes : List UInt8) : (network bytes).flatten = bytes := by
  simp [network]

/-- A content of 4096 code units is stored, and the event of its message refused. -/
theorem long_unannounced {content : JsString} (long : MAX_EVENT_BYTES ≤ content.length)
    (trimmed : trim content = content) :
    (post posting (js "dm") (some (messageBody content))).stored = some (message content) ∧
      deliver Sample.deployment (js "http://signal") (js "secret") network
        (post posting (js "dm") (some (messageBody content))) World.blank = some World.blank ∧
      ¬ (message content).Announced World.blank World.blank := by
  have filled : content ≠ [] :=
    List.ne_nil_of_length_pos (Nat.lt_of_lt_of_le (by decide) long)
  have stored := stored_posting trimmed filled
  have large : ¬ (message content).eventBytes ≤ MAX_EVENT_BYTES :=
    Nat.not_le_of_lt (Message.too_large long)
  obtain ⟨printable, event⟩ := event_of_stored stored
  have outcome : ∃ after, deliver Sample.deployment (js "http://signal") (js "secret") network
      (post posting (js "dm") (some (messageBody content))) World.blank = some after ∧
      if (message content).eventBytes ≤ MAX_EVENT_BYTES then
        (message content).Announced World.blank after
      else after = World.blank :=
    deliver_event Sample.deployment (event.trans (if_pos rfl)) printable (by decide) network_whole
      reliable_blank
  obtain ⟨after, delivered, ended⟩ := outcome
  rw [if_neg large] at ended
  exact ⟨stored, ended ▸ delivered, Message.not_announced _ _⟩

end Sample

/-- A short message is announced. -/
theorem short_message_announced :
    ∃ after, deliver Sample.deployment (js "http://signal") (js "secret") Sample.network
        (post Sample.posting (js "dm") (some (Sample.messageBody (js "hi")))) World.blank =
          some after ∧
      ((Sample.message (js "hi")).Announced World.blank after ↔
        Sample.posting.senderProfile.isOk ∧
          (Sample.message (js "hi")).eventBytes ≤ MAX_EVENT_BYTES) :=
  published_iff Sample.deployment (Sample.stored_posting (by decide) (by decide)) (by decide)
    Sample.network_whole Sample.reliable_blank

/-- A message of 4096 letters is stored and never announced: its event is refused. -/
theorem long_message_unannounced :
    (post Sample.posting (js "dm") (some (Sample.messageBody (List.replicate 4096 97)))).stored =
        some (Sample.message (List.replicate 4096 97)) ∧
      deliver Sample.deployment (js "http://signal") (js "secret") Sample.network
        (post Sample.posting (js "dm") (some (Sample.messageBody (List.replicate 4096 97))))
        World.blank = some World.blank ∧
      ¬ (Sample.message (List.replicate 4096 97)).Announced World.blank World.blank :=
  Sample.long_unannounced (by rw [List.length_replicate]; decide) (Sample.trim_letters 4096)

end Vortex.Gateway
