import Vortex.Foundation.TextSize
import Vortex.Gateway.Handlers

/-!
# Sending a message

`POST /api/dm/channels/[channelId]/messages` stores a message and then has its
event published. What the session, the rate limiter and the database answer is a
parameter; the push notification, which no handler reads, is left out.
-/

namespace Vortex.Gateway

open Foundation

/-! ## Envelopes -/

/-- `value === integer` -/
def isInteger (integer : Int) : Option Json → Bool
  | some (.num text) => JsString.integer? text = some integer
  | _ => false

def isString (text : JsString) (value : Option Json) : Bool := Json.string? value = some text

def isValidDmE2eeEnvelope (value : Json) : Bool :=
  isObject (some value) &&
    isString (js "dm-e2ee") (value.get? (js "kind")) &&
    isInteger 1 (value.get? (js "version")) &&
    isString (js "AES-GCM") (value.get? (js "algorithm")) &&
    (nonEmptyString? (value.get? (js "iv"))).isSome &&
    (nonEmptyString? (value.get? (js "ciphertext"))).isSome &&
    match value.get? (js "keyVersion") with
    | some (.num text) => (JsString.integer? text).any fun version => 0 ≤ version
    | _ => false

def isValidOlmCiphertextShape (value : Json) : Bool :=
  isObject (some value) &&
    (isInteger 0 (value.get? (js "type")) || isInteger 1 (value.get? (js "type"))) &&
    (nonEmptyString? (value.get? (js "body"))).isSome

def isValidDmOlmEnvelope (value : Json) : Bool :=
  isObject (some value) &&
    isString (js "dm-olm") (value.get? (js "kind")) &&
    isInteger 1 (value.get? (js "v")) &&
    (nonEmptyString? (value.get? (js "senderDeviceId"))).isSome &&
    match value.get? (js "ciphertexts") with
    | some (.obj ciphertexts) =>
        let entries := objectEntries (.obj ciphertexts)
        !entries.isEmpty &&
          entries.all fun entry => entry.1.contains 58 && isValidOlmCiphertextShape entry.2
    | _ => false

structure ChannelInfo where
  isEncrypted : Bool
  encryptionKeyVersion : Int
  encryptionScheme : JsString

/-- What an encrypted channel demands of a content, with the answer when it is not so. -/
def checkEncryption (channel : ChannelInfo) (content : JsString) : Except HttpResponse Unit :=
  if !channel.isEncrypted then .ok ()
  else
    match Json.parse content with
    | none => .error (.error 400 (js "Encrypted channels require encrypted payload"))
    | some parsed =>
        if channel.encryptionScheme = js "olm" then
          if isValidDmOlmEnvelope parsed then .ok ()
          else .error (.error 400 (js "Encrypted channels require encrypted payload"))
        else if !isValidDmE2eeEnvelope parsed then
          .error (.error 400 (js "Encrypted channels require encrypted payload"))
        else if !isInteger channel.encryptionKeyVersion (parsed.get? (js "keyVersion")) then
          .error (.error 400 (js "Encrypted channels require current keyVersion"))
        else .ok ()

/-! ## Content -/

/-- What `trim` removes from the ends of a string. -/
def isWhiteSpace (unit : UInt16) : Bool :=
  (9 ≤ unit && unit ≤ 13) || unit = 32 || unit = 0xA0 || unit = 0x1680 ||
    (0x2000 ≤ unit && unit ≤ 0x200A) || unit = 0x2028 || unit = 0x2029 || unit = 0x202F ||
    unit = 0x205F || unit = 0x3000 || unit = 0xFEFF

def trim (text : JsString) : JsString :=
  ((text.dropWhile isWhiteSpace).reverse.dropWhile isWhiteSpace).reverse

theorem mem_trim {text : JsString} {unit : UInt16} (visible : isWhiteSpace unit = false)
    (member : unit ∈ text) : unit ∈ trim text := by
  have kept : ∀ units : JsString, unit ∈ units → unit ∈ units.dropWhile isWhiteSpace := by
    intro units inside
    rw [← List.takeWhile_append_dropWhile (p := isWhiteSpace) (l := units)] at inside
    rcases List.mem_append.mp inside with dropped | rest
    · have white := List.mem_takeWhile_imp dropped
      rw [visible] at white
      cases white
    · exact rest
  unfold trim
  exact List.mem_reverse.mpr (kept _ (List.mem_reverse.mpr (kept _ member)))

/-- Whether a value is truthy. -/
def truthy : Json → Bool
  | .null => false
  | .bool value => value
  | .num text => !isInteger 0 (some (.num text))
  | .str text => !text.isEmpty
  | _ => true

/-- `body.reply_to_id ?? null`, as it will be printed: every zero is `0`. -/
def replyToIdOf (body : Json) : Json :=
  match body.get? (js "reply_to_id") with
  | none => .null
  | some (.num text) => if truthy (.num text) then .num text else .num (js "0")
  | some value => value

/-! ## The route -/

/-- A message that is replied to: its channel, and how it is shown. -/
structure ReplyTarget where
  dmChannelId : Option JsString
  shown : Json

/-- The row an insertion returns: its id, and its columns in snake case. -/
structure MessageRow where
  id : JsString
  columns : List (JsString × Json)

/-- What the outside answers to one request, an error where it throws: the user of the
session, whether the rate limit is exceeded, the members of the channel, whether one
of them and the sender have blocked each other, the channel, the messages that are
not deleted, the inserted row and the profile of the sender. -/
structure MessageEnvironment where
  user : Except Unit (Option JsString)
  limited : Except Unit Bool
  channelMembers : Except Unit (List JsString)
  isBlocked : JsString → Except Unit Bool
  channel : Except Unit (Option ChannelInfo)
  message : JsString → Except Unit (Option ReplyTarget)
  insert : Except Unit (Option MessageRow)
  senderProfile : Except Unit (Option Json)

/-- A stored message. -/
structure Message where
  id : JsString
  channelId : JsString
  senderId : JsString
  content : JsString
  replyToId : Json

structure GatewayEvent where
  type : JsString
  channelId : JsString
  actorId : JsString
  data : Json

/-- How a request ends: the response, what was stored, and what `after` publishes. -/
structure PostOutcome where
  response : HttpResponse
  stored : Option Message
  event : Option GatewayEvent

def internalError : HttpResponse := .error 500 (js "Internal server error")

/-- The answer to a failing query. -/
def failWith {α : Type} (response : HttpResponse) : Except Unit α → Except HttpResponse α
  | .ok value => .ok value
  | .error _ => .error response

theorem ok_of_failWith {α : Type} {response : HttpResponse} {result : Except Unit α} {value : α}
    (succeeded : failWith response result = .ok value) : result = .ok value := by
  cases result with
  | ok found => exact congrArg Except.ok (Except.ok.inj succeeded)
  | error error => cases succeeded

/-- The sender, once nothing speaks against sending to the channel. -/
def authorize (environment : MessageEnvironment) : Except HttpResponse JsString := do
  let user ← failWith internalError environment.user
  match user with
  | none => throw (.error 401 (js "Unauthorized"))
  | some user => do
      if ← failWith internalError environment.limited then
        throw (.error 429 (js "Too many requests. Please try again later."))
      let members ← failWith (.error 500 (js "Failed to load DM members")) environment.channelMembers
      if !members.contains user then throw (.error 403 (js "Forbidden"))
      let blocked ← failWith (.error 500 (js "Error checking block status"))
        ((members.filter (· ≠ user)).mapM environment.isBlocked)
      if blocked.any id then throw (.error 403 (js "Cannot send messages while blocked"))
      return user

/-- The content of a body that the channel accepts. -/
def checkContent (environment : MessageEnvironment) (body : Json) :
    Except HttpResponse JsString := do
  if !truthy body then throw (.error 400 (js "Invalid JSON body"))
  let channel ← failWith (.error 500 (js "Unable to verify channel encryption")) environment.channel
  match channel, Json.string? (body.get? (js "content")) with
  | none, _ => throw (.error 500 (js "Unable to verify channel encryption"))
  | some _, none => throw (.error 400 (js "Content required"))
  | some channel, some content => do
      if (trim content).isEmpty then throw (.error 400 (js "Content required"))
      checkEncryption channel (trim content)
      return trim content

/-- The message that is replied to. The ids of messages are strings, and no query takes
an object or an array for one. -/
def findReply (environment : MessageEnvironment) (channelId : JsString) (replyToId : Json) :
    Except HttpResponse Json :=
  if !truthy replyToId then .ok .null
  else
    match replyToId with
    | .str id => do
        let target ← failWith internalError (environment.message id)
        match target with
        | none => throw (.error 400 (js "Replied-to message not found"))
        | some target =>
            if target.dmChannelId ≠ some channelId then
              throw (.error 400 (js "Replied-to message must be in the same channel"))
            return target.shown
    | .num _ | .bool _ | .null => throw (.error 400 (js "Replied-to message not found"))
    | .arr _ | .obj _ => throw internalError

/-- Insert a checked message: its row, and the message as it was replied to. -/
def storeMessage (environment : MessageEnvironment) (channelId : JsString) (body : Option Json) :
    Except HttpResponse (Message × MessageRow × Json) := do
  let user ← authorize environment
  match body with
  | none => throw (.error 400 (js "Invalid JSON body"))
  | some body => do
      let content ← checkContent environment body
      let replyToMessage ← findReply environment channelId (replyToIdOf body)
      let row ← failWith (.error 500 (js "Failed to send message")) environment.insert
      match row with
      | none => throw (.error 500 (js "Failed to send message"))
      | some row =>
          return (⟨row.id, channelId, user, content, replyToIdOf body⟩, row, replyToMessage)

def Message.event (message : Message) : GatewayEvent where
  type := js "message.created"
  channelId := message.channelId
  actorId := message.senderId
  data := .obj [(js "messageId", .str message.id), (js "replyToId", message.replyToId),
    (js "content", .str message.content)]

/-- The response to a message that was sent. -/
def messageResponse (message : Message) (row : MessageRow) (sender : Option Json)
    (replyToMessage : Json) : HttpResponse :=
  .json 201 (.obj (setEntry (js "reply_to") replyToMessage
    (setEntry (js "reply_to_id") message.replyToId
      (setEntry (js "sender") (sender.getD .null) row.columns))))

/-- `POST`, with its body when that is JSON. -/
def post (environment : MessageEnvironment) (channelId : JsString) (body : Option Json) :
    PostOutcome :=
  match storeMessage environment channelId body with
  | .error response => ⟨response, none, none⟩
  | .ok (message, row, replyToMessage) =>
      match environment.senderProfile with
      | .error _ => ⟨internalError, some message, none⟩
      | .ok sender =>
          ⟨messageResponse message row sender replyToMessage, some message, some message.event⟩

/-- What a message that was stored has passed. -/
theorem storeMessage_cases {environment : MessageEnvironment} {channelId : JsString}
    {body : Option Json} {message : Message} {rest : MessageRow × Json}
    (stored : storeMessage environment channelId body = .ok (message, rest)) :
    ∃ user body' content shown row, authorize environment = .ok user ∧ body = some body' ∧
      checkContent environment body' = .ok content ∧
      findReply environment channelId (replyToIdOf body') = .ok shown ∧
      environment.insert = .ok (some row) ∧
      message = ⟨row.id, channelId, user, content, replyToIdOf body'⟩ := by
  unfold storeMessage at stored
  obtain ⟨user, authorized, stored⟩ := ok_of_bind stored
  cases body with
  | none => cases stored
  | some body =>
    obtain ⟨content, checked, stored⟩ := ok_of_bind stored
    obtain ⟨shown, found, stored⟩ := ok_of_bind stored
    obtain ⟨row, inserted, stored⟩ := ok_of_bind stored
    cases row with
    | none => cases stored
    | some row =>
      cases stored
      exact ⟨user, body, content, shown, row, authorized, rfl, checked, found,
        ok_of_failWith inserted, rfl⟩

theorem stored_of_post {environment : MessageEnvironment} {channelId : JsString}
    {body : Option Json} {message : Message}
    (stored : (post environment channelId body).stored = some message) :
    ∃ rest, storeMessage environment channelId body = .ok (message, rest) := by
  unfold post at stored
  split at stored
  · cases stored
  · rename_i kept row replyToMessage outcome
    refine ⟨(row, replyToMessage), ?_⟩
    split at stored
    · cases stored
      exact outcome
    · cases stored
      exact outcome

/-- A content that passed is what the channel demands. -/
theorem checkContent_ok {environment : MessageEnvironment} {body : Json} {content : JsString}
    (checked : checkContent environment body = .ok content) :
    ∃ channel, environment.channel = .ok (some channel) ∧
      checkEncryption channel content = .ok () := by
  unfold checkContent at checked
  split at checked
  · cases checked
  · obtain ⟨channel, loaded, checked⟩ := ok_of_bind checked
    split at checked
    · cases checked
    · cases checked
    · rename_i channel text _
      dsimp only at checked
      split at checked
      · cases checked
      · obtain ⟨_, encrypted, checked⟩ := ok_of_bind checked
        cases checked
        exact ⟨channel, ok_of_failWith loaded, encrypted⟩

/-! ## The request to the signal server -/

def PUBLISH_PATH : JsString := js "/publish-event"

/-- `JSON.stringify(event)`, as a value. -/
def GatewayEvent.body (event : GatewayEvent) : Json :=
  .obj [(js "type", .str event.type), (js "channelId", .str event.channelId),
    (js "actorId", .str event.actorId), (js "data", event.data)]

/-- `publishGatewayEvent(event)`: the request it sends, none without a secret. What
becomes of the request is only logged. -/
def publishGatewayEvent (signalUrl secret : JsString) (event : GatewayEvent) : Option HttpRequest :=
  if secret.isEmpty then none
  else
    some (serverFetch signalUrl PUBLISH_PATH
      [(js "content-type", js "application/json"), (js "authorization", bearer secret)]
      (jsonBytes event.body))

end Vortex.Gateway
