import Mathlib.Data.List.Induction
import Vortex.Foundation.Table
import Vortex.Gateway.Messages
import Vortex.Olm.Statements

/-!
# The routes of a conversation

What the member, message, reaction and attachment routes under
`/api/dm/channels/[channelId]` do to the database, to the uploaded files and to the
gateway, one request after the other; `sendMessage` is `Vortex.Gateway.post` on the
tables. The routes that only read, and the notifications that are sent to the users'
own channels, are left out.
-/

namespace Vortex.Channels

open Foundation
open Vortex.Gateway (ChannelInfo GatewayEvent Message MessageEnvironment MessageRow PostOutcome
  ReplyTarget internalError nonEmptyString? post trim truthy)
open Vortex.Olm (canonicalMembershipEventPayload)
open Vortex.Web (startsWith)

/-! ## The tables -/

structure DmChannelMember where
  dmChannelId : JsString
  userId : JsString
  addedBy : Option JsString

structure DmChannel where
  id : JsString
  ownerId : Option JsString
  isGroup : Bool
  info : ChannelInfo

structure DirectMessage where
  id : JsString
  senderId : JsString
  content : Option JsString
  editedAt : Option JsString
  deletedAt : Option JsString
  dmChannelId : Option JsString
  replyToId : Json

structure DmReaction where
  dmId : JsString
  userId : JsString
  emoji : JsString

structure DmAttachment where
  id : JsString
  dmId : JsString
  url : JsString
  filename : JsString
  size : JsString
  contentType : JsString

structure DmMembershipEvent where
  id : JsString
  dmChannelId : JsString
  action : JsString
  actorId : JsString
  targetId : JsString
  actorDeviceId : Option JsString
  actorEd25519Key : Option JsString
  payload : JsString
  signature : Option JsString
  createdAt : JsString

/-- The tables the routes write, and the keys of the files on disk. -/
structure Database where
  members : Table DmChannelMember (JsString × JsString) fun row => (row.dmChannelId, row.userId)
  channels : Table DmChannel JsString DmChannel.id
  messages : Table DirectMessage JsString DirectMessage.id
  reactions : Table DmReaction (JsString × JsString × JsString)
    fun row => (row.dmId, row.userId, row.emoji)
  attachments : Table DmAttachment JsString DmAttachment.id
  membershipEvents : Table DmMembershipEvent JsString DmMembershipEvent.id
  uploads : List JsString

def Database.isMember (database : Database) (channelId userId : JsString) : Bool :=
  (database.members.find? (channelId, userId)).isSome

def Database.memberIds (database : Database) (channelId : JsString) : List JsString :=
  (database.members.rows.filter fun row => row.dmChannelId = channelId).map DmChannelMember.userId

/-! ## Requests -/

/-- The accesses of a handler to the database and the disk. -/
inductive Access
  | membership
  | channel
  | insertMember
  | deleteMember
  | device
  | insertEvent
  | message
  | insertMessage
  | updateMessage
  | insertReaction
  | deleteReaction
  | attachment
  | insertAttachment
  | file
deriving DecidableEq

/-- What the rest of the system answers to one request: whether the rate limit is
exceeded, who has blocked whom, the device keys of the user, the clock and what
`Date.parse` makes of a text, the random ids, what else a response shows, and which
accesses throw. -/
structure Surroundings where
  limited : Bool
  isBlocked : JsString → Except Unit Bool
  deviceKey : JsString → Option JsString
  nowMs : Int
  nowIso : JsString
  parseDate : JsString → Option Int
  drawn : JsString
  columns : List (JsString × Json)
  senderProfile : Except Unit (Option Json)
  shown : DirectMessage → Json
  fails : Access → Bool

/-- An uploaded file: its name, its type, and what the checks have against it. -/
structure Upload where
  name : JsString
  size : JsString
  contentType : JsString
  refusal : Option JsString

inductive Route
  | addMember (body : Option Json)
  | removeMember (query : JsString → Option JsString)
  | sendMessage (body : Option Json)
  | editMessage (messageId : JsString) (body : Option Json)
  | deleteMessage (messageId : JsString)
  | addReaction (messageId : JsString) (body : Option Json)
  | removeReaction (messageId : JsString) (body : Option Json)
  | upload (file : Option Upload)
  | deleteUpload (key : Option JsString)
  | attach (body : Option Json)

/-- A request of an authenticated user to a route of a channel. -/
structure DmRequest where
  user : JsString
  channelId : JsString
  surroundings : Surroundings
  route : Route

/-- What a request leads to: the response, the database, the events handed to
`publishGatewayEvent`, and the user whose sockets lose the channel. -/
structure Outcome where
  response : HttpResponse
  database : Database
  events : List GatewayEvent := []
  revoked : Option JsString := none

def Database.refuse (database : Database) (response : HttpResponse) : Outcome :=
  { response, database }

def okay : HttpResponse := .json 200 (.obj [(js "ok", .bool true)])

def userChannel (userId : JsString) : JsString := js "user:" ++ userId

/-! ## The membership log -/

structure ClientSignature where
  deviceId : JsString
  signature : JsString
  eventId : JsString
  timestamp : JsString

def parseClientSignature (deviceId signature eventId timestamp : Option JsString) :
    Option ClientSignature :=
  match deviceId, signature, eventId, timestamp with
  | some deviceId, some signature, some eventId, some timestamp =>
      if deviceId = [] ∨ signature = [] ∨ eventId = [] ∨ timestamp = [] then none
      else if deviceId.length > 128 ∨ signature.length > 256 ∨ eventId.length > 64 ∨
          timestamp.length > 40 then none
      else some ⟨deviceId, signature, eventId, timestamp⟩
  | _, _, _, _ => none

def isHexDigit (unit : UInt16) : Bool :=
  (48 ≤ unit && unit ≤ 57) || (65 ≤ unit && unit ≤ 70) || (97 ≤ unit && unit ≤ 102)

/-- `UUID_RE` -/
def isUuid (text : JsString) : Bool :=
  text.length = 36 && text.zipIdx.all fun (unit, index) =>
    if [8, 13, 18, 23].contains index then unit = 45 else isHexDigit unit

def MAX_CLOCK_SKEW_MS : Int := 5 * 60 * 1000

/-- The signature of a client, where the device and its id and timestamp are believable. -/
def acceptedSignature (surroundings : Surroundings) (clientSignature : Option ClientSignature) :
    Option (ClientSignature × JsString) :=
  match clientSignature with
  | none => none
  | some claimed =>
      match surroundings.deviceKey claimed.deviceId, surroundings.parseDate claimed.timestamp with
      | some key, some claimedMs =>
          if isUuid claimed.eventId && (claimedMs - surroundings.nowMs).natAbs ≤ MAX_CLOCK_SKEW_MS then
            some (claimed, key)
          else none
      | _, _ => none

/-- `recordMembershipEvent(params)`, where nothing is recorded when it throws. -/
def recordMembershipEvent (surroundings : Surroundings)
    (dmChannelId action actorId targetId : JsString)
    (clientSignature : Option ClientSignature) (database : Database) : Database :=
  if clientSignature.isSome && surroundings.fails .device || surroundings.fails .insertEvent then
    database
  else
    let accepted := acceptedSignature surroundings clientSignature
    let eventId := (accepted.map fun (claimed, _) => claimed.eventId).getD surroundings.drawn
    let timestamp := (accepted.map fun (claimed, _) => claimed.timestamp).getD surroundings.nowIso
    { database with
      membershipEvents := database.membershipEvents.insertIgnore
        { id := eventId
          dmChannelId, action, actorId, targetId
          actorDeviceId := accepted.map fun (claimed, _) => claimed.deviceId
          actorEd25519Key := accepted.map fun (_, key) => key
          payload := canonicalMembershipEventPayload eventId timestamp dmChannelId action actorId
            targetId
          signature := accepted.map fun (claimed, _) => claimed.signature
          createdAt := timestamp } }

/-! ## Members -/

/-- `POST .../members` -/
def addMember (request : DmRequest) (body : Option Json) (database : Database) : Outcome :=
  let fails := request.surroundings.fails
  let channelId := request.channelId
  if fails .membership || fails .channel then database.refuse internalError
  else if !database.isMember channelId request.user then
    database.refuse (.error 403 (js "Forbidden"))
  else if !(database.channels.find? channelId).any DmChannel.isGroup then
    database.refuse (.error 400 (js "Cannot add members to a 1:1 DM"))
  else
    match body with
    | none | some .null => database.refuse internalError
    | some body =>
        let text name := Json.string? (body.get? name)
        if !(body.get? (js "userId")).any truthy then
          database.refuse (.error 400 (js "userId required"))
        else
          match text (js "userId") with
          -- Only texts are ids of users.
          | none => database.refuse (.error 500 (js "Failed to add member"))
          | some userId =>
              if fails .insertMember then database.refuse (.error 500 (js "Failed to add member"))
              else if database.isMember channelId userId then
                database.refuse (.error 409 (js "Already a member"))
              else
                { response := okay
                  database := recordMembershipEvent request.surroundings channelId
                    (js "member_added") request.user userId
                    (parseClientSignature (text (js "deviceId")) (text (js "signature"))
                      (text (js "eventId")) (text (js "timestamp")))
                    { database with
                      members := database.members.insertIgnore
                        ⟨channelId, userId, some request.user⟩ }
                  events :=
                    [⟨js "member.joined", channelId, request.user,
                        .obj [(js "channelId", .str channelId), (js "userId", .str userId)]⟩,
                      ⟨js "member.joined", userChannel userId, request.user,
                        .obj [(js "channelId", .str channelId)]⟩] }

/-- The deletion of a member, and what follows it. -/
def dropMember (request : DmRequest) (targetUserId : JsString)
    (clientSignature : Option ClientSignature) (database : Database) : Outcome :=
  let channelId := request.channelId
  if request.surroundings.fails .deleteMember then
    database.refuse (.error 500 (js "Failed to remove member"))
  else
    { response := okay
      database := recordMembershipEvent request.surroundings channelId
        (if targetUserId = request.user then js "member_left" else js "member_removed")
        request.user targetUserId clientSignature
        { database with
          members := database.members.deleteWhere fun row =>
            row.dmChannelId = channelId && row.userId = targetUserId }
      events :=
        [⟨js "member.left", channelId, request.user,
            .obj [(js "channelId", .str channelId), (js "userId", .str targetUserId)]⟩,
          ⟨js "member.left", userChannel targetUserId, request.user,
            .obj [(js "channelId", .str channelId)]⟩]
      revoked := some targetUserId }

/-- `searchParams.get("userId") ?? user.id` -/
def targetOf (request : DmRequest) (query : JsString → Option JsString) : JsString :=
  (query (js "userId")).getD request.user

/-- `DELETE .../members` -/
def removeMember (request : DmRequest) (query : JsString → Option JsString) (database : Database) :
    Outcome :=
  let targetUserId := targetOf request query
  let clientSignature := parseClientSignature (query (js "deviceId")) (query (js "signature"))
    (query (js "eventId")) (query (js "timestamp"))
  if targetUserId = request.user then dropMember request targetUserId clientSignature database
  else if request.surroundings.fails .channel then database.refuse internalError
  else if (database.channels.find? request.channelId).bind DmChannel.ownerId ≠ some request.user then
    database.refuse (.error 403 (js "Forbidden"))
  else dropMember request targetUserId clientSignature database

/-! ## Messages -/

/-- What the tables answer to a message that is sent. -/
def messageEnvironment (request : DmRequest) (database : Database) : MessageEnvironment where
  user := .ok (some request.user)
  limited := .ok request.surroundings.limited
  channelMembers :=
    if request.surroundings.fails .membership then .error ()
    else .ok (database.memberIds request.channelId)
  isBlocked := request.surroundings.isBlocked
  channel :=
    if request.surroundings.fails .channel then .error ()
    else .ok ((database.channels.find? request.channelId).map DmChannel.info)
  message id :=
    if request.surroundings.fails .message then .error ()
    else
      .ok (((database.messages.find? id).filter fun message => message.deletedAt.isNone).map
        fun message => ⟨message.dmChannelId, request.surroundings.shown message⟩)
  insert :=
    if request.surroundings.fails .insertMessage ∨
        (database.messages.find? request.surroundings.drawn).isSome then .error ()
    else .ok (some ⟨request.surroundings.drawn, request.surroundings.columns⟩)
  senderProfile := request.surroundings.senderProfile

def DirectMessage.ofMessage (message : Message) : DirectMessage where
  id := message.id
  senderId := message.senderId
  content := some message.content
  editedAt := none
  deletedAt := none
  dmChannelId := some message.channelId
  replyToId := message.replyToId

/-- `POST .../messages` -/
def sendMessage (request : DmRequest) (body : Option Json) (database : Database) : Outcome :=
  let outcome := post (messageEnvironment request database) request.channelId body
  { response := outcome.response
    database :=
      match outcome.stored with
      | none => database
      | some message =>
          { database with messages := database.messages.insertIgnore (.ofMessage message) }
    events := outcome.event.toList }

def tooMany : HttpResponse := .error 429 (js "Too many requests. Please try again later.")

/-- A message with an id that the user has sent in the channel. -/
def DmRequest.sent (request : DmRequest) (messageId : JsString) (row : DirectMessage) : Bool :=
  row.id = messageId && row.senderId = request.user && row.dmChannelId = some request.channelId

/-- `UPDATE ... RETURNING` of a message that the user has sent in the channel. -/
def updateSent (request : DmRequest) (messageId : JsString) (change : DirectMessage → DirectMessage)
    (keeps : ∀ row, (change row).id = row.id) (found : DirectMessage → HttpResponse)
    (missing : JsString) (database : Database) : Outcome :=
  match database.messages.rows.find? (request.sent messageId) with
  | none => database.refuse (.error 404 missing)
  | some row =>
      { response := found row
        database :=
          { database with
            messages := database.messages.updateWhere (request.sent messageId) change keeps } }

/-- The content a `PATCH` asks for. -/
def editedContent (body : Option Json) : Option JsString :=
  match body with
  | none => none
  | some body =>
      match Json.string? (body.get? (js "content")) with
      | none => none
      | some content => if (trim content).isEmpty then none else some (trim content)

/-- `PATCH .../messages/[messageId]` -/
def editMessage (request : DmRequest) (messageId : JsString) (body : Option Json)
    (database : Database) : Outcome :=
  if request.surroundings.limited then database.refuse tooMany
  else if body.isNone then database.refuse internalError
  else
    match editedContent body with
    | none => database.refuse (.error 400 (js "Content required"))
    | some content =>
        if request.surroundings.fails .updateMessage then
          database.refuse (.error 500 (js "Failed to update message"))
        else
          updateSent request messageId
            (fun row =>
              { row with content := some content, editedAt := some request.surroundings.nowIso })
            (fun _ => rfl) (fun row => .json 200 (request.surroundings.shown row))
            (js "Message not found or not editable") database

/-- `DELETE .../messages/[messageId]` -/
def deleteMessage (request : DmRequest) (messageId : JsString) (database : Database) : Outcome :=
  if request.surroundings.limited then database.refuse tooMany
  else if request.surroundings.fails .updateMessage then
    database.refuse (.error 500 (js "Failed to delete message"))
  else
    updateSent request messageId
      (fun row => { row with content := none, deletedAt := some request.surroundings.nowIso })
      (fun _ => rfl) (fun _ => okay) (js "Message not found") database

/-! ## Reactions -/

def emojiRequired : HttpResponse := .error 400 (js "emoji required")

/-- `normalizeEmoji(body.emoji)`; a body that is not JSON reads as an empty one. -/
def normalizeEmoji (body : Option Json) : Except HttpResponse JsString :=
  match body with
  | none => .error emojiRequired
  | some .null => .error internalError
  | some body =>
      match body.get? (js "emoji") with
      | none | some .null => .error emojiRequired
      | some (.str raw) =>
          if (trim raw).isEmpty then .error emojiRequired else .ok ((trim raw).take 64)
      | some _ => .error internalError

/-- The sender of a message of the channel, for a member. -/
def verifyMembershipAndMessage (request : DmRequest) (messageId : JsString) (database : Database) :
    Except HttpResponse JsString :=
  if request.surroundings.fails .membership then
    .error (.error 500 (js "Failed to verify membership"))
  else if !database.isMember request.channelId request.user then .error (.error 403 (js "Forbidden"))
  else if request.surroundings.fails .message then .error (.error 500 (js "Failed to fetch message"))
  else
    match database.messages.find? messageId with
    | none => .error (.error 404 (js "Message not found"))
    | some message =>
        if message.dmChannelId = some request.channelId ∧ message.deletedAt = none then
          .ok message.senderId
        else .error (.error 404 (js "Message not found"))

def reactionEvent (request : DmRequest) (type messageId emoji : JsString) : GatewayEvent where
  type := type
  channelId := request.channelId
  actorId := request.user
  data := .obj [(js "dm_id", .str messageId), (js "user_id", .str request.user),
    (js "emoji", .str emoji), (js "created_at", .str request.surroundings.nowIso)]

def reactionResponse (body : Option Json) (emoji : JsString) : HttpResponse :=
  .json 200 (.obj [(js "ok", .bool true), (js "emoji", .str emoji),
    (js "nonce", (body.bind fun body => body.get? (js "nonce")).getD .null)])

/-- `POST .../messages/[messageId]/reactions` -/
def addReaction (request : DmRequest) (messageId : JsString) (body : Option Json)
    (database : Database) : Outcome :=
  if request.surroundings.limited then database.refuse tooMany
  else
    match normalizeEmoji body with
    | .error response => database.refuse response
    | .ok emoji =>
        match verifyMembershipAndMessage request messageId database with
        | .error response => database.refuse response
        | .ok senderId =>
            match request.surroundings.isBlocked senderId with
            | .error _ => database.refuse internalError
            | .ok true => database.refuse (.error 403 (js "Cannot react due to block state"))
            | .ok false =>
                if request.surroundings.fails .insertReaction then
                  database.refuse (.error 500 (js "Failed to add reaction"))
                else
                  { response := reactionResponse body emoji
                    database :=
                      { database with
                        reactions := database.reactions.insertIgnore ⟨messageId, request.user, emoji⟩ }
                    events := [reactionEvent request (js "reaction.added") messageId emoji] }

/-- `DELETE .../messages/[messageId]/reactions` -/
def removeReaction (request : DmRequest) (messageId : JsString) (body : Option Json)
    (database : Database) : Outcome :=
  if request.surroundings.limited then database.refuse tooMany
  else
    match normalizeEmoji body with
    | .error response => database.refuse response
    | .ok emoji =>
        match verifyMembershipAndMessage request messageId database with
        | .error response => database.refuse response
        | .ok _ =>
            if request.surroundings.fails .deleteReaction then
              database.refuse (.error 500 (js "Failed to remove reaction"))
            else
              { response := reactionResponse body emoji
                database :=
                  { database with
                    reactions := database.reactions.deleteWhere fun row =>
                      row.dmId = messageId && row.userId = request.user && row.emoji = emoji }
                events := [reactionEvent request (js "reaction.removed") messageId emoji] }

/-! ## Attachments -/

def verifyMembership (request : DmRequest) (database : Database) : Option HttpResponse :=
  if request.surroundings.fails .membership then
    some (.error 500 (js "Failed to verify membership"))
  else if !database.isMember request.channelId request.user then some (.error 403 (js "Forbidden"))
  else none

def attachmentPrefix (channelId : JsString) : JsString :=
  js "dm-attachments/" ++ channelId ++ js "/"

/-- `name.split(".").pop() || "bin"` -/
def extension (name : JsString) : JsString :=
  let last := (name.reverse.takeWhile (· ≠ 46)).reverse
  if last.isEmpty then js "bin" else last

/-- `POST .../attachments` -/
def upload (request : DmRequest) (file : Option Upload) (database : Database) : Outcome :=
  if request.surroundings.limited then database.refuse tooMany
  else
    match verifyMembership request database with
    | some response => database.refuse response
    | none =>
        match file with
        | none => database.refuse (.error 400 (js "A file is required"))
        | some file =>
            match file.refusal with
            | some text => database.refuse (.error 400 text)
            | none =>
                if request.surroundings.fails .file then
                  database.refuse (.error 500 (js "File upload failed"))
                else
                  let key := attachmentPrefix request.channelId ++ request.surroundings.drawn ++
                    46 :: extension file.name
                  { response := .json 200 (.obj [(js "key", .str key),
                      (js "filename", .str file.name), (js "size", .num file.size),
                      (js "content_type", .str file.contentType)])
                    database := { database with uploads := key :: database.uploads } }

/-- `DELETE .../attachments` -/
def deleteUpload (request : DmRequest) (key : Option JsString) (database : Database) : Outcome :=
  match verifyMembership request database with
  | some response => database.refuse response
  | none =>
      match key with
      | none => database.refuse (.error 400 (js "Invalid key"))
      | some key =>
          if key = [] ∨ startsWith key (attachmentPrefix request.channelId) = false then
            database.refuse (.error 400 (js "Invalid key"))
          else if request.surroundings.fails .attachment then
            database.refuse (.error 500 (js "Failed to check attachment state"))
          else if database.attachments.rows.any fun row => row.url = key then
            database.refuse (.error 409 (js "Cannot delete an attached file"))
          else if request.surroundings.fails .file then database.refuse internalError
          else
            { response := okay
              database := { database with uploads := database.uploads.filter (· ≠ key) } }

/-- The row a body asks for. -/
def attachmentOf (drawn : JsString) (body : Option Json) : Option DmAttachment :=
  match body with
  | none => none
  | some body =>
      match nonEmptyString? (body.get? (js "dm_id")), nonEmptyString? (body.get? (js "key")),
        nonEmptyString? (body.get? (js "filename")), body.get? (js "size"),
        nonEmptyString? (body.get? (js "content_type")) with
      | some dmId, some key, some filename, some (.num size), some contentType =>
          some ⟨drawn, dmId, key, filename, size, contentType⟩
      | _, _, _, _, _ => none

/-- `PATCH .../attachments` -/
def attach (request : DmRequest) (body : Option Json) (database : Database) : Outcome :=
  match verifyMembership request database with
  | some response => database.refuse response
  | none =>
      match attachmentOf request.surroundings.drawn body with
      | none => database.refuse
          (.error 400 (js "dm_id, key, filename, size, content_type required"))
      | some row =>
          if startsWith row.url (attachmentPrefix request.channelId) = false then
            database.refuse (.error 400 (js "Invalid key"))
          else if request.surroundings.fails .message then
            database.refuse (.error 500 (js "Failed to verify message"))
          else if !database.messages.rows.any (request.sent row.dmId) then
            database.refuse (.error 404 (js "Message not found"))
          else if request.surroundings.fails .insertAttachment ∨
              (database.attachments.find? row.id).isSome then
            database.refuse (.error 500 (js "Failed to save attachment metadata"))
          else
            { response := .json 200 (.obj [(js "id", .str row.id), (js "filename", .str row.filename),
                (js "size", .num row.size), (js "content_type", .str row.contentType)])
              database :=
                { database with attachments := database.attachments.insertIgnore row } }

/-- One request. -/
def serve (request : DmRequest) : Database → Outcome :=
  match request.route with
  | .addMember body => addMember request body
  | .removeMember query => removeMember request query
  | .sendMessage body => sendMessage request body
  | .editMessage messageId body => editMessage request messageId body
  | .deleteMessage messageId => deleteMessage request messageId
  | .addReaction messageId body => addReaction request messageId body
  | .removeReaction messageId body => removeReaction request messageId body
  | .upload file => upload request file
  | .deleteUpload key => deleteUpload request key
  | .attach body => attach request body

/-- The database after some requests, one after the other. -/
def serveAll (database : Database) (requests : List DmRequest) : Database :=
  requests.foldl (fun database request => (serve request database).database) database

/-! ## Sequences of requests -/

/-- What holds of every request of a sequence in the state it meets. -/
def Throughout (property : DmRequest → Database → Prop) (database : Database)
    (requests : List DmRequest) : Prop :=
  ∀ earlier request later, requests = earlier ++ request :: later →
    property request (serveAll database earlier)

theorem serveAll_append (database : Database) (earlier : List DmRequest) (request : DmRequest) :
    serveAll database (earlier ++ [request]) =
      (serve request (serveAll database earlier)).database := by
  rw [serveAll, List.foldl_append]
  rfl

/-- A property of the database that holds at first holds after each request if and only if
each request is as it has to be for that. -/
theorem throughout_iff {P : Database → Prop} {allowed : DmRequest → Database → Prop}
    {database : Database} {requests : List DmRequest} (start : P database)
    (step : ∀ request ∈ requests, ∀ before, P before →
      (P (serve request before).database ↔ allowed request before)) :
    Throughout (fun request before => P (serve request before).database) database requests ↔
      Throughout allowed database requests := by
  have each (earlier : List DmRequest) (request : DmRequest) (later : List DmRequest)
      (split : requests = earlier ++ request :: later) : request ∈ requests :=
    split ▸ List.mem_append_right _ List.mem_cons_self
  have shift (earlier : List DmRequest) (last request : DmRequest) (later : List DmRequest) :
      earlier ++ [last] ++ request :: later = earlier ++ last :: request :: later := by
    rw [List.append_assoc, List.singleton_append]
  constructor
  · intro holds earlier request later split
    refine (step request (each _ _ _ split) _ ?_).mp (holds earlier request later split)
    induction earlier using List.reverseRecOn with
    | nil => exact start
    | append_singleton earlier last _ =>
      rw [serveAll_append]
      exact holds earlier last (request :: later) (split.trans (shift ..))
  · intro allowed earlier
    induction earlier using List.reverseRecOn with
    | nil =>
      intro request later split
      exact (step request (each _ _ _ split) _ start).mpr (allowed [] request later split)
    | append_singleton earlier last ih =>
      intro request later split
      refine (step request (each _ _ _ split) _ ?_).mpr (allowed _ request later split)
      rw [serveAll_append]
      exact ih last (request :: later) (split.trans (shift ..))

end Vortex.Channels
