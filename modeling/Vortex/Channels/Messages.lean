import Vortex.Channels.Routes

/-!
# Concurrent requests for messages

The requests that send, edit, delete and read the messages of a channel, as processes that
share `direct_messages`: each statement on that table is atomic, and the statements of
concurrent requests interleave. What the session, the rate limiter and the other tables
answer is a parameter of a request, and a response is reduced to the messages it shows
with what they reply to.
-/

namespace Vortex.Channels

open Foundation
open Vortex.Gateway (Message MessageEnvironment authorize checkContent nonEmptyString? replyToIdOf
  truthy)

abbrev Messages : Type := Table DirectMessage JsString DirectMessage.id

/-! ## Statements -/

/-- A message that a user may edit and delete. -/
structure OwnMessage where
  messageId : JsString
  senderId : JsString
  channelId : JsString

def OwnMessage.matches (own : OwnMessage) (row : DirectMessage) : Bool :=
  row.id = own.messageId && row.senderId = own.senderId && row.dmChannelId = some own.channelId

inductive MessageStatement
  | insert (message : Message)
  | edit (own : OwnMessage) (content nowIso : JsString)
  | delete (own : OwnMessage) (nowIso : JsString)
  | find (messageId channelId : JsString)
  | findReply (messageId : JsString) (channelId : Option JsString)
  | page (channelId : JsString) (before : Option JsString)
  | replies (messageIds : List JsString) (channelId : JsString)

/-- A statement throws, or it returns the rows it has found or written. -/
def direct : Interface where
  Request := MessageStatement
  Answer _ := Except Unit (List DirectMessage)

/-- What the statements need besides the table: when the message with an id was created. -/
structure Clock where
  createdAt : JsString → JsString

/-- `isNull(directMessages.deletedAt)`, in a channel if there is one given. -/
def isLive (channelId : Option JsString) (row : DirectMessage) : Bool :=
  row.deletedAt.isNone && channelId.all fun channelId => row.dmChannelId = some channelId

def edited (content nowIso : JsString) (row : DirectMessage) : DirectMessage :=
  { row with content := some content, editedAt := some nowIso }

def erased (nowIso : JsString) (row : DirectMessage) : DirectMessage :=
  { row with content := none, deletedAt := some nowIso }

/-- The newest messages of a channel that are not deleted, before a time if one is given. -/
def newest (clock : Clock) (channelId : JsString) (before : Option JsString)
    (rows : List DirectMessage) : List DirectMessage :=
  ((rows.filter fun row => isLive (some channelId) row &&
      before.all fun before => clock.createdAt row.id < before).mergeSort fun left right =>
    clock.createdAt right.id ≤ clock.createdAt left.id).take 50

def execute (clock : Clock) :
    MessageStatement → Messages → Except Unit (List DirectMessage) × Messages
  | .insert message, table =>
      match table.find? message.id with
      | some _ => (.error (), table)
      | none => (.ok [.ofMessage message], table.insertIgnore (.ofMessage message))
  | .edit own content nowIso, table =>
      let after := table.updateWhere own.matches (edited content nowIso) fun _ => rfl
      (.ok (after.rows.filter own.matches), after)
  | .delete own nowIso, table =>
      let after := table.updateWhere own.matches (erased nowIso) fun _ => rfl
      (.ok (after.rows.filter own.matches), after)
  | .find messageId channelId, table =>
      (.ok (table.rows.filter fun row => row.id = messageId && row.dmChannelId = some channelId), table)
  | .findReply messageId channelId, table =>
      (.ok (table.rows.filter fun row => row.id = messageId && isLive channelId row), table)
  | .page channelId before, table => (.ok (newest clock channelId before table.rows), table)
  | .replies messageIds channelId, table =>
      (.ok (table.rows.filter fun row => messageIds.contains row.id && isLive (some channelId) row), table)

/-! ## Requests -/

inductive MessageRoute
  | send (body : Option Json)
  | edit (messageId : JsString) (body : Option Json)
  | delete (messageId : JsString)
  | read (messageId : JsString)
  | page (before : Option JsString)

/-- What the rest of the system answers to one request: `environment` as far as it is
read for sending, whether a reader is a member, whether the other queries of a read
succeed, the time, and which statements on the messages throw. -/
structure MessageCall where
  user : Option JsString
  channelId : JsString
  route : MessageRoute
  environment : MessageEnvironment
  limited : Bool
  isMember : Except Unit Bool
  others : Except HttpResponse Unit
  drawn : JsString
  nowIso : JsString
  fails : MessageStatement → Bool

/-- A message with the message it replies to. -/
structure ShownMessage where
  row : DirectMessage
  replyTo : Option DirectMessage

inductive MessageResponse
  | refused (response : HttpResponse)
  | sent (message : Message) (replyTo : Option DirectMessage)
  | edited (row : DirectMessage)
  | deleted
  | message (shown : ShownMessage)
  | page (messages : List ShownMessage) (hasMore : Bool)

abbrev MessageProc : Type := Proc direct Empty MessageResponse

def perform (statement : MessageStatement) : Proc direct Empty (Except Unit (List DirectMessage)) :=
  Proc.request (I := direct) statement

def refuse (status : Nat) (text : String) : MessageProc :=
  return .refused (.error status (js text))

def internal : MessageProc := refuse 500 "Internal server error"

/-- The message that is replied to, where there is one. -/
def replyTarget (channelId : JsString) (replyToId : Json)
    (next : Option DirectMessage → MessageProc) : MessageProc :=
  if !truthy replyToId then next none
  else
    match replyToId with
    | .str id => do
        match ← perform (.findReply id none) with
        | .error _ => internal
        | .ok [] => refuse 400 "Replied-to message not found"
        | .ok (target :: _) =>
            if target.dmChannelId ≠ some channelId then
              refuse 400 "Replied-to message must be in the same channel"
            else next (some target)
    | .num _ | .bool _ | .null => refuse 400 "Replied-to message not found"
    | .arr _ | .obj _ => internal

def send (call : MessageCall) (user : JsString) (body : Option Json) : MessageProc :=
  match authorize { call.environment with user := .ok (some user), limited := .ok call.limited } with
  | .error response => return .refused response
  | .ok _ =>
      match body with
      | none => refuse 400 "Invalid JSON body"
      | some body =>
          match checkContent call.environment body with
          | .error response => return .refused response
          | .ok content =>
              replyTarget call.channelId (replyToIdOf body) fun replyTo => do
                let message : Message :=
                  ⟨call.drawn, call.channelId, user, content, replyToIdOf body⟩
                match ← perform (.insert message) with
                | .ok (_ :: _) =>
                    match call.environment.senderProfile with
                    | .error _ => internal
                    | .ok _ => return .sent message replyTo
                | _ => refuse 500 "Failed to send message"

def edit (call : MessageCall) (user messageId : JsString) (body : Option Json) : MessageProc :=
  if call.limited then return .refused tooMany
  else if body.isNone then internal
  else
    match editedContent body with
    | none => refuse 400 "Content required"
    | some content => do
        match ← perform (.edit ⟨messageId, user, call.channelId⟩ content call.nowIso) with
        | .error _ => refuse 500 "Failed to update message"
        | .ok [] => refuse 404 "Message not found or not editable"
        | .ok (row :: _) => return .edited row

def delete (call : MessageCall) (user messageId : JsString) : MessageProc :=
  if call.limited then return .refused tooMany
  else do
    match ← perform (.delete ⟨messageId, user, call.channelId⟩ call.nowIso) with
    | .error _ => refuse 500 "Failed to delete message"
    | .ok [] => refuse 404 "Message not found"
    | .ok (_ :: _) => return .deleted

/-- The answer to a read of someone who is not a member, and otherwise the read. -/
def asMember (call : MessageCall) (next : MessageProc) : MessageProc :=
  match call.isMember with
  | .error _ => refuse 500 "Failed to verify membership"
  | .ok false => refuse 403 "Forbidden"
  | .ok true => next

/-- `message.replyToId`, where it is truthy. -/
def DirectMessage.replyId (row : DirectMessage) : Option JsString :=
  nonEmptyString? (some row.replyToId)

/-- The end of a read, when attachments, reactions and the like have been fetched. -/
def finish (call : MessageCall) (response : MessageResponse) : MessageProc :=
  match call.others with
  | .error response => return .refused response
  | .ok () => return response

def read (call : MessageCall) (messageId : JsString) : MessageProc :=
  asMember call do
    match ← perform (.find messageId call.channelId) with
    | .error _ => refuse 500 "Failed to fetch message"
    | .ok [] => refuse 404 "Message not found"
    | .ok (row :: _) =>
        match row.replyId with
        | none => finish call (.message ⟨row, none⟩)
        | some replyId => do
            match ← perform (.findReply replyId (some call.channelId)) with
            | .error _ => refuse 500 "Failed to fetch reply"
            | .ok replies => finish call (.message ⟨row, replies.head?⟩)

/-- `reply_to` of each message of a page, oldest message first. -/
def withReplies (rows replies : List DirectMessage) : List ShownMessage :=
  rows.reverse.map fun row =>
    ⟨row, row.replyId.bind fun replyId => replies.find? fun reply => reply.id = replyId⟩

def readPage (call : MessageCall) (before : Option JsString) : MessageProc :=
  asMember call do
    match ← perform (.page call.channelId (before.filter (· ≠ []))) with
    | .error _ => refuse 500 "Failed to fetch messages"
    | .ok rows =>
        let replyIds := rows.filterMap DirectMessage.replyId
        if replyIds.isEmpty then finish call (.page (withReplies rows []) (rows.length = 50))
        else do
          match ← perform (.replies replyIds.dedup call.channelId) with
          | .error _ => internal
          | .ok replies => finish call (.page (withReplies rows replies) (rows.length = 50))

def messageProgram (call : MessageCall) : MessageProc :=
  match call.user with
  | none => refuse 401 "Unauthorized"
  | some user =>
      match call.route with
      | .send body => send call user body
      | .edit messageId body => edit call user messageId body
      | .delete messageId => delete call user messageId
      | .read messageId => read call messageId
      | .page before => readPage call before

def messageHandle (clock : Clock) (call : MessageCall) : Handler direct Messages :=
  fun statement table =>
    if call.fails statement then some (.error (), table) else some (execute clock statement table)

abbrev MessagePool : Type := Pool direct Empty MessageResponse MessageCall Messages

/-- Every interleaving of any number of requests, from the given contents of the table. -/
def messageSystem (clock : Clock) (initial : Messages → Prop) :
    System MessagePool (Turn MessageCall) :=
  Pool.system initial messageProgram fun _ call => messageHandle clock call

end Vortex.Channels
