import Vortex.Channels.Routes

/-!
# Opening conversations

`POST /api/dm/channels`, as a process: a request for a conversation of two looks up the
channels of its user, those of the partner, and among what they share a channel that is
not a group; where there is none, one transaction creates the channel with its members.
The statements of concurrent requests interleave. What the session and the rate limiter
answer is a parameter of a request; the events and log entries that follow a creation,
and the name of a channel, are left out.
-/

namespace Vortex.Channels.Openings

open Foundation
open Vortex.Gateway (ChannelInfo)

/-! ## The tables -/

abbrev Members : Type :=
  Table DmChannelMember (JsString × JsString) fun row => (row.dmChannelId, row.userId)

/-- The channels and who is in them. -/
structure Directory where
  channels : Table DmChannel JsString DmChannel.id
  members : Members

def Directory.memberIds (directory : Directory) (channelId : JsString) : List JsString :=
  (directory.members.rows.filter fun row => row.dmChannelId = channelId).map DmChannelMember.userId

/-! ## Statements -/

inductive OpenStatement
  | memberships (userId : JsString)
  | nonGroup (channelIds : List JsString) (isEncrypted : Bool)
  | create (channel : DmChannel) (memberIds : List JsString)

/-- A statement throws, or it returns the ids of the channels it has found or created. -/
def opening : Interface where
  Request := OpenStatement
  Answer _ := Except Unit (List JsString)

/-- The rows a transaction inserts for the members of a channel. -/
def memberRow (channel : DmChannel) (userId : JsString) : DmChannelMember :=
  ⟨channel.id, userId, channel.ownerId⟩

def Members.insertAll (members : Members) (rows : List DmChannelMember) : Members :=
  rows.foldl Table.insertIgnore members

/-- The transaction commits both inserts, or neither where a key is taken. -/
def execute : OpenStatement → Directory → Except Unit (List JsString) × Directory
  | .memberships userId, directory =>
      (.ok ((directory.members.rows.filter fun row => row.userId = userId).map
        DmChannelMember.dmChannelId), directory)
  | .nonGroup channelIds isEncrypted, directory =>
      (.ok ((directory.channels.rows.filter fun channel => channelIds.contains channel.id &&
        channel.isGroup = false && channel.info.isEncrypted = isEncrypted).map DmChannel.id), directory)
  | .create channel memberIds, directory =>
      if (directory.channels.find? channel.id).isSome ||
          memberIds.any fun userId => (directory.members.find? (channel.id, userId)).isSome then
        (.error (), directory)
      else
        (.ok [channel.id], ⟨directory.channels.insertIgnore channel,
          directory.members.insertAll (memberIds.map (memberRow channel))⟩)

/-! ## Requests -/

/-- A body as its type declares it; `encrypted` is whether the field is `true`. -/
structure OpenBody where
  userIds : Option (List JsString)
  encrypted : Bool

/-- What the rest of the system answers to one request: the user of the session, whether
the rate limit is exceeded, the id a new channel gets, and which statements throw. -/
structure OpenCall where
  user : Option JsString
  limited : Bool
  body : Option OpenBody
  drawn : JsString
  fails : OpenStatement → Bool

inductive OpenResponse
  | refused (response : HttpResponse)
  | opened (id : JsString) (existing : Bool)

abbrev OpenProc : Type := Proc opening Empty OpenResponse

def perform (statement : OpenStatement) : Proc opening Empty (Except Unit (List JsString)) :=
  Proc.request (I := opening) statement

def refuse (status : Nat) (text : String) : OpenProc :=
  return .refused (.error status (js text))

/-- The user and those named, each once. -/
def allMembers (user : JsString) (userIds : List JsString) : List JsString :=
  (user :: userIds).eraseDups

/-- The channel a request inserts; a version and a scheme it does not set have their defaults. -/
def newChannel (call : OpenCall) (user : JsString) (isGroup encrypted : Bool) : DmChannel :=
  ⟨call.drawn, some user, isGroup, encrypted, 1, if encrypted then js "olm" else js "legacy-ecdh"⟩

def create (call : OpenCall) (user : JsString) (members : List JsString) (encrypted : Bool) :
    OpenProc := do
  match ← perform (.create (newChannel call user (2 < members.length) encrypted) members) with
  | .ok (id :: _) => return .opened id false
  | _ => refuse 500 "Failed to create DM channel"

def checkFailed : OpenProc := refuse 500 "Failed to check existing channels"

/-- The first channel of two users that is not a group and is encrypted as wanted. -/
def existing (user partnerId : JsString) (encrypted : Bool) (next : OpenProc) : OpenProc := do
  match ← perform (.memberships user) with
  | .error _ => checkFailed
  | .ok userChannelIds =>
      match ← perform (.memberships partnerId) with
      | .error _ => checkFailed
      | .ok partnerChannelIds =>
          let sharedChannelIds := partnerChannelIds.filter userChannelIds.contains
          if sharedChannelIds.isEmpty then next
          else do
            match ← perform (.nonGroup sharedChannelIds encrypted) with
            | .error _ => checkFailed
            | .ok [] => next
            | .ok (id :: _) => return .opened id true

def openProgram (call : OpenCall) : OpenProc :=
  match call.user with
  | none => refuse 401 "Unauthorized"
  | some user =>
      if call.limited then return .refused tooMany
      else
        match call.body with
        | none => refuse 400 "Malformed JSON"
        | some body =>
            match body.userIds with
            | none | some [] => refuse 400 "userIds required"
            | some (partnerId :: others) =>
                let members := allMembers user (partnerId :: others)
                if 2 < members.length then create call user members body.encrypted
                else existing user partnerId body.encrypted (create call user members body.encrypted)

def openHandle (call : OpenCall) : Handler opening Directory :=
  fun statement directory =>
    if call.fails statement then some (.error (), directory) else some (execute statement directory)

abbrev OpenPool : Type := Pool opening Empty OpenResponse OpenCall Directory

/-- Every interleaving of any number of requests, from the given contents of the tables. -/
def openSystem (initial : Directory → Prop) : System OpenPool (Turn OpenCall) :=
  Pool.system initial openProgram fun _ => openHandle

end Vortex.Channels.Openings
