import Mathlib.Data.List.Dedup
import Vortex.Views.Friends

/-!
# The channel routes

The list of the viewer's channels, one channel with a page of its messages, and one
message. Of other users they show the columns each query selects: the profiles of the
members, and of a message its sender and the sender of the message it replies to.
-/

namespace Vortex.Views

open Foundation List

/-- What the routes leave to the database engine and to the runtime. -/
structure Engine where
  /-- The order in which the users with some ids are visited. -/
  visit : List JsString → List JsString
  visits : ∀ ids, (visit ids).Perm ids.dedup
  /-- `orderBy(desc(directMessages.createdAt))`, with a choice among rows of one time. -/
  newest : List DirectMessageRow → List DirectMessageRow
  orders : ∀ rows, (newest rows).Perm rows ∧
    (newest rows).Pairwise fun first second => binary second.createdAt ≤ binary first.createdAt
  /-- `new Date(text).getTime()` of a stored time. -/
  time : JsString → Int

/-- The members of an object that is spread into another. -/
def spread : Json → List (JsString × Json)
  | .obj members => members
  | _ => []

def profile? : Option Profile → Json
  | none => .null
  | some profile => profile.json

def sender? : Option Sender → Json
  | none => .null
  | some sender => sender.json

/-- `users.find((u) => u.id !== user.id) ?? null`, unless the channel is a group. -/
def partner (channel : DmChannelRow) (viewer : JsString) (members : List Profile) :
    Option Profile :=
  if channel.isGroup then none else members.find? fun profile => profile.id ≠ viewer

/-! ## `GET /api/dm/channels` -/

section List

variable (engine : Engine) (fails : Query → Bool) (database : Database) (viewer : JsString)

/-- The members of a channel whose profiles were found. -/
def members (channelId : JsString) : List Profile :=
  (database.memberIds channelId).filterMap database.profile?

/-- The newest message of a channel that is not deleted. -/
def latestMessage (channelId : JsString) : Option DirectMessageRow :=
  (engine.newest (database.messages.rows.filter fun row =>
    row.dmChannelId = some channelId && row.deletedAt.isNone)).head?

/-- The last read state of a channel in the order of the rows. -/
def lastRead (channelId : JsString) : Option JsString :=
  (database.readStates.filter fun row =>
    row.userId = viewer && row.dmChannelId = channelId).getLast?.map (·.lastReadAt)

def isUnread (latest : Option DirectMessageRow) (lastRead : Option JsString) : Bool :=
  match latest with
  | none => false
  | some latest =>
      (match lastRead with
        | none | some [] => true
        | some lastRead => decide (lastRead < latest.createdAt)) && latest.senderId ≠ viewer

def latestJson (channel : DmChannelRow) : Option DirectMessageRow → Json
  | none => .null
  | some latest => .obj [(js "dmChannelId", text? latest.dmChannelId),
      (js "content", if channel.isEncrypted then .str (js "Encrypted message")
        else text? latest.content),
      (js "createdAt", .str latest.createdAt), (js "senderId", .str latest.senderId)]

def channelEntry (channel : DmChannelRow) : Json :=
  let shown := members database channel.id
  let latest := latestMessage engine database channel.id
  .obj [(js "id", .str channel.id), (js "name", text? channel.name),
    (js "iconUrl", text? channel.iconUrl), (js "isGroup", .bool channel.isGroup),
    (js "ownerId", text? channel.ownerId), (js "updatedAt", .str channel.updatedAt),
    (js "isEncrypted", .bool channel.isEncrypted),
    (js "encryptionScheme", .str channel.encryptionScheme),
    (js "members", .arr (shown.map Profile.json)),
    (js "partner", profile? (partner channel viewer shown)),
    (js "latestMessage", latestJson channel latest),
    (js "isUnread", .bool (isUnread viewer latest (lastRead database viewer channel.id)))]

/-- The channels the viewer is a member of, in the order of the list. -/
def channelRows : List DmChannelRow :=
  (database.channels.rows.filter fun channel => database.isMember channel.id viewer).mergeSort
    fun first second => engine.time second.updatedAt ≤ engine.time first.updatedAt

def dmChannels : Answer :=
  if fails .memberships then .error 500 "Failed to fetch DM channels"
  else if !database.members.any (fun row => row.userId = viewer) then ⟨200, .arr []⟩
  else if fails .channels || fails .messages || fails .readStates then .error 500 "Failed to fetch DM channels"
  else if fails .users then .error 500 "Failed to fetch user profiles"
  else
    ⟨200, toSnakeCase (.arr ((channelRows engine database viewer).map
      (channelEntry engine database viewer)))⟩

end List

/-! ## `GET /api/dm/channels/[channelId]` -/

section Channel

variable (engine : Engine) (fails : Query → Bool) (database : Database)
  (viewer channelId : JsString)

/-- The profiles of the members, as one query finds them. -/
def memberUsers : List Profile :=
  (engine.visit (database.memberIds channelId)).filterMap database.profile?

def pageSize : Nat := 50

/-- The page of messages before a time, the newest first. -/
def rawMessages (before : Option JsString) : List DirectMessageRow :=
  (engine.newest (database.messages.rows.filter fun row =>
    row.dmChannelId = some channelId && row.deletedAt.isNone &&
      match before with
      | none | some [] => true
      | some before => decide (binary row.createdAt < binary before))).take pageSize

/-- The columns of a message that every query of messages selects. -/
def messageColumns (row : DirectMessageRow) : List (JsString × Json) :=
  [(js "id", .str row.id), (js "dmChannelId", text? row.dmChannelId),
    (js "senderId", .str row.senderId), (js "content", text? row.content),
    (js "editedAt", text? row.editedAt), (js "deletedAt", text? row.deletedAt),
    (js "createdAt", .str row.createdAt), (js "replyToId", text? row.replyToId)]

/-- A message of the channel that is not deleted. -/
def liveMessage? (id : JsString) : Option DirectMessageRow :=
  (database.messages.find? id).filter fun row =>
    row.dmChannelId = some channelId && row.deletedAt.isNone

def replyColumns (row : DirectMessageRow) : List (JsString × Json) :=
  [(js "id", .str row.id), (js "content", text? row.content), (js "senderId", .str row.senderId)]

/-- The id of the message a message replies to; the empty id counts as none. -/
def replyId (row : DirectMessageRow) : Option JsString :=
  row.replyToId.filter fun id => !id.isEmpty

/-- The message a message replies to, with its sender. -/
def replyPreview (row : DirectMessageRow) : Json :=
  match (replyId row).bind (liveMessage? database channelId) with
  | none => .null
  | some reply =>
      .obj (spread (toSnakeCase (.obj (replyColumns reply))) ++
        [(js "sender", toSnakeCase (sender? (database.sender? reply.senderId)))])

def attachmentJson (row : DmAttachmentRow) : Json :=
  .obj [(js "id", .str row.id), (js "filename", .str row.filename),
    (js "size", .num (js (toString row.size))), (js "content_type", .str row.contentType)]

def reactionJson (row : DmReactionRow) : Json :=
  .obj [(js "dm_id", .str row.dmId), (js "user_id", .str row.userId),
    (js "emoji", .str row.emoji), (js "created_at", .str row.createdAt)]

def enrichedMessage (row : DirectMessageRow) : Json :=
  .obj (spread (toSnakeCase (.obj (messageColumns row))) ++
    [(js "sender", toSnakeCase (sender? (database.sender? row.senderId))),
      (js "reply_to", replyPreview database channelId row),
      (js "dm_attachments",
        .arr ((database.attachments.filter fun file => file.dmId = row.id).map attachmentJson)),
      (js "reactions",
        .arr ((database.reactions.filter fun mark => mark.dmId = row.id).map reactionJson))])

def channelColumns (channel : DmChannelRow) : List (JsString × Json) :=
  [(js "id", .str channel.id), (js "name", text? channel.name),
    (js "iconUrl", text? channel.iconUrl), (js "isGroup", .bool channel.isGroup),
    (js "ownerId", text? channel.ownerId), (js "updatedAt", .str channel.updatedAt),
    (js "isEncrypted", .bool channel.isEncrypted),
    (js "encryptionKeyVersion", .num (js (toString channel.encryptionKeyVersion))),
    (js "encryptionMembershipEpoch", .num (js (toString channel.encryptionMembershipEpoch))),
    (js "encryptionScheme", .str channel.encryptionScheme),
    (js "themePreset", text? channel.themePreset)]

def pageJson (channel : DmChannelRow) (shown : List Profile) (messages : List DirectMessageRow) :
    Json :=
  .obj [(js "channel", .obj (spread (toSnakeCase (.obj (channelColumns channel))) ++
      [(js "members", toSnakeCase (.arr (shown.map Profile.json))),
        (js "partner", toSnakeCase (profile? (partner channel viewer shown)))])),
    (js "messages", .arr (messages.map (enrichedMessage database channelId)).reverse),
    (js "has_more", .bool (messages.length = pageSize))]

/-- `GET` of a channel, with the cursor of the page. -/
def dmChannel (before : Option JsString) : Answer :=
  if fails .memberships then .error 500 "Failed to verify membership"
  else if !database.isMember channelId viewer then .error 403 "Forbidden"
  else if fails .channels then .error 500 "Failed to fetch DM channel"
  else
    match database.channels.find? channelId with
    | none => .error 404 "DM channel not found"
    | some channel =>
        if fails .users then .error 500 "Failed to fetch member profiles"
        else if fails .messages then .error 500 "Failed to fetch messages"
        else
          let messages := rawMessages engine database channelId before
          if messages.any (fun row => (replyId row).isSome) && fails .replies then
            internalError
          else if !messages.isEmpty && (fails .attachments || fails .reactions) then
            internalError
          else
            ⟨200, pageJson database viewer channelId channel
              (memberUsers engine database channelId) messages⟩

/-! ## `GET /api/dm/channels/[channelId]/messages/[messageId]` -/

/-- The files of a message before their keys are converted. -/
def attachmentColumns (row : DmAttachmentRow) : List (JsString × Json) :=
  [(js "id", .str row.id), (js "filename", .str row.filename),
    (js "size", .num (js (toString row.size))), (js "contentType", .str row.contentType)]

def reactionColumns (row : DmReactionRow) : List (JsString × Json) :=
  [(js "dmId", .str row.dmId), (js "userId", .str row.userId), (js "emoji", .str row.emoji),
    (js "createdAt", .str row.createdAt)]

def replyTo? (row : DirectMessageRow) : Json :=
  match (replyId row).bind (liveMessage? database channelId) with
  | none => .null
  | some reply => toSnakeCase (.obj (replyColumns reply))

def messageJson (row : DirectMessageRow) : Json :=
  .obj (spread (toSnakeCase (.obj (messageColumns row ++
      [(js "sender", sender? (database.sender? row.senderId))]))) ++
    [(js "reply_to", replyTo? database channelId row),
      (js "dm_attachments", toSnakeCase (.arr ((database.attachments.filter fun file =>
        file.dmId = row.id).map fun file => .obj (attachmentColumns file)))),
      (js "reactions", toSnakeCase (.arr ((database.reactions.filter fun mark =>
        mark.dmId = row.id).map fun mark => .obj (reactionColumns mark))))])

/-- `GET` of one message. A deleted message is found too. -/
def dmMessage (messageId : JsString) : Answer :=
  if fails .memberships then .error 500 "Failed to verify membership"
  else if !database.isMember channelId viewer then .error 403 "Forbidden"
  else if fails .messages then .error 500 "Failed to fetch message"
  else
    match (database.messages.find? messageId).filter fun row => row.dmChannelId = some channelId with
    | none => .error 404 "Message not found"
    | some row =>
        if (replyId row).isSome && fails .replies then
          .error 500 "Failed to fetch reply"
        else if fails .attachments then .error 500 "Failed to fetch attachments"
        else if fails .reactions then .error 500 "Failed to fetch reactions"
        else ⟨200, messageJson database channelId row⟩

end Channel

/-! ## A user's row in the answers -/

section Alter

variable {engine : Engine} {fails : Query → Bool} {database : Database}
  {viewer channelId id : JsString} {change : UserRow → UserRow}
  {keeps : ∀ row, (change row).id = row.id}

/-- The list shows the profiles of the members of the viewer's channels. -/
theorem dmChannels_alter
    (profiles : ∀ channel ∈ database.channels.rows, database.isMember channel.id viewer = true →
      ∀ wanted ∈ database.memberIds channel.id,
        (database.alter id change keeps).profile? wanted = database.profile? wanted) :
    dmChannels engine fails (database.alter id change keeps) viewer =
      dmChannels engine fails database viewer := by
  have rows : channelRows engine (database.alter id change keeps) viewer =
      channelRows engine database viewer := rfl
  have entries : ∀ channel ∈ channelRows engine database viewer,
      channelEntry engine (database.alter id change keeps) viewer channel =
        channelEntry engine database viewer channel := by
    intro channel listed
    obtain ⟨stored, own⟩ := mem_filter.mp (mem_mergeSort.mp listed)
    have shown : members (database.alter id change keeps) channel.id =
        members database channel.id := filterMap_congr (profiles channel stored own)
    rw [channelEntry, shown]
    rfl
  simp only [dmChannels, rows, map_congr_left entries]
  rfl

theorem memberUsers_alter (profiles : ∀ wanted ∈ database.memberIds channelId,
      (database.alter id change keeps).profile? wanted = database.profile? wanted) :
    memberUsers engine (database.alter id change keeps) channelId =
      memberUsers engine database channelId := by
  apply filterMap_congr
  intro wanted visited
  exact profiles wanted (mem_dedup.mp ((engine.visits _).mem_iff.mp visited))

theorem enrichedMessage_alter
    (senders : ∀ row ∈ database.messages.rows, row.dmChannelId = some channelId →
      (database.alter id change keeps).sender? row.senderId = database.sender? row.senderId)
    {row : DirectMessageRow} (stored : row ∈ database.messages.rows)
    (placed : row.dmChannelId = some channelId) :
    enrichedMessage (database.alter id change keeps) channelId row =
      enrichedMessage database channelId row := by
  have live : liveMessage? (database.alter id change keeps) channelId =
      liveMessage? database channelId := rfl
  have preview : replyPreview (database.alter id change keeps) channelId row =
      replyPreview database channelId row := by
    unfold replyPreview
    rw [live]
    cases found : (replyId row).bind (liveMessage? database channelId) with
    | none => rfl
    | some reply =>
      obtain ⟨named, -, found⟩ := Option.bind_eq_some_iff.mp found
      obtain ⟨found, condition⟩ := Option.filter_eq_some_iff.mp found
      rw [Bool.and_eq_true, decide_eq_true_eq] at condition
      dsimp only
      rw [senders reply (Table.find?_eq_some.mp found).1 condition.1]
  rw [enrichedMessage, senders row stored placed, preview]
  rfl

/-- A channel shows the profiles of its members and the senders of its messages. -/
theorem dmChannel_alter (before : Option JsString)
    (profiles : (database.channels.find? channelId).isSome = true →
      database.isMember channelId viewer = true → ∀ wanted ∈ database.memberIds channelId,
        (database.alter id change keeps).profile? wanted = database.profile? wanted)
    (senders : database.isMember channelId viewer = true →
      ∀ row ∈ database.messages.rows, row.dmChannelId = some channelId →
        (database.alter id change keeps).sender? row.senderId = database.sender? row.senderId) :
    dmChannel engine fails (database.alter id change keeps) viewer channelId before =
      dmChannel engine fails database viewer channelId before := by
  have isMember : (database.alter id change keeps).isMember = database.isMember := rfl
  have channels : (database.alter id change keeps).channels = database.channels := rfl
  have messages : rawMessages engine (database.alter id change keeps) channelId before =
      rawMessages engine database channelId before := rfl
  unfold dmChannel
  rw [isMember, channels, messages]
  by_cases own : database.isMember channelId viewer = true
  · cases found : database.channels.find? channelId with
    | none => rfl
    | some channel =>
      have entries : ∀ row ∈ rawMessages engine database channelId before,
          enrichedMessage (database.alter id change keeps) channelId row =
            enrichedMessage database channelId row := by
        intro row listed
        have kept := (engine.orders _).1.mem_iff.mp (mem_of_mem_take listed)
        obtain ⟨stored, condition⟩ := mem_filter.mp kept
        simp only [Bool.and_eq_true, decide_eq_true_eq] at condition
        exact enrichedMessage_alter (senders own) stored condition.1.1
      have shown := @memberUsers_alter engine database channelId id change keeps
        (profiles (by rw [found]; rfl) own)
      simp only [pageJson, shown, map_congr_left entries]
  · simp [own]

/-- A message shows its sender. -/
theorem dmMessage_alter (messageId : JsString)
    (senders : database.isMember channelId viewer = true →
      ∀ row ∈ database.messages.rows, row.dmChannelId = some channelId →
        (database.alter id change keeps).sender? row.senderId = database.sender? row.senderId) :
    dmMessage fails (database.alter id change keeps) viewer channelId messageId =
      dmMessage fails database viewer channelId messageId := by
  have isMember : (database.alter id change keeps).isMember = database.isMember := rfl
  have messages : (database.alter id change keeps).messages = database.messages := rfl
  unfold dmMessage
  rw [isMember, messages]
  by_cases own : database.isMember channelId viewer = true
  · cases found : (database.messages.find? messageId).filter
        fun row => row.dmChannelId = some channelId with
    | none => rfl
    | some row =>
      obtain ⟨found, placed⟩ := Option.filter_eq_some_iff.mp found
      have entry : messageJson (database.alter id change keeps) channelId row =
          messageJson database channelId row := by
        rw [messageJson, senders own row (Table.find?_eq_some.mp found).1 (by simpa using placed)]
        rfl
      simp only [entry]
  · simp [own]

end Alter

/-! ## What the answers tell of a user -/

theorem Sender.status_eq {first second : Sender}
    (same : toSnakeCase first.json = toSnakeCase second.json) :
    first.status.text = second.status.text := by
  unfold Sender.json at same
  rw [toSnakeCase_obj rfl, toSnakeCase_obj rfl] at same
  simp only [Sender.columns, Author.columns, cons_append, nil_append, map_cons,
    map_nil, snakeMember, toSnakeCase_str, Json.obj.injEq, List.cons.injEq, Prod.mk.injEq,
    Json.str.injEq, true_and, and_true] at same
  exact same.2.2.2.2

theorem Profile.status_eq {first second : Profile}
    (same : toSnakeCase first.json = toSnakeCase second.json) :
    first.status.text = second.status.text := by
  unfold Profile.json at same
  rw [toSnakeCase_obj rfl, toSnakeCase_obj rfl] at same
  simp only [Sender.columns, Author.columns, cons_append, nil_append, map_cons,
    map_nil, snakeMember, toSnakeCase_str, Json.obj.injEq, List.cons.injEq, Prod.mk.injEq,
    Json.str.injEq, true_and, and_true] at same
  exact same.2.2.2.2.1

section Told

variable {engine : Engine} {database : Database} {viewer channelId id : JsString}
  {first second : UserRow → UserRow} {left : ∀ row, (first row).id = row.id}
  {right : ∀ row, (second row).id = row.id} {user : UserRow}

/-- The profiles of a channel's members are those of the rows the query finds. -/
theorem memberUsers_eq :
    memberUsers engine (database.alter id first left) channelId =
      ((engine.visit (database.memberIds channelId)).filterMap database.user?).map
        fun row => (if row.id = id then first row else row).profile := by
  rw [memberUsers, map_filterMap]
  apply filterMap_congr
  intro wanted _
  rw [Database.profile?, Database.user?_alter, Option.map_map]
  rfl

/-- Two states that differ in a member's row, which the channel does not tell apart, give
one profile of the member. -/
theorem status_eq_of_dmChannel (found : database.user? id = some user)
    {channel : DmChannelRow} (stored : database.channels.find? channelId = some channel)
    (own : database.isMember channelId viewer = true) (member : id ∈ database.memberIds channelId)
    (same : dmChannel engine (fun _ => false) (database.alter id first left) viewer channelId none =
      dmChannel engine (fun _ => false) (database.alter id second right) viewer channelId none) :
    (first user).status.text = (second user).status.text := by
  have named : user.id = id := (Table.find?_eq_some.mp found).2
  have visited : user ∈ (engine.visit (database.memberIds channelId)).filterMap database.user? :=
    mem_filterMap.mpr ⟨id, (engine.visits _).mem_iff.mpr (mem_dedup.mpr member), found⟩
  have answer : ∀ {change : UserRow → UserRow} {keeps : ∀ row, (change row).id = row.id},
      dmChannel engine (fun _ => false) (database.alter id change keeps) viewer channelId none =
        ⟨200, pageJson (database.alter id change keeps) viewer channelId channel
          (memberUsers engine (database.alter id change keeps) channelId)
          (rawMessages engine database channelId none)⟩ := by
    intro change keeps
    have isMember : (database.alter id change keeps).isMember channelId viewer = true := own
    have channels : (database.alter id change keeps).channels.find? channelId = some channel :=
      stored
    simp only [dmChannel, isMember, channels, Bool.not_true, Bool.false_eq_true, if_false,
      Bool.and_false, Bool.or_false]
    rfl
  rw [answer, answer] at same
  simp only [pageJson, Answer.mk.injEq, true_and, Json.obj.injEq, List.cons.injEq, Prod.mk.injEq,
    and_true, append_cancel_left_eq, toSnakeCase_arr, Json.arr.injEq, memberUsers_eq,
    map_map] at same
  have profiles := map_inj_left.mp same.1.1 user visited
  simp only [Function.comp, named, if_true] at profiles
  exact Profile.status_eq profiles

/-- Two states that differ in the sender's row, which a message does not tell apart, give
one status of the sender. -/
theorem status_eq_of_dmMessage (found : database.user? id = some user) {row : DirectMessageRow}
    (stored : row ∈ database.messages.rows) (placed : row.dmChannelId = some channelId)
    (sent : row.senderId = id) (own : database.isMember channelId viewer = true)
    (same : dmMessage (fun _ => false) (database.alter id first left) viewer channelId row.id =
      dmMessage (fun _ => false) (database.alter id second right) viewer channelId row.id) :
    (first user).status.text = (second user).status.text := by
  have answer : ∀ {change : UserRow → UserRow} {keeps : ∀ row, (change row).id = row.id},
      dmMessage (fun _ => false) (database.alter id change keeps) viewer channelId row.id =
        ⟨200, messageJson (database.alter id change keeps) channelId row⟩ := by
    intro change keeps
    have isMember : (database.alter id change keeps).isMember channelId viewer = true := own
    have read : ((database.alter id change keeps).messages.find? row.id).filter
        (fun row => row.dmChannelId = some channelId) = some row :=
      Option.filter_eq_some_iff.mpr ⟨Table.find?_eq_some.mpr ⟨stored, rfl⟩, by simp [placed]⟩
    simp only [dmMessage, isMember, read, Bool.not_true, Bool.false_eq_true, if_false,
      Bool.and_false]
  have told : ∀ {change : UserRow → UserRow} {keeps : ∀ row, (change row).id = row.id},
      (database.alter id change keeps).sender? row.senderId = some (change user).sender := by
    intro change keeps
    rw [sent, Database.sender?, Database.user?_alter_self found, Option.map_some]
  rw [answer, answer] at same
  simp only [messageJson, told, sender?, Answer.mk.injEq, true_and, Json.obj.injEq] at same
  rw [toSnakeCase_obj rfl, toSnakeCase_obj rfl] at same
  simp only [spread, map_append, append_assoc, append_cancel_left_eq, map_cons,
    map_nil, cons_append, snakeMember, List.cons.injEq, Prod.mk.injEq, true_and] at same
  exact Sender.status_eq same.1

end Told

end Vortex.Views
