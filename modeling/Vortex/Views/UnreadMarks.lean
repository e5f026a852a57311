import Vortex.Foundation.JsDate
import Vortex.Views.MessagePages

/-!
# Unread marks

A load of a channel reads its page first and later writes the time at which it does so as
the viewer's `last_read_at`. The list of channels compares that time with the time of the
newest message. The requests that send, delete, show and mark messages interleave here; what
a user has been shown so far is kept beside the database.
-/

namespace Vortex.Views

open Foundation Foundation.JsDate List

/-- A load of a channel that has read its page. -/
structure Load where
  userId : JsString
  channelId : JsString
  page : List DirectMessageRow

/-- The database at a time, the loads under way, and the messages each user has been shown
in a page or in the response about one message. -/
structure Inbox where
  now : Int
  database : Database
  loads : List Load
  shown : List (JsString × JsString)

inductive InboxStep
  | tick (elapsed : Nat)
  | send (senderId channelId id content : JsString) (replyToId : Option JsString)
  | delete (userId channelId messageId : JsString)
  | message (userId channelId messageId : JsString)
  | query (userId channelId : JsString) (before : Option JsString)
  | answer (load : Nat) (stored : Bool)
  | abandon (load : Nat)

section Statements

variable (database : Database)

/-- The ids of the messages that the responses for some messages quote. -/
def quotedIds (channelId : JsString) (rows : List DirectMessageRow) : List JsString :=
  rows.filterMap fun row =>
    ((replyId row).bind (liveMessage? database channelId)).map DirectMessageRow.id

/-- The ids of the messages in a response. -/
def responseIds (channelId : JsString) (rows : List DirectMessageRow) : List JsString :=
  rows.map DirectMessageRow.id ++ quotedIds database channelId rows

def insertMessage (row : DirectMessageRow) : Database :=
  { database with messages := database.messages.insertIgnore row }

/-- The update of `DELETE`. -/
def deleteMessage (userId channelId messageId deletedAt : JsString) : Database :=
  let selected := fun row : DirectMessageRow =>
    row.id = messageId && row.senderId = userId && row.dmChannelId = some channelId
  let delete := fun row : DirectMessageRow =>
    { row with deletedAt := some deletedAt, content := none }
  { database with messages := database.messages.updateWhere selected delete fun _ => rfl }

/-- The upsert of the read state. -/
def markRead (userId channelId nowIso : JsString) : Database :=
  let same := fun row : DmReadStateRow => row.userId = userId && row.dmChannelId = channelId
  { database with readStates :=
      if database.readStates.any same then
        database.readStates.map fun row => if same row then { row with lastReadAt := nowIso } else row
      else database.readStates ++ [⟨userId, channelId, nowIso⟩] }

end Statements

section Steps

variable (engine : Engine)

/-- The row `POST` inserts; a reply must be to a message of the channel that is not deleted. -/
def newMessage? (database : Database) (senderId channelId id content createdAt : JsString)
    (replyToId : Option JsString) : Option DirectMessageRow :=
  let row : DirectMessageRow := ⟨id, some channelId, senderId, some content, none, none, createdAt,
    replyToId.filter fun reply => !reply.isEmpty⟩
  if (replyId row).isSome && ((replyId row).bind (liveMessage? database channelId)).isNone then none
  else if (database.messages.find? id).isSome then none
  else some row

def Inbox.respond (inbox : Inbox) (userId : JsString) (ids : List JsString) : Inbox :=
  { inbox with shown := ids.map (userId, ·) ++ inbox.shown }

/-- One step. The last one of a load writes the mark, which may fail, and answers; a load is
abandoned when a query after that of the page fails. -/
def Inbox.next (inbox : Inbox) : InboxStep → Option Inbox
  | .tick elapsed => some { inbox with now := inbox.now + elapsed }
  | .send senderId channelId id content replyToId => do
      guard (inbox.database.isMember channelId senderId)
      let createdAt ← toISOString inbox.now
      let row ← newMessage? inbox.database senderId channelId id content createdAt replyToId
      some ({ inbox with database := insertMessage inbox.database row }.respond senderId
        (responseIds inbox.database channelId [row]))
  | .delete userId channelId messageId => do
      let deletedAt ← toISOString inbox.now
      some { inbox with
        database := deleteMessage inbox.database userId channelId messageId deletedAt }
  | .message userId channelId messageId => do
      guard (inbox.database.isMember channelId userId)
      let row ← (inbox.database.messages.find? messageId).filter fun row =>
        row.dmChannelId = some channelId
      some (inbox.respond userId (responseIds inbox.database channelId [row]))
  | .query userId channelId before => do
      guard (inbox.database.isMember channelId userId)
      some { inbox with loads := inbox.loads ++
        [⟨userId, channelId, rawMessages engine inbox.database channelId before⟩] }
  | .answer index stored => do
      let load ← inbox.loads[index]?
      let marked := match stored, toISOString inbox.now with
        | true, some nowIso => markRead inbox.database load.userId load.channelId nowIso
        | _, _ => inbox.database
      some ({ inbox with database := marked, loads := inbox.loads.eraseIdx index }.respond
        load.userId (responseIds inbox.database load.channelId load.page))
  | .abandon index => some { inbox with loads := inbox.loads.eraseIdx index }

/-- The requests of all users, from a database without messages and read states. -/
def inboxes : System Inbox InboxStep :=
  System.ofNext (fun inbox => inbox.database.messages.rows = [] ∧
    inbox.database.readStates = [] ∧ inbox.loads = [] ∧ inbox.shown = []) (Inbox.next engine)

/-- Of a channel whose newest message is by somebody else and was never shown to the viewer,
the list says that it is unread. -/
def HonestMarks (viewer : JsString) (inbox : Inbox) : Prop :=
  ∀ channel ∈ channelRows engine inbox.database viewer, ∀ latest,
    latestMessage engine inbox.database channel.id = some latest → latest.senderId ≠ viewer →
      (viewer, latest.id) ∉ inbox.shown →
        (toSnakeCase (channelEntry engine inbox.database viewer channel)).get? (js "is_unread") =
          some (.bool true)

end Steps

/-! ## When a time is newer than the mark -/

/-- The comparison of the list with the viewer's mark. -/
def isNewer (lastRead : Option JsString) (createdAt : JsString) : Bool :=
  match lastRead with
  | none | some [] => true
  | some lastRead => decide (lastRead < createdAt)

theorem isNewer_of_lt {lastRead createdAt : JsString} (later : lastRead < createdAt) :
    isNewer (some lastRead) createdAt = true := by
  unfold isNewer
  split
  · rfl
  · rfl
  · rename_i same
    cases same
    exact decide_eq_true later

theorem isUnread_some {viewer : JsString} {latest : DirectMessageRow} {lastRead : Option JsString} :
    isUnread viewer (some latest) lastRead = true ↔
      isNewer lastRead latest.createdAt = true ∧ latest.senderId ≠ viewer := by
  show (isNewer lastRead latest.createdAt && decide (latest.senderId ≠ viewer)) = true ↔ _
  rw [Bool.and_eq_true, decide_eq_true_eq]

theorem get?_is_unread (engine : Engine) (database : Database) (viewer : JsString)
    (channel : DmChannelRow) :
    (toSnakeCase (channelEntry engine database viewer channel)).get? (js "is_unread") =
      some (.bool (isUnread viewer (latestMessage engine database channel.id)
        (lastRead database viewer channel.id))) := by
  unfold channelEntry
  rw [toSnakeCase_obj rfl]
  rfl

/-! ## What a mark covers -/

section Runs

variable {engine : Engine} {viewer : JsString}

/-- When the viewer's mark is written, every message of the channel by somebody else is
newer, unless the viewer has been shown it or is about to be; and what others send is newer
than the viewer's mark. -/
def Covers (viewer : JsString) (inbox : Inbox) : InboxStep → Prop
  | .send senderId channelId _ _ _ => senderId ≠ viewer → ∀ createdAt,
      toISOString inbox.now = some createdAt →
        isNewer (lastRead inbox.database viewer channelId) createdAt = true
  | .answer index true => ∀ load, inbox.loads[index]? = some load → load.userId = viewer →
      ∀ nowIso, toISOString inbox.now = some nowIso →
        ∀ row ∈ liveMessages inbox.database load.channelId, row.senderId ≠ viewer →
          row.id ∈ responseIds inbox.database load.channelId load.page ∨
            (viewer, row.id) ∈ inbox.shown ∨ nowIso < row.createdAt
  | _ => True

/-- Every message by somebody else that the viewer was never shown is newer than the mark. -/
def Unmarked (viewer : JsString) (inbox : Inbox) : Prop :=
  ∀ channelId, ∀ row ∈ liveMessages inbox.database channelId, row.senderId ≠ viewer →
    (viewer, row.id) ∉ inbox.shown →
      isNewer (lastRead inbox.database viewer channelId) row.createdAt = true

theorem mem_liveMessages {database : Database} {channelId : JsString} {row : DirectMessageRow} :
    row ∈ liveMessages database channelId ↔ row ∈ database.messages.rows ∧
      row.dmChannelId = some channelId ∧ row.deletedAt = none := by
  rw [liveMessages, mem_filter, Bool.and_eq_true, decide_eq_true_eq, Option.isNone_iff_eq_none]

theorem latestMessage_mem {database : Database} {channelId : JsString} {latest : DirectMessageRow}
    (newest : latestMessage engine database channelId = some latest) :
    latest ∈ liveMessages database channelId :=
  (engine.orders _).1.mem_iff.mp (mem_of_mem_head? newest)

theorem Unmarked.honest {inbox : Inbox} (unmarked : Unmarked viewer inbox) :
    HonestMarks engine viewer inbox := by
  intro channel _ latest newest other unshown
  rw [get?_is_unread, newest]
  have newer := unmarked channel.id latest (latestMessage_mem newest) other unshown
  rw [isUnread_some.mpr ⟨newer, other⟩]

/-! ### The statements -/

theorem mem_liveMessages_insert {database : Database} {row other : DirectMessageRow}
    {channelId : JsString} (live : other ∈ liveMessages (insertMessage database row) channelId) :
    other ∈ liveMessages database channelId ∨ other = row := by
  obtain ⟨stored, placed, kept⟩ := mem_liveMessages.mp live
  rcases Table.mem_insertIgnore.mp stored with old | ⟨rfl, -⟩
  · exact .inl (mem_liveMessages.mpr ⟨old, placed, kept⟩)
  · exact .inr rfl

theorem mem_liveMessages_delete {database : Database} {other : DirectMessageRow}
    {userId inside messageId deletedAt channelId : JsString}
    (live : other ∈ liveMessages (deleteMessage database userId inside messageId deletedAt)
      channelId) : other ∈ liveMessages database channelId := by
  obtain ⟨stored, placed, kept⟩ := mem_liveMessages.mp live
  obtain ⟨row, old, rfl⟩ := mem_map.mp stored
  split at kept
  · cases kept
  · rename_i untouched
    rw [if_neg untouched] at placed ⊢
    exact mem_liveMessages.mpr ⟨old, placed, kept⟩

/-- The row of a read state. -/
def isReadRow (userId channelId : JsString) (row : DmReadStateRow) : Bool :=
  row.userId = userId && row.dmChannelId = channelId

def readAt (userId channelId nowIso : JsString) (row : DmReadStateRow) : DmReadStateRow :=
  if isReadRow userId channelId row then { row with lastReadAt := nowIso } else row

theorem isReadRow_readAt (userId channelId nowIso viewer other : JsString) :
    isReadRow viewer other ∘ readAt userId channelId nowIso = isReadRow viewer other := by
  funext row
  rw [Function.comp_apply, readAt]
  split <;> rfl

theorem readStates_markRead (database : Database) (userId channelId nowIso : JsString) :
    (markRead database userId channelId nowIso).readStates =
      if database.readStates.any (isReadRow userId channelId) then
        database.readStates.map (readAt userId channelId nowIso)
      else database.readStates ++ [⟨userId, channelId, nowIso⟩] := rfl

theorem lastRead_eq (database : Database) (userId channelId : JsString) :
    lastRead database userId channelId =
      (database.readStates.filter (isReadRow userId channelId)).getLast?.map
        DmReadStateRow.lastReadAt := rfl

theorem lastRead_markRead_self (database : Database) (userId channelId nowIso : JsString) :
    lastRead (markRead database userId channelId nowIso) userId channelId = some nowIso := by
  rw [lastRead_eq, readStates_markRead]
  split
  · rename_i present
    obtain ⟨row, stored, same⟩ := any_eq_true.mp present
    have some : database.readStates.filter (isReadRow userId channelId) ≠ [] :=
      ne_nil_of_mem (mem_filter.mpr ⟨stored, same⟩)
    have last := (mem_filter.mp (getLast_mem some)).2
    rw [filter_map, isReadRow_readAt, getLast?_map, getLast?_eq_some_getLast some,
      Option.map_some, Option.map_some, readAt, if_pos last]
  · rw [filter_append, filter_singleton, isReadRow, decide_eq_true rfl, decide_eq_true rfl]
    simp

theorem lastRead_markRead_of_ne (database : Database) {userId channelId viewer other : JsString}
    (apart : ¬(userId = viewer ∧ channelId = other)) (nowIso : JsString) :
    lastRead (markRead database userId channelId nowIso) viewer other =
      lastRead database viewer other := by
  have separate : ∀ row, isReadRow viewer other row = true →
      isReadRow userId channelId row = false := by
    intro row same
    rw [← Bool.not_eq_true]
    intro marked
    simp only [isReadRow, Bool.and_eq_true, decide_eq_true_eq] at same marked
    exact apart ⟨marked.1.symm.trans same.1, marked.2.symm.trans same.2⟩
  rw [lastRead_eq, lastRead_eq, readStates_markRead]
  split
  · rw [filter_map, isReadRow_readAt]
    have kept : (database.readStates.filter (isReadRow viewer other)).map
        (readAt userId channelId nowIso) = database.readStates.filter (isReadRow viewer other) := by
      refine (map_congr_left ?_).trans (map_id _)
      intro row member
      rw [readAt, separate row (mem_filter.mp member).2]
      rfl
    rw [kept]
  · have outside : isReadRow viewer other ⟨userId, channelId, nowIso⟩ = false := by
      rw [← Bool.not_eq_true]
      intro inside
      have marked := separate _ inside
      simp [isReadRow] at marked
    rw [filter_append, filter_singleton, outside]
    simp

/-! ### One step -/

theorem Unmarked.respond {inbox : Inbox} (unmarked : Unmarked viewer inbox) (userId : JsString)
    (ids : List JsString) : Unmarked viewer (inbox.respond userId ids) :=
  fun channelId row live other unshown =>
    unmarked channelId row live other fun before => unshown (mem_append_right _ before)

theorem Unmarked.send {inbox : Inbox} (unmarked : Unmarked viewer inbox)
    {channelId : JsString} {row : DirectMessageRow} (placed : row.dmChannelId = some channelId)
    (newer : row.senderId ≠ viewer →
      isNewer (lastRead inbox.database viewer channelId) row.createdAt = true) :
    Unmarked viewer { inbox with database := insertMessage inbox.database row } := by
  intro channel message live other unshown
  rcases mem_liveMessages_insert live with old | rfl
  · exact unmarked channel message old other unshown
  · obtain ⟨-, inside, -⟩ := mem_liveMessages.mp live
    cases Option.some.inj (placed.symm.trans inside)
    exact newer other

/-- A message that is newer than the mark, or was shown in the response that comes with it,
stays unread. -/
theorem Unmarked.answer {inbox : Inbox} (unmarked : Unmarked viewer inbox) {load : Load}
    {nowIso : JsString} {loads : List Load}
    (covers : load.userId = viewer → ∀ row ∈ liveMessages inbox.database load.channelId,
      row.senderId ≠ viewer → row.id ∈ responseIds inbox.database load.channelId load.page ∨
        (viewer, row.id) ∈ inbox.shown ∨ nowIso < row.createdAt) :
    Unmarked viewer ({ inbox with
        database := markRead inbox.database load.userId load.channelId nowIso
        loads := loads }.respond load.userId (responseIds inbox.database load.channelId load.page)) := by
  intro channelId row live other unshown
  have before : (viewer, row.id) ∉ inbox.shown :=
    fun shown => unshown (mem_append_right _ shown)
  show isNewer (lastRead (markRead _ _ _ _) viewer channelId) row.createdAt = true
  by_cases own : load.userId = viewer ∧ load.channelId = channelId
  · obtain ⟨rfl, rfl⟩ := own
    rw [lastRead_markRead_self]
    rcases covers rfl row live other with paged | shown | newer
    · exact absurd (mem_append_left _ (mem_map.mpr ⟨row.id, paged, rfl⟩)) unshown
    · exact absurd shown before
    · exact isNewer_of_lt newer
  · rw [lastRead_markRead_of_ne _ own]
    exact unmarked channelId row live other before

theorem newMessage?_eq_some {database : Database}
    {senderId channelId id content createdAt : JsString}
    {replyToId : Option JsString} {row : DirectMessageRow}
    (made : newMessage? database senderId channelId id content createdAt replyToId = some row) :
    row.dmChannelId = some channelId ∧ row.senderId = senderId ∧ row.createdAt = createdAt := by
  unfold newMessage? at made
  dsimp only at made
  split at made
  · cases made
  · split at made
    · cases made
    · cases made
      exact ⟨rfl, rfl, rfl⟩

theorem Unmarked.next {before after : Inbox} {step : InboxStep} (unmarked : Unmarked viewer before)
    (covers : Covers viewer before step) (moved : before.next engine step = some after) :
    Unmarked viewer after := by
  cases step with
  | tick elapsed =>
    cases moved
    exact unmarked
  | send senderId channelId id content replyToId =>
    obtain ⟨-, -, moved⟩ := Option.bind_eq_some_iff.mp moved
    obtain ⟨createdAt, printed, moved⟩ := Option.bind_eq_some_iff.mp moved
    obtain ⟨row, made, moved⟩ := Option.bind_eq_some_iff.mp moved
    cases moved
    obtain ⟨placed, rfl, rfl⟩ := newMessage?_eq_some made
    exact (unmarked.send placed fun other => covers other _ printed).respond _ _
  | delete userId channelId messageId =>
    obtain ⟨deletedAt, -, moved⟩ := Option.bind_eq_some_iff.mp moved
    cases moved
    intro channel row live
    exact unmarked channel row (mem_liveMessages_delete live)
  | message userId channelId messageId =>
    obtain ⟨-, -, moved⟩ := Option.bind_eq_some_iff.mp moved
    obtain ⟨row, -, moved⟩ := Option.bind_eq_some_iff.mp moved
    cases moved
    exact unmarked.respond _ _
  | query userId channelId cursor =>
    obtain ⟨-, -, moved⟩ := Option.bind_eq_some_iff.mp moved
    cases moved
    exact unmarked
  | answer index stored =>
    obtain ⟨load, under, moved⟩ := Option.bind_eq_some_iff.mp moved
    cases moved
    have answered := unmarked.respond load.userId
      (responseIds before.database load.channelId load.page)
    cases stored with
    | false => exact answered
    | true =>
      cases printed : toISOString before.now with
      | none => exact answered
      | some nowIso =>
        exact unmarked.answer fun own => covers load under own nowIso printed
  | abandon index =>
    cases moved
    exact unmarked

end Runs

namespace MarkSample

def channel : DmChannelRow where
  id := js "chat"
  name := none
  iconUrl := none
  isGroup := false
  ownerId := none
  updatedAt := js "1970-01-01T00:00:00.000Z"
  isEncrypted := false
  encryptionKeyVersion := 0
  encryptionMembershipEpoch := 0
  encryptionScheme := js "none"
  themePreset := none

/-- A channel of Ana and Bob without messages. -/
def database : Database where
  users := .empty
  friendships := .empty
  channels := ⟨[channel], List.nodup_singleton _⟩
  members := [⟨js "chat", js "ana"⟩, ⟨js "chat", js "bob"⟩]
  messages := .empty
  readStates := []
  attachments := []
  reactions := []

def start : Inbox := ⟨0, database, [], []⟩

/-- Ana's load has found no messages. -/
def loading : Inbox := { start with loads := [⟨js "ana", js "chat", []⟩] }

def greeting (createdAt : JsString) : DirectMessageRow :=
  ⟨js "hi", some (js "chat"), js "bob", some (js "hello"), none, none, createdAt, none⟩

theorem start_loading :
    start.next plainEngine (.query (js "ana") (js "chat") none) = some loading := by
  have page : rawMessages plainEngine start.database (js "chat") none = [] := by
    have sorted : plainEngine.newest [] = [] := (plainEngine.orders []).1.eq_nil
    show (plainEngine.newest []).take pageSize = []
    rw [sorted, take_nil]
  have member : start.database.isMember (js "chat") (js "ana") = true := by decide
  simp only [Inbox.next, member, page]
  rfl

/-- The list of a database with one message in the channel. -/
theorem latest_greeting {createdAt : JsString} {messages : Database}
    (one : liveMessages messages (js "chat") = [greeting createdAt]) :
    latestMessage plainEngine messages channel.id = some (greeting createdAt) := by
  have sorted : (plainEngine.newest [greeting createdAt]).Perm [greeting createdAt] :=
    (plainEngine.orders _).1
  show (plainEngine.newest (liveMessages messages (js "chat"))).head? = _
  rw [one, perm_singleton.mp sorted]
  rfl

theorem mem_channelRows (messages : Table DirectMessageRow JsString DirectMessageRow.id)
    (readStates : List DmReadStateRow) :
    channel ∈ channelRows plainEngine
      { database with messages := messages, readStates := readStates } (js "ana") := by
  rw [channelRows, mem_mergeSort, mem_filter]
  have member : database.isMember channel.id (js "ana") = true := by decide
  exact ⟨mem_singleton_self _, member⟩

def greeted (createdAt : JsString) (database : Database) : Database :=
  insertMessage database (greeting createdAt)

/-- Bob writes while Ana's load is under way. -/
def crossed : Inbox := { loading with
  database := greeted (js "1970-01-01T00:00:00.000Z") database
  shown := [(js "bob", js "hi")] }

/-- Ana's load has marked the channel. -/
def marked : Inbox := { crossed with
  database := markRead crossed.database (js "ana") (js "chat") (js "1970-01-01T00:00:00.000Z")
  loads := [] }

/-- Ana's load has ended before Bob writes, a millisecond later. -/
def opened : Inbox := { start with
  now := 1
  database := markRead database (js "ana") (js "chat") (js "1970-01-01T00:00:00.000Z") }

def answered : Inbox := { opened with
  database := greeted (js "1970-01-01T00:00:00.001Z") opened.database
  shown := [(js "bob", js "hi")] }

theorem reach {guard : Inbox → InboxStep → Prop} {before after : Inbox} (step : InboxStep)
    (reached : (inboxes plainEngine).Reachable guard before) (admitted : guard before step)
    (moved : before.next plainEngine step = some after) :
    (inboxes plainEngine).Reachable guard after :=
  .step reached admitted moved

theorem crossed_reachable : (inboxes plainEngine).Reachable System.unguarded marked := by
  have first : (inboxes plainEngine).Reachable System.unguarded start :=
    .initial ⟨rfl, rfl, rfl, rfl⟩
  have second := reach (.query (js "ana") (js "chat") none) first trivial start_loading
  have third : (inboxes plainEngine).Reachable System.unguarded crossed :=
    reach (.send (js "bob") (js "chat") (js "hi") (js "hello") none) second trivial rfl
  exact reach (.answer 0 true) third trivial rfl

theorem answered_reachable : (inboxes plainEngine).Reachable (Covers (js "ana")) answered := by
  have first : (inboxes plainEngine).Reachable (Covers (js "ana")) start :=
    .initial ⟨rfl, rfl, rfl, rfl⟩
  have second := reach (.query (js "ana") (js "chat") none) first trivial start_loading
  have third : (inboxes plainEngine).Reachable (Covers (js "ana")) { opened with now := 0 } := by
    refine reach (.answer 0 true) second ?_ rfl
    rintro load under - nowIso - row live
    cases Option.some.inj under
    exact absurd (mem_liveMessages.mp live).1 not_mem_nil
  have fourth : (inboxes plainEngine).Reachable (Covers (js "ana")) opened :=
    reach (.tick 1) third trivial rfl
  refine reach (.send (js "bob") (js "chat") (js "hi") (js "hello") none) fourth ?_ rfl
  intro _ createdAt printed
  cases Option.some.inj printed
  decide

end MarkSample

end Vortex.Views
