import Mathlib.Data.Prod.Lex
import Vortex.Channels.Routes
import Vortex.Foundation.Paging
import Vortex.Views.Friends

/-!
# Pages of the membership log

`GET /api/dm/channels/[channelId]/membership-log` answers the newest entries of the log
below a cursor, which is the id of an entry of the same channel. A client that follows
`next_cursor` while entries are appended ends up with the log as it was at its first
request (`complete_of_reachable`).
-/

namespace Vortex.Views

open Foundation Foundation.Paging List

inductive MembershipAction
  | memberAdded
  | memberRemoved
  | memberLeft
  deriving DecidableEq

def MembershipAction.text : MembershipAction → JsString
  | .memberAdded => js "member_added"
  | .memberRemoved => js "member_removed"
  | .memberLeft => js "member_left"

/-- A row of `dm_membership_events`. Its id is drawn, or a client's that `UUID_RE` matches. -/
structure DmMembershipEventRow where
  id : JsString
  uuid : Channels.isUuid id = true
  dmChannelId : JsString
  action : MembershipAction
  actorId : Option JsString
  targetId : Option JsString
  actorDeviceId : Option JsString
  actorEd25519Key : Option JsString
  payload : JsString
  signature : Option JsString
  createdAt : JsString
  deriving DecidableEq

structure LogDatabase extends Database where
  events : Table DmMembershipEventRow (List Nat) fun row => binary row.id

/-- The log of a channel. -/
def LogDatabase.log (database : LogDatabase) (channelId : JsString) : List DmMembershipEventRow :=
  database.events.rows.filter fun row => row.dmChannelId = channelId

/-! ## The route -/

def LOG_LIMIT : Nat := 100

structure LogPage where
  entries : List DmMembershipEventRow
  nextCursor : Option JsString

/-- The row of the channel whose id is given as the cursor. -/
def cursorRow (database : LogDatabase) (channelId : JsString) :
    Option JsString → Option DmMembershipEventRow
  | none | some [] => none
  | some beforeId => database.events.rows.find? fun row =>
      binary row.id = binary beforeId && row.dmChannelId = channelId

/-- The conditions on an entry: it comes before the cursor. -/
def precedes (cursor entry : DmMembershipEventRow) : Bool :=
  binary entry.createdAt < binary cursor.createdAt ||
    (binary entry.createdAt = binary cursor.createdAt && binary entry.id < binary cursor.id)

/-- `desc(createdAt), desc(id)`. -/
def newestFirst (first second : DmMembershipEventRow) : Bool :=
  binary second.createdAt < binary first.createdAt ||
    (binary second.createdAt = binary first.createdAt && binary second.id ≤ binary first.id)

def logEntries (database : LogDatabase) (channelId : JsString) (before : Option JsString) :
    List DmMembershipEventRow :=
  (((database.log channelId).filter fun row =>
    (cursorRow database channelId before).all fun cursor => precedes cursor row).mergeSort
      newestFirst).take LOG_LIMIT

/-- The entries that are answered, and the id of the last one if there are as many as asked. -/
def logPage (database : LogDatabase) (channelId : JsString) (before : Option JsString) : LogPage :=
  let entries := logEntries database channelId before
  ⟨entries, if entries.length = LOG_LIMIT then entries.getLast?.map (·.id) else none⟩

/-- The columns the route selects of a person. -/
def Author.person (author : Author) : Json :=
  .obj [(js "id", .str author.id), (js "displayName", text? author.displayName),
    (js "username", .str author.username), (js "avatarUrl", text? author.avatarUrl)]

/-- `id ? peopleById[id] ?? null : null`. -/
def person? (database : LogDatabase) (id : Option JsString) : Json :=
  match (id.filter fun id => !id.isEmpty).bind database.author? with
  | none => .null
  | some author => author.person

def entryJson (database : LogDatabase) (entry : DmMembershipEventRow) : Json :=
  .obj [(js "id", .str entry.id), (js "action", .str entry.action.text),
    (js "actorId", text? entry.actorId), (js "targetId", text? entry.targetId),
    (js "actorDeviceId", text? entry.actorDeviceId),
    (js "actorEd25519Key", text? entry.actorEd25519Key), (js "payload", .str entry.payload),
    (js "signature", text? entry.signature), (js "createdAt", .str entry.createdAt),
    (js "actor", person? database entry.actorId), (js "target", person? database entry.targetId)]

def LogPage.json (database : LogDatabase) (page : LogPage) : Json :=
  .obj [(js "entries", toSnakeCase (.arr (page.entries.map (entryJson database)))),
    (js "next_cursor", text? page.nextCursor)]

inductive LogQuery
  | membership
  | cursor
  | entries
  | people

/-- The ids of the people the entries name. -/
def personIds (page : LogPage) : List JsString :=
  page.entries.flatMap fun entry =>
    [entry.actorId, entry.targetId].filterMap fun id => id.filter fun id => !id.isEmpty

/-- What the route finds, or the response it stops with. -/
def membershipLog (fails : LogQuery → Bool) (database : LogDatabase)
    (viewer channelId : JsString) (before : Option JsString) : Except Answer LogPage :=
  if fails .membership then .error internalError
  else if !database.isMember channelId viewer then .error (.error 403 "Forbidden")
  else if (before.any fun id => !id.isEmpty) && fails .cursor then .error internalError
  else if fails .entries then .error internalError
  else
    let page := logPage database channelId before
    if !(personIds page).isEmpty && fails .people then .error internalError else .ok page

/-- `GET /api/dm/channels/[channelId]/membership-log`. -/
def membershipLogAnswer (fails : LogQuery → Bool) (database : LogDatabase)
    (viewer channelId : JsString) (before : Option JsString) : Answer :=
  match membershipLog fails database viewer channelId before with
  | .error answer => answer
  | .ok page => ⟨200, page.json database⟩

/-! ## The order of a log -/

/-- What an entry is ordered by: its time, then its id. -/
def DmMembershipEventRow.key (entry : DmMembershipEventRow) : List Nat ×ₗ List Nat :=
  toLex (binary entry.createdAt, binary entry.id)

section Order

variable {first second cursor entry : DmMembershipEventRow}

theorem precedes_iff : precedes cursor entry = true ↔ entry.key < cursor.key := by
  simp [precedes, DmMembershipEventRow.key, Prod.Lex.toLex_lt_toLex]

theorem newestFirst_iff : newestFirst first second = true ↔ second.key ≤ first.key := by
  simp [newestFirst, DmMembershipEventRow.key, Prod.Lex.toLex_le_toLex]

/-- Entries in the order of the route. -/
theorem arranges_mergeSort (entries : List DmMembershipEventRow) :
    Arranges DmMembershipEventRow.key entries (entries.mergeSort newestFirst) where
  perm := mergeSort_perm entries newestFirst
  falling := by
    refine (pairwise_mergeSort ?_ ?_ entries).imp newestFirst_iff.mp
    · intro first second third one two
      exact newestFirst_iff.mpr ((newestFirst_iff.mp two).trans (newestFirst_iff.mp one))
    · intro first second
      rw [Bool.or_eq_true, newestFirst_iff, newestFirst_iff]
      exact le_total second.key first.key

variable {database : LogDatabase} {channelId : JsString}

theorem mem_log : entry ∈ database.log channelId ↔
    entry ∈ database.events.rows ∧ entry.dmChannelId = channelId := by
  simp [LogDatabase.log]

theorem eq_of_key_eq (one : first ∈ database.log channelId) (two : second ∈ database.log channelId)
    (same : first.key = second.key) : first = second :=
  database.events.eq_of_key_eq (mem_log.mp one).1 (mem_log.mp two).1
    (Prod.mk.inj (toLex.injective same)).2

theorem nodup_keys : ((database.log channelId).map DmMembershipEventRow.key).Nodup := by
  have single : ((database.log channelId).map fun entry => binary entry.id).Nodup :=
    database.events.unique.sublist ((filter_sublist ..).map _)
  refine List.Nodup.of_map (fun key => (ofLex key).2) ?_
  rw [map_map]
  exact single

theorem uuid_ne_nil : entry.id ≠ [] := by
  intro empty
  have uuid := entry.uuid
  rw [empty] at uuid
  cases uuid

/-- The cursor of an entry of the log is that entry. -/
theorem cursorRow_of_mem (member : entry ∈ database.log channelId) :
    cursorRow database channelId (some entry.id) = some entry := by
  have searched : cursorRow database channelId (some entry.id) =
      database.events.rows.find? fun row =>
        binary row.id = binary entry.id && row.dmChannelId = channelId := by
    cases named : entry.id with
    | nil => exact (uuid_ne_nil named).elim
    | cons => rfl
  rw [searched]
  cases found : database.events.rows.find? fun row =>
      binary row.id = binary entry.id && row.dmChannelId = channelId with
  | none =>
    have unmatched := find?_eq_none.mp found entry (mem_log.mp member).1
    simp [(mem_log.mp member).2] at unmatched
  | some row =>
    have matched := find?_some found
    rw [Bool.and_eq_true, decide_eq_true_eq] at matched
    exact congrArg some (database.events.eq_of_key_eq (mem_of_find?_eq_some found)
      (mem_log.mp member).1 matched.1)

/-- The log from the newest entry below a cursor on. -/
def LogDatabase.newestBelow (database : LogDatabase) (channelId : JsString)
    (cursor : Option (List Nat ×ₗ List Nat)) : List DmMembershipEventRow :=
  (below DmMembershipEventRow.key cursor (database.log channelId)).mergeSort newestFirst

theorem logEntries_eq (before : Option JsString) :
    logEntries database channelId before = (database.newestBelow channelId
      ((cursorRow database channelId before).map DmMembershipEventRow.key)).take LOG_LIMIT := by
  rw [logEntries, LogDatabase.newestBelow, below]
  congr 3
  funext row
  cases cursorRow database channelId before with
  | none => rfl
  | some cursor =>
    rw [Option.all_some, Option.map_some, Option.all_some, Bool.eq_iff_iff, precedes_iff,
      decide_eq_true_eq]

/-- What is left of the log below a cursor has one order. -/
theorem newestBelow_eq {cursor : Option (List Nat ×ₗ List Nat)}
    {entries : List DmMembershipEventRow} (arranges : Arranges DmMembershipEventRow.key
      (below DmMembershipEventRow.key cursor (database.log channelId)) entries) :
    database.newestBelow channelId cursor = entries := by
  refine (arranges_mergeSort _).unique arranges ?_
  intro first one second two same
  exact eq_of_key_eq (mem_below.mp one).1 (mem_below.mp two).1 same

end Order

/-! ## Following the cursor -/

/-- A client that follows `next_cursor`, and the database it asks. -/
structure LogWalk where
  database : LogDatabase
  received : List DmMembershipEventRow
  nextCursor : Option JsString
  requests : Nat

inductive LogStep
  | change (database : LogDatabase)
  | request

/-- Requests of a member, from the first one on. Between them the database changes. -/
def logSystem (viewer channelId : JsString) (database : LogDatabase) : System LogWalk LogStep where
  initial walk := ∃ fails page, membershipLog fails database viewer channelId none = .ok page ∧
    walk = ⟨database, page.entries, page.nextCursor, 1⟩
  step before label after :=
    match label with
    | .change database => after = { before with database := database }
    | .request => ∃ fails cursor page, before.nextCursor = some cursor ∧
        membershipLog fails before.database viewer channelId (some cursor) = .ok page ∧
        after = ⟨before.database, before.received ++ page.entries, page.nextCursor,
          before.requests + 1⟩

/-- Entries of the channel are only appended, above the cursor. Whatever else is stored
may change. -/
def Appended (channelId : JsString) (walk : LogWalk) : LogStep → Prop
  | .request => True
  | .change database => ∃ fresh, (database.log channelId).Perm
      (walk.database.log channelId ++ fresh) ∧
        ∀ cursor ∈ cursorRow walk.database channelId walk.nextCursor,
          ∀ entry ∈ fresh, cursor.key < entry.key

/-- What a client has received, and what is left for it below its cursor. -/
structure LogWalk.Sound (channelId : JsString) (started : List DmMembershipEventRow)
    (walk : LogWalk) : Prop where
  ended : walk.nextCursor = none → walk.received = started
  going : ∀ cursor, walk.nextCursor = some cursor → ∃ last ∈ walk.database.log channelId,
    last.id = cursor ∧ walk.received.length = LOG_LIMIT * walk.requests ∧
      walk.received ++ walk.database.newestBelow channelId (some last.key) = started

section Walk

variable {fails : LogQuery → Bool} {database : LogDatabase} {viewer channelId : JsString}
  {before : Option JsString} {page : LogPage} {walk after : LogWalk}
  {started : List DmMembershipEventRow}

theorem page_of_membershipLog
    (answered : membershipLog fails database viewer channelId before = .ok page) :
    page = logPage database channelId before := by
  unfold membershipLog at answered
  dsimp only at answered
  split_ifs at answered
  exact (Except.ok.inj answered).symm

variable (database channelId before) in
/-- A page that is not full is all that is left. A full one leaves what lies below its last
entry. -/
theorem sound_of_page {cursor : Option (List Nat ×ₗ List Nat)}
    (found : (cursorRow database channelId before).map DmMembershipEventRow.key = cursor)
    {earlier : List DmMembershipEventRow} {requests : Nat}
    (length : earlier.length = LOG_LIMIT * requests)
    (whole : earlier ++ database.newestBelow channelId cursor = started) :
    LogWalk.Sound channelId started ⟨database,
      earlier ++ (logPage database channelId before).entries,
      (logPage database channelId before).nextCursor, requests + 1⟩ := by
  have entries : logEntries database channelId before =
      (database.newestBelow channelId cursor).take LOG_LIMIT := by
    rw [logEntries_eq, found]
  have arranges : Arranges _ _ (database.newestBelow channelId cursor) := arranges_mergeSort _
  constructor
  · intro last
    dsimp only [logPage] at last ⊢
    split at last
    · rename_i full
      -- a full page has a last entry
      rw [Option.map_eq_none_iff, getLast?_eq_none_iff] at last
      rw [last] at full
      cases full
    · rename_i short
      rw [entries, length_take] at short
      rw [entries, take_of_length_le (by omega), whole]
  · intro next named
    dsimp only [logPage] at named ⊢
    split at named
    · rename_i full
      obtain ⟨last, ends, rfl⟩ := Option.map_eq_some_iff.mp named
      rw [entries] at ends
      have listed : last ∈ below DmMembershipEventRow.key cursor (database.log channelId) :=
        arranges.perm.mem_iff.mp (mem_of_mem_take (mem_of_getLast? ends))
      have apart : ∀ row ∈ (database.newestBelow channelId cursor).drop LOG_LIMIT,
          row.key < last.key := by
        have strict := arranges.strict (nodup_keys.sublist ((filter_sublist ..).map _))
        rw [← take_append_drop LOG_LIMIT (database.newestBelow channelId cursor)] at strict
        exact (pairwise_append.mp strict).2.2 last (mem_of_getLast? ends)
      have rest : database.newestBelow channelId (some last.key) =
          (database.newestBelow channelId cursor).drop LOG_LIMIT :=
        newestBelow_eq ⟨arranges.perm_below_last ends apart, (arranges.drop LOG_LIMIT).falling⟩
      refine ⟨last, (mem_below.mp listed).1, rfl, ?_, ?_⟩
      · rw [length_append, length, full, Nat.mul_succ]
      · rw [rest, entries, append_assoc, take_append_drop, whole]
    · cases named

theorem LogWalk.Sound.of_initial (initial : (logSystem viewer channelId database).initial walk) :
    walk.Sound channelId ((database.log channelId).mergeSort newestFirst) := by
  obtain ⟨fails, page, answered, rfl⟩ := initial
  rw [page_of_membershipLog answered]
  have whole : [] ++ database.newestBelow channelId none =
      (database.log channelId).mergeSort newestFirst := by
    rw [nil_append]
    exact congrArg (List.mergeSort · newestFirst) below_none
  exact sound_of_page database channelId none rfl rfl whole

/-- Appending above the cursor leaves what lies below it. -/
theorem newestBelow_appended {other : LogDatabase} {bound : List Nat ×ₗ List Nat}
    {fresh : List DmMembershipEventRow}
    (appended : (other.log channelId).Perm (database.log channelId ++ fresh))
    (above : ∀ entry ∈ fresh, bound < entry.key) :
    other.newestBelow channelId (some bound) = database.newestBelow channelId (some bound) := by
  have none : below DmMembershipEventRow.key (some bound) fresh = [] := by
    refine filter_eq_nil_iff.mpr fun entry new => ?_
    simpa using (above entry new).le
  have kept : (below DmMembershipEventRow.key (some bound) (other.log channelId)).Perm
      (below DmMembershipEventRow.key (some bound) (database.log channelId)) := by
    have filtered := appended.filter fun entry => entry.key < bound
    rw [filter_append] at filtered
    change List.Perm _ (_ ++ below DmMembershipEventRow.key (some bound) fresh) at filtered
    rwa [none, append_nil] at filtered
  refine newestBelow_eq ?_
  have arranges := arranges_mergeSort
    (below DmMembershipEventRow.key (some bound) (database.log channelId))
  exact ⟨arranges.perm.trans kept.symm, arranges.falling⟩

theorem LogWalk.Sound.step {label : LogStep} (sound : walk.Sound channelId started)
    (appended : Appended channelId walk label)
    (moved : (logSystem viewer channelId database).step walk label after) :
    after.Sound channelId started := by
  cases label with
  | change other =>
    obtain rfl : after = { walk with database := other } := moved
    obtain ⟨fresh, perm, above⟩ := appended
    refine ⟨sound.ended, fun cursor named => ?_⟩
    obtain ⟨last, member, rfl, length, whole⟩ := sound.going cursor named
    have found : last ∈ cursorRow walk.database channelId walk.nextCursor := by
      rw [show walk.nextCursor = some last.id from named]
      exact cursorRow_of_mem member
    refine ⟨last, perm.mem_iff.mpr (mem_append_left _ member), rfl, length, ?_⟩
    rw [newestBelow_appended perm (above last found)]
    exact whole
  | request =>
    obtain ⟨fails, cursor, page, named, answered, rfl⟩ := moved
    obtain ⟨last, member, rfl, length, whole⟩ := sound.going cursor named
    rw [page_of_membershipLog answered]
    refine sound_of_page walk.database channelId _ ?_ length whole
    rw [cursorRow_of_mem member, Option.map_some]

theorem LogWalk.Sound.of_reachable
    (reached : (logSystem viewer channelId database).Reachable (Appended channelId) walk) :
    walk.Sound channelId ((database.log channelId).mergeSort newestFirst) :=
  reached.invariant (fun _ initial => .of_initial initial)
    fun _ _ _ _ sound appended moved => sound.step appended moved

end Walk

/-! ## Other channels -/

section Foreign

variable {database other : LogDatabase} {viewer channelId : JsString} {before : Option JsString}

theorem cursorRow_eq : cursorRow database channelId before =
    match before with
    | none | some [] => none
    | some beforeId =>
      (database.log channelId).find? fun row => binary row.id = binary beforeId := by
  unfold cursorRow
  split <;> try rfl
  rw [LogDatabase.log, find?_filter]
  congr 1
  funext row
  rw [Bool.eq_iff_iff, Bool.and_eq_true, decide_eq_true_eq (p := _ ∧ _), and_comm]

/-- Of the stored entries the page shows what the log of the channel has. -/
theorem logPage_congr (log : other.log channelId = database.log channelId) :
    logPage other channelId before = logPage database channelId before := by
  have found : cursorRow other channelId before = cursorRow database channelId before := by
    rw [cursorRow_eq, cursorRow_eq, log]
  have entries : logEntries other channelId before = logEntries database channelId before := by
    rw [logEntries, log, found, logEntries]
  rw [logPage, entries, logPage]

theorem membershipLogAnswer_congr (fails : LogQuery → Bool)
    (log : other.log channelId = database.log channelId)
    (member : other.isMember channelId viewer = database.isMember channelId viewer)
    (authors : other.author? = database.author?) :
    membershipLogAnswer fails other viewer channelId before =
      membershipLogAnswer fails database viewer channelId before := by
  have people : person? other = person? database := by
    funext id
    rw [person?, authors, person?]
  have entries : entryJson other = entryJson database := by
    funext entry
    rw [entryJson, people, entryJson]
  simp only [membershipLogAnswer, membershipLog, LogPage.json, logPage_congr log, member, entries]

/-- The id of an entry of another channel is no cursor. -/
theorem logPage_foreign {entry : DmMembershipEventRow} (stored : entry ∈ database.events.rows)
    (elsewhere : entry.dmChannelId ≠ channelId) :
    logPage database channelId (some entry.id) = logPage database channelId none := by
  have absent : cursorRow database channelId (some entry.id) = none := by
    rw [cursorRow_eq]
    split
    · rfl
    · rfl
    · rename_i beforeId named
      cases named
      refine find?_eq_none.mpr fun row listed same => elsewhere ?_
      rw [decide_eq_true_eq] at same
      rw [← database.events.eq_of_key_eq (mem_log.mp listed).1 stored same]
      exact (mem_log.mp listed).2
  have first : cursorRow database channelId none = none := rfl
  simp only [logPage, logEntries, absent, first]

end Foreign

/-- Whoever follows `next_cursor` until it is null has received the log as it was at the first
request, strictly from the newest entry down, and gets there after as many full pages as the
log has. What is stored for other channels shows in no answer, and their entries are no
cursors. -/
theorem complete_of_reachable (viewer channelId : JsString) (database : LogDatabase) :
    (∀ walk, (logSystem viewer channelId database).Reachable (Appended channelId) walk →
      (walk.nextCursor = none → walk.received.Perm (database.log channelId) ∧
        walk.received.Pairwise fun first second => second.key < first.key) ∧
      (walk.nextCursor ≠ none → LOG_LIMIT * walk.requests ≤ (database.log channelId).length)) ∧
    (∀ entry ∈ database.events.rows, entry.dmChannelId ≠ channelId →
      logPage database channelId (some entry.id) = logPage database channelId none) ∧
    ∀ fails before (other : LogDatabase), other.log channelId = database.log channelId →
      other.isMember channelId viewer = database.isMember channelId viewer →
      other.author? = database.author? →
      membershipLogAnswer fails other viewer channelId before =
        membershipLogAnswer fails database viewer channelId before := by
  refine ⟨fun walk reached => ?_, fun entry stored elsewhere => logPage_foreign stored elsewhere,
    fun fails before other log member authors => membershipLogAnswer_congr fails log member authors⟩
  have sound := LogWalk.Sound.of_reachable reached
  have arranges := arranges_mergeSort (database.log channelId)
  constructor
  · intro ended
    rw [sound.ended ended]
    exact ⟨arranges.perm, arranges.strict nodup_keys⟩
  · intro goes
    obtain ⟨cursor, named⟩ := Option.ne_none_iff_exists'.mp goes
    obtain ⟨last, -, -, length, whole⟩ := sound.going cursor named
    calc LOG_LIMIT * walk.requests = walk.received.length := length.symm
      _ ≤ (walk.received ++ walk.database.newestBelow channelId (some last.key)).length := by
        rw [List.length_append]
        exact Nat.le_add_right ..
      _ = (database.log channelId).length := by rw [whole, arranges.perm.length_eq]

namespace LogSample

def entry : DmMembershipEventRow where
  id := js "3f2b9c1e-0a4d-4a77-9b56-1c2d3e4f5a6b"
  uuid := by decide
  dmChannelId := js "group"
  action := .memberAdded
  actorId := some (js "ana")
  targetId := some (js "bob")
  actorDeviceId := none
  actorEd25519Key := none
  payload := []
  signature := none
  createdAt := js "2026-07-15T12:00:00.000Z"

def database : LogDatabase where
  users := .empty
  friendships := .empty
  channels := .empty
  members := [⟨js "group", js "ana"⟩]
  messages := .empty
  readStates := []
  attachments := []
  reactions := []
  events := ⟨[entry], List.nodup_singleton _⟩

theorem first_page : logPage database (js "group") none = ⟨[entry], none⟩ := by
  have listed : database.log (js "group") = [entry] := rfl
  have entries : logEntries database (js "group") none = [entry] := by
    rw [logEntries, listed, cursorRow]
    exact congrArg (List.take LOG_LIMIT) (mergeSort_singleton entry)
  rw [logPage, entries]
  rfl

end LogSample

theorem sample_complete : ∃ walk, (logSystem (js "ana") (js "group") LogSample.database).Reachable
    (Appended (js "group")) walk ∧ walk.nextCursor = none ∧
      walk.received.Perm (LogSample.database.log (js "group")) := by
  have answered : membershipLog (fun _ => false) LogSample.database (js "ana") (js "group") none =
      .ok ⟨[LogSample.entry], none⟩ := by
    simp only [membershipLog, LogSample.first_page]
    rfl
  have reached : (logSystem (js "ana") (js "group") LogSample.database).Reachable
      (Appended (js "group")) ⟨LogSample.database, [LogSample.entry], none, 1⟩ :=
    .initial ⟨fun _ => false, ⟨[LogSample.entry], none⟩, answered, rfl⟩
  exact ⟨_, reached, rfl, (((complete_of_reachable (js "ana") (js "group")
    LogSample.database).1 _ reached).1 rfl).1⟩

end Vortex.Views
