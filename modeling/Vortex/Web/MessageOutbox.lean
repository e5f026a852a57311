import Vortex.Foundation.JsDate
import Vortex.Foundation.JsValue
import Vortex.Foundation.Keyed
import Vortex.Foundation.NearestDouble
import Vortex.Gateway.Messages

/-!
# The outbox that tabs share

Each tab keeps the messages it has still to send and writes its whole list to `localStorage` with
every change. Tabs do not hear of each other: one that has not seen what another one wrote undoes
it, a storage that is full keeps what it had, two tabs may draw the same id, and a message that
was being sent is still that when a tab is loaded. Where none of this happens the storage holds
exactly the messages that were enqueued and neither sent nor cancelled.
-/

namespace Vortex.Web.MessageOutbox

open Foundation List
open Vortex.Gateway (trim)

/-! ## Messages -/

inductive OutboxStatus
  | pending
  | sending
  | failed
  deriving DecidableEq

def OutboxStatus.text : OutboxStatus → JsString
  | .pending => js "pending"
  | .sending => js "sending"
  | .failed => js "failed"

/-- A message that is to be sent, with the number of its retries, which is a natural one. -/
structure OutboxMessage where
  clientId : JsString
  channelId : JsString
  content : JsString
  queuedAt : JsString
  status : OutboxStatus
  retries : Nat
  error : Option JsString
  deriving DecidableEq

/-- `Number.MAX_SAFE_INTEGER` -/
def MAX_SAFE_INTEGER : Nat := 9007199254740991

/-- The id that `clientId()` makes of the clock and its counter. -/
def clientId (drawn : Nat × Nat) : JsString :=
  js "outbox-" ++ (decimalText drawn.1 ++ 45 :: decimalText drawn.2)

/-- `VALID_STATUSES` -/
def VALID_STATUSES : List OutboxStatus := [.pending, .sending, .failed]

/-- The present time in the format of `toISOString`. -/
def nowISO (now : Nat) : JsString := (JsDate.toISOString now).getD []

/-- What is printed of a message. -/
def OutboxMessage.toJson (message : OutboxMessage) : Json :=
  .obj ([(js "clientId", .str message.clientId), (js "channelId", .str message.channelId),
      (js "content", .str message.content), (js "queuedAt", .str message.queuedAt),
      (js "status", .str message.status.text),
      (js "retries", .num (decimalText message.retries))] ++
    (message.error.map fun error => (js "error", .str error)).toList)

/-! ## The storage -/

/-- A stored status, or the one that stands for anything else. -/
def statusOf (value : Option Json) : OutboxStatus :=
  match Json.string? value with
  | some text => (VALID_STATUSES.find? fun status => status.text = text).getD .pending
  | none => .pending

/-- `typeof value === "number" && Number.isFinite(value) ? value : 0` -/
def retriesOf : Option Json → Nat
  | some (.num text) =>
      if Json.isFinite text then (Json.digits? (some (.num text))).getD 0 else 0
  | _ => 0

/-- What the filter lets through, as the map reads it. -/
def message? (now : Nat) (stored : Json) : Option OutboxMessage := do
  let clientId ← Json.string? (stored.get? (js "clientId"))
  let channelId ← Json.string? (stored.get? (js "channelId"))
  let content ← Json.string? (stored.get? (js "content"))
  return {
    clientId := clientId
    channelId := channelId
    content := content
    queuedAt := (Json.string? (stored.get? (js "queuedAt"))).getD (nowISO now)
    status := statusOf (stored.get? (js "status"))
    retries := retriesOf (stored.get? (js "retries"))
    error := Json.string? (stored.get? (js "error")) }

/-- `null`, whose properties cannot be read. -/
def isNull : Json → Bool
  | .null => true
  | _ => false

/-- `loadPersistedMessages()`, from what the storage holds under its key. -/
def loadPersistedMessages (stored : Option JsString) (now : Nat) : List OutboxMessage :=
  match stored with
  | none | some [] => []
  | some raw =>
      match Json.parse raw with
      | some (.arr items) => if items.any isNull then [] else items.filterMap (message? now)
      | _ => []

/-- `persistMessages(messages)`, where a storage that is full or missing stays as it was. -/
def persistMessages (messages : List OutboxMessage) (stores : Bool) (stored : Option JsString) :
    Option JsString :=
  if stores then some (Json.stringify (.arr (messages.map OutboxMessage.toJson))) else stored

/-! ## The actions of a tab -/

/-- The store of a tab, with the counter that its module keeps. -/
structure Tab where
  messages : List OutboxMessage
  counter : Nat

/-- A tab as it is loaded. -/
def Tab.load (stored : Option JsString) (now : Nat) : Tab := ⟨loadPersistedMessages stored now, 0⟩

/-- The clock and the counter that the next id of a tab is made of. -/
def Tab.draw (tab : Tab) (now : Nat) : Nat × Nat := (now, (tab.counter + 1) % MAX_SAFE_INTEGER)

/-- `enqueue(channelId, content)`: the message that is appended, or the error that is thrown. -/
def Tab.enqueue (tab : Tab) (channelId content : JsString) (now : Nat) :
    Except JsString OutboxMessage :=
  if channelId.isEmpty then .error (js "enqueue: channelId is required")
  else if (trim content).isEmpty then .error (js "enqueue: content must be a non-empty string")
  else .ok ⟨clientId (tab.draw now), channelId, content, nowISO now, .pending, 0, none⟩

/-- `markSending(cid)` -/
def markSending (cid : JsString) : List OutboxMessage → List OutboxMessage :=
  Keyed.change OutboxMessage.clientId cid fun message => { message with status := .sending }

/-- `markFailed(cid, error)` -/
def markFailed (cid error : JsString) : List OutboxMessage → List OutboxMessage :=
  Keyed.change OutboxMessage.clientId cid fun message =>
    { message with status := .failed, error := some error, retries := message.retries + 1 }

/-- `markSent(cid)` -/
def markSent (cid : JsString) : List OutboxMessage → List OutboxMessage :=
  Keyed.erase OutboxMessage.clientId cid

/-- `cancel(cid)` -/
def cancel (cid : JsString) : List OutboxMessage → List OutboxMessage :=
  Keyed.erase OutboxMessage.clientId cid

/-- What the event `vortex:outbox-reset-sending` makes of the messages. -/
def resetSending (messages : List OutboxMessage) : List OutboxMessage :=
  messages.map fun message =>
    if message.status = .sending then { message with status := .pending } else message

/-! ## The tabs of a browser -/

/-- What the tabs share, and the tabs. Nothing reads the rest: the messages as they were enqueued,
the clocks and counters of their ids, and the ids of those that were sent or cancelled. -/
structure Browser where
  stored : Option JsString
  tabs : List Tab
  enqueued : List OutboxMessage
  drawn : List (Nat × Nat)
  finished : List JsString

/-- What can happen in a tab. Where the list is written, `stores` tells whether the storage takes
it. -/
inductive OutboxEvent
  | opens (now : Nat)
  | reloads (tab : Nat) (now : Nat)
  | enqueue (tab : Nat) (channelId content : JsString) (now : Nat) (stores : Bool)
  | markSending (tab : Nat) (cid : JsString) (stores : Bool)
  | markFailed (tab : Nat) (cid error : JsString) (stores : Bool)
  | markSent (tab : Nat) (cid : JsString) (stores : Bool)
  | cancel (tab : Nat) (cid : JsString) (stores : Bool)
  | resetSending (tab : Nat) (stores : Bool)

namespace Browser

/-- A profile in which nothing has happened. -/
def fresh : Browser := ⟨none, [], [], [], []⟩

/-- The ids of the messages that were enqueued and neither sent nor cancelled. -/
def owed (browser : Browser) : List JsString :=
  (browser.enqueued.map OutboxMessage.clientId).filter fun id => id ∉ browser.finished

/-- A tab takes on another list and writes it. -/
def commit (browser : Browser) (index : Nat) (messages : List OutboxMessage) (counter : Nat)
    (stores : Bool) : Browser :=
  { browser with
    stored := persistMessages messages stores browser.stored
    tabs := browser.tabs.set index ⟨messages, counter⟩ }

/-- A message is sent or cancelled. -/
def finish (browser : Browser) (cid : JsString) : Browser :=
  if cid ∈ browser.enqueued.map OutboxMessage.clientId then
    { browser with finished := cid :: browser.finished }
  else browser

/-- A message is appended to the list of a tab. -/
def append (browser : Browser) (index : Nat) (tab : Tab) (message : OutboxMessage) (now : Nat)
    (stores : Bool) : Browser :=
  { browser.commit index (tab.messages ++ [message]) (tab.draw now).2 stores with
    enqueued := browser.enqueued ++ [message]
    drawn := browser.drawn ++ [tab.draw now] }

/-- What a tab makes of an event, where there is such a tab. -/
def act (browser : Browser) (index : Nat) (tab : Tab) : OutboxEvent → Browser
  | .opens _ => browser
  | .reloads _ now => { browser with tabs := browser.tabs.set index (Tab.load browser.stored now) }
  | .enqueue _ channelId content now stores =>
      match tab.enqueue channelId content now with
      | .error _ => browser
      | .ok message => browser.append index tab message now stores
  | .markSending _ cid stores =>
      browser.commit index (MessageOutbox.markSending cid tab.messages) tab.counter stores
  | .markFailed _ cid error stores =>
      browser.commit index (MessageOutbox.markFailed cid error tab.messages) tab.counter stores
  | .markSent _ cid stores =>
      (browser.commit index (MessageOutbox.markSent cid tab.messages) tab.counter stores).finish cid
  | .cancel _ cid stores =>
      (browser.commit index (MessageOutbox.cancel cid tab.messages) tab.counter stores).finish cid
  | .resetSending _ stores =>
      if tab.messages.any fun message => message.status = .sending then
        browser.commit index (MessageOutbox.resetSending tab.messages) tab.counter stores
      else browser

end Browser

/-- The tab in which an event happens. -/
def OutboxEvent.tab? : OutboxEvent → Option Nat
  | .opens _ => none
  | .reloads tab _ | .enqueue tab _ _ _ _ | .markSending tab _ _ | .markFailed tab _ _ _
  | .markSent tab _ _ | .cancel tab _ _ | .resetSending tab _ => some tab

namespace Browser

def next (browser : Browser) (event : OutboxEvent) : Option Browser :=
  match event, event.tab? with
  | .opens now, _ =>
      some { browser with tabs := browser.tabs ++ [Tab.load browser.stored now] }
  | _, some index => (browser.tabs[index]?).map fun tab => browser.act index tab event
  | _, none => none

/-- A tab holds the messages that are owed, but perhaps for one. -/
def Current (browser : Browser) (tab : Tab) (except : Option JsString) : Prop :=
  ∀ id, except ≠ some id →
    (id ∈ tab.messages.map OutboxMessage.clientId ↔ id ∈ browser.owed)

/-- What an event must find: a tab that writes its list holds what is owed, a message that is
enqueued is written and its clock and counter are not those of an earlier one, and a message that
is owed is not sent or cancelled without the storage taking it. -/
def Heeds (browser : Browser) (event : OutboxEvent) : Prop :=
  ∀ index tab, event.tab? = some index → browser.tabs[index]? = some tab →
    match event with
    | .opens _ | .reloads _ _ => True
    | .enqueue _ channelId content now stores =>
        (tab.enqueue channelId content now).isOk = true →
          stores = true ∧ browser.Current tab none ∧ tab.draw now ∉ browser.drawn
    | .markSending _ _ stores | .markFailed _ _ _ stores =>
        stores = true → browser.Current tab none
    | .markSent _ cid stores | .cancel _ cid stores =>
        if stores then browser.Current tab (some cid) else cid ∉ browser.owed
    | .resetSending _ stores =>
        stores = true → (∃ message ∈ tab.messages, message.status = .sending) →
          browser.Current tab none

end Browser

def outbox : System Browser OutboxEvent := .ofNext (· = Browser.fresh) Browser.next

/-- A message without the state of its delivery. -/
def OutboxMessage.letter (message : OutboxMessage) : OutboxMessage :=
  { message with status := .pending, retries := 0, error := none }

/-- What a tab that is loaded now finds: every message that is owed, to be flushed, no two messages
with one id, and none that was sent or cancelled. -/
structure Browser.LosesNothing (browser : Browser) (now : Nat) : Prop where
  kept : ∀ message ∈ browser.enqueued, message.clientId ∉ browser.finished →
    ∃ found ∈ loadPersistedMessages browser.stored now,
      found.letter = message.letter ∧ (found.status = .pending ∨ found.status = .failed)
  unique : (browser.enqueued.map OutboxMessage.clientId).Nodup ∧
    ((loadPersistedMessages browser.stored now).map OutboxMessage.clientId).Nodup
  gone : ∀ message ∈ loadPersistedMessages browser.stored now,
    message.clientId ∉ browser.finished

/-! ## What is saved is loaded -/

theorem isFinite_decimalText (number : Nat) : Json.isFinite (decimalText number) = true := by
  have digits : ∀ unit ∈ decimalText number, Json.isDigit unit = true :=
    fun _ => isDigit_of_mem_decimalText
  unfold Json.isFinite
  simp only [Bool.not_eq_true', Bool.or_eq_false_iff, decide_eq_false_iff_not]
  refine ⟨⟨?_, ?_⟩, ?_⟩ <;>
    · intro same
      rw [same] at digits
      exact absurd (digits _ mem_cons_self) (by decide)

theorem message?_toJson (now : Nat) (message : OutboxMessage) :
    message? now message.toJson = some message := by
  obtain ⟨clientId, channelId, content, queuedAt, status, retries, error⟩ := message
  have state : statusOf (some (.str status.text)) = status := by cases status <;> rfl
  cases error <;>
    simp [message?, OutboxMessage.toJson, Json.get?, Json.string?, state, retriesOf,
      isFinite_decimalText, js, utf16]

theorem printable_message (message : OutboxMessage) : message.toJson.Printable := by
  obtain ⟨clientId, channelId, content, queuedAt, status, retries, error⟩ := message
  cases error <;>
    simp [OutboxMessage.toJson, Json.Printable, Json.PrintableMembers, numberLiteral_decimalText]

/-- What is loaded after a save: the messages, or what was loaded before it. -/
theorem loadPersistedMessages_persistMessages (messages : List OutboxMessage) (stores : Bool)
    (stored : Option JsString) (now : Nat) :
    loadPersistedMessages (persistMessages messages stores stored) now =
      if stores then messages else loadPersistedMessages stored now := by
  cases stores with
  | false => rfl
  | true =>
    obtain ⟨unit, rest, text, read⟩ := Json.parse_stringify_map printable_message messages
    have objects : (messages.map OutboxMessage.toJson).any isNull = false := by
      rw [any_map]
      exact any_eq_false.mpr fun _ _ null => nomatch null
    have whole : (messages.map OutboxMessage.toJson).filterMap (message? now) = messages := by
      rw [filterMap_map]
      exact (filterMap_congr fun message _ => message?_toJson now message).trans filterMap_some
    simp only [persistMessages, if_true, text, loadPersistedMessages, read, objects, whole,
      Bool.false_eq_true, if_false]

/-! ## Ids -/

/-- An id tells the clock and the counter it was made of. -/
theorem clientId_injective : Function.Injective clientId := by
  intro first second same
  have dash : ∀ number, (45 : UInt16) ∉ decimalText number := fun number member =>
    absurd (isDigit_of_mem_decimalText member) (by decide)
  obtain ⟨clocks, -, counters⟩ := (append_cons_inj_of_notMem (dash _) (dash _)).mp
    (append_cancel_left same)
  exact Prod.ext (decimalText_injective clocks) (decimalText_injective counters)

section Runs

variable {browser after : Browser} {listed messages enqueued : List OutboxMessage}
variable {cid id : JsString} {event : OutboxEvent} {tab : Tab} {index counter : Nat} {stores : Bool}

theorem mem_owed : id ∈ browser.owed ↔
    id ∈ browser.enqueued.map OutboxMessage.clientId ∧ id ∉ browser.finished := by
  rw [Browser.owed, mem_filter, decide_eq_true_eq]

/-! ## What a list keeps -/

/-- Messages with ids of their own, each of which was enqueued. -/
structure Held (enqueued messages : List OutboxMessage) : Prop where
  distinct : (messages.map OutboxMessage.clientId).Nodup
  genuine : ∀ message ∈ messages, ∃ sent ∈ enqueued, sent.letter = message.letter

theorem id_eq_of_letter {first second : OutboxMessage} (same : first.letter = second.letter) :
    first.clientId = second.clientId := by
  change first.letter.clientId = second.letter.clientId
  rw [same]

theorem Held.mem_enqueued (held : Held enqueued messages)
    (member : id ∈ messages.map OutboxMessage.clientId) :
    id ∈ enqueued.map OutboxMessage.clientId := by
  obtain ⟨message, found, same⟩ := mem_map.mp member
  obtain ⟨sent, known, letters⟩ := held.genuine message found
  exact mem_map.mpr ⟨sent, known, (id_eq_of_letter letters).trans same⟩

theorem Held.grow (held : Held enqueued messages) (message : OutboxMessage) :
    Held (enqueued ++ [message]) messages where
  distinct := held.distinct
  genuine := by
    intro other member
    obtain ⟨sent, known, letters⟩ := held.genuine other member
    exact ⟨sent, mem_append_left _ known, letters⟩

theorem ids_map {f : OutboxMessage → OutboxMessage}
    (keeps : ∀ message, (f message).letter = message.letter) (messages : List OutboxMessage) :
    (messages.map f).map OutboxMessage.clientId = messages.map OutboxMessage.clientId := by
  rw [map_map]
  exact map_congr_left fun message _ => id_eq_of_letter (keeps message)

/-- The state of the delivery of messages is changed. -/
theorem Held.mark (held : Held enqueued messages) {f : OutboxMessage → OutboxMessage}
    (keeps : ∀ message, (f message).letter = message.letter) : Held enqueued (messages.map f) where
  distinct := ids_map keeps messages ▸ held.distinct
  genuine := by
    intro other member
    obtain ⟨message, found, same⟩ := mem_map.mp member
    obtain ⟨sent, known, letters⟩ := held.genuine message found
    exact ⟨sent, known, letters.trans (same ▸ (keeps message).symm)⟩

theorem Held.erase (held : Held enqueued messages) (cid : JsString) :
    Held enqueued (Keyed.erase OutboxMessage.clientId cid messages) where
  distinct := Keyed.nodup_erase held.distinct
  genuine := fun other member => held.genuine other (Keyed.mem_erase.mp member).1

theorem Held.append (held : Held enqueued messages) {message : OutboxMessage}
    (new : message.clientId ∉ enqueued.map OutboxMessage.clientId) :
    Held (enqueued ++ [message]) (messages ++ [message]) where
  distinct := by
    rw [map_append]
    refine held.distinct.append (nodup_singleton _) (disjoint_singleton.mpr ?_)
    exact fun member => new (held.mem_enqueued member)
  genuine := by
    intro other member
    rcases mem_append.mp member with old | last
    · exact (held.grow message).genuine other old
    · rw [mem_singleton.mp last]
      exact ⟨message, mem_append_right _ (mem_singleton_self message), rfl⟩

/-! ## What holds in every run -/

/-- The storage can be read, and it and the tabs hold nothing that was not enqueued. -/
structure Kept (browser : Browser) (listed : List OutboxMessage) : Prop where
  readable : ∀ now, loadPersistedMessages browser.stored now = listed
  named : browser.enqueued.map OutboxMessage.clientId = browser.drawn.map clientId
  distinct : browser.drawn.Nodup
  known : ∀ id ∈ browser.finished, id ∈ browser.enqueued.map OutboxMessage.clientId
  tabs : ∀ tab ∈ browser.tabs, Held browser.enqueued tab.messages
  held : Held browser.enqueued listed

/-- The storage holds exactly what is owed. -/
def Exact (browser : Browser) (listed : List OutboxMessage) : Prop :=
  ∀ id, id ∈ listed.map OutboxMessage.clientId ↔ id ∈ browser.owed

section

variable (kept : Kept browser listed)

include kept

/-- A tab that is loaded holds what is stored. -/
theorem Kept.load (now : Nat) : Held browser.enqueued (Tab.load browser.stored now).messages := by
  rw [Tab.load, kept.readable]
  exact kept.held

/-- A list of a tab that replaces an earlier one. -/
theorem Kept.set (held : Held browser.enqueued messages) :
    ∀ tab ∈ browser.tabs.set index ⟨messages, counter⟩, Held browser.enqueued tab.messages := by
  intro other member
  rcases mem_or_eq_of_mem_set member with old | same
  · exact kept.tabs other old
  · exact same ▸ held

theorem Kept.commit (held : Held browser.enqueued messages)
    (index counter : Nat) (stores : Bool) :
    Kept (browser.commit index messages counter stores) (if stores then messages else listed) where
  readable := by
    intro now
    rw [Browser.commit, loadPersistedMessages_persistMessages, kept.readable]
  named := kept.named
  distinct := kept.distinct
  known := kept.known
  tabs := kept.set held
  held := by
    split
    · exact held
    · exact kept.held

theorem Kept.finish (cid : JsString) : Kept (browser.finish cid) listed := by
  unfold Browser.finish
  split
  · rename_i known
    refine ⟨kept.readable, kept.named, kept.distinct, ?_, kept.tabs, kept.held⟩
    exact forall_mem_cons.mpr ⟨known, kept.known⟩
  · exact kept

end

/-- What is sent or cancelled is no longer owed. -/
theorem mem_owed_finish : id ∈ (browser.finish cid).owed ↔ id ∈ browser.owed ∧ id ≠ cid := by
  unfold Browser.finish
  split
  · rw [mem_owed, mem_owed, mem_cons, not_or, and_assoc, and_comm (a := id ≠ cid)]
  · rename_i unknown
    refine ⟨fun owed => ⟨owed, ?_⟩, And.left⟩
    intro same
    exact unknown (same ▸ (mem_owed.mp owed).1)

/-- A tab that holds what is owed may change the state of deliveries. -/
theorem Kept.mark (kept : Kept browser listed) (exact : Exact browser listed)
    (present : tab ∈ browser.tabs) {f : OutboxMessage → OutboxMessage}
    (keeps : ∀ message, (f message).letter = message.letter)
    (current : stores = true → browser.Current tab none) (index counter : Nat) :
    ∃ listed, Kept (browser.commit index (tab.messages.map f) counter stores) listed ∧
      Exact (browser.commit index (tab.messages.map f) counter stores) listed := by
  refine ⟨_, kept.commit ((kept.tabs tab present).mark keeps) index counter stores, ?_⟩
  intro id
  cases stores with
  | true =>
    rw [if_pos rfl, ids_map keeps]
    exact current rfl id (fun none => nomatch none)
  | false => exact exact id

/-- A tab that holds what else is owed may drop a message that is sent or cancelled. -/
theorem Kept.drop (kept : Kept browser listed) (exact : Exact browser listed)
    (present : tab ∈ browser.tabs)
    (heeds : if stores then browser.Current tab (some cid) else cid ∉ browser.owed)
    (index counter : Nat) :
    ∃ listed,
      Kept ((browser.commit index (Keyed.erase OutboxMessage.clientId cid tab.messages) counter
        stores).finish cid) listed ∧
      Exact ((browser.commit index (Keyed.erase OutboxMessage.clientId cid tab.messages) counter
        stores).finish cid) listed := by
  have erased := (kept.tabs tab present).erase cid
  refine ⟨_, (kept.commit erased index counter stores).finish cid, ?_⟩
  intro id
  rw [mem_owed_finish]
  change _ ↔ id ∈ browser.owed ∧ id ≠ cid
  cases stores with
  | true =>
    rw [if_pos rfl, Keyed.mem_keys_erase]
    apply and_congr_left
    intro different
    refine heeds id ?_
    intro same
    exact different (Option.some.inj same).symm
  | false =>
    refine (exact id).trans ⟨fun owed => ⟨owed, ?_⟩, And.left⟩
    intro same
    exact heeds (same ▸ owed)

/-- A tab that holds what is owed may append a message with a new id. -/
theorem Kept.append (kept : Kept browser listed) (present : tab ∈ browser.tabs)
    {message : OutboxMessage} {now : Nat}
    (named : message.clientId = clientId (tab.draw now)) (new : tab.draw now ∉ browser.drawn)
    (current : browser.Current tab none) (index : Nat) :
    Kept (browser.append index tab message now true) (tab.messages ++ [message]) ∧
      Exact (browser.append index tab message now true) (tab.messages ++ [message]) := by
  have absent : message.clientId ∉ browser.enqueued.map OutboxMessage.clientId := by
    rw [kept.named, named, mem_map_of_injective clientId_injective]
    exact new
  have held := (kept.tabs tab present).append absent
  refine ⟨⟨?_, ?_, ?_, ?_, ?_, held⟩, ?_⟩
  · intro now
    exact loadPersistedMessages_persistMessages _ true browser.stored now
  · change (browser.enqueued ++ [message]).map _ = (browser.drawn ++ [tab.draw _]).map _
    rw [map_append, map_append, kept.named, map_singleton, named, map_singleton]
  · exact kept.distinct.append (nodup_singleton _) (disjoint_singleton.mpr new)
  · intro id finished
    change id ∈ (browser.enqueued ++ [message]).map _
    rw [map_append]
    exact mem_append_left _ (kept.known id finished)
  · intro other member
    rcases mem_or_eq_of_mem_set member with old | same
    · exact (kept.tabs other old).grow message
    · exact same ▸ held
  · intro id
    rw [mem_owed]
    change _ ↔ id ∈ (browser.enqueued ++ [message]).map _ ∧ id ∉ browser.finished
    have old := (current id fun none => nomatch none).trans mem_owed
    simp only [map_append, mem_append, map_singleton, mem_singleton, old, or_and_right]
    apply or_congr_right
    constructor
    · exact fun same => ⟨same, fun finished => absent (same ▸ kept.known id finished)⟩
    · exact And.left

theorem enqueue_named {channelId content : JsString} {now : Nat} {message : OutboxMessage}
    (accepted : tab.enqueue channelId content now = .ok message) :
    message.clientId = clientId (tab.draw now) := by
  unfold Tab.enqueue at accepted
  split at accepted
  · cases accepted
  · split at accepted <;> cases accepted
    rfl

/-- What an event does when it finds what it must. -/
theorem Kept.act (kept : Kept browser listed) (exact : Exact browser listed)
    (found : browser.tabs[index]? = some tab) (target : event.tab? = some index)
    (heeds : browser.Heeds event) :
    ∃ listed, Kept (browser.act index tab event) listed ∧
      Exact (browser.act index tab event) listed := by
  have present := mem_of_getElem? found
  have asked := heeds index tab target found
  cases event with
  | opens now => cases target
  | reloads _ now =>
    have loaded : ∀ other ∈ browser.tabs.set index (Tab.load browser.stored now),
        Held browser.enqueued other.messages := kept.set (kept.load now)
    exact ⟨listed, ⟨kept.readable, kept.named, kept.distinct, kept.known, loaded, kept.held⟩, exact⟩
  | enqueue _ channelId content now stores =>
    dsimp only [Browser.act]
    cases accepted : tab.enqueue channelId content now with
    | error text => exact ⟨listed, kept, exact⟩
    | ok message =>
      obtain ⟨written, current, new⟩ := asked (by rw [accepted]; rfl)
      subst written
      exact ⟨_, kept.append present (enqueue_named accepted) new current index⟩
  | markSending _ cid stores =>
    refine kept.mark exact present ?_ asked index tab.counter
    intro message
    split <;> rfl
  | markFailed _ cid error stores =>
    refine kept.mark exact present ?_ asked index tab.counter
    intro message
    split <;> rfl
  | markSent _ cid stores => exact kept.drop exact present asked index tab.counter
  | cancel _ cid stores => exact kept.drop exact present asked index tab.counter
  | resetSending _ stores =>
    dsimp only [Browser.act]
    split
    · rename_i flying
      obtain ⟨message, member, flying⟩ := any_eq_true.mp flying
      refine kept.mark exact present ?_ ?_ index tab.counter
      · intro message
        split <;> rfl
      · exact fun written => asked written ⟨message, member, of_decide_eq_true flying⟩
    · exact ⟨listed, kept, exact⟩

theorem exact_of_reachable (reached : outbox.Reachable Browser.Heeds browser) :
    ∃ listed, Kept browser listed ∧ Exact browser listed := by
  refine reached.invariant
    (P := fun browser => ∃ listed, Kept browser listed ∧ Exact browser listed) ?_ ?_
  · intro start initial
    cases initial
    refine ⟨[], ⟨fun _ => rfl, rfl, nodup_nil, ?_, ?_, ⟨nodup_nil, ?_⟩⟩, fun _ => Iff.rfl⟩
    · exact fun _ member => nomatch member
    · exact fun _ member => nomatch member
    · exact fun _ member => nomatch member
  · intro before event after _ ⟨listed, kept, exact⟩ heeds moved
    change before.next event = some after at moved
    cases target : event.tab? with
    | none =>
      cases event with
      | opens now =>
        cases moved
        refine ⟨listed,
          ⟨kept.readable, kept.named, kept.distinct, kept.known, ?_, kept.held⟩, exact⟩
        intro tab member
        rcases mem_append.mp member with old | new
        · exact kept.tabs tab old
        · rw [mem_singleton.mp new]
          exact kept.load now
      | _ => cases target
    | some index =>
      have acts : (before.tabs[index]?).map (fun tab => before.act index tab event) =
          some after := by
        cases event <;> cases target <;> exact moved
      obtain ⟨tab, found, same⟩ := Option.map_eq_some_iff.mp acts
      exact same ▸ kept.act exact found target heeds

/-! ## When nothing is lost -/

end Runs

/-! ## Two tabs -/

/-- The first message of a tab. -/
def letter (now : Nat) (content : JsString) : OutboxMessage :=
  ⟨clientId (now, 1), js "general", content, nowISO now, .pending, 0, none⟩

/-- Two tabs have been opened. -/
def opened : Browser := ⟨none, [⟨[], 0⟩, ⟨[], 0⟩], [], [], []⟩

theorem opened_reachable (guard : Browser → OutboxEvent → Prop)
    (admitted : ∀ browser now, guard browser (.opens now)) : outbox.Reachable guard opened := by
  have first : outbox.Reachable guard ⟨none, [⟨[], 0⟩], [], [], []⟩ :=
    .step (.initial rfl) (admitted Browser.fresh 0) rfl
  exact .step first (admitted _ 0) rfl

/-- The first tab has enqueued a message. -/
def greeted : Browser := opened.append 0 ⟨[], 0⟩ (letter 0 (js "hello")) 0 true

theorem greeted_next : opened.next (.enqueue 0 (js "general") (js "hello") 0 true) = some greeted :=
  rfl

end Vortex.Web.MessageOutbox
