import Vortex.Channels.Attachments
import Vortex.Foundation.Keyed
import Vortex.Foundation.NearestDouble

/-!
# The outbox of a chat

Messages that are to be sent wait in `localStorage`: an entry is saved as queued, saved as
sending before its request, and removed or saved as queued or failed with the answer. Nothing
takes an entry out of the status of sending but the page that awaits its answer, and the replay
order leaves such entries out. So a reload keeps all that is owed exactly when nothing of it is
stored as being sent.
-/

namespace Vortex.Web.ChatOutbox

open Foundation
open Vortex.Channels.Attachments (isUuid)

/-! ## Entries -/

inductive OutboxStatus
  | queued
  | sending
  | failed
  deriving DecidableEq

structure OutboxAttachment where
  url : JsString
  filename : JsString
  size : Nat
  contentType : JsString
  storagePath : Option JsString
  deriving DecidableEq

/-- A stored message. Its retries and the sizes of its attachments are natural numbers. -/
structure OutboxEntry where
  id : JsString
  channelId : JsString
  authorId : JsString
  content : JsString
  replyToId : Option JsString
  createdAt : JsString
  status : OutboxStatus
  retryCount : Nat
  lastError : Option JsString
  attachments : Option (List OutboxAttachment)
  deriving DecidableEq

def OutboxStatus.text : OutboxStatus → JsString
  | .queued => js "queued"
  | .sending => js "sending"
  | .failed => js "failed"

/-- A string or `null`. -/
def nullable : Option JsString → Json
  | none => .null
  | some text => .str text

def OutboxAttachment.toJson (attachment : OutboxAttachment) : Json :=
  .obj ([(js "url", .str attachment.url), (js "filename", .str attachment.filename),
      (js "size", .num (decimalText attachment.size)),
      (js "content_type", .str attachment.contentType)] ++
    (attachment.storagePath.map fun path => (js "storage_path", .str path)).toList)

/-- What is printed of an entry. -/
def OutboxEntry.toJson (entry : OutboxEntry) : Json :=
  .obj ([(js "id", .str entry.id), (js "channelId", .str entry.channelId),
      (js "authorId", .str entry.authorId), (js "content", .str entry.content),
      (js "replyToId", nullable entry.replyToId), (js "createdAt", .str entry.createdAt),
      (js "status", .str entry.status.text), (js "retryCount", .num (decimalText entry.retryCount)),
      (js "lastError", nullable entry.lastError)] ++
    (entry.attachments.map fun attachments =>
      (js "attachments", .arr (attachments.map OutboxAttachment.toJson))).toList)

/-! ## What is read as an entry -/

/-- `typeof value === "string" || value === null`, with the string. -/
def nullable? : Option Json → Option (Option JsString)
  | some (.str text) => some (some text)
  | some .null => some none
  | _ => none

/-- `value === undefined || typeof value === "string"`, with the string. -/
def optional? : Option Json → Option (Option JsString)
  | some (.str text) => some (some text)
  | none => some none
  | _ => none

/-- One of the three statuses. -/
def status? (value : Option Json) : Option OutboxStatus :=
  (Json.string? value).bind fun text =>
    [OutboxStatus.queued, .sending, .failed].find? fun status => status.text = text

/-- What the guard asks of an attachment, with the attachment. -/
def attachment? (attachment : Json) : Option OutboxAttachment := do
  let url ← Json.string? (attachment.get? (js "url"))
  let filename ← Json.string? (attachment.get? (js "filename"))
  let size ← Json.digits? (attachment.get? (js "size"))
  let contentType ← Json.string? (attachment.get? (js "content_type"))
  let storagePath ← optional? (attachment.get? (js "storage_path"))
  return ⟨url, filename, size, contentType, storagePath⟩

/-- `value === undefined || (Array.isArray(value) && value.every(..))`, with the attachments. -/
def attachments? : Option Json → Option (Option (List OutboxAttachment))
  | none => some none
  | some (.arr items) => (items.mapM attachment?).map some
  | _ => none

/-- The guard `isOutboxEntry`, with the entry it admits. A value without properties has none of
the right type. -/
def isOutboxEntry (value : Json) : Option OutboxEntry := do
  let id ← Json.string? (value.get? (js "id"))
  let channelId ← Json.string? (value.get? (js "channelId"))
  let authorId ← Json.string? (value.get? (js "authorId"))
  let content ← Json.string? (value.get? (js "content"))
  let replyToId ← nullable? (value.get? (js "replyToId"))
  let createdAt ← Json.string? (value.get? (js "createdAt"))
  let status ← status? (value.get? (js "status"))
  let retryCount ← Json.digits? (value.get? (js "retryCount"))
  let lastError ← nullable? (value.get? (js "lastError"))
  let attachments ← attachments? (value.get? (js "attachments"))
  return ⟨id, channelId, authorId, content, replyToId, createdAt, status, retryCount, lastError,
    attachments⟩

/-- The guard `isOutboxEntryArray`: one value that is no entry, and the list counts as none. -/
def isOutboxEntryArray : Json → Option (List OutboxEntry)
  | .arr items => items.mapM isOutboxEntry
  | _ => none

/-- `safeParse(value, fallback, isValid)` -/
def safeParse {α : Type} (value : Option JsString) (fallback : α) (isValid : Json → Option α) : α :=
  match value with
  | none | some [] => fallback
  | some text => ((Json.parse text).bind isValid).getD fallback

/-! ## The list and its storage -/

/-- `loadOutbox(storage)`, from what the storage holds under the key of the outbox. -/
def loadOutbox (stored : Option JsString) : List OutboxEntry :=
  safeParse stored [] isOutboxEntryArray

/-- `saveOutbox(entries, storage)`, where a storage that is full leaves everything as it was. -/
def saveOutbox (entries : List OutboxEntry) (stores : Bool) (stored : Option JsString) :
    Option JsString :=
  if stores then some (Json.stringify (.arr (entries.map OutboxEntry.toJson))) else stored

/-- `upsertOutboxEntry(entries, entry)` -/
def upsertOutboxEntry (entries : List OutboxEntry) (entry : OutboxEntry) : List OutboxEntry :=
  Keyed.put OutboxEntry.id entries entry

/-- `removeOutboxEntry(entries, id)` -/
def removeOutboxEntry (entries : List OutboxEntry) (id : JsString) : List OutboxEntry :=
  Keyed.erase OutboxEntry.id id entries

/-- The part of an entry that an update replaces. -/
structure OutboxPatch where
  status : OutboxStatus
  retryCount : Option Nat
  lastError : Option JsString

/-- `{ ...entry, ...patch }` -/
def OutboxPatch.apply (patch : OutboxPatch) (entry : OutboxEntry) : OutboxEntry :=
  { entry with
    status := patch.status
    retryCount := patch.retryCount.getD entry.retryCount
    lastError := patch.lastError }

/-- `updateOutboxStatus(entries, id, patch)` -/
def updateOutboxStatus (entries : List OutboxEntry) (id : JsString) (patch : OutboxPatch) :
    List OutboxEntry :=
  Keyed.change OutboxEntry.id id patch.apply entries

section Order

variable (localeCompare : JsString → JsString → Ordering)

/-- By the time of creation, then by id. -/
def replayCompare : OutboxEntry → OutboxEntry → Ordering :=
  compareLex (fun left right => localeCompare left.createdAt right.createdAt)
    fun left right => localeCompare left.id right.id

/-- `resolveReplayOrder(entries)` -/
def resolveReplayOrder (entries : List OutboxEntry) : List OutboxEntry :=
  (entries.filter fun entry => entry.status = .queued || entry.status = .failed).mergeSort
    fun left right => (replayCompare localeCompare left right).isLE

end Order

/-! ## The page -/

/-- A replay under way: the entries it still has to send, and the one whose answer it awaits. -/
structure Replay where
  pending : List OutboxEntry
  posting : Option OutboxEntry

/-- What `localStorage` holds, the replays of the page, which end with it, and `owed`, the entries
that have been saved as queued and neither acknowledged nor discarded since, which nothing reads. -/
structure Page where
  stored : Option JsString
  replays : List Replay
  owed : List OutboxEntry

/-- What can happen. Where the list is saved, `stores` tells whether the storage takes it; `online`
is what the browser says of its connection. -/
inductive OutboxEvent
  | submit (entry : OutboxEntry) (stores : Bool)
  | flush (channelId : JsString) (online : Bool)
  | retry (id : JsString)
  | send (replay : Nat) (online stores : Bool)
  | answer (replay : Nat) (errorMsg : Option JsString) (online stores : Bool)
  | inserted (id : JsString) (stores : Bool)
  | discard (id : JsString) (stores : Bool)
  | reload

namespace Page

/-- Nothing has been stored yet. -/
def fresh : Page := ⟨none, [], []⟩

def save (page : Page) (entries : List OutboxEntry) (stores : Bool) : Page :=
  { page with stored := saveOutbox entries stores page.stored }

/-- An entry is removed, and no longer owed. -/
def drop (page : Page) (id : JsString) (stores : Bool) : Page :=
  { page.save (removeOutboxEntry (loadOutbox page.stored) id) stores with
    owed := removeOutboxEntry page.owed id }

/-- An entry takes on another status. -/
def mark (page : Page) (id : JsString) (patch : OutboxPatch) (stores : Bool) : Page :=
  page.save (updateOutboxStatus (loadOutbox page.stored) id patch) stores

/-- The page is loaded anew. -/
def reload (page : Page) : Page := { page with replays := [] }

/-- A replay goes on as another one. -/
def become (page : Page) (index : Nat) (replay : Replay) : Page :=
  { page with replays := page.replays.set index replay }

variable (localeCompare : JsString → JsString → Ordering)

/-- A replay begins, of the entries that one asks for. -/
def begin (page : Page) (asked : OutboxEntry → Bool) : Page :=
  { page with
    replays := page.replays ++
      [⟨(resolveReplayOrder localeCompare (loadOutbox page.stored)).filter asked, none⟩] }

/-- The answer to the request of a replay: an entry that is acknowledged is removed, one that is
not is saved for another attempt. An error has a text, which is what tells it from no error. -/
def settle (page : Page) (entry : OutboxEntry) (errorMsg : Option JsString)
    (online stores : Bool) : Page :=
  match errorMsg with
  | none => page.drop entry.id stores
  | some text =>
      let nextStatus := if online then OutboxStatus.failed else .queued
      page.mark entry.id ⟨nextStatus, some (entry.retryCount + 1), some text⟩ stores

/-- The steps of the protocol: an entry with an id of its own is saved as queued; a replay marks
its next entry as sending before the request, stops when the connection is gone, and settles the
entry with the answer; the insert of a message that arrives meanwhile removes its entry. -/
def next (page : Page) : OutboxEvent → Option Page
  | .submit entry stores =>
      if isUuid entry.id && entry.status = .queued then
        some { page.save (upsertOutboxEntry (loadOutbox page.stored) entry) stores with
          owed := if stores then upsertOutboxEntry page.owed entry else page.owed }
      else none
  | .flush channelId online =>
      some (if online then page.begin localeCompare fun entry => entry.channelId = channelId
        else page)
  | .retry id => some (page.begin localeCompare fun entry => entry.id = id)
  | .send index online stores =>
      match page.replays[index]? with
      | some ⟨entry :: pending, none⟩ =>
          if online then
            some ((page.mark entry.id ⟨.sending, none, none⟩ stores).become index
              ⟨pending, some entry⟩)
          else some (page.become index ⟨[], none⟩)
      | _ => none
  | .answer index errorMsg online stores =>
      match page.replays[index]? with
      | some ⟨pending, some entry⟩ =>
          some ((page.settle entry errorMsg online stores).become index ⟨pending, none⟩)
      | _ => none
  | .inserted id stores => some (page.drop id stores)
  | .discard id stores => some (page.drop id stores)
  | .reload => some page.reload

end Page

/-- The outbox of a browser, over all its pages. -/
def protocol (localeCompare : JsString → JsString → Ordering) : System Page OutboxEvent :=
  .ofNext (· = Page.fresh) (Page.next localeCompare)

/-! ## What a reload must keep -/

/-- An entry without the state of its delivery. -/
def OutboxEntry.message (entry : OutboxEntry) : OutboxEntry :=
  { entry with status := .queued, retryCount := 0, lastError := none }

/-- All that is owed is replayed, each entry once, and the replay follows a strict order of the
stored entries. -/
structure Page.Safe (localeCompare : JsString → JsString → Ordering) (page : Page) : Prop where
  kept : ∀ entry ∈ page.owed, ∃ replayed,
    ((resolveReplayOrder localeCompare (loadOutbox page.stored)).filter fun other =>
      other.id = entry.id) = [replayed] ∧ replayed.message = entry.message
  strict : IsStrictTotalOrder { entry // entry ∈ loadOutbox page.stored } fun left right =>
    replayCompare localeCompare left.val right.val = .lt
  sorted : (resolveReplayOrder localeCompare (loadOutbox page.stored)).Pairwise fun left right =>
    replayCompare localeCompare left right = .lt

/-- No two ids compare as equal. -/
def Discerns (localeCompare : JsString → JsString → Ordering) : Prop :=
  ∀ left right, isUuid left = true → isUuid right = true → localeCompare left right = .eq →
    left = right

/-! ## What is saved is loaded -/

theorem attachment?_toJson (attachment : OutboxAttachment) :
    attachment? attachment.toJson = some attachment := by
  obtain ⟨url, filename, size, contentType, storagePath⟩ := attachment
  cases storagePath <;>
    simp [attachment?, OutboxAttachment.toJson, Json.get?, optional?, Json.string?, js, utf16]

theorem isOutboxEntry_toJson (entry : OutboxEntry) : isOutboxEntry entry.toJson = some entry := by
  obtain ⟨id, channelId, authorId, content, replyToId, createdAt, status, retryCount, lastError,
    attachments⟩ := entry
  have reply : nullable? (some (nullable replyToId)) = some replyToId := by cases replyToId <;> rfl
  have error : nullable? (some (nullable lastError)) = some lastError := by cases lastError <;> rfl
  have state : status? (some (.str status.text)) = some status := by cases status <;> rfl
  cases attachments with
  | none =>
    simp [isOutboxEntry, OutboxEntry.toJson, Json.get?, Json.string?, reply, error,
      state, attachments?, js, utf16]
  | some attachments =>
    have read := Json.mapM_read attachment?_toJson attachments
    simp [isOutboxEntry, OutboxEntry.toJson, Json.get?, Json.string?, reply, error,
      state, attachments?, js, utf16, read]

theorem printable_nullable (text : Option JsString) : (nullable text).Printable := by
  cases text <;> exact trivial

theorem printable_attachment (attachment : OutboxAttachment) : attachment.toJson.Printable := by
  obtain ⟨url, filename, size, contentType, storagePath⟩ := attachment
  cases storagePath <;>
    simp [OutboxAttachment.toJson, Json.Printable, Json.PrintableMembers, numberLiteral_decimalText]

theorem printable_entry (entry : OutboxEntry) : entry.toJson.Printable := by
  have files := Json.printableItems_map printable_attachment (entry.attachments.getD [])
  cases found : entry.attachments with
  | none =>
    simp [OutboxEntry.toJson, found, Json.Printable, Json.PrintableMembers, printable_nullable,
      numberLiteral_decimalText]
  | some attachments =>
    rw [found] at files
    simpa [OutboxEntry.toJson, found, Json.Printable, Json.PrintableMembers, printable_nullable,
      numberLiteral_decimalText] using files

/-- What is loaded after a save: the entries, or what was loaded before it. -/
theorem loadOutbox_saveOutbox (entries : List OutboxEntry) (stores : Bool)
    (stored : Option JsString) :
    loadOutbox (saveOutbox entries stores stored) =
      if stores then entries else loadOutbox stored := by
  cases stores with
  | false => rfl
  | true =>
    obtain ⟨unit, rest, text, read⟩ := Json.parse_stringify_map printable_entry entries
    simp only [saveOutbox, if_true, text, loadOutbox, safeParse, read, Option.bind_some,
      isOutboxEntryArray, Json.mapM_read isOutboxEntry_toJson, Option.getD_some]

/-! ## What a step does to the list -/

section Runs

variable {localeCompare : JsString → JsString → Ordering} {page after : Page} {event : OutboxEvent}

/-- What a step does to the stored list and to what is owed. -/
inductive Turn (entries owed : List OutboxEntry) :
    List OutboxEntry → List OutboxEntry → Prop
  | idle : Turn entries owed entries owed
  | submit (entry : OutboxEntry) (named : isUuid entry.id = true) :
      Turn entries owed (upsertOutboxEntry entries entry) (upsertOutboxEntry owed entry)
  | mark (id : JsString) (patch : OutboxPatch) :
      Turn entries owed (updateOutboxStatus entries id patch) owed
  | drop (id : JsString) :
      Turn entries owed (removeOutboxEntry entries id) (removeOutboxEntry owed id)
  | keep (id : JsString) : Turn entries owed entries (removeOutboxEntry owed id)

abbrev Page.Turns (page after : Page) : Prop :=
  Turn (loadOutbox page.stored) page.owed (loadOutbox after.stored) after.owed

theorem turns_drop (page : Page) (id : JsString) (stores : Bool) :
    page.Turns (page.drop id stores) := by
  unfold Page.Turns
  simp only [Page.drop, Page.save, loadOutbox_saveOutbox]
  cases stores with
  | true => exact .drop id
  | false => exact .keep id

theorem turns_mark (page : Page) (id : JsString) (patch : OutboxPatch) (stores : Bool) :
    page.Turns (page.mark id patch stores) := by
  unfold Page.Turns
  simp only [Page.mark, Page.save, loadOutbox_saveOutbox]
  cases stores with
  | true => exact .mark id patch
  | false => exact .idle

theorem turns_settle (page : Page) (entry : OutboxEntry) (errorMsg : Option JsString)
    (online stores : Bool) : page.Turns (page.settle entry errorMsg online stores) := by
  cases errorMsg with
  | none => exact turns_drop page entry.id stores
  | some text => exact turns_mark page entry.id _ stores

theorem turns_next (moved : page.next localeCompare event = some after) : page.Turns after := by
  cases event with
  | submit entry stores =>
    simp only [Page.next] at moved
    split at moved
    · rename_i asked
      cases moved
      unfold Page.Turns
      simp only [Page.save, loadOutbox_saveOutbox]
      cases stores with
      | true => exact .submit entry (Bool.and_eq_true_iff.mp asked).1
      | false => exact .idle
    · cases moved
  | flush channelId online =>
    cases moved
    cases online <;> exact .idle
  | retry id =>
    cases moved
    exact .idle
  | send index online stores =>
    simp only [Page.next] at moved
    split at moved
    · split at moved <;> cases moved
      · exact turns_mark page _ _ stores
      · exact .idle
    · cases moved
  | answer index errorMsg online stores =>
    simp only [Page.next] at moved
    split at moved
    · cases moved
      exact turns_settle page _ errorMsg online stores
    · cases moved
  | inserted id stores =>
    cases moved
    exact turns_drop page id stores
  | discard id stores =>
    cases moved
    exact turns_drop page id stores
  | reload =>
    cases moved
    exact .idle

/-! ## What holds in every run -/

/-- The stored list is one of entries with ids of their own, and holds all that is owed. -/
structure Sound (entries owed : List OutboxEntry) : Prop where
  distinct : (entries.map OutboxEntry.id).Nodup
  named : ∀ entry ∈ entries, isUuid entry.id = true
  once : (owed.map OutboxEntry.id).Nodup
  held : ∀ entry ∈ owed, ∃ stored ∈ entries, stored.message = entry.message

theorem id_eq_of_message {first second : OutboxEntry} (same : first.message = second.message) :
    first.id = second.id := by
  change first.message.id = second.message.id
  rw [same]

variable {entries owed entries' owed' : List OutboxEntry}

theorem Sound.turn (sound : Sound entries owed) (turn : Turn entries owed entries' owed') :
    Sound entries' owed' := by
  cases turn with
  | idle => exact sound
  | submit entry named =>
    refine ⟨Keyed.nodup_put sound.distinct, ?_, Keyed.nodup_put sound.once, ?_⟩
    · intro other member
      rcases (Keyed.mem_put sound.distinct).mp member with same | ⟨old, -⟩
      · exact same ▸ named
      · exact sound.named other old
    · intro other member
      rcases (Keyed.mem_put sound.once).mp member with same | ⟨old, different⟩
      · exact ⟨entry, (Keyed.mem_put sound.distinct).mpr (.inl rfl), same ▸ rfl⟩
      · obtain ⟨stored, found, same⟩ := sound.held other old
        refine ⟨stored, (Keyed.mem_put sound.distinct).mpr (.inr ⟨found, ?_⟩), same⟩
        rw [id_eq_of_message same]
        exact different
  | mark id patch =>
    have keys : (updateOutboxStatus entries id patch).map OutboxEntry.id =
        entries.map OutboxEntry.id := Keyed.keys_change fun _ => rfl
    refine ⟨keys ▸ sound.distinct, ?_, sound.once, ?_⟩
    · intro other member
      obtain ⟨old, found, same⟩ := List.mem_map.mp (keys ▸ List.mem_map_of_mem member)
      exact same ▸ sound.named old found
    · intro other member
      obtain ⟨stored, found, same⟩ := sound.held other member
      refine ⟨_, Keyed.mem_change.mpr ⟨stored, found, rfl⟩, ?_⟩
      split
      · exact same
      · exact same
  | drop id =>
    refine ⟨Keyed.nodup_erase sound.distinct, ?_, Keyed.nodup_erase sound.once, ?_⟩
    · intro other member
      exact sound.named other (Keyed.mem_erase.mp member).1
    · intro other member
      obtain ⟨old, different⟩ := Keyed.mem_erase.mp member
      obtain ⟨stored, found, same⟩ := sound.held other old
      refine ⟨stored, Keyed.mem_erase.mpr ⟨found, ?_⟩, same⟩
      rw [id_eq_of_message same]
      exact different
  | keep id =>
    refine ⟨sound.distinct, sound.named, Keyed.nodup_erase sound.once, ?_⟩
    intro other member
    exact sound.held other (Keyed.mem_erase.mp member).1

theorem page_of_reachable (reached : (protocol localeCompare).Reachable System.unguarded page) :
    Sound (loadOutbox page.stored) page.owed := by
  refine reached.invariant (P := fun page => Sound (loadOutbox page.stored) page.owed) ?_ ?_
  · intro start initial
    cases initial
    exact ⟨List.nodup_nil, by simp [Page.fresh, loadOutbox, safeParse], List.nodup_nil,
      fun _ member => nomatch member⟩
  · intro before event after _ sound _ moved
    exact sound.turn (turns_next moved)

/-! ## The order of a replay -/

/-- A comparison of what is made of two values. -/
instance transCmp_on {α β : Type} {cmp : β → β → Ordering} [Std.TransCmp cmp] (f : α → β) :
    Std.TransCmp fun left right => cmp (f left) (f right) where
  eq_swap := Std.OrientedCmp.eq_swap
  isLE_trans := Std.TransCmp.isLE_trans

instance transCmp_replayCompare [Std.TransCmp localeCompare] :
    Std.TransCmp (replayCompare localeCompare) :=
  inferInstanceAs (Std.TransCmp (compareLex _ _))

theorem mem_resolveReplayOrder {entry : OutboxEntry} :
    entry ∈ resolveReplayOrder localeCompare entries ↔
      entry ∈ entries ∧ entry.status ≠ .sending := by
  rw [resolveReplayOrder, List.mem_mergeSort, List.mem_filter]
  cases entry.status <;> simp

theorem nodup_resolveReplayOrder (distinct : (entries.map OutboxEntry.id).Nodup) :
    ((resolveReplayOrder localeCompare entries).map OutboxEntry.id).Nodup :=
  ((List.mergeSort_perm _ _).map _).nodup_iff.mpr (distinct.sublist (List.filter_sublist.map _))

/-- Entries that compare as equal have the same id. -/
theorem eq_of_replayCompare (discerns : Discerns localeCompare) (sound : Sound entries owed)
    {left right : OutboxEntry} (first : left ∈ entries) (second : right ∈ entries)
    (tie : replayCompare localeCompare left right = .eq) : left = right := by
  have ids := (compareLex_eq_eq.mp tie).2
  have same := discerns _ _ (sound.named left first) (sound.named right second) ids
  exact List.inj_on_of_nodup_map sound.distinct first second same

theorem strict_of_sound [Std.TransCmp localeCompare] (discerns : Discerns localeCompare)
    (sound : Sound entries owed) :
    IsStrictTotalOrder { entry // entry ∈ entries } fun left right =>
      replayCompare localeCompare left.val right.val = .lt where
  irrefl := by
    intro entry before
    have same : replayCompare localeCompare entry.val entry.val = .eq := Std.ReflCmp.compare_self
    rw [same] at before
    cases before
  trans := fun _ _ _ first second => Std.TransCmp.lt_trans first second
  trichotomous := by
    intro left right before after
    apply Subtype.ext
    apply eq_of_replayCompare discerns sound left.property right.property
    cases found : replayCompare localeCompare left.val right.val with
    | lt => exact absurd found before
    | eq => rfl
    | gt => exact absurd (Std.OrientedCmp.lt_of_gt found) after

theorem sorted_of_sound [Std.TransCmp localeCompare] (discerns : Discerns localeCompare)
    (sound : Sound entries owed) :
    (resolveReplayOrder localeCompare entries).Pairwise fun left right =>
      replayCompare localeCompare left right = .lt := by
  have ordered : (resolveReplayOrder localeCompare entries).Pairwise fun left right =>
      (replayCompare localeCompare left right).isLE = true := by
    refine List.pairwise_mergeSort (fun _ _ _ => Std.TransCmp.isLE_trans) ?_ _
    intro left right
    have swapped : replayCompare localeCompare right left =
        (replayCompare localeCompare left right).swap := Std.OrientedCmp.eq_swap
    rw [swapped]
    cases replayCompare localeCompare left right <;> rfl
  have apart : (resolveReplayOrder localeCompare entries).Pairwise fun left right =>
      left.id ≠ right.id := List.pairwise_map.mp (nodup_resolveReplayOrder sound.distinct)
  refine (ordered.and apart).imp_of_mem ?_
  intro left right first second ⟨before, different⟩
  cases found : replayCompare localeCompare left right with
  | lt => rfl
  | eq =>
    have same := eq_of_replayCompare discerns sound (mem_resolveReplayOrder.mp first).1
      (mem_resolveReplayOrder.mp second).1 found
    exact absurd (congrArg OutboxEntry.id same) different
  | gt =>
    rw [found] at before
    cases before

/-! ## When a reload keeps all that is owed -/

/-- After a reload all that is owed is replayed, once and in order, exactly when nothing that is
owed is stored as being sent. -/
theorem safe_reload_iff [Std.TransCmp localeCompare] (discerns : Discerns localeCompare)
    (reached : (protocol localeCompare).Reachable System.unguarded page) :
    page.reload.Safe localeCompare ↔
      ∀ entry ∈ loadOutbox page.stored, entry.id ∈ page.owed.map OutboxEntry.id →
        entry.status ≠ .sending := by
  have sound := page_of_reachable reached
  constructor
  · intro safe entry member owed stuck
    obtain ⟨other, due, same⟩ := List.mem_map.mp owed
    obtain ⟨replayed, only, -⟩ := safe.kept other due
    have found := List.mem_filter.mp (only ▸ List.mem_singleton_self replayed)
    obtain ⟨stored, waiting⟩ := mem_resolveReplayOrder.mp found.1
    have ids := (of_decide_eq_true found.2).trans same
    cases List.inj_on_of_nodup_map sound.distinct stored member ids
    exact waiting stuck
  · intro waiting
    refine ⟨?_, strict_of_sound discerns sound, sorted_of_sound discerns sound⟩
    intro entry due
    obtain ⟨stored, member, same⟩ := sound.held entry due
    have ids := id_eq_of_message same
    refine ⟨stored, ?_, same⟩
    rw [← ids]
    apply Keyed.filter_of_mem (nodup_resolveReplayOrder sound.distinct)
    refine mem_resolveReplayOrder.mpr ⟨member, waiting stored member ?_⟩
    exact ids ▸ List.mem_map_of_mem due

/-! ## A reload between a request and its answer -/

/-- The page on which an entry has been saved as queued. -/
def Page.holding (entry : OutboxEntry) : Page := ⟨saveOutbox [entry] true none, [], [entry]⟩

variable {entry : OutboxEntry}

theorem reachable_holding (named : isUuid entry.id = true) (queued : entry.status = .queued) :
    (protocol localeCompare).Reachable System.unguarded (Page.holding entry) := by
  have submitted : Page.next localeCompare .fresh (.submit entry true) = some (.holding entry) := by
    simp [Page.next, named, queued, Page.fresh, Page.save, Page.holding, loadOutbox, safeParse,
      upsertOutboxEntry, Keyed.put]
  exact .step (.initial rfl) trivial submitted

/-- An entry that is being sent when the page is loaded anew is owed and never replayed. -/
theorem lost_of_reload (named : isUuid entry.id = true) (queued : entry.status = .queued) :
    ∃ page, (protocol localeCompare).Reachable System.unguarded page ∧ entry ∈ page.owed ∧
      resolveReplayOrder localeCompare (loadOutbox page.reload.stored) = [] := by
  have flushed : Page.next localeCompare (Page.holding entry) (.retry entry.id) =
      some { Page.holding entry with replays := [⟨[entry], none⟩] } := by
    simp [Page.next, Page.begin, Page.holding, loadOutbox_saveOutbox, resolveReplayOrder, queued]
  have sent : Page.next localeCompare { Page.holding entry with replays := [⟨[entry], none⟩] }
      (.send 0 true true) = some
        { Page.holding entry with
          stored := saveOutbox [{ entry with status := .sending, lastError := none }] true none
          replays := [⟨[], some entry⟩] } := by
    simp [Page.next, Page.mark, Page.become, Page.save, Page.holding, loadOutbox_saveOutbox,
      updateOutboxStatus, Keyed.change, OutboxPatch.apply]
    simp [saveOutbox]
  have reached : (protocol localeCompare).Reachable System.unguarded (Page.holding entry) :=
    reachable_holding named queued
  refine ⟨_, .step (.step reached trivial flushed) trivial sent, List.mem_singleton_self entry, ?_⟩
  simp [Page.reload, loadOutbox_saveOutbox, resolveReplayOrder]

end Runs

/-- An entry of a conversation, as it is submitted. -/
def greeting : OutboxEntry where
  id := js "3f2504e0-4f89-41d3-9a0c-0305e82c3301"
  channelId := js "general"
  authorId := js "ada"
  content := js "hello"
  replyToId := none
  createdAt := js "2026-01-01T00:00:00.000Z"
  status := .queued
  retryCount := 0
  lastError := none
  attachments := none

theorem discerns_compare : Discerns compare :=
  fun _ _ _ _ => Std.LawfulEqCmp.eq_of_compare

/-- A reload before any request is sent keeps the entry. -/
theorem holding_safe : (Page.holding greeting).reload.Safe compare := by
  refine (safe_reload_iff discerns_compare (reachable_holding rfl rfl)).mpr ?_
  intro entry member _
  rw [Page.holding, loadOutbox_saveOutbox, if_pos rfl, List.mem_singleton] at member
  subst member
  exact fun stuck => nomatch stuck

/-- A reload in the middle of a request loses the entry. -/
theorem interrupted_lost : ∃ page, (protocol compare).Reachable System.unguarded page ∧
    ¬ page.reload.Safe compare := by
  obtain ⟨page, reached, owed, nothing⟩ :
      ∃ page, (protocol compare).Reachable System.unguarded page ∧ greeting ∈ page.owed ∧
        resolveReplayOrder compare (loadOutbox page.reload.stored) = [] :=
    lost_of_reload rfl rfl
  refine ⟨page, reached, fun safe => ?_⟩
  obtain ⟨replayed, only, -⟩ := safe.kept greeting owed
  rw [nothing] at only
  cases only

end Vortex.Web.ChatOutbox
