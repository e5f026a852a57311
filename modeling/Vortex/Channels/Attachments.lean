import Vortex.Channels.Routes
import Vortex.Foundation.DiskPath

/-!
# Attachments on disk

The requests that upload, clean up, attach and download the files of a conversation, and
the cron job that purges them, as processes that share the files and `dm_attachments`:
each access to the table or the disk is atomic, and the accesses of concurrent processes
interleave. A file is where its key leads: `safeResolve` resolves the key as POSIX does.
Who is a member of what, and the messages, do not change meanwhile. The bytes of a file,
its range requests, and the columns of a row that nothing here reads are left out, and so
is the older table whose files the cron job purges first.
-/

namespace Vortex.Channels.Attachments

open Foundation
open JsString (hexValue)
open Vortex.Gateway (internalError truthy)
open Vortex.Web (startsWith)

/-! ## Ids -/

/-- `UUID_RE` -/
def isUuid (text : JsString) : Bool :=
  (text.splitOn 45).map List.length = [8, 4, 4, 4, 12] &&
    text.all fun unit => unit = 45 || (hexValue unit).isSome

/-- What `randomUUID` draws. -/
abbrev Uuid : Type := { text : JsString // isUuid text = true }

/-! ## Storage -/

/-- `safeResolve` -/
def safeResolve (baseDir : DiskPath) (key : JsString) : Option DiskPath :=
  if key.isEmpty || key.contains 0 then none
  else
    let resolved := DiskPath.resolve baseDir key
    let relative := DiskPath.relative baseDir resolved
    if startsWith relative (js "..") || relative.head? = some 47 then none else some resolved

/-- A file, with the channel it has been uploaded to. -/
structure StoredFile where
  path : DiskPath
  uploadedTo : JsString

structure StoredAttachment extends DmAttachment where
  expiresAt : Option JsString
  purgedAt : Option JsString

/-- The files and the table. `backed` holds the ids of the rows whose keys named a file
when they were inserted; nothing reads it. -/
structure Storage where
  files : List StoredFile
  attachments : Table StoredAttachment JsString fun row => row.id
  backed : List JsString

/-- A file lies at a path. -/
def Storage.holds (storage : Storage) (path : DiskPath) : Bool :=
  storage.files.any fun file => file.path = path

/-- What the requests find and do not change: the directory of the attachments, who is a
member of what, and the messages. -/
structure Conversations where
  attachmentsDir : DiskPath
  members : Table DmChannelMember (JsString × JsString) fun row => (row.dmChannelId, row.userId)
  messages : Table DirectMessage JsString DirectMessage.id
  channelIds : ∀ row ∈ members.rows, isUuid row.dmChannelId = true

def Conversations.isMember (conversations : Conversations) (channelId userId : JsString) : Bool :=
  (conversations.members.find? (channelId, userId)).isSome

/-! ## Accesses -/

inductive FileAccess
  | verifyMembership (channelId userId : JsString)
  | writeUploadFile (key : JsString)
  | attachmentByUrl (url : JsString)
  | deleteUploadFile (key : JsString)
  | findMessage (id channelId senderId : JsString)
  | insertAttachment (row : StoredAttachment)
  | attachmentById (id : JsString)
  | channelOf (messageId : JsString)
  | renewExpiry (id : JsString) (expiresAt : Option JsString)
  | statUploadFile (key : JsString)
  | readFile (path : DiskPath)
  | expiredAttachments (nowIso : JsString)
  | markPurged (id nowIso : JsString)

/-- An access throws, or it says what it has found. -/
def storing : Interface where
  Request := FileAccess
  Answer
    | .verifyMembership _ _ | .attachmentByUrl _ | .findMessage _ _ _ => Except Unit Bool
    | .attachmentById _ => Except Unit (Option StoredAttachment)
    | .channelOf _ => Except Unit (Option JsString)
    | .statUploadFile _ => Except Unit (Option DiskPath)
    | .expiredAttachments _ => Except Unit (List StoredAttachment)
    | .writeUploadFile _ | .deleteUploadFile _ | .insertAttachment _ | .renewExpiry _ _
    | .readFile _ | .markPurged _ _ => Except Unit Unit

inductive FileRoute
  | upload (file : Option Upload)
  | deleteUpload (key : Option JsString)
  | attach (body : Option Json)
  | download (attachmentId : JsString)
  | attachmentDecay (verified : Except HttpResponse Unit)

/-- What the rest of the system answers to one request: the user of the session, whether
the rate limit is exceeded, the id that is drawn, the time, the decay of a file of a size
and the renewal of an expiry, whether the renewal, which nobody waits for, is carried out
after the file has been read, which paths are directories, and which accesses throw. -/
structure FileCall where
  user : Option JsString
  channelId : JsString
  route : FileRoute
  limited : Bool
  drawn : Uuid
  nowIso : JsString
  computeDecay : JsString → Option JsString
  maybeRenewExpiry : StoredAttachment → Option JsString
  late : Bool
  isDirectory : DiskPath → Bool
  fails : FileAccess → Bool

inductive FileResponse
  | refused (response : HttpResponse)
  | uploaded (key : JsString) (file : Upload)
  | deleted
  | attached (row : StoredAttachment)
  | served (row : StoredAttachment) (path : DiskPath)
  | decayed (purgedDm storageErrors : Nat)

abbrev FileProc : Type := Proc storing Empty FileResponse

def ask (access : FileAccess) : Proc storing Empty (storing.Answer access) :=
  Proc.request (I := storing) access

def refuse (status : Nat) (text : String) : FileProc :=
  return .refused (.error status (js text))

/-! ## Requests -/

/-- The answer to someone who is not a member, and otherwise the rest. -/
def asMember (channelId user : JsString) (next : FileProc) : FileProc := do
  match (← ask (.verifyMembership channelId user) : Except Unit Bool) with
  | .error () => refuse 500 "Failed to verify membership"
  | .ok false => refuse 403 "Forbidden"
  | .ok true => next

def uploadKey (call : FileCall) (file : Upload) : JsString :=
  attachmentPrefix call.channelId ++ call.drawn.val ++ 46 :: extension file.name

/-- `POST .../attachments` -/
def upload (call : FileCall) (user : JsString) (file : Option Upload) : FileProc :=
  if call.limited then return .refused tooMany
  else
    asMember call.channelId user <|
      match file with
      | none => refuse 400 "A file is required"
      | some file =>
          match file.refusal with
          | some text => return .refused (.error 400 text)
          | none => do
              let key := uploadKey call file
              match (← ask (.writeUploadFile key) : Except Unit Unit) with
              | .error () => refuse 500 "File upload failed"
              | .ok () => return .uploaded key file

/-- `DELETE .../attachments` -/
def deleteUpload (call : FileCall) (user : JsString) (key : Option JsString) : FileProc :=
  asMember call.channelId user <|
    match key.filter fun key => startsWith key (attachmentPrefix call.channelId) with
    | none => refuse 400 "Invalid key"
    | some key => do
        match (← ask (.attachmentByUrl key) : Except Unit Bool) with
        | .error () => refuse 500 "Failed to check attachment state"
        | .ok true => refuse 409 "Cannot delete an attached file"
        | .ok false =>
            match (← ask (.deleteUploadFile key) : Except Unit Unit) with
            | .error () => return .refused internalError
            | .ok () => return .deleted

/-- The row a request inserts. -/
def newAttachment (call : FileCall) (row : DmAttachment) : StoredAttachment :=
  { row with expiresAt := call.computeDecay row.size, purgedAt := none }

/-- `PATCH .../attachments` -/
def attach (call : FileCall) (user : JsString) (body : Option Json) : FileProc :=
  asMember call.channelId user <|
    match attachmentOf call.drawn.val body with
    | none => refuse 400 "dm_id, key, filename, size, content_type required"
    | some row =>
        if startsWith row.url (attachmentPrefix call.channelId) = false then refuse 400 "Invalid key"
        else do
          match (← ask (.findMessage row.dmId call.channelId user) : Except Unit Bool) with
          | .error () => refuse 500 "Failed to verify message"
          | .ok false => refuse 404 "Message not found"
          | .ok true =>
              match (← ask (.insertAttachment (newAttachment call row)) : Except Unit Unit) with
              | .error () => refuse 500 "Failed to save attachment metadata"
              | .ok () => return .attached (newAttachment call row)

/-- Extend the expiry of a row that is accessed near its deadline. -/
def renew (call : FileCall) (row : StoredAttachment) (next : FileProc) : FileProc :=
  if (row.expiresAt.filter (!·.isEmpty)).isSome && truthy (.num row.size) then
    .await (.renewExpiry row.id (call.maybeRenewExpiry row)) fun _ => next
  else next

/-- Serve the file of a row. -/
def serveFile (row : StoredAttachment) (next : FileResponse → FileProc) : FileProc := do
  match (← ask (.statUploadFile row.url) : Except Unit (Option DiskPath)) with
  | .error () => next (.refused internalError)
  | .ok none => next (.refused (.error 404 (js "File not found")))
  | .ok (some path) => .await (.readFile path) fun _ => next (.served row path)

/-- `GET /api/dm/attachments/[attachmentId]/download` -/
def download (call : FileCall) (user attachmentId : JsString) : FileProc := do
  match (← ask (.attachmentById attachmentId) : Except Unit (Option StoredAttachment)) with
  | .error () => refuse 500 "Failed to fetch attachment"
  | .ok none => refuse 404 "Attachment not found"
  | .ok (some row) =>
      if (row.purgedAt.filter (!·.isEmpty)).isSome then
        refuse 410 "This file has expired and is no longer available"
      else
        match (← ask (.channelOf row.dmId) : Except Unit (Option JsString)) with
        | .error () => refuse 500 "Failed to fetch message"
        | .ok channel =>
            match channel.filter (!·.isEmpty) with
            | none => refuse 404 "Message not found"
            | some channelId =>
                asMember channelId user <|
                  if call.late then serveFile row fun response => renew call row (return response)
                  else renew call row (serveFile row fun response => return response)

/-! ## The cron job -/

/-- Purge rows one after the other, counting them and the errors. -/
def purge (nowIso : JsString) : List StoredAttachment → Nat → Nat → FileProc
  | [], purgedDm, storageErrors => return .decayed purgedDm storageErrors
  | row :: rest, purgedDm, storageErrors => do
      let removed : Except Unit Unit ← ask (.deleteUploadFile row.url)
      let errors := if removed.isOk then storageErrors else storageErrors + 1
      match (← ask (.markPurged row.id nowIso) : Except Unit Unit) with
      | .error () => purge nowIso rest purgedDm (errors + 1)
      | .ok () => purge nowIso rest (purgedDm + 1) errors

/-- `GET /api/cron/attachment-decay` -/
def attachmentDecay (call : FileCall) : FileProc := do
  match (← ask (.expiredAttachments call.nowIso) : Except Unit (List StoredAttachment)) with
  | .error () => return .refused internalError
  | .ok expired => purge call.nowIso expired 0 0

def asUser (call : FileCall) (next : JsString → FileProc) : FileProc :=
  match call.user with
  | none => refuse 401 "Unauthorized"
  | some user => next user

def fileProgram (call : FileCall) : FileProc :=
  match call.route with
  | .upload file => asUser call fun user => upload call user file
  | .deleteUpload key => asUser call fun user => deleteUpload call user key
  | .attach body => asUser call fun user => attach call user body
  | .download attachmentId =>
      if isUuid attachmentId then asUser call fun user => download call user attachmentId
      else refuse 404 "Attachment not found"
  | .attachmentDecay verified =>
      match verified with
      | .error response => return .refused response
      | .ok () => attachmentDecay call

/-! ## Execution -/

def BATCH_LIMIT : Nat := 200

/-- Whether the cron job has to purge a row. -/
def StoredAttachment.isExpired (nowIso : JsString) (row : StoredAttachment) : Bool :=
  row.expiresAt.any (· < nowIso) && row.purgedAt.isNone

def renewed (expiresAt : Option JsString) (row : StoredAttachment) : StoredAttachment :=
  { row with expiresAt := expiresAt.or row.expiresAt }

def purged (nowIso : JsString) (row : StoredAttachment) : StoredAttachment :=
  { row with purgedAt := some nowIso }

def Storage.write (storage : Storage) (path : DiskPath) (channelId : JsString) : Storage :=
  { storage with
    files := ⟨path, channelId⟩ :: storage.files.filter fun file => file.path ≠ path }

def Storage.remove (storage : Storage) (path : DiskPath) : Storage :=
  { storage with files := storage.files.filter fun file => file.path ≠ path }

/-- A row is inserted; `isBacked` is whether its key names a file. -/
def Storage.insert (storage : Storage) (row : StoredAttachment) (isBacked : Bool) : Storage :=
  { storage with
    attachments := storage.attachments.insertIgnore row
    backed := if isBacked then row.id :: storage.backed else storage.backed }

/-- The rows with an id, changed. -/
def Storage.updateRow (storage : Storage) (id : JsString)
    (change : StoredAttachment → StoredAttachment) (keeps : ∀ row, (change row).id = row.id) :
    Storage :=
  { storage with attachments := storage.attachments.updateWhere (fun row => row.id = id) change keeps }

theorem id_renewed (expiresAt : Option JsString) (row : StoredAttachment) :
    (renewed expiresAt row).id = row.id := rfl

theorem id_purged (nowIso : JsString) (row : StoredAttachment) :
    (purged nowIso row).id = row.id := rfl

section

variable (conversations : Conversations)

/-- The path a key leads to. -/
def resolved (key : JsString) : Option DiskPath := safeResolve conversations.attachmentsDir key

/-- An access that does not throw. -/
def execute (call : FileCall) (storage : Storage) :
    (access : FileAccess) → storing.Answer access × Storage
  | .verifyMembership channelId userId =>
      ((.ok (conversations.isMember channelId userId) : Except Unit Bool), storage)
  | .writeUploadFile key =>
      match resolved conversations key with
      | none => ((.error () : Except Unit Unit), storage)
      | some path =>
          ((.ok () : Except Unit Unit), storage.write path call.channelId)
  | .attachmentByUrl url =>
      ((.ok (storage.attachments.rows.any fun row => row.url = url) : Except Unit Bool), storage)
  | .deleteUploadFile key =>
      match resolved conversations key with
      | none => ((.ok () : Except Unit Unit), storage)
      | some path =>
          ((.ok () : Except Unit Unit), storage.remove path)
  | .findMessage id channelId senderId =>
      ((.ok (conversations.messages.rows.any fun message => message.id = id &&
        message.dmChannelId = some channelId && message.senderId = senderId) : Except Unit Bool), storage)
  | .insertAttachment row =>
      match storage.attachments.find? row.id with
      | some _ => ((.error () : Except Unit Unit), storage)
      | none =>
          ((.ok () : Except Unit Unit),
            storage.insert row ((resolved conversations row.url).any storage.holds))
  | .attachmentById id =>
      ((.ok (storage.attachments.find? id) : Except Unit (Option StoredAttachment)), storage)
  | .channelOf messageId =>
      ((.ok ((conversations.messages.find? messageId).bind DirectMessage.dmChannelId) :
        Except Unit (Option JsString)), storage)
  | .renewExpiry id expiresAt =>
      ((.ok () : Except Unit Unit), storage.updateRow id (renewed expiresAt) (id_renewed expiresAt))
  | .statUploadFile key =>
      ((.ok ((resolved conversations key).filter fun path => storage.holds path ||
        call.isDirectory path) : Except Unit (Option DiskPath)), storage)
  | .readFile _ => ((.ok () : Except Unit Unit), storage)
  | .expiredAttachments nowIso =>
      ((.ok ((storage.attachments.rows.filter fun row => row.isExpired nowIso).take BATCH_LIMIT) :
        Except Unit (List StoredAttachment)), storage)
  | .markPurged id nowIso =>
      ((.ok () : Except Unit Unit), storage.updateRow id (purged nowIso) (id_purged nowIso))

/-- What an access that throws answers. -/
def thrown : (access : FileAccess) → storing.Answer access
  | .verifyMembership _ _ | .attachmentByUrl _ | .findMessage _ _ _ =>
      (.error () : Except Unit Bool)
  | .attachmentById _ => (.error () : Except Unit (Option StoredAttachment))
  | .channelOf _ => (.error () : Except Unit (Option JsString))
  | .statUploadFile _ => (.error () : Except Unit (Option DiskPath))
  | .expiredAttachments _ => (.error () : Except Unit (List StoredAttachment))
  | .writeUploadFile _ | .deleteUploadFile _ | .insertAttachment _ | .renewExpiry _ _
  | .readFile _ | .markPurged _ _ => (.error () : Except Unit Unit)

def fileHandle (call : FileCall) : Handler storing Storage :=
  fun access storage =>
    if call.fails access then some (thrown access, storage)
    else some (execute conversations call storage access)

end

abbrev FilePool : Type := Pool storing Empty FileResponse FileCall Storage

/-- Every interleaving of any number of requests and cron jobs. -/
def fileSystem (conversations : Conversations) (initial : Storage → Prop) :
    System FilePool (Turn FileCall) :=
  Pool.system initial fileProgram fun _ call => fileHandle conversations call

/-! ## What an access does -/

/-- What an access leaves behind: the storage as it was, or with its write. -/
theorem storage_of_handle {conversations : Conversations} {call : FileCall} {access : FileAccess}
    {answer : storing.Answer access} {before after : Storage}
    (answered : fileHandle conversations call access before = some (answer, after)) :
    after = before ∨
      (∃ key path, access = .writeUploadFile key ∧ resolved conversations key = some path ∧
        after = before.write path call.channelId) ∨
      (∃ key path, access = .deleteUploadFile key ∧ resolved conversations key = some path ∧
        after = before.remove path) ∨
      (∃ row, access = .insertAttachment row ∧ before.attachments.find? row.id = none ∧
        after = before.insert row ((resolved conversations row.url).any before.holds)) ∨
      (∃ id expiresAt, access = .renewExpiry id expiresAt ∧
        after = before.updateRow id (renewed expiresAt) (id_renewed expiresAt)) ∨
      ∃ id nowIso, access = .markPurged id nowIso ∧
        after = before.updateRow id (purged nowIso) (id_purged nowIso) := by
  unfold fileHandle at answered
  split at answered
  · cases answered
    exact .inl rfl
  · have effect := Option.some.inj answered
    cases access with
    | writeUploadFile key =>
      unfold execute at effect
      dsimp only at effect
      split at effect
      · cases effect
        exact .inl rfl
      · rename_i path lands
        cases effect
        exact .inr (.inl ⟨key, path, rfl, lands, rfl⟩)
    | deleteUploadFile key =>
      unfold execute at effect
      dsimp only at effect
      split at effect
      · cases effect
        exact .inl rfl
      · rename_i path lands
        cases effect
        exact .inr (.inr (.inl ⟨key, path, rfl, lands, rfl⟩))
    | insertAttachment row =>
      unfold execute at effect
      dsimp only at effect
      split at effect
      · cases effect
        exact .inl rfl
      · rename_i free
        cases effect
        exact .inr (.inr (.inr (.inl ⟨row, rfl, free, rfl⟩)))
    | renewExpiry id expiresAt =>
      cases effect
      exact .inr (.inr (.inr (.inr (.inl ⟨id, expiresAt, rfl, rfl⟩))))
    | markPurged id nowIso =>
      cases effect
      exact .inr (.inr (.inr (.inr (.inr ⟨id, nowIso, rfl, rfl⟩))))
    | _ =>
      cases effect
      exact .inl rfl

end Vortex.Channels.Attachments
