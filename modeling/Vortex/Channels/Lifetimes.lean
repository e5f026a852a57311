import Vortex.Channels.Decay
import Vortex.Channels.Isolation

/-!
# The lifetimes of attached files

The requests that upload a file and attach it to a message, one after the other, with the sizes of
the files on disk and the columns of the decay. The lifetime of a row is computed from the size
that the second request brings. Files may also be removed at any time.
-/

namespace Vortex.Channels.Attachments

open Foundation
open DECAY_CONSTANTS
open Vortex.Web (startsWith)

noncomputable section

/-- The value of a number in JSON, which may be too large for a double. -/
def numberOf (text : JsString) : EReal :=
  match JsString.rational? (JsString.magnitude text) with
  | some value => if text.head? = some 45 then ((-value : ℚ) : ℝ) else ((value : ℚ) : ℝ)
  | none => if text.head? = some 45 then ⊥ else ⊤

structure DecayingAttachment extends DmAttachment where
  expiresAt : Option ℤ
  lastAccessedAt : Option ℤ
  lifetimeDays : Option ℤ
  decayCost : Option EReal

/-- The sizes of the files on disk, and `dm_attachments`. -/
structure DecayStore where
  files : DiskPath → Option Nat
  rows : List DecayingAttachment

/-! ## Uploads -/

def MAX_ATTACHMENT_BYTES : Nat := 25 * 1024 * 1024

/-- A file in a form; `objection` is what the checks of its name, type and first bytes say. -/
structure FormFile where
  name : JsString
  size : Nat
  contentType : JsString
  objection : Option JsString

/-- `validateFileClient`, and the checks after it. -/
def FormFile.refusal (file : FormFile) : Option JsString :=
  if MAX_ATTACHMENT_BYTES < file.size then some (js "File too large (max 25 MB): " ++ file.name)
  else file.objection

inductive UploadStep
  | membership
  | write
  deriving DecidableEq

structure UploadRequest where
  user : Option JsString
  channelId : JsString
  limited : Bool
  file : Option FormFile
  drawn : Uuid
  fails : UploadStep → Bool

section

variable (conversations : Conversations)

/-- `POST .../attachments`: the response, and the path and the size of the file that is written. -/
def postAttachment (request : UploadRequest) : HttpResponse × Option (DiskPath × Nat) :=
  let refuse (status : Nat) (text : JsString) : HttpResponse × Option (DiskPath × Nat) :=
    (.error status text, none)
  match request.user with
  | none => refuse 401 (js "Unauthorized")
  | some user =>
      if request.limited then (tooMany, none)
      else if request.fails .membership then refuse 500 (js "Failed to verify membership")
      else if !conversations.isMember request.channelId user then refuse 403 (js "Forbidden")
      else
        match request.file.filter fun file => file.size ≠ 0 with
        | none => refuse 400 (js "A file is required")
        | some file =>
            match file.refusal with
            | some text => refuse 400 text
            | none =>
                let key := attachmentPrefix request.channelId ++ request.drawn.val ++
                  46 :: extension file.name
                match resolved conversations key with
                | none => refuse 500 (js "File upload failed")
                | some path =>
                    if request.fails .write then refuse 500 (js "File upload failed")
                    else (.json 200 (.obj [(js "key", .str key), (js "filename", .str file.name),
                      (js "size", .num (decimalText file.size)),
                      (js "content_type", .str file.contentType)]), some (path, file.size))

/-! ## Rows -/

inductive AttachStep
  | membership
  | message
  | insert
  deriving DecidableEq

structure AttachRequest where
  user : Option JsString
  channelId : JsString
  body : Option Json
  drawn : Uuid
  now : ℤ
  fails : AttachStep → Bool

/-- The checks of `PATCH .../attachments`, with those of the insertion; none looks at the size. -/
def accepts (rows : List DecayingAttachment) (request : AttachRequest) :
    Except HttpResponse DmAttachment :=
  let refuse (status : Nat) (text : String) : Except HttpResponse DmAttachment :=
    .error (.error status (js text))
  match request.user with
  | none => refuse 401 "Unauthorized"
  | some user =>
      if request.fails .membership then refuse 500 "Failed to verify membership"
      else if !conversations.isMember request.channelId user then refuse 403 "Forbidden"
      else
        match attachmentOf request.drawn.val request.body with
        | none => refuse 400 "dm_id, key, filename, size, content_type required"
        | some row =>
            if startsWith row.url (attachmentPrefix request.channelId) = false then
              refuse 400 "Invalid key"
            else if request.fails .message then refuse 500 "Failed to verify message"
            else if !conversations.messages.rows.any (fun message => message.id = row.dmId &&
                message.dmChannelId = some request.channelId && message.senderId = user) then
              refuse 404 "Message not found"
            else if request.fails .insert || rows.any (fun old => old.id = row.id) then
              refuse 500 "Failed to save attachment metadata"
            else .ok row

/-- The row that is inserted. -/
def decaying (row : DmAttachment) (now : ℤ) : DecayingAttachment :=
  let decay := computeDecay { sizeBytes := numberOf row.size, uploadedAt := now }
  { row with
    expiresAt := decay.map DecayResult.expiresAt
    lastAccessedAt := decay.map fun _ => now
    lifetimeDays := decay.map DecayResult.days
    decayCost := decay.map DecayResult.cost }

/-- `PATCH .../attachments`: the response, and the row that is inserted. -/
def patchAttachment (rows : List DecayingAttachment) (request : AttachRequest) :
    HttpResponse × Option DecayingAttachment :=
  match accepts conversations rows request with
  | .error response => (response, none)
  | .ok row =>
      (.json 200 (.obj [(js "id", .str row.id), (js "filename", .str row.filename),
        (js "size", .num row.size), (js "content_type", .str row.contentType)]),
        some (decaying row request.now))

/-! ## Runs -/

end

/-- A row with the time and the size of the file under its key when it was inserted. -/
structure Insertion where
  row : DecayingAttachment
  now : ℤ
  fileSize : Option Nat

structure Lifetimes where
  store : DecayStore
  log : List Insertion

inductive LifetimeEvent
  | uploads (request : UploadRequest)
  | attaches (request : AttachRequest)
  | removes (path : DiskPath)

namespace Lifetimes

def setFile (state : Lifetimes) (path : DiskPath) (size : Option Nat) : Lifetimes :=
  { state with store.files := Function.update state.store.files path size }

def next (conversations : Conversations) (state : Lifetimes) : LifetimeEvent → Lifetimes
  | .uploads request =>
      match (postAttachment conversations request).2 with
      | none => state
      | some (path, size) => state.setFile path (some size)
  | .attaches request =>
      match (patchAttachment conversations state.store.rows request).2 with
      | none => state
      | some row =>
          { store := { state.store with rows := state.store.rows ++ [row] }
            log := state.log ++ [⟨row, request.now,
              (resolved conversations row.url).bind state.store.files⟩] }
  | .removes path => state.setFile path none

/-- Nothing is stored. -/
structure Initial (state : Lifetimes) : Prop where
  files : ∀ path, state.store.files path = none
  log : state.log = []

end Lifetimes

def lifetimeSystem (conversations : Conversations) : System Lifetimes LifetimeEvent :=
  .ofNext Lifetimes.Initial fun state event => some (state.next conversations event)

namespace Insertion

/-- The row expires, and when the size of the file under its key says. -/
def OnSchedule (insertion : Insertion) : Prop :=
  ∃ size, insertion.fileSize = some size ∧ ∃ decay,
    computeDecay { sizeBytes := (size : ℝ), uploadedAt := insertion.now } = some decay ∧
      insertion.row.expiresAt = some decay.expiresAt ∧ insertion.row.lifetimeDays = some decay.days

/-- There is a file under the key, and the size that was sent is within the plan and has the days
of the size of the file. -/
def Honest (insertion : Insertion) : Prop :=
  ∃ size, insertion.fileSize = some size ∧ toMb (numberOf insertion.row.size) ≤ PLAN_MAX_MB ∧
    lifetimeDays CURVE (toMb (numberOf insertion.row.size)) = lifetimeDays CURVE (toMb (size : ℝ))

end Insertion

/-- A file within the cap of an upload is within the plan. -/
theorem toMb_le_of_le {size : Nat} (small : size ≤ MAX_ATTACHMENT_BYTES) :
    toMb (size : ℝ) ≤ PLAN_MAX_MB := by
  have bytes : (size : ℝ) ≤ 26214400 := by exact_mod_cast small
  rw [toMb_coe, EReal.coe_le_coe_iff, PLAN_MAX_MB]
  linarith

/-- What is recorded of an insertion. -/
structure Insertion.Recorded (insertion : Insertion) : Prop where
  decays : ∃ row : DmAttachment, insertion.row = decaying row insertion.now
  small : ∀ size, insertion.fileSize = some size → size ≤ MAX_ATTACHMENT_BYTES

/-- The days of a size that has a decay. -/
theorem computeDecay_of_le {sizeBytes : EReal} {uploadedAt : ℤ}
    (within : toMb sizeBytes ≤ PLAN_MAX_MB) :
    ∃ decay, computeDecay { sizeBytes, uploadedAt } = some decay ∧
      decay.days = lifetimeDays CURVE (toMb sizeBytes) ∧
      decay.expiresAt = uploadedAt + decay.days * MS_PER_DAY :=
  ⟨_, if_neg (not_lt_of_ge within), rfl, rfl⟩

theorem computeDecay_of_lt {sizeBytes : EReal} {uploadedAt : ℤ}
    (beyond : PLAN_MAX_MB < toMb sizeBytes) : computeDecay { sizeBytes, uploadedAt } = none :=
  if_pos beyond

theorem Insertion.Recorded.onSchedule_iff {insertion : Insertion} (recorded : insertion.Recorded) :
    insertion.OnSchedule ↔ insertion.Honest := by
  obtain ⟨row, decays⟩ := recorded.decays
  have sent : insertion.row.size = row.size := by rw [decays]; rfl
  have expires : insertion.row.expiresAt = (computeDecay
      { sizeBytes := numberOf row.size, uploadedAt := insertion.now }).map DecayResult.expiresAt := by
    rw [decays]
    rfl
  have days : insertion.row.lifetimeDays = (computeDecay
      { sizeBytes := numberOf row.size, uploadedAt := insertion.now }).map DecayResult.days := by
    rw [decays]
    rfl
  rw [OnSchedule, Honest, sent, expires, days]
  refine exists_congr fun size => and_congr_right fun found => ?_
  obtain ⟨decay, computed, lasts, ends⟩ : ∃ decay, _ ∧ _ :=
    computeDecay_of_le (toMb_le_of_le (recorded.small size found))
  constructor
  · rintro ⟨other, same, expiry, lifetime⟩
    rw [computed, Option.some_inj] at same
    cases same
    by_cases within : toMb (numberOf row.size) ≤ PLAN_MAX_MB
    · obtain ⟨stored, found, kept, -⟩ : ∃ decay, _ ∧ _ := computeDecay_of_le within
      rw [found, Option.map_some, Option.some_inj] at lifetime
      exact ⟨within, by rw [← kept, lifetime, lasts]⟩
    · rw [computeDecay_of_lt (not_le.mp within)] at lifetime
      cases lifetime
  · rintro ⟨within, same⟩
    obtain ⟨stored, found, kept, ends'⟩ : ∃ decay, _ ∧ _ := computeDecay_of_le within
    have equal : stored.days = decay.days := by rw [kept, same, lasts]
    refine ⟨decay, computed, ?_, ?_⟩
    · rw [found, Option.map_some, ends', ends, equal]
    · rw [found, Option.map_some, equal]

/-! ## Every run -/

/-- Files on disk are within the cap, and every insertion is recorded. -/
structure Lifetimes.Invariant (state : Lifetimes) : Prop where
  small : ∀ path size, state.store.files path = some size → size ≤ MAX_ATTACHMENT_BYTES
  recorded : ∀ insertion ∈ state.log, insertion.Recorded

section Runs

variable {conversations : Conversations} {state : Lifetimes}

theorem FormFile.size_le {file : FormFile} (accepted : file.refusal = none) :
    file.size ≤ MAX_ATTACHMENT_BYTES := by
  unfold FormFile.refusal at accepted
  split at accepted
  · cases accepted
  · rename_i within
    exact Nat.le_of_not_lt within

theorem postAttachment_le {request : UploadRequest} {path : DiskPath} {size : Nat}
    (written : (postAttachment conversations request).2 = some (path, size)) :
    size ≤ MAX_ATTACHMENT_BYTES := by
  unfold postAttachment at written
  dsimp only at written
  split at written
  · cases written
  split at written
  · cases written
  split at written
  · cases written
  split at written
  · cases written
  split at written
  · cases written
  · rename_i file _
    split at written
    · cases written
    · rename_i accepted
      split at written
      · cases written
      · split at written
        · cases written
        · cases written
          exact file.size_le accepted

theorem patchAttachment_eq {rows : List DecayingAttachment} {request : AttachRequest}
    {row : DecayingAttachment}
    (inserted : (patchAttachment conversations rows request).2 = some row) :
    ∃ attachment, row = decaying attachment request.now := by
  unfold patchAttachment at inserted
  split at inserted
  · cases inserted
  · rename_i attachment _
    exact ⟨attachment, (Option.some.inj inserted).symm⟩

theorem Lifetimes.Invariant.start (start : state.Initial) : state.Invariant where
  small path size found := by
    rw [start.files] at found
    cases found
  recorded insertion member := by
    rw [start.log] at member
    cases member

theorem Lifetimes.Invariant.setFile (invariant : state.Invariant) {path : DiskPath}
    {size : Option Nat}
    (small : ∀ bytes, size = some bytes → bytes ≤ MAX_ATTACHMENT_BYTES) :
    (state.setFile path size).Invariant where
  small other bytes stored := by
    change Function.update state.store.files path size other = some bytes at stored
    by_cases same : other = path
    · cases same
      rw [Function.update_self] at stored
      exact small bytes stored
    · rw [Function.update_of_ne same] at stored
      exact invariant.small other bytes stored
  recorded := invariant.recorded

theorem Lifetimes.Invariant.next (invariant : state.Invariant) (event : LifetimeEvent) :
    (state.next conversations event).Invariant := by
  cases event with
  | uploads request =>
    unfold Lifetimes.next
    dsimp only
    split
    · exact invariant
    · rename_i path size written
      apply invariant.setFile
      intro bytes same
      cases same
      exact postAttachment_le written
  | attaches request =>
    unfold Lifetimes.next
    dsimp only
    split
    · exact invariant
    · rename_i row inserted
      refine ⟨invariant.small, ?_⟩
      intro insertion member
      rcases List.mem_append.mp member with old | new
      · exact invariant.recorded insertion old
      · cases List.mem_singleton.mp new
        refine ⟨patchAttachment_eq inserted, ?_⟩
        intro size found
        obtain ⟨path, _, stored⟩ := Option.bind_eq_some_iff.mp found
        exact invariant.small path size stored
  | removes path => exact invariant.setFile fun _ => (nomatch ·)

theorem invariant_of_reachable
    (reached : (lifetimeSystem conversations).Reachable System.unguarded state) :
    state.Invariant := by
  induction reached with
  | initial start => exact .start start
  | step _ _ moved ih =>
    cases Option.some.inj moved
    exact ih.next _

end Runs

namespace Sample

/-- Alice uploads a picture of three bytes. -/
def uploadOf : UploadRequest where
  user := some (js "alice")
  channelId := first
  limited := false
  file := some ⟨js "cat.png", 3, js "image/png", none⟩
  drawn := alices
  fails := fun _ => false

def pictureKey : JsString := uploadKey (call "alice" first alices (.upload none)) picture

/-- She attaches it, with a size of her own. -/
def attachOf (size : String) : AttachRequest where
  user := some (js "alice")
  channelId := first
  body := some (.obj [(js "dm_id", .str (js "m")), (js "key", .str pictureKey),
    (js "filename", .str (js "cat.png")), (js "size", .num (js size)),
    (js "content_type", .str (js "image/png"))])
  drawn := alices
  now := 0
  fails := fun _ => false

def rowOf (size : String) : DmAttachment :=
  ⟨alices.val, js "m", pictureKey, js "cat.png", js size, js "image/png"⟩

def bare : Lifetimes := ⟨⟨fun _ => none, []⟩, []⟩

def withSize (size : String) : Lifetimes :=
  (bare.next conversations (.uploads uploadOf)).next conversations (.attaches (attachOf size))

theorem withSize_reachable (size : String) :
    (lifetimeSystem conversations).Reachable System.unguarded (withSize size) :=
  .step (.step (.initial ⟨fun _ => rfl, rfl⟩) trivial rfl) trivial rfl

theorem log_withSize (size : String) :
    (withSize size).log = [⟨decaying (rowOf size) 0, 0, some 3⟩] := by
  rfl

theorem numberOf_three : numberOf (js "3") = ((3 : ℕ) : ℝ) := by
  have value : JsString.rational? (JsString.magnitude (js "3")) = some 3 := by decide
  rw [numberOf, value]
  dsimp only
  rw [if_neg (by decide)]
  norm_num

theorem numberOf_gigabyte : numberOf (js "1e9") = (1000000000 : ℝ) := by
  have value : JsString.rational? (JsString.magnitude (js "1e9")) = some 1000000000 := by
    decide
  rw [numberOf, value]
  dsimp only
  rw [if_neg (by decide)]
  norm_num

end Sample

end

end Vortex.Channels.Attachments
