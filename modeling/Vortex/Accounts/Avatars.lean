import Vortex.Channels.Uploads

/-!
# Where an avatar is

`POST /api/users/avatar` writes the file of one image type, removes the files of the other types
and then lets the row of the user name its own. The uploads of one user share the files and the
row: each access to the disk or the table is atomic, and the accesses of concurrent uploads
interleave. The removals of one upload are issued together and take effect in any order; where one
of them throws the upload has been answered, and the others still go on.
-/

variable {path other : DiskPath} {throws : Bool}

namespace Vortex.Accounts.Avatars

open Foundation List
open Vortex.Channels.Attachments (Uuid safeResolve safeResolve_intercalate)
open Vortex.Channels.Uploads (Files holds put remove temporaryPath)
open Vortex.Gateway (internalError)

/-! ## Requests -/

inductive Ext
  | jpg
  | jpeg
  | png
  | gif
  | webp
  deriving DecidableEq

def Ext.text : Ext → JsString
  | .jpg => js "jpg"
  | .jpeg => js "jpeg"
  | .png => js "png"
  | .gif => js "gif"
  | .webp => js "webp"

def ALLOWED_AVATAR_TYPES : List JsString :=
  [js "image/jpeg", js "image/png", js "image/gif", js "image/webp"]

def ALLOWED_AVATAR_EXTS : List Ext := [.jpg, .jpeg, .png, .gif, .webp]

def MAX_AVATAR_SIZE : Nat := 5 * 1024 * 1024

structure Signature where
  bytes : List UInt8
  offset : Nat
  mime : JsString

def MAGIC_BYTES : List Signature :=
  [⟨[0xFF, 0xD8, 0xFF], 0, js "image/jpeg"⟩,
    ⟨[0x89, 0x50, 0x4E, 0x47, 0x0D, 0x0A, 0x1A, 0x0A], 0, js "image/png"⟩,
    ⟨[0x47, 0x49, 0x46, 0x38], 0, js "image/gif"⟩,
    ⟨[0x57, 0x45, 0x42, 0x50], 8, js "image/webp"⟩,
    ⟨[0x25, 0x50, 0x44, 0x46], 0, js "application/pdf"⟩,
    ⟨[0x50, 0x4B, 0x03, 0x04], 0, js "application/zip"⟩,
    ⟨[0x66, 0x74, 0x79, 0x70], 4, js "video/mp4"⟩,
    ⟨[0x1A, 0x45, 0xDF, 0xA3], 0, js "video/webm"⟩,
    ⟨[0x49, 0x44, 0x33], 0, js "audio/mpeg"⟩,
    ⟨[0xFF, 0xFB], 0, js "audio/mpeg"⟩,
    ⟨[0x4F, 0x67, 0x67, 0x53], 0, js "audio/ogg"⟩,
    ⟨[0x4D, 0x5A], 0, js "application/x-msdownload"⟩,
    ⟨[0x7F, 0x45, 0x4C, 0x46], 0, js "application/x-elf"⟩]

def detectMimeFromBytes (buffer : List UInt8) : Option JsString :=
  (MAGIC_BYTES.find? fun sig => sig.bytes.isPrefixOf (buffer.drop sig.offset)).map Signature.mime

def mimeToExt : List (JsString × Ext) :=
  [(js "image/jpeg", .jpg), (js "image/png", .png), (js "image/gif", .gif),
    (js "image/webp", .webp)]

structure AvatarFile where
  name : JsString
  type : JsString
  data : List UInt8

inductive FormValue
  | text (value : JsString)
  | file (file : AvatarFile)

/-- An upload as it comes in: what the session says of it (`requireAuth` may throw), the form
(reading it may throw), and the id that is drawn for its temporary file. -/
structure AvatarRequest where
  authError : Except Unit (Option HttpResponse)
  contentType : Option JsString
  avatarVal : Except Unit (Option FormValue)
  temporary : Uuid

def badRequest (text : String) : Except HttpResponse Unit := throw (.error 400 (js text))

/-- The checks of `POST /api/users/avatar`: the image type of the file, and its bytes. -/
def accept (toLowerCase : JsString → JsString) (request : AvatarRequest) :
    Except HttpResponse (Ext × List UInt8) := do
  let authError ← request.authError.mapError fun _ => internalError
  if let some response := authError then throw response
  unless js "multipart/form-data" <:+: request.contentType.getD [] do
    badRequest "Request must be multipart/form-data"
  let avatarVal ← request.avatarVal.mapError fun _ => internalError
  match avatarVal with
  | some (.file avatarFile) =>
      if avatarFile.data.isEmpty then badRequest "An avatar file is required"
      unless ALLOWED_AVATAR_TYPES.contains avatarFile.type do
        badRequest "Avatar must be PNG, JPEG, GIF, or WebP"
      let rawExt := toLowerCase (avatarFile.name.reverse.takeWhile (· ≠ 46)).reverse
      unless (ALLOWED_AVATAR_EXTS.map Ext.text).contains rawExt do
        badRequest "Avatar file extension not allowed"
      if avatarFile.data.length > MAX_AVATAR_SIZE then badRequest "Avatar must be 5 MB or smaller"
      match (detectMimeFromBytes (avatarFile.data.take 16)).filter
          (ALLOWED_AVATAR_TYPES.contains ·) with
      | none => throw (.error 400 (js "Avatar file content does not match an allowed image type"))
      | some detectedMime =>
          let ext := (mimeToExt.find? fun entry => entry.1 = detectedMime).map Prod.snd
          return (ext.getD .png, avatarFile.data)
  | _ => throw (.error 400 (js "An avatar file is required"))

/-! ## Names of files -/

/-- What ids of users are made of: letters, digits and hyphens. -/
def isUserId (text : JsString) : Bool :=
  !text.isEmpty && text.all fun unit =>
    48 ≤ unit && unit ≤ 57 || 65 ≤ unit && unit ≤ 90 || 97 ≤ unit && unit ≤ 122 || unit = 45

abbrev UserId : Type := { text : JsString // isUserId text = true }

def Ext.fileName (ext : Ext) : JsString := js "avatar." ++ ext.text

def storageKey (user : UserId) (ext : Ext) : JsString := user.val ++ 47 :: ext.fileName

def avatarUrl (user : UserId) (ext : Ext) (now : Nat) : JsString :=
  js "/api/avatars/" ++ storageKey user ext ++ js "?t=" ++ decimalText now

/-- The file that a stored URL names, up to its query: the one that
`GET /api/avatars/[userId]/[filename]` looks for. -/
def named (avatarsDir : DiskDirectory) (url : JsString) : Option DiskPath :=
  match (url.takeWhile (· ≠ 63)).dropPrefix? (js "/api/avatars/") with
  | none => none
  | some key =>
      match key.splitOn 47 with
      | [_, filename] =>
          if ALLOWED_AVATAR_EXTS.any fun ext => filename = ext.fileName then
            safeResolve avatarsDir.path key
          else none
      | _ => none

/-! ## Uploads in flight -/

inductive Answer
  | refused (response : HttpResponse)
  | updated (avatarUrl : JsString)

/-- What an upload does next: the accesses of `writeUploadFile`, the removals that are still under
way, the update of the row. An upload that has been answered may have removals under way too. -/
inductive Stage
  | mkdir
  | writeFile
  | rename
  | clear
  | prune (left : List Ext)
  | update
  | answered (answer : Answer) (left : List Ext)

structure Upload where
  temporary : Uuid
  ext : Ext
  data : List UInt8
  stage : Stage

/-- The `avatar_url` of the user, where there is a row. -/
abbrev Row : Type := Option (Option JsString)

/-- The directory of the avatars, the user, and what is there at the start. -/
structure Service where
  avatarsDir : DiskDirectory
  user : UserId
  stored : Files
  row : Row

structure Server where
  files : Files
  row : Row
  uploads : List Upload

/-- An access of an upload; of a write that throws, what is left. -/
inductive Access
  | mkdir
  | writeFile (torn : Option (List UInt8))
  | rename
  | clear
  | rm (ext : Ext)
  | update (now : Nat)

inductive Event
  | start (request : AvatarRequest)
  | access (index : Nat) (access : Access) (throws : Bool)

def Upload.answer (upload : Upload) (status : Nat) (text : String) (left : List Ext) : Upload :=
  { upload with stage := .answered (.refused (.error status (js text))) left }

namespace Service

variable (service : Service)

/-- The path that `safeResolve` gives for the file of a type. -/
def filePath (ext : Ext) : DiskPath :=
  service.avatarsDir.path ++ [service.user.val, ext.fileName]

def tempPath (upload : Upload) : DiskPath :=
  temporaryPath (service.filePath upload.ext) upload.temporary

/-- What an access leaves of the files, the row and its upload. -/
def advance (files : Files) (row : Row) (upload : Upload) (throws : Bool) :
    Access → Option (Files × Row × Upload)
  | .mkdir =>
      match upload.stage with
      | .mkdir =>
          some (files, row,
            if throws then upload.answer 500 "Avatar upload failed" []
            else { upload with stage := .writeFile })
      | _ => none
  | .writeFile torn =>
      match upload.stage with
      | .writeFile =>
          if throws then
            let left := match torn with
              | none => files
              | some part => put files (service.tempPath upload) part
            some (left, row, { upload with stage := .clear })
          else
            some (put files (service.tempPath upload) upload.data, row,
              { upload with stage := .rename })
      | _ => none
  | .rename =>
      match upload.stage with
      | .rename =>
          match files.find? fun file => file.1 = service.tempPath upload with
          | none => some (files, row, { upload with stage := .clear })
          | some file =>
              if throws then some (files, row, { upload with stage := .clear })
              else
                some (put (remove files (service.tempPath upload)) (service.filePath upload.ext)
                    file.2, row,
                  { upload with stage := .prune (ALLOWED_AVATAR_EXTS.filter (· ≠ upload.ext)) })
      | _ => none
  | .clear =>
      match upload.stage with
      | .clear =>
          some (if throws then files else remove files (service.tempPath upload), row,
            upload.answer 500 "Avatar upload failed" [])
      | _ => none
  | .rm ext =>
      match upload.stage with
      | .prune left =>
          if ext ∈ left then
            let left := left.erase ext
            if throws then some (files, row, upload.answer 500 "Avatar upload failed" left)
            else
              some (remove files (service.filePath ext), row,
                { upload with stage := if left.isEmpty then .update else .prune left })
          else none
      | .answered answer left =>
          if ext ∈ left then
            some (if throws then files else remove files (service.filePath ext), row,
              { upload with stage := .answered answer (left.erase ext) })
          else none
      | _ => none
  | .update now =>
      match upload.stage with
      | .update =>
          if throws then
            some (files, row, upload.answer 500 "Failed to update avatar URL" [])
          else
            match row with
            | none => some (files, row, upload.answer 404 "User not found" [])
            | some _ =>
                let url := avatarUrl service.user upload.ext now
                some (files, some (some url),
                  { upload with stage := .answered (.updated url) [] })
      | _ => none

/-- A request that is refused has never got to the disk. -/
def next (toLowerCase : JsString → JsString) (server : Server) : Event → Option Server
  | .start request =>
      match accept toLowerCase request with
      | .error _ => some server
      | .ok (ext, data) =>
          some { server with
            uploads := server.uploads ++ [⟨request.temporary, ext, data, .mkdir⟩] }
  | .access index access throws =>
      server.uploads[index]?.bind fun upload =>
        (service.advance server.files server.row upload throws access).map
          fun (files, row, upload) => ⟨files, row, server.uploads.set index upload⟩

def opened : Server := ⟨service.stored, service.row, []⟩

/-- Every interleaving of any number of uploads. -/
def avatarSystem (toLowerCase : JsString → JsString) : System Server Event :=
  System.ofNext (· = service.opened) (service.next toLowerCase)

/-- The file that the row of the user names. -/
def rowPath (row : Row) : Option DiskPath := row.join.bind (named service.avatarsDir)

def resolves (files : Files) (row : Row) : Bool := (service.rowPath row).any (holds files)

end Service

/-! ## Paths -/

section Paths

theorem plain_of_userId (user : UserId) (unit : UInt16)
    (other : (48 ≤ unit && unit ≤ 57 || 65 ≤ unit && unit ≤ 90 || 97 ≤ unit && unit ≤ 122 ||
      unit = 45) = false) : unit ∉ user.val := by
  intro inside
  have letters := (Bool.and_eq_true_iff.mp user.property).2
  have letter := all_eq_true.mp letters unit inside
  rw [other] at letter
  cases letter

theorem isName_userId (user : UserId) : DiskPath.IsName user.val := by
  have filled := (Bool.and_eq_true_iff.mp user.property).1
  refine ⟨?_, ?_, ?_, plain_of_userId user 47 rfl⟩
  · intro empty
    rw [empty] at filled
    cases filled
  · intro dot
    exact plain_of_userId user 46 rfl (dot ▸ by decide)
  · intro dots
    exact plain_of_userId user 46 rfl (dots ▸ by decide)

theorem isName_fileName (ext : Ext) :
    DiskPath.IsName ext.fileName ∧ (0 : UInt16) ∉ ext.fileName ∧ (63 : UInt16) ∉ ext.fileName := by
  cases ext <;> decide

theorem fileName_injective {ext other : Ext} (same : ext.fileName = other.fileName) :
    ext = other := by
  revert same
  cases ext <;> cases other <;> decide

theorem mem_allowed (ext : Ext) : ext ∈ ALLOWED_AVATAR_EXTS := by
  cases ext <;> decide

/-- `safeResolve` accepts the key of an avatar. -/
theorem safeResolve_storageKey (directory : DiskPath) (user : UserId) (ext : Ext) :
    safeResolve directory (storageKey user ext) = some (directory ++ [user.val, ext.fileName]) := by
  have key : storageKey user ext = [47].intercalate (user.val :: [ext.fileName]) := by
    rw [intercalate_cons_cons, intercalate_singleton, append_assoc]
    rfl
  rw [key]
  refine safeResolve_intercalate ?_ ?_
  · intro segment member
    rcases mem_cons.mp member with rfl | last
    · exact ⟨isName_userId user, plain_of_userId user 0 rfl⟩
    · rw [mem_singleton.mp last]
      exact ⟨(isName_fileName ext).1, (isName_fileName ext).2.1⟩
  · rw [← Bool.not_eq_true]
    intro dots
    have opening := isPrefixOf_iff_prefix.mp dots
    exact plain_of_userId user 46 rfl (opening.subset (by decide))

/-- The URL of an upload names the file of its type. -/
theorem named_avatarUrl (avatarsDir : DiskDirectory) (user : UserId) (ext : Ext) (now : Nat) :
    named avatarsDir (avatarUrl user ext now) =
      some (avatarsDir.path ++ [user.val, ext.fileName]) := by
  have plain : ∀ unit ∈ js "/api/avatars/" ++ storageKey user ext, unit ≠ 63 := by
    intro unit member query
    subst query
    rcases mem_append.mp member with opening | inside
    · revert opening
      decide
    · rcases mem_append.mp inside with id | rest
      · exact plain_of_userId user 63 rfl id
      · rcases mem_cons.mp rest with slash | last
        · cases slash
        · exact (isName_fileName ext).2.2 last
  have pathname : (avatarUrl user ext now).takeWhile (· ≠ 63) =
      js "/api/avatars/" ++ storageKey user ext := by
    have query : js "?t=" = 63 :: js "t=" := by decide
    rw [avatarUrl, query, append_assoc, cons_append,
      takeWhile_append_of_pos fun unit member => decide_eq_true (plain unit member),
      takeWhile_cons_of_neg (by decide), append_nil]
  have cut : (storageKey user ext).splitOn 47 = [user.val, ext.fileName] := by
    have last := splitOn_eq_singleton (isName_fileName ext).1.2.2.2
    rw [storageKey, splitOn_append_cons_self_of_not_mem (isName_userId user).2.2.2, last]
  have shown : ALLOWED_AVATAR_EXTS.any (fun other => ext.fileName = other.fileName) = true :=
    any_eq_true.mpr ⟨ext, mem_allowed ext, decide_eq_true rfl⟩
  unfold named
  rw [pathname, dropPrefix?_append_of_beq _ BEq.rfl]
  dsimp only
  rw [cut]
  dsimp only
  rw [shown, if_pos rfl, safeResolve_storageKey]

/-- A path whose last segment is the name of an avatar. -/
def Shown (path : DiskPath) : Prop := ∃ directory ext, path = directory ++ [Ext.fileName ext]

theorem shown_of_named {avatarsDir : DiskDirectory} {url : JsString}
    (names : named avatarsDir url = some path) : Shown path := by
  unfold named at names
  split at names
  · cases names
  · rename_i key _
    split at names
    · rename_i id filename cut
      split at names
      · rename_i known
        obtain ⟨ext, -, same⟩ := any_eq_true.mp known
        obtain rfl := of_decide_eq_true same
        have resolved := Vortex.Channels.Attachments.resolve_of_safeResolve names
        rw [DiskPath.resolve, cut, foldl_cons, foldl_cons, foldl_nil,
          DiskPath.enter_name (isName_fileName ext).1] at resolved
        exact ⟨_, ext, resolved.symm⟩
      · cases names
    · cases names

theorem shown_of_rowPath {service : Service} {row : Row} (names : service.rowPath row = some path) :
    Shown path := by
  obtain ⟨url, -, found⟩ := Option.bind_eq_some_iff.mp names
  exact shown_of_named found

theorem shown_filePath (service : Service) (ext : Ext) : Shown (service.filePath ext) :=
  ⟨service.avatarsDir.path ++ [service.user.val], ext, by
    rw [append_assoc]
    rfl⟩

/-- A temporary file is none that an avatar may have. -/
theorem tempPath_ne_of_shown {service : Service} {upload : Upload} (shown : Shown path) :
    path ≠ service.tempPath upload := by
  obtain ⟨directory, ext, rfl⟩ := shown
  intro same
  have last := congrArg List.getLast? same
  rw [getLast?_concat, Service.tempPath, temporaryPath, getLast?_concat] at last
  have opening := Option.some.inj last
  revert opening
  cases ext <;> exact fun opening => nomatch opening

theorem filePath_injective {service : Service} {ext other : Ext}
    (same : service.filePath ext = service.filePath other) : ext = other := by
  have last := append_cancel_left same
  exact fileName_injective (cons.inj (cons.inj last).2).1

theorem holds_put_iff {files : Files} {data : List UInt8} :
    holds (put files path data) other = true ↔ other = path ∨ holds files other = true := by
  constructor
  · exact Vortex.Channels.Uploads.holds_put
  · intro either
    by_cases same : other = path
    · subst same
      exact any_eq_true.mpr ⟨_, mem_cons_self, decide_eq_true rfl⟩
    · obtain ⟨file, member, here⟩ := any_eq_true.mp (either.resolve_left same)
      have kept : file.1 ≠ path := of_decide_eq_true here ▸ same
      exact any_eq_true.mpr ⟨file,
        mem_cons_of_mem _ (mem_filter.mpr ⟨member, decide_eq_true kept⟩), here⟩

theorem holds_remove_of_ne {files : Files} (differ : other ≠ path) :
    holds (remove files path) other = holds files other := by
  rw [Bool.eq_iff_iff]
  constructor
  · exact Vortex.Channels.Uploads.holds_remove
  · intro held
    obtain ⟨file, member, here⟩ := any_eq_true.mp held
    have kept : file.1 ≠ path := of_decide_eq_true here ▸ differ
    exact any_eq_true.mpr ⟨file, mem_filter.mpr ⟨member, decide_eq_true kept⟩, here⟩

theorem holds_put_of_ne {files : Files} {data : List UInt8} (differ : other ≠ path) :
    holds (put files path data) other = holds files other := by
  rw [Bool.eq_iff_iff, holds_put_iff, or_iff_right differ]

end Paths

/-! ## When it is there -/

namespace Upload

variable (upload : Upload)

/-- The upload has put its file in place and is still to update the row. -/
def underWay : Bool :=
  match upload.stage with
  | .prune _ | .update => true
  | _ => false

def succeeded : Bool :=
  match upload.stage with
  | .answered (.updated _) _ => true
  | _ => false

def finished : Bool :=
  match upload.stage with
  | .answered _ _ => true
  | _ => false

end Upload

section Guard

variable (service : Service) (server : Server)

/-- There was a file at the start, or an upload has succeeded. -/
def owed : Bool :=
  service.resolves service.stored service.row || server.uploads.any Upload.succeeded

/-- No upload whose file is in place, and which is still to update the row, has it of this type. -/
def spared (ext : Ext) : Bool :=
  server.uploads.all fun upload => !(upload.underWay && upload.ext = ext)

/-- An upload may fail after its removals: nothing is owed, the file that the row names is there,
or another upload whose file is in place is still to update the row. -/
def backed (index : Nat) : Bool :=
  !owed service server || service.resolves server.files server.row ||
    (server.uploads.eraseIdx index).any Upload.underWay

/-- A removal may outlive its upload: nothing is owed, it does not take the file that the row names,
or an upload whose file is in place is still to update the row. -/
def unneeded (ext : Ext) : Bool :=
  !owed service server || service.rowPath server.row ≠ some (service.filePath ext) ||
    server.uploads.any Upload.underWay

/-- No removal takes the file of an upload that is still to let the row name it, and no upload ends
in an error, nor does what it has left behind go on, so that the row is left with a removed file. -/
def careful : Event → Bool
  | .start _ => true
  | .access index access throws =>
      match server.uploads[index]? with
      | none => true
      | some upload =>
          match access with
          | .rm ext =>
              match upload.stage with
              | .prune _ => if throws then backed service server index else spared server ext
              | _ => throws || spared server ext && unneeded service server ext
          | .update _ => !throws && server.row.isSome || backed service server index
          | _ => true

def Careful (event : Event) : Prop := careful service server event = true

/-- What a run with such steps keeps. -/
structure Kept : Prop where
  placed : ∀ upload ∈ server.uploads, upload.underWay = true →
    holds server.files (service.filePath upload.ext) = true
  own : ∀ upload ∈ server.uploads, ∀ left, upload.stage = .prune left → upload.ext ∉ left
  resolved : owed service server = true → service.resolves server.files server.row = true ∨
    server.uploads.any Upload.underWay = true

end Guard

section Steps

variable {service : Service} {server : Server} {index : Nat} {upload moved : Upload}
    {files : Files} {row : Row}

/-- What a list says of its elements, after one of them was replaced. -/
theorem any_set {α : Type} {list : List α} {before after : α} {p : α → Bool}
    (found : list[index]? = some before) (same : p after = p before) :
    (list.set index after).any p = list.any p := by
  induction list generalizing index with
  | nil => rfl
  | cons first rest ih =>
    cases index with
    | zero =>
      cases found
      rw [set_cons_zero, any_cons, any_cons, same]
    | succ index => rw [set_cons_succ, any_cons, any_cons, ih found]

theorem any_set_of_not {α : Type} {list : List α} {after : α} {p : α → Bool}
    (absent : p after = false) : (list.set index after).any p = (list.eraseIdx index).any p := by
  induction list generalizing index with
  | nil => rfl
  | cons first rest ih =>
    cases index with
    | zero => rw [set_cons_zero, any_cons, absent, Bool.false_or, eraseIdx_cons_zero]
    | succ index =>
      rw [set_cons_succ, any_cons, eraseIdx_cons_succ, any_cons, ih]

theorem any_set_self {α : Type} {list : List α} {before after : α} {p : α → Bool}
    (found : list[index]? = some before) (holds : p after = true) :
    (list.set index after).any p = true :=
  any_eq_true.mpr ⟨after, mem_set (List.getElem?_eq_some_iff.mp found).1 after, holds⟩

/-- Whether something is owed changes when an upload succeeds, and then only. -/
theorem owed_set (found : server.uploads[index]? = some upload)
    (same : moved.succeeded = upload.succeeded) :
    owed service ⟨files, row, server.uploads.set index moved⟩ = owed service server := by
  unfold owed
  rw [any_set found same]

theorem own_of_not (after : moved.underWay = false) (left : List Ext)
    (stage : moved.stage = .prune left) : moved.ext ∉ left := by
  rw [Upload.underWay, stage] at after
  cases after

section

variable (kept : Kept service server)

include kept

theorem Kept.own_set (own : ∀ left, moved.stage = .prune left → moved.ext ∉ left) :
    ∀ other ∈ server.uploads.set index moved, ∀ left, other.stage = .prune left →
      other.ext ∉ left := by
  intro other member left stage
  rcases mem_or_eq_of_mem_set member with earlier | rfl
  · exact kept.own other earlier left stage
  · exact own left stage

theorem Kept.placed_set (alike : ∀ path, Shown path → holds files path = holds server.files path)
    (after : moved.underWay = false) :
    ∀ other ∈ server.uploads.set index moved, other.underWay = true →
      holds files (service.filePath other.ext) = true := by
  intro other member way
  rcases mem_or_eq_of_mem_set member with earlier | rfl
  · rw [alike _ (shown_filePath service other.ext)]
    exact kept.placed other earlier way
  · rw [after] at way
    cases way

section

variable (found : server.uploads[index]? = some upload)

include found

/-- A step of an upload that has no file in place yet, or has been answered. -/
theorem Kept.quiet
    (alike : ∀ path, Shown path → holds files path = holds server.files path)
    (before : upload.underWay = false) (after : moved.underWay = false)
    (same : moved.succeeded = upload.succeeded) :
    Kept service ⟨files, server.row, server.uploads.set index moved⟩ where
  placed := kept.placed_set alike after
  own := kept.own_set (own_of_not after)
  resolved := by
    rw [owed_set found same, any_set found (after.trans before.symm)]
    intro due
    refine (kept.resolved due).imp_left ?_
    unfold Service.resolves
    cases names : service.rowPath server.row with
    | none => exact id
    | some path =>
      dsimp only [Option.any_some]
      rw [alike path (shown_of_rowPath names)]
      exact id

/-- A rename puts the file of an upload in place. -/
theorem Kept.rename
    (data : List UInt8) :
    Kept service ⟨put (remove server.files (service.tempPath upload))
        (service.filePath upload.ext) data, server.row,
      server.uploads.set index
        { upload with stage := .prune (ALLOWED_AVATAR_EXTS.filter (· ≠ upload.ext)) }⟩ where
  placed := by
    intro other member way
    rcases mem_or_eq_of_mem_set member with earlier | rfl
    · apply holds_put_iff.mpr
      right
      rw [holds_remove_of_ne (tempPath_ne_of_shown (shown_filePath service other.ext))]
      exact kept.placed other earlier way
    · exact holds_put_iff.mpr (.inl rfl)
  own := by
    apply kept.own_set
    intro left stage inside
    obtain rfl := Stage.prune.inj stage
    exact of_decide_eq_true (mem_filter.mp inside).2 rfl
  resolved := fun _ => .inr (any_set_self found rfl)

/-- A removal that takes the file of no upload under way. -/
theorem Kept.remove
    {ext : Ext} (free : spared server ext = true) (type : moved.ext = upload.ext)
    (way : moved.underWay = upload.underWay) (same : moved.succeeded = upload.succeeded)
    (own : ∀ left, moved.stage = .prune left → moved.ext ∉ left)
    (needless : unneeded service server ext = true) :
    Kept service ⟨Vortex.Channels.Uploads.remove server.files (service.filePath ext), server.row,
      server.uploads.set index moved⟩ where
  placed := by
    have old : ∀ other ∈ server.uploads, other.underWay = true →
        holds (Vortex.Channels.Uploads.remove server.files (service.filePath ext)) (service.filePath other.ext) =
          true := by
      intro other member way
      have differ : other.ext ≠ ext := by
        have apart := all_eq_true.mp free other member
        rw [way, Bool.true_and, Bool.not_eq_true', decide_eq_false_iff_not] at apart
        exact apart
      rw [holds_remove_of_ne fun paths => differ (filePath_injective paths)]
      exact kept.placed other member way
    intro other member active
    rcases mem_or_eq_of_mem_set member with earlier | rfl
    · exact old other earlier active
    · rw [type]
      rw [way] at active
      exact old upload (mem_of_getElem? found) active
  own := kept.own_set own
  resolved := by
    rw [owed_set found same, any_set found way]
    intro due
    rcases kept.resolved due with there | active
    · unfold unneeded at needless
      rw [due, Bool.not_true, Bool.false_or, Bool.or_eq_true, decide_eq_true_eq] at needless
      refine needless.imp_left fun differ => ?_
      unfold Service.resolves at there ⊢
      cases names : service.rowPath server.row with
      | none =>
        rw [names] at there
        cases there
      | some path =>
        rw [names] at there differ
        dsimp only [Option.any_some] at there ⊢
        rw [holds_remove_of_ne fun paths => differ (congrArg some paths)]
        exact there
    · exact .inr active

/-- An upload ends in an error after its removals. -/
theorem Kept.fail
    (covered : backed service server index = true) (after : moved.underWay = false)
    (same : moved.succeeded = upload.succeeded) :
    Kept service ⟨server.files, server.row, server.uploads.set index moved⟩ where
  placed := kept.placed_set (fun _ _ => rfl) after
  own := kept.own_set (own_of_not after)
  resolved := by
    rw [owed_set found same, any_set_of_not after]
    intro due
    unfold backed at covered
    rw [due, Bool.not_true, Bool.false_or, Bool.or_eq_true] at covered
    exact covered

/-- An upload lets the row name its file. -/
theorem Kept.update
    (way : upload.underWay = true) (after : moved.underWay = false) (now : Nat) :
    Kept service ⟨server.files, some (some (avatarUrl service.user upload.ext now)),
      server.uploads.set index moved⟩ where
  placed := kept.placed_set (fun _ _ => rfl) after
  own := kept.own_set (own_of_not after)
  resolved := by
    intro _
    left
    have names : service.rowPath (some (some (avatarUrl service.user upload.ext now))) =
        some (service.filePath upload.ext) := named_avatarUrl ..
    unfold Service.resolves
    rw [names]
    exact kept.placed upload (mem_of_getElem? found) way

end

/-- A new upload has no file in place yet. -/
theorem Kept.start (temporary : Uuid) (ext : Ext)
    (data : List UInt8) :
    Kept service { server with uploads := server.uploads ++ [⟨temporary, ext, data, .mkdir⟩] } where
  placed := by
    intro other member way
    rcases mem_append.mp member with earlier | now
    · exact kept.placed other earlier way
    · obtain rfl := mem_singleton.mp now
      cases way
  own := by
    intro other member left stage
    rcases mem_append.mp member with earlier | now
    · exact kept.own other earlier left stage
    · obtain rfl := mem_singleton.mp now
      cases stage
  resolved := by
    have due : owed service { server with
        uploads := server.uploads ++ [⟨temporary, ext, data, .mkdir⟩] } = owed service server := by
      unfold owed
      rw [any_append]
      exact congrArg _ (Bool.or_false _)
    rw [due, any_append]
    exact fun owes => (kept.resolved owes).imp_right fun active => by rw [active, Bool.true_or]

section

variable (found : server.uploads[index]? = some upload)

include found

/-- Accesses of an upload that has no file in place yet. -/
theorem Kept.write {access : Access} {throws : Bool} (before : upload.underWay = false)
    (pending : upload.finished = false)
    (advanced : service.advance server.files server.row upload throws access =
      some (files, row, moved)) : Kept service ⟨files, row, server.uploads.set index moved⟩ := by
  have fresh : upload.succeeded = false := by
    unfold Upload.succeeded
    unfold Upload.finished at pending
    split
    · rename_i stage
      rw [stage] at pending
      cases pending
    · rfl
  have same {path : DiskPath} (shown : Shown path) : path ≠ service.tempPath upload :=
    tempPath_ne_of_shown shown
  cases access with
  | mkdir =>
    unfold Service.advance at advanced
    dsimp only at advanced
    split at advanced
    · cases advanced
      refine kept.quiet found (fun _ _ => rfl) before ?_ ?_
      · cases throws <;> rfl
      · rw [fresh]
        cases throws <;> rfl
    · cases advanced
  | writeFile torn =>
    unfold Service.advance at advanced
    dsimp only at advanced
    split at advanced
    · split at advanced
      · cases advanced
        refine kept.quiet found (fun path shown => ?_) before rfl fresh.symm
        cases torn with
        | none => rfl
        | some part => exact holds_put_of_ne (same shown)
      · cases advanced
        exact kept.quiet found (fun path shown => holds_put_of_ne (same shown)) before rfl
          fresh.symm
    · cases advanced
  | rename =>
    unfold Service.advance at advanced
    dsimp only at advanced
    split at advanced
    · split at advanced
      · cases advanced
        exact kept.quiet found (fun _ _ => rfl) before rfl fresh.symm
      · split at advanced
        · cases advanced
          exact kept.quiet found (fun _ _ => rfl) before rfl fresh.symm
        · cases advanced
          exact kept.rename found _
    · cases advanced
  | clear =>
    unfold Service.advance at advanced
    dsimp only at advanced
    split at advanced
    · cases advanced
      refine kept.quiet found (fun path shown => ?_) before rfl fresh.symm
      cases throws with
      | false => exact holds_remove_of_ne (same shown)
      | true => rfl
    · cases advanced
  | rm ext =>
    unfold Service.advance at advanced
    dsimp only at advanced
    split at advanced
    · rename_i stage
      rw [Upload.underWay, stage] at before
      cases before
    · rename_i stage
      rw [Upload.finished, stage] at pending
      cases pending
    · cases advanced
  | update now =>
    unfold Service.advance at advanced
    dsimp only at advanced
    split at advanced
    · rename_i stage
      rw [Upload.underWay, stage] at before
      cases before
    · cases advanced

/-- One of the removals of an upload. -/
theorem Kept.prune
    {left : List Ext} (stage : upload.stage = .prune left) {ext : Ext} {throws : Bool}
    (admitted : (if throws then backed service server index else spared server ext) = true)
    (advanced : service.advance server.files server.row upload throws (.rm ext) =
      some (files, row, moved)) : Kept service ⟨files, row, server.uploads.set index moved⟩ := by
  have way : upload.underWay = true := by rw [Upload.underWay, stage]
  have fresh : upload.succeeded = false := by rw [Upload.succeeded, stage]
  unfold Service.advance at advanced
  dsimp only at advanced
  rw [stage] at advanced
  dsimp only at advanced
  split at advanced
  · cases throws with
    | true =>
      cases advanced
      exact kept.fail found admitted rfl fresh.symm
    | false =>
      cases advanced
      have active : server.uploads.any Upload.underWay = true :=
        any_eq_true.mpr ⟨upload, mem_of_getElem? found, way⟩
      refine kept.remove found admitted rfl ?_ ?_ ?_ ?_
      · rw [way]
        cases (left.erase ext).isEmpty <;> rfl
      · rw [fresh]
        cases (left.erase ext).isEmpty <;> rfl
      · intro rest renewed inside
        have own := kept.own upload (mem_of_getElem? found) left stage
        dsimp only at renewed inside
        split at renewed
        · cases renewed
        · obtain rfl := Stage.prune.inj renewed
          exact own (mem_of_mem_erase inside)
      · unfold unneeded
        rw [active, Bool.or_true]
  · cases advanced

/-- A removal that an answered upload has left behind. -/
theorem Kept.outlive
    {answer : Answer} {left : List Ext} (stage : upload.stage = .answered answer left) {ext : Ext}
    {throws : Bool} (admitted : (throws || spared server ext && unneeded service server ext) = true)
    (advanced : service.advance server.files server.row upload throws (.rm ext) =
      some (files, row, moved)) : Kept service ⟨files, row, server.uploads.set index moved⟩ := by
  have idle : upload.underWay = false := by rw [Upload.underWay, stage]
  unfold Service.advance at advanced
  dsimp only at advanced
  rw [stage] at advanced
  dsimp only at advanced
  split at advanced
  · cases throws with
    | true =>
      cases advanced
      refine kept.quiet found (fun _ _ => rfl) idle rfl ?_
      rw [Upload.succeeded, Upload.succeeded, stage]
      cases answer <;> rfl
    | false =>
      cases advanced
      obtain ⟨free, needless⟩ := Bool.and_eq_true_iff.mp admitted
      refine kept.remove found free rfl idle.symm ?_ ?_ needless
      · rw [Upload.succeeded, Upload.succeeded, stage]
        cases answer <;> rfl
      · exact own_of_not rfl
  · cases advanced

/-- The last access of an upload. -/
theorem Kept.finish (stage : upload.stage = .update) {now : Nat} {throws : Bool}
    (admitted : (!throws && server.row.isSome || backed service server index) = true)
    (advanced : service.advance server.files server.row upload throws (.update now) =
      some (files, row, moved)) : Kept service ⟨files, row, server.uploads.set index moved⟩ := by
  have way : upload.underWay = true := by rw [Upload.underWay, stage]
  have fresh : upload.succeeded = false := by rw [Upload.succeeded, stage]
  unfold Service.advance at advanced
  dsimp only at advanced
  rw [stage] at advanced
  dsimp only at advanced
  cases throws with
  | true =>
    cases advanced
    exact kept.fail found admitted rfl fresh.symm
  | false =>
    cases present : server.row with
    | none =>
      rw [present] at advanced admitted
      cases advanced
      rw [← present]
      exact kept.fail found admitted rfl fresh.symm
    | some old =>
      rw [present] at advanced
      cases advanced
      exact kept.update found way rfl now

end

/-- One step of a run keeps it. -/
theorem Kept.step {toLowerCase : JsString → JsString} {after : Server} {event : Event}
    (admitted : Careful service server event)
    (moved : service.next toLowerCase server event = some after) : Kept service after := by
  cases event with
  | start request =>
    unfold Service.next at moved
    dsimp only at moved
    split at moved
    · cases moved
      exact kept
    · cases moved
      exact kept.start _ _ _
  | access index access throws =>
    obtain ⟨upload, found, rest⟩ := Option.bind_eq_some_iff.mp moved
    obtain ⟨⟨files, row, changed⟩, advanced, rfl⟩ := Option.map_eq_some_iff.mp rest
    unfold Careful careful at admitted
    dsimp only at admitted
    rw [found] at admitted
    dsimp only at admitted
    cases stage : upload.stage with
    | prune left =>
      cases access with
      | rm ext =>
        rw [stage] at admitted
        exact kept.prune found stage admitted advanced
      | _ => simp [Service.advance, stage] at advanced
    | update =>
      cases access with
      | update now => exact kept.finish found stage admitted advanced
      | _ => simp [Service.advance, stage] at advanced
    | answered answer left =>
      cases access with
      | rm ext =>
        rw [stage] at admitted
        exact kept.outlive found stage admitted advanced
      | _ => simp [Service.advance, stage] at advanced
    | _ =>
      refine kept.write found ?_ ?_ advanced
      · rw [Upload.underWay, stage]
      · rw [Upload.finished, stage]

end

theorem avatars_of_reachable {toLowerCase : JsString → JsString}
    (reached : (service.avatarSystem toLowerCase).Reachable (Careful service) server) :
    Kept service server := by
  refine reached.invariant (P := Kept service) ?_ ?_
  · intro state opened
    obtain rfl : state = service.opened := opened
    constructor
    · exact fun _ member => nomatch member
    · exact fun _ member => nomatch member
    · intro due
      left
      rw [owed, Bool.or_eq_true] at due
      exact due.resolve_right fun any => nomatch any
  · intro before event after _ kept admitted moved
    exact kept.step admitted moved

end Steps

namespace Sample

def service : Service where
  avatarsDir := ⟨[js "data", js "avatars"], by decide⟩
  user := ⟨js "alice", by decide⟩
  stored := [([js "data", js "avatars", js "alice", js "avatar.png"], [1])]
  row := some (some (js "/api/avatars/alice/avatar.png?t=1"))

def request (file : AvatarFile) (temporary : Uuid) : AvatarRequest where
  authError := .ok none
  contentType := some (js "multipart/form-data; boundary=x")
  avatarVal := .ok (some (.file file))
  temporary := temporary

theorem isUuid_first :
    Channels.Attachments.isUuid (js "00000000-0000-4000-8000-000000000001") = true := by decide

theorem isUuid_second :
    Channels.Attachments.isUuid (js "00000000-0000-4000-8000-000000000002") = true := by decide

def jpg : AvatarRequest :=
  request ⟨js "me.jpg", js "image/jpeg", [0xFF, 0xD8, 0xFF]⟩
    ⟨js "00000000-0000-4000-8000-000000000001", isUuid_first⟩

def gif : AvatarRequest :=
  request ⟨js "me.gif", js "image/gif", [0x47, 0x49, 0x46, 0x38]⟩
    ⟨js "00000000-0000-4000-8000-000000000002", isUuid_second⟩

def written (index : Nat) : List Event :=
  [.access index .mkdir false, .access index (.writeFile none) false, .access index .rename false]

def pruned (index : Nat) (exts : List Ext) : List Event :=
  exts.map fun ext => .access index (.rm ext) false

/-- One upload, of another type than the file before it. -/
def replacing : List Event :=
  .start jpg :: written 0 ++ pruned 0 [.png, .jpeg, .webp, .gif] ++ [.access 0 (.update 2) false]

/-- Two uploads that remove the files of one another. -/
def crossing : List Event :=
  .start jpg :: .start gif :: written 0 ++ written 1 ++ pruned 0 [.png, .jpeg, .webp, .gif] ++
    pruned 1 [.png, .jpeg, .webp, .jpg] ++ [.access 0 (.update 2) false, .access 1 (.update 3) false]

theorem replacing_completes :
    (System.follow (careful service) (service.next id) service.opened replacing).isSome := by
  decide

theorem crossing_completes :
    (System.follow System.unchecked (service.next id) service.opened crossing).isSome := by
  decide

def replaced : Server := (System.follow _ _ _ replacing).get replacing_completes

def crossed : Server := (System.follow _ _ _ crossing).get crossing_completes

theorem replaced_reachable : (service.avatarSystem id).Reachable (Careful service) replaced :=
  (System.Reachable.initial rfl).steps
    (System.steps_of_follow (fun _ _ admitted => admitted) (Option.some_get _).symm)

theorem crossed_reachable : (service.avatarSystem id).Reachable System.unguarded crossed :=
  (System.Reachable.initial rfl).steps
    (System.steps_of_follow System.unchecked_sound (Option.some_get _).symm)

end Sample

end Vortex.Accounts.Avatars
