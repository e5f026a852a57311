import Vortex.Channels.Isolation

/-!
# Where uploads are written

`safeResolve` never leaves its directory. `writeUploadFile` creates the directory of a file, writes
a temporary file there and renames it; here each of these is atomic, and uploads interleave with
one another and with what removes files. Whatever an upload writes lies below the directory of its
channel and takes the place of no other file, as long as no random id is drawn twice.
-/

namespace Vortex.Channels.Attachments

open Foundation
open Vortex.Web (startsWith)

/-! ## Containment -/

section Containment

variable {baseDir : DiskPath} {key : JsString} {path : DiskPath}

theorem resolve_of_safeResolve (inside : safeResolve baseDir key = some path) :
    DiskPath.resolve baseDir key = path := by
  unfold safeResolve at inside
  split at inside
  · cases inside
  · dsimp only at inside
    split at inside
    · cases inside
    · exact Option.some.inj inside

theorem prefix_of_safeResolve (inside : safeResolve baseDir key = some path) :
    baseDir <+: path := by
  have same := resolve_of_safeResolve inside
  by_contra outside
  have leaves := DiskPath.isPrefix_relative outside
  unfold safeResolve at inside
  rw [same] at inside
  split at inside
  · cases inside
  · have rejected : startsWith (DiskPath.relative baseDir path) (js "..") = true :=
      List.isPrefixOf_iff_prefix.mpr leaves
    simp [rejected] at inside

/-- A key that only enters directories of ordinary names is accepted. -/
theorem safeResolve_intercalate {first : JsString} {rest : List JsString}
    (names : ∀ segment ∈ first :: rest, DiskPath.IsName segment ∧ (0 : UInt16) ∉ segment)
    (opens : startsWith first (js "..") = false) :
    safeResolve baseDir ([47].intercalate (first :: rest)) = some (baseDir ++ first :: rest) := by
  obtain ⟨⟨some, stay, leave, whole⟩, -⟩ := names first List.mem_cons_self
  obtain ⟨unit, others, rfl⟩ := List.exists_cons_of_ne_nil some
  have slash : unit ≠ 47 := fun same => whole (same ▸ List.mem_cons_self)
  obtain ⟨later, written⟩ : ∃ later, [47].intercalate ((unit :: others) :: rest) =
      (unit :: others) ++ later := by
    cases rest with
    | nil => exact ⟨[], by rw [List.intercalate_singleton, List.append_nil]⟩
    | cons next rest => exact ⟨_, by rw [List.intercalate_cons_cons, List.append_assoc]⟩
  have split := List.splitOn_intercalate (47 : UInt16)
    (fun segment member => (names segment member).1.2.2.2) (List.cons_ne_nil (unit :: others) rest)
  have relative : ([47].intercalate ((unit :: others) :: rest)).head? ≠ Option.some 47 := by
    rw [written]
    exact fun same => slash (Option.some.inj same)
  have entered : DiskPath.resolve baseDir ([47].intercalate ((unit :: others) :: rest)) =
      baseDir ++ (unit :: others) :: rest := by
    rw [DiskPath.resolve, split, if_neg relative]
    exact DiskPath.foldl_enter_names fun segment member => (names segment member).1
  have inside : startsWith ([47].intercalate ((unit :: others) :: rest)) (js "..") = false := by
    rw [← Bool.not_eq_true]
    intro dots
    have two : js ".." = [46, 46] := by decide
    rw [written, two] at dots
    rw [two] at opens
    have shown := List.isPrefixOf_iff_prefix.mp dots
    rw [List.cons_append, List.cons_prefix_cons] at shown
    obtain ⟨same, shown⟩ := shown
    cases others with
    | nil =>
      exact stay (by rw [← same]; decide)
    | cons second others =>
      rw [List.cons_append, List.cons_prefix_cons] at shown
      have opened : startsWith (unit :: second :: others) [46, 46] = true := by
        rw [← same, ← shown.1]
        rfl
      rw [opened] at opens
      cases opens
  have plain : ([47].intercalate ((unit :: others) :: rest)).contains 0 = false := by
    rw [← Bool.not_eq_true, List.contains_iff_mem]
    intro zero
    rcases mem_of_mem_intercalate zero with ⟨segment, member, within⟩ | separator
    · exact (names segment member).2 within
    · cases List.mem_singleton.mp separator
  have filled : ([47].intercalate ((unit :: others) :: rest)).isEmpty = false := by
    rw [written]
    rfl
  unfold safeResolve
  rw [filled, plain, entered]
  dsimp only
  rw [DiskPath.relative_append, inside]
  simp [slash]

end Containment

end Vortex.Channels.Attachments

variable {path : DiskPath} {opening : JsString}

namespace Vortex.Channels.Uploads

open Foundation
open Attachments (Uuid isUuid_spec not_mem_extension resolve_of_safeResolve safeResolve)
open Vortex.Web (startsWith)

/-! ## Accesses -/

inductive DiskAccess
  | verifyMembership (channelId userId : JsString)
  | mkdir (path : DiskPath)
  | writeFile (path : DiskPath) (data : List UInt8)
  | rename (source target : DiskPath)
  | rm (path : DiskPath)

/-- The path at which an access leaves a file. -/
def DiskAccess.written : DiskAccess → Option DiskPath
  | .writeFile path _ | .rename _ path => some path
  | _ => none

/-- An access throws, or it says what it has found. -/
def disk : Interface where
  Request := DiskAccess
  Answer
    | .verifyMembership _ _ => Except Unit Bool
    | .mkdir _ | .writeFile _ _ | .rename _ _ | .rm _ => Except Unit Unit

inductive DiskRoute
  /-- A request with a file, its bytes, and the ids that are drawn for the file and the
  temporary file. -/
  | upload (file : Option Upload) (data : List UInt8) (drawn temporary : Uuid)
  /-- Whatever deletes a file by its key. -/
  | deleteUploadFile (key : JsString)

/-- What the rest of the system answers to one request: the user of the session, whether the rate
limit is exceeded, which accesses throw, and what is left of a write that throws. -/
structure DiskCall where
  user : Option JsString
  channelId : JsString
  route : DiskRoute
  limited : Bool
  fails : DiskAccess → Bool
  torn : Option (List UInt8)

inductive UploadResponse
  | refused (response : HttpResponse)
  | uploaded (key : JsString) (file : Upload)
  | removed

abbrev DiskProc : Type := Proc disk Empty UploadResponse

def ask (access : DiskAccess) : Proc disk Empty (disk.Answer access) :=
  Proc.request (I := disk) access

/-! ## Requests -/

/-- The directory of the attachments, who is a member of what, and the files that are there at the
start. -/
structure UploadStore where
  attachmentsDir : DiskDirectory
  isMember : JsString → JsString → Bool
  stored : List (DiskPath × List UInt8)

def temporaryPath (filePath : DiskPath) (temporary : Uuid) : DiskPath :=
  filePath.dropLast ++ [js ".upload-" ++ temporary.val ++ js ".tmp"]

section

variable (store : UploadStore)

/-- `writeUploadFile` -/
def writeUploadFile (key : JsString) (data : List UInt8) (temporary : Uuid) :
    Proc disk Empty (Except Unit Unit) :=
  match safeResolve store.attachmentsDir.path key with
  | none => return .error ()
  | some filePath => do
      match (← ask (.mkdir filePath.dropLast) : Except Unit Unit) with
      | .error () => return .error ()
      | .ok () =>
          let tempPath := temporaryPath filePath temporary
          match (← ask (.writeFile tempPath data) : Except Unit Unit) with
          | .error () => .await (.rm tempPath) fun _ => return .error ()
          | .ok () =>
              match (← ask (.rename tempPath filePath) : Except Unit Unit) with
              | .error () => .await (.rm tempPath) fun _ => return .error ()
              | .ok () => return .ok ()

def uploadKey (channelId : JsString) (drawn : Uuid) (file : Upload) : JsString :=
  attachmentPrefix channelId ++ drawn.val ++ 46 :: extension file.name

def refuse (status : Nat) (text : String) : DiskProc :=
  return .refused (.error status (js text))

/-- `POST .../attachments` -/
def upload (call : DiskCall) (user : JsString) (file : Option Upload) (data : List UInt8)
    (drawn temporary : Uuid) : DiskProc :=
  if call.limited then return .refused tooMany
  else do
    match (← ask (.verifyMembership call.channelId user) : Except Unit Bool) with
    | .error () => refuse 500 "Failed to verify membership"
    | .ok false => refuse 403 "Forbidden"
    | .ok true =>
        match file with
        | none => refuse 400 "A file is required"
        | some file =>
            match file.refusal with
            | some text => return .refused (.error 400 text)
            | none => do
                let key := uploadKey call.channelId drawn file
                match ← writeUploadFile store key data temporary with
                | .error () => refuse 500 "File upload failed"
                | .ok () => return .uploaded key file

/-- `deleteUploadFile` -/
def deleteUploadFile (key : JsString) : DiskProc :=
  match safeResolve store.attachmentsDir.path key with
  | none => return .removed
  | some filePath => .await (.rm filePath) fun _ => return .removed

def diskProgram (call : DiskCall) : DiskProc :=
  match call.route with
  | .upload file data drawn temporary =>
      match call.user with
      | none => refuse 401 "Unauthorized"
      | some user => upload store call user file data drawn temporary
  | .deleteUploadFile key => deleteUploadFile store key

/-! ## Execution -/

abbrev Files : Type := List (DiskPath × List UInt8)

/-- A file lies at a path. -/
def holds (files : Files) (path : DiskPath) : Bool := files.any fun file => file.1 = path

def put (files : Files) (path : DiskPath) (data : List UInt8) : Files :=
  (path, data) :: files.filter fun file => file.1 ≠ path

def remove (files : Files) (path : DiskPath) : Files := files.filter fun file => file.1 ≠ path

def diskHandle (call : DiskCall) : Handler disk Files
  | .verifyMembership channelId userId, files =>
      some ((if call.fails (.verifyMembership channelId userId) then .error ()
        else .ok (store.isMember channelId userId) : Except Unit Bool), files)
  | .mkdir path, files =>
      some ((if call.fails (.mkdir path) then .error () else .ok () : Except Unit Unit), files)
  | .writeFile path data, files =>
      if call.fails (.writeFile path data) then
        some ((.error () : Except Unit Unit), match call.torn with
          | none => files
          | some part => put files path part)
      else some ((.ok () : Except Unit Unit), put files path data)
  | .rename source target, files =>
      match files.find? fun file => file.1 = source with
      | none => some ((.error () : Except Unit Unit), files)
      | some file =>
          if call.fails (.rename source target) then some ((.error () : Except Unit Unit), files)
          else some ((.ok () : Except Unit Unit), put (remove files source) target file.2)
  | .rm path, files =>
      if call.fails (.rm path) then some ((.error () : Except Unit Unit), files)
      else some ((.ok () : Except Unit Unit), remove files path)

abbrev DiskPool : Type := Pool disk Empty UploadResponse DiskCall Files

/-- Every interleaving of any number of uploads and deletions. -/
def diskSystem : System DiskPool (Turn DiskCall) :=
  Pool.system (fun files => files = store.stored) (diskProgram store) fun _ call =>
    diskHandle store call

end

/-! ## Where the files go -/

def DiskCall.ids (call : DiskCall) : List Uuid :=
  match call.route with
  | .upload _ _ drawn temporary => [drawn, temporary]
  | .deleteUploadFile _ => []

/-- The directory of a channel. -/
def UploadStore.directory (store : UploadStore) (channelId : JsString) : DiskPath :=
  (store.attachmentsDir.resolve (js "dm-attachments/" ++ channelId)).path

/-- A path is strictly below another one. -/
def Below (directory path : DiskPath) : Prop := directory <+: path ∧ directory ≠ path

/-- A call uploads a file to a path. -/
def IsTarget (store : UploadStore) (call : DiskCall) (drawn temporary : Uuid)
    (filePath : DiskPath) :
    Prop :=
  ∃ file data, call.route = .upload (some file) data drawn temporary ∧
    safeResolve store.attachmentsDir.path (uploadKey call.channelId drawn file) = some filePath

/-- The last segment of a path with a point in it. -/
def dotted (path : DiskPath) : Option JsString :=
  path.reverse.find? fun segment => segment.contains 46

/-- The name of an uploaded file up to the first slash of its extension. -/
def fileSegment (drawn : Uuid) (opening : JsString) : JsString := drawn.val ++ 46 :: opening

def temporarySegment (temporary : Uuid) : JsString := js ".upload-" ++ temporary.val ++ js ".tmp"

section Paths

variable {store : UploadStore} {call : DiskCall} {drawn temporary other : Uuid}
    {filePath : DiskPath}

theorem not_mem_uuid (id : Uuid) : (46 : UInt16) ∉ id.val ∧ (47 : UInt16) ∉ id.val :=
  have letters := (isUuid_spec id.property).2
  ⟨letters 46 (by decide) rfl, letters 47 (by decide) rfl⟩

/-- The cuts of a text with something in front of it. -/
theorem splitOn_append {separator : UInt16} {text : JsString} (plain : separator ∉ opening) :
    (opening ++ text).splitOn separator = (text.splitOn separator).modifyHead (opening ++ ·) := by
  induction opening with
  | nil =>
    have same : (fun rest : JsString => [] ++ rest) = id := rfl
    rw [same, List.modifyHead_id]
    rfl
  | cons unit rest ih =>
    obtain ⟨here, later⟩ := not_or.mp (List.mem_cons.not.mp plain)
    have differs : (unit == separator) = false := beq_eq_false_iff_ne.mpr (Ne.symm here)
    rw [List.cons_append, List.splitOn_cons_eq_if_modifyHead, differs, ih later,
      List.modifyHead_modifyHead]
    rfl

theorem dotted_append {directory names : DiskPath} {segment : JsString}
    (point : (46 : UInt16) ∈ segment)
    (plain : ∀ name ∈ names, (46 : UInt16) ∉ name) :
    dotted (directory ++ segment :: names) = some segment := by
  have absent : names.reverse.find? (fun name => name.contains 46) = none := by
    rw [List.find?_eq_none]
    intro name member
    rw [List.contains_iff_mem]
    exact plain name (List.mem_reverse.mp member)
  have found : segment.contains 46 = true := List.contains_iff_mem.mpr point
  rw [dotted, List.reverse_append, List.reverse_cons, List.append_assoc, List.find?_append, absent,
    Option.none_or, List.singleton_append, List.find?_cons, found]

theorem isName_fileSegment (whole : (47 : UInt16) ∉ opening) :
    DiskPath.IsName (fileSegment drawn opening) := by
  obtain ⟨point, slash⟩ := not_mem_uuid drawn
  obtain ⟨first, rest, same⟩ := List.exists_cons_of_ne_nil (isUuid_spec drawn.property).1
  have letter : first ≠ 46 := fun dot => point (same ▸ dot ▸ List.mem_cons_self)
  have opens : fileSegment drawn opening = first :: (rest ++ 46 :: opening) := by
    rw [fileSegment, same, List.cons_append]
  refine ⟨by rw [opens]; exact List.cons_ne_nil _ _, fun dot => ?_, fun dots => ?_,
    fun inside => ?_⟩
  · rw [opens] at dot
    exact letter (List.cons.inj dot).1
  · rw [opens] at dots
    exact letter (List.cons.inj dots).1
  · rcases List.mem_append.mp inside with front | back
    · exact slash front
    · rcases List.mem_cons.mp back with dot | later
      · cases dot
      · exact whole later

/-- An uploaded file lies below the directory of its channel: after its name, which has the id that
was drawn in it, there are no more points. -/
theorem target_spec (target : IsTarget store call drawn temporary filePath) :
    ∃ opening names, filePath =
        store.directory call.channelId ++ fileSegment drawn opening :: names ∧
      ∀ name ∈ names, (46 : UInt16) ∉ name := by
  obtain ⟨file, data, -, lands⟩ := target
  have written : uploadKey call.channelId drawn file = (js "dm-attachments/" ++ call.channelId) ++
      47 :: (drawn.val ++ 46 :: extension file.name) := by
    have slash : js "/" = [47] := by decide
    unfold uploadKey attachmentPrefix
    rw [slash]
    simp only [List.append_assoc, List.cons_append, List.nil_append]
  have relative : (js "dm-attachments/" ++ call.channelId).head? ≠ some 47 :=
    fun same => nomatch same
  have filled : js "dm-attachments/" ++ call.channelId ≠ [] := fun same => nomatch same
  have plain : ∀ segment ∈ (extension file.name).splitOn 47, (46 : UInt16) ∉ segment := by
    intro segment member
    have bound := Attachments.count_le_of_mem_splitOn member 46
    rw [List.count_eq_zero.mpr (not_mem_extension file.name)] at bound
    exact List.count_eq_zero.mp (Nat.le_zero.mp bound)
  have opening : (47 : UInt16) ∉ drawn.val ++ [46] := by
    intro inside
    rcases List.mem_append.mp inside with front | dot
    · exact (not_mem_uuid drawn).2 front
    · cases List.mem_singleton.mp dot
  have resolved := resolve_of_safeResolve lands
  rw [written, DiskPath.resolve_append_cons relative filled, List.append_cons,
    splitOn_append opening]
    at resolved
  cases cut : (extension file.name).splitOn 47 with
  | nil => exact absurd cut (List.splitOn_ne_nil 47 (extension file.name))
  | cons first names =>
    rw [cut] at plain resolved
    have whole : (47 : UInt16) ∉ first :=
      DiskPath.not_mem_of_mem_splitOn (cut ▸ List.mem_cons_self)
    have segment : drawn.val ++ [46] ++ first = fileSegment drawn first :=
      List.append_assoc ..
    have later := (List.forall_mem_cons.mp plain).2
    rw [List.modifyHead_cons, segment, List.foldl_cons,
      DiskPath.enter_name (isName_fileSegment whole),
      DiskPath.foldl_enter_of_not_mem later, List.append_assoc, List.singleton_append] at resolved
    exact ⟨first, names.filter (· ≠ []), resolved.symm, fun name member =>
      later name (List.mem_filter.mp member).1⟩

theorem dotted_target (target : IsTarget store call drawn temporary filePath) :
    ∃ opening, dotted filePath = some (fileSegment drawn opening) := by
  obtain ⟨opening, names, rfl, plain⟩ := target_spec target
  exact ⟨opening, dotted_append (List.mem_append_right _ List.mem_cons_self) plain⟩

theorem dotted_temporaryPath : dotted (temporaryPath filePath temporary) =
    some (temporarySegment temporary) :=
  dotted_append (List.mem_append_left _ (List.mem_append_left _ (by decide)))
    fun _ member => nomatch member

theorem below_target (target : IsTarget store call drawn temporary filePath) (other : Uuid) :
    Below (store.directory call.channelId) filePath ∧
      Below (store.directory call.channelId) (temporaryPath filePath other) := by
  obtain ⟨opening, names, rfl, -⟩ := target_spec target
  have longer (first : JsString) (rest : List JsString) :
      Below (store.directory call.channelId) (store.directory call.channelId ++ first :: rest) :=
    ⟨List.prefix_append _ _, fun same => List.cons_ne_nil first rest (List.self_eq_append_right.mp same)⟩
  refine ⟨longer _ names, ?_⟩
  unfold temporaryPath
  rw [List.dropLast_append_cons, List.append_assoc]
  cases others : (fileSegment drawn opening :: names).dropLast with
  | nil => exact longer _ []
  | cons first rest => exact longer first _

/-- The name of a temporary file begins with a point, and that of an uploaded one does not. -/
theorem fileSegment_ne_temporarySegment :
    fileSegment drawn opening ≠ temporarySegment temporary := by
  intro same
  obtain ⟨first, rest, shown⟩ := List.exists_cons_of_ne_nil (isUuid_spec drawn.property).1
  rw [fileSegment, shown, List.cons_append] at same
  have dot : first = 46 := (List.cons.inj same).1
  exact (not_mem_uuid drawn).1 (shown ▸ dot ▸ List.mem_cons_self)

theorem fileSegment_inj {opening' : JsString}
    (same : fileSegment drawn opening = fileSegment other opening') : drawn = other := by
  have front (id : Uuid) (text : JsString) :
      (fileSegment id text).takeWhile (fun unit => unit ≠ 46) = id.val := by
    have plain : ∀ unit ∈ id.val, decide (unit ≠ 46) = true := fun unit member =>
      decide_eq_true fun dot => (not_mem_uuid id).1 (dot ▸ member)
    rw [fileSegment, List.takeWhile_append_of_pos plain]
    exact List.append_nil id.val
  exact Subtype.ext (by rw [← front drawn opening, same, front])

theorem temporarySegment_inj (same : temporarySegment temporary = temporarySegment other) :
    temporary = other :=
  Subtype.ext (List.append_cancel_left (List.append_cancel_right same))

theorem temporaryPath_ne (target : IsTarget store call drawn temporary filePath) :
    temporaryPath filePath other ≠ filePath := by
  intro same
  obtain ⟨opening, shown⟩ := dotted_target target
  rw [← same, dotted_temporaryPath] at shown
  exact fileSegment_ne_temporarySegment (Option.some.inj shown).symm

/-- A call writes to a path at some time. -/
def IsOwn (store : UploadStore) (call : DiskCall) (path : DiskPath) : Prop :=
  ∃ drawn temporary filePath, IsTarget store call drawn temporary filePath ∧
    (path = filePath ∨ path = temporaryPath filePath temporary)

theorem ids_of_target (target : IsTarget store call drawn temporary filePath) :
    drawn ∈ call.ids ∧ temporary ∈ call.ids := by
  obtain ⟨file, data, routed, -⟩ := target
  unfold DiskCall.ids
  rw [routed]
  exact ⟨List.mem_cons_self, List.mem_cons_of_mem _ List.mem_cons_self⟩

/-- Some segment of a path that a call writes to has one of its ids in it. -/
theorem infix_of_isOwn (own : IsOwn store call path) :
    ∃ id ∈ call.ids, ∃ segment ∈ path, id.val <:+: segment := by
  obtain ⟨drawn, temporary, filePath, target, same | same⟩ := own
  · obtain ⟨opening, names, shape, -⟩ := target_spec target
    exact ⟨drawn, (ids_of_target target).1, fileSegment drawn opening,
      by rw [same, shape]; exact List.mem_append_right _ List.mem_cons_self,
      (List.prefix_append drawn.val _).isInfix⟩
  · exact ⟨temporary, (ids_of_target target).2, temporarySegment temporary,
      by rw [same]; exact List.mem_append_right _ List.mem_cons_self, ⟨_, _, rfl⟩⟩

/-- Two calls that write to one path share an id. -/
theorem shared_id {second : DiskCall} (left : IsOwn store call path)
    (right : IsOwn store second path) : ∃ id, id ∈ call.ids ∧ id ∈ second.ids := by
  obtain ⟨drawn, temporary, filePath, target, same⟩ := left
  obtain ⟨drawn', temporary', filePath', target', same'⟩ := right
  obtain ⟨opening, shown⟩ := dotted_target target
  obtain ⟨opening', shown'⟩ := dotted_target target'
  have ids := ids_of_target target
  have ids' := ids_of_target target'
  rcases same with rfl | rfl <;> rcases same' with same' | same'
  · rw [same', shown'] at shown
    exact ⟨drawn, ids.1, fileSegment_inj (Option.some.inj shown) ▸ ids'.1⟩
  · rw [same', dotted_temporaryPath] at shown
    exact absurd (Option.some.inj shown).symm fileSegment_ne_temporarySegment
  · rw [← same', dotted_temporaryPath] at shown'
    exact absurd (Option.some.inj shown').symm fileSegment_ne_temporarySegment
  · have both := congrArg dotted same'
    rw [dotted_temporaryPath, dotted_temporaryPath] at both
    exact ⟨temporary, ids.2, temporarySegment_inj (Option.some.inj both) ▸ ids'.2⟩

end Paths

/-! ## What has been written -/

abbrev Written : Type := List (Proc.Exchange disk)

/-- A call first writes its temporary file and then its file, each once. -/
def Grounds (store : UploadStore) (call : DiskCall) (seen : Written) : DiskAccess → Prop
  | .writeFile path _ => (∃ drawn temporary filePath, IsTarget store call drawn temporary filePath ∧
      path = temporaryPath filePath temporary) ∧ ∀ exchange ∈ seen, exchange.1.written = none
  | .rename _ path => (∃ drawn temporary, IsTarget store call drawn temporary path) ∧
      ∀ exchange ∈ seen, exchange.1.written ≠ some path
  | _ => True

section Runs

variable {store : UploadStore}

theorem grounds_diskProgram (call : DiskCall) : (diskProgram store call).Obeys
    (.recorder (fun _ => true) (Grounds store call)) (fun _ _ => True) [] := by
  unfold diskProgram
  cases routed : call.route with
  | deleteUploadFile key =>
    dsimp only
    unfold deleteUploadFile
    split
    · trivial
    · exact ⟨trivial, fun _ => trivial⟩
  | upload file data drawn temporary =>
    dsimp only
    cases call.user with
    | none => trivial
    | some user =>
      dsimp only
      unfold upload
      split
      · trivial
      · refine ⟨trivial, fun verified => ?_⟩
        match verified with
        | .error () => trivial
        | .ok false => trivial
        | .ok true =>
          cases file with
          | none => trivial
          | some file =>
            dsimp only
            cases file.refusal with
            | some text => trivial
            | none =>
              dsimp only
              unfold writeUploadFile
              cases lands : safeResolve store.attachmentsDir.path
                  (uploadKey call.channelId drawn file) with
              | none => trivial
              | some filePath =>
                have target : IsTarget store call drawn temporary filePath :=
                  ⟨file, data, routed, lands⟩
                refine ⟨trivial, fun made => ?_⟩
                match made with
                | .error () => trivial
                | .ok () =>
                  refine ⟨⟨⟨drawn, temporary, filePath, target, rfl⟩, ?_⟩, fun wrote => ?_⟩
                  · simp [Monitor.recorder, DiskAccess.written]
                  · match wrote with
                    | .error () => exact ⟨trivial, fun _ => trivial⟩
                    | .ok () =>
                      refine ⟨⟨⟨drawn, temporary, target⟩, ?_⟩, fun renamed => ?_⟩
                      · simp [Monitor.recorder, DiskAccess.written, temporaryPath_ne target]
                      · match renamed with
                        | .error () => exact ⟨trivial, fun _ => trivial⟩
                        | .ok () => trivial

theorem holds_put {files : Files} {other : DiskPath} {data : List UInt8}
    (held : holds (put files path data) other = true) :
    other = path ∨ holds files other = true := by
  obtain ⟨file, member, same⟩ := List.any_eq_true.mp held
  rcases List.mem_cons.mp member with rfl | earlier
  · exact .inl (of_decide_eq_true same).symm
  · exact .inr (List.any_eq_true.mpr ⟨file, (List.mem_filter.mp earlier).1, same⟩)

theorem holds_remove {files : Files} {other : DiskPath}
    (held : holds (remove files path) other = true) : holds files other = true := by
  obtain ⟨file, member, same⟩ := List.any_eq_true.mp held
  exact List.any_eq_true.mpr ⟨file, (List.mem_filter.mp member).1, same⟩

/-- A file that is there after an access was there before it, or has just been written. -/
theorem holds_of_handle {call : DiskCall} {access : DiskAccess} {answer : disk.Answer access}
    {before after : Files} (answered : diskHandle store call access before = some (answer, after))
    (held : holds after path = true) : holds before path = true ∨ access.written = some path := by
  cases access with
  | verifyMembership channelId userId =>
    cases answered
    exact .inl held
  | mkdir made =>
    cases answered
    exact .inl held
  | writeFile target data =>
    dsimp only [diskHandle] at answered
    split at answered
    · have left : _ = after := congrArg Prod.snd (Option.some.inj answered)
      dsimp only at left
      split at left
      · exact .inl (left ▸ held)
      · rw [← left] at held
        exact (holds_put held).symm.imp_right fun same => congrArg some same.symm
    · have left : _ = after := congrArg Prod.snd (Option.some.inj answered)
      rw [← left] at held
      exact (holds_put held).symm.imp_right fun same => congrArg some same.symm
  | rename source target =>
    dsimp only [diskHandle] at answered
    split at answered
    · cases answered
      exact .inl held
    · split at answered
      · cases answered
        exact .inl held
      · have left : _ = after := congrArg Prod.snd (Option.some.inj answered)
        rw [← left] at held
        exact (holds_put held).symm.imp holds_remove fun same => congrArg some same.symm
  | rm removed =>
    dsimp only [diskHandle] at answered
    split at answered
    · cases answered
      exact .inl held
    · cases answered
      exact .inl (holds_remove held)

variable {guard : DiskPool → Turn DiskCall → Prop} {pool : DiskPool}

/-- Every file was there at the start, or has been written. -/
theorem recorded_of_holds (reached : (diskSystem store).Reachable guard pool)
    (held : holds pool.shared path = true) : holds store.stored path = true ∨
      ∃ event ∈ pool.history, event.request.written = some path := by
  revert path
  refine reached.invariant (P := fun pool => ∀ {path : DiskPath}, holds pool.shared path = true →
    holds store.stored path = true ∨ ∃ event ∈ pool.history, event.request.written = some path) ?_ ?_
  · rintro _ ⟨files, rfl, rfl⟩ path held
    exact .inl held
  · intro before label after _ kept _ moved path held
    obtain ⟨call, -, rfl⟩ | ⟨index, call, access, next, answer, files, -, -, answered, rfl⟩ :=
      Pool.step_cases moved
    · exact kept held
    · rcases holds_of_handle answered held with earlier | now
      · exact (kept earlier).imp_right fun ⟨event, member, same⟩ =>
          ⟨event, List.mem_cons_of_mem _ member, same⟩
      · exact .inr ⟨_, List.mem_cons_self, now⟩

theorem isOwn_of_grounds {call : DiskCall} {seen : Written} {access : DiskAccess}
    (grounds : Grounds store call seen access) (writes : access.written = some path) :
    IsOwn store call path ∧ ∀ exchange ∈ seen, exchange.1.written ≠ some path := by
  cases access with
  | writeFile target data =>
    cases writes
    obtain ⟨⟨drawn, temporary, filePath, lands, same⟩, silent⟩ := grounds
    refine ⟨⟨drawn, temporary, filePath, lands, .inr same⟩, fun exchange member written => ?_⟩
    rw [silent exchange member] at written
    cases written
  | rename source target =>
    obtain rfl := Option.some.inj writes
    obtain ⟨⟨drawn, temporary, lands⟩, once⟩ := grounds
    exact ⟨⟨drawn, temporary, target, lands, .inl rfl⟩, once⟩
  | _ => cases writes

/-- No random id is drawn twice, and none is in the name of a file that was there at the start. -/
structure DistinctIds (store : UploadStore) (pool : DiskPool) : Prop where
  nodup : (pool.threads.flatMap fun thread => thread.call.ids).Nodup
  absent : ∀ thread ∈ pool.threads, ∀ id ∈ thread.call.ids, ∀ file ∈ store.stored,
    ∀ segment ∈ file.1, ¬ id.val <:+: segment

/-- An id belongs to one thread. -/
theorem DistinctIds.index_eq (distinct : DistinctIds store pool) {index other : Nat}
    {thread second : Thread disk Empty UploadResponse DiskCall} {id : Uuid}
    (found : pool.threads[index]? = some thread) (found' : pool.threads[other]? = some second)
    (drawn : id ∈ thread.call.ids) (drawn' : id ∈ second.call.ids) : index = other := by
  have apart := List.pairwise_iff_getElem.mp (List.nodup_flatMap.mp distinct.nodup).2
  obtain ⟨bound, rfl⟩ := List.getElem?_eq_some_iff.mp found
  obtain ⟨bound', rfl⟩ := List.getElem?_eq_some_iff.mp found'
  rcases Nat.lt_trichotomy index other with less | same | more
  · exact absurd drawn' (apart index other bound bound' less drawn)
  · exact same
  · exact absurd drawn (apart other index bound' bound more drawn')

/-- What an upload is about to write lies below the directory of its channel, and no file is there. -/
theorem free_of_pending (reached : (diskSystem store).Reachable guard pool)
    (distinct : DistinctIds store pool) {index : Nat} {call : DiskCall} {access : DiskAccess}
    {next : disk.Answer access → DiskProc}
    (pending : pool.threads[index]? = some ⟨call, .await access next⟩)
    (writes : access.written = some path) :
    Below (store.directory call.channelId) path ∧ holds pool.shared path = false := by
  have grounds := Pool.justified_of_pending reached pending (grounds_diskProgram call)
  obtain ⟨own, once⟩ := isOwn_of_grounds grounds writes
  constructor
  · obtain ⟨drawn, temporary, filePath, target, rfl | rfl⟩ := own
    · exact (below_target target drawn).1
    · exact (below_target target _).2
  · rw [← Bool.not_eq_true]
    intro held
    rcases recorded_of_holds reached held with start | ⟨event, recorded, written⟩
    · obtain ⟨id, drawn, segment, member, inside⟩ := infix_of_isOwn own
      obtain ⟨file, stored, same⟩ := List.any_eq_true.mp start
      obtain rfl := of_decide_eq_true same
      exact distinct.absent _ (List.mem_of_getElem? pending) id drawn file stored segment member inside
    · obtain ⟨thread, found, called⟩ :=
        (Pool.consistent_of_reachable reached).started event recorded
      have issued := Pool.mem_exchanges.mpr ⟨event, recorded, rfl, rfl⟩
      obtain ⟨seen, -, earlier⟩ :=
        Pool.justified_of_reachable reached found (grounds_diskProgram thread.call) issued
      obtain ⟨id, mine, theirs⟩ := shared_id own (isOwn_of_grounds earlier written).1
      obtain rfl := distinct.index_eq pending found mine theirs
      exact once _ issued written

end Runs

/-- Where a thread is about to leave a file. -/
def writes (thread : Thread disk Empty UploadResponse DiskCall) : Option DiskPath :=
  match thread.rest with
  | .done _ => none
  | .await access _ => access.written

/-- `safeResolve` never leaves its directory, and accepts every key of ordinary names of which the
first does not begin with two points; whatever an upload writes lies strictly below the directory
of its channel, where no file is. -/
theorem storage_contained (store : UploadStore) :
    (∀ (cwd : DiskDirectory) (baseDir key : JsString),
      ∀ path ∈ safeResolve (cwd.resolve baseDir).path key, (cwd.resolve baseDir).path <+: path) ∧
    (∀ (cwd : DiskDirectory) (baseDir first : JsString) (rest : List JsString),
      (∀ segment ∈ first :: rest, DiskPath.IsName segment ∧ (0 : UInt16) ∉ segment) →
        startsWith first (js "..") = false →
          safeResolve (cwd.resolve baseDir).path ([47].intercalate (first :: rest)) =
            some ((cwd.resolve baseDir).path ++ first :: rest)) ∧
    ∀ pool, (diskSystem store).Reachable System.unguarded pool → DistinctIds store pool →
      ∀ thread ∈ pool.threads, ∀ path ∈ writes thread,
        Below (store.directory thread.call.channelId) path ∧ holds pool.shared path = false := by
  refine ⟨fun cwd baseDir key path inside => Attachments.prefix_of_safeResolve inside,
    fun cwd baseDir first rest names opens => Attachments.safeResolve_intercalate names opens, ?_⟩
  rintro pool reached distinct ⟨call, rest⟩ member path written
  obtain ⟨index, bound, found⟩ := List.mem_iff_getElem.mp member
  cases rest with
  | done result => cases written
  | await access next =>
      exact free_of_pending reached distinct (List.getElem?_eq_some_iff.mpr ⟨bound, found⟩) written

namespace Sample

def drawn : Uuid := ⟨js "00000000-0000-4000-8000-000000000001", by decide⟩

def temporary : Uuid := ⟨js "00000000-0000-4000-8000-000000000002", by decide⟩

def store : UploadStore where
  attachmentsDir := ⟨[js "data", js "attachments"], by decide⟩
  isMember := fun _ _ => true
  stored := []

/-- An upload whose name has a slash after its last point. -/
def call : DiskCall where
  user := some (js "alice")
  channelId := js "c"
  route := .upload (some ⟨js "cat.a//b", js "1", js "image/png", none⟩) [1] drawn temporary
  limited := false
  fails := fun _ => false
  torn := none

def started : DiskPool :=
  (Pool.replay (diskProgram store) (fun _ call => diskHandle store call) Pool.alone []
    [.start call, .advance 0, .advance 0]).get (by decide)

theorem started_reachable : (diskSystem store).Reachable System.unguarded started := by
  refine Pool.reachable_of_replay (fun _ _ _ => trivial) ?_ _
  rfl

end Sample

theorem upload_contained :
    [js "data"] <+: [js "data", js "cat"] ∧
      safeResolve [js "data"] (js "a/..b") = some [js "data", js "a", js "..b"] ∧
      Below (Sample.store.directory (js "c"))
        [js "data", js "attachments", js "dm-attachments", js "c", Sample.drawn.val ++ js ".a",
          temporarySegment Sample.temporary] := by
  obtain ⟨contained, accepted, free⟩ := storage_contained Sample.store
  have distinct : DistinctIds Sample.store Sample.started :=
    ⟨by decide, fun _ _ _ _ file stored => nomatch stored⟩
  have waiting : (Sample.started.threads.get ⟨0, by decide⟩) ∈ Sample.started.threads :=
    List.get_mem ..
  refine ⟨contained ⟨[], by decide⟩ (js "/data") (js "x/../cat") _ (by decide),
    accepted ⟨[], by decide⟩ (js "/data") (js "a") [js "..b"] (by decide) (by decide), ?_⟩
  exact (free Sample.started Sample.started_reachable distinct _ waiting _ (by decide)).1

end Vortex.Channels.Uploads
