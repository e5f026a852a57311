import Vortex.Channels.Attachments

/-!
# Whose files a request touches

The requests check that a key begins with the directory of their channel, and the disk
resolves it: a key that leaves the directory again passes the check. What every access
rests on is computed along the programs; where no key leaves the directory, a request of
a user only deletes, attaches and reads files of channels the user is a member of.
-/

namespace Vortex.Channels.Attachments

open Foundation List
open JsString (hexValue)

/-! ## What an access rests on -/

abbrev Seen : Type := List (Proc.Exchange storing)

/-- A user has been found to be a member of a channel. -/
def Verified (seen : Seen) (channelId user : JsString) : Prop :=
  ⟨.verifyMembership channelId user, (.ok true : Except Unit Bool)⟩ ∈ seen

/-- A row has been found, and the user to be a member of the channel of its message. -/
def Readable (seen : Seen) (user : JsString) (row : StoredAttachment) : Prop :=
  (∃ id, ⟨.attachmentById id, (.ok (some row) : Except Unit (Option StoredAttachment))⟩ ∈ seen) ∧
    ∃ channelId, ⟨.channelOf row.dmId, (.ok (some channelId) : Except Unit (Option JsString))⟩ ∈ seen ∧
      Verified seen channelId user

/-- A row has been found to be expired. -/
def Selected (seen : Seen) (row : StoredAttachment) : Prop :=
  ∃ nowIso rows,
    ⟨.expiredAttachments nowIso, (.ok rows : Except Unit (List StoredAttachment))⟩ ∈ seen ∧
      row ∈ rows

def FileCall.decays (call : FileCall) : Bool :=
  match call.route with
  | .attachmentDecay _ => true
  | _ => false

/-- What has been seen before an access. -/
def Grounds (call : FileCall) (seen : Seen) : FileAccess → Prop
  | .writeUploadFile key => ∃ user file, call.user = some user ∧
      Verified seen call.channelId user ∧ key = uploadKey call file
  | .deleteUploadFile key =>
      (call.decays = false ∧ (∃ user, call.user = some user ∧ Verified seen call.channelId user) ∧
        seen.getLast? = some ⟨.attachmentByUrl key, (.ok false : Except Unit Bool)⟩) ∨
      (call.decays = true ∧ ∃ row, Selected seen row ∧ row.url = key)
  | .insertAttachment row => call.decays = false ∧ row.purgedAt = none ∧
      ∃ user, call.user = some user ∧ Verified seen call.channelId user ∧
        ⟨.findMessage row.dmId call.channelId user, (.ok true : Except Unit Bool)⟩ ∈ seen
  | .statUploadFile key =>
      ∃ user row, call.user = some user ∧ Readable seen user row ∧ row.url = key
  | .readFile path => ∃ user row, call.user = some user ∧ Readable seen user row ∧
      ⟨.statUploadFile row.url, (.ok (some path) : Except Unit (Option DiskPath))⟩ ∈ seen
  | .markPurged id _ => ∃ row, Selected seen row ∧ row.id = id
  | _ => True

section Programs

variable {call : FileCall} {user channelId : JsString} {seen : Seen}

/-- Every access of a process rests on what it has seen. -/
abbrev Grounded (call : FileCall) (process : FileProc) (seen : Seen) : Prop :=
  process.Obeys (.recorder (fun _ => true) (Grounds call)) (fun _ _ => True) seen

theorem grounded_ask {access : FileAccess} {next : storing.Answer access → FileProc}
    (grounds : Grounds call seen access)
    (rest : ∀ answer, Grounded call (next answer) (seen ++ [⟨access, answer⟩])) :
    Grounded call (ask access >>= next) seen :=
  ⟨grounds, rest⟩

theorem seen_earlier {exchange last : Proc.Exchange storing} (member : exchange ∈ seen) :
    exchange ∈ seen ++ [last] :=
  mem_append_left _ member

theorem seen_newest (exchange : Proc.Exchange storing) : exchange ∈ seen ++ [exchange] :=
  mem_append_right _ mem_cons_self

theorem Readable.later {row : StoredAttachment} {last : Proc.Exchange storing}
    (readable : Readable seen user row) : Readable (seen ++ [last]) user row := by
  obtain ⟨⟨id, found⟩, channelId, channel, verified⟩ := readable
  exact ⟨⟨id, seen_earlier found⟩, channelId, seen_earlier channel, seen_earlier verified⟩

theorem Selected.later {row : StoredAttachment} {last : Proc.Exchange storing}
    (selected : Selected seen row) : Selected (seen ++ [last]) row := by
  obtain ⟨nowIso, rows, found, member⟩ := selected
  exact ⟨nowIso, rows, seen_earlier found, member⟩

theorem grounded_asMember {next : FileProc}
    (rest : ∀ later, seen ⊆ later → Verified later channelId user → Grounded call next later) :
    Grounded call (asMember channelId user next) seen := by
  refine grounded_ask trivial fun answer => ?_
  match answer with
  | .error () => trivial
  | .ok false => trivial
  | .ok true => exact rest _ (subset_append_left _ _) (seen_newest _)

theorem grounded_upload (named : call.user = some user) (file : Option Upload) :
    Grounded call (upload call user file) seen := by
  unfold upload
  split
  · trivial
  · refine grounded_asMember fun later _ verified => ?_
    split
    · trivial
    · rename_i file
      split
      · trivial
      · refine grounded_ask ⟨user, file, named, verified, rfl⟩ fun answer => ?_
        match answer with
        | .error () => trivial
        | .ok () => trivial

theorem grounded_deleteUpload (named : call.user = some user) (request : call.decays = false)
    (key : Option JsString) : Grounded call (deleteUpload call user key) seen := by
  refine grounded_asMember fun later _ verified => ?_
  split
  · trivial
  · refine grounded_ask trivial fun answer => ?_
    match answer with
    | .error () => trivial
    | .ok true => trivial
    | .ok false =>
      refine grounded_ask (.inl ⟨request, ⟨user, named, seen_earlier verified⟩,
        getLast?_concat⟩) fun answer => ?_
      match answer with
      | .error () => trivial
      | .ok () => trivial

theorem grounded_attach (named : call.user = some user) (request : call.decays = false)
    (body : Option Json) : Grounded call (attach call user body) seen := by
  refine grounded_asMember fun later _ verified => ?_
  split
  · trivial
  · split
    · trivial
    · refine grounded_ask trivial fun answer => ?_
      match answer with
      | .error () => trivial
      | .ok false => trivial
      | .ok true =>
        refine grounded_ask
          ⟨request, rfl, user, named, seen_earlier verified, seen_newest _⟩ fun answer => ?_
        match answer with
        | .error () => trivial
        | .ok () => trivial

theorem grounded_renew {row : StoredAttachment} {next : FileProc}
    (rest : ∀ later, seen ⊆ later → Grounded call next later) :
    Grounded call (renew call row next) seen := by
  unfold renew
  split
  · exact ⟨trivial, fun answer => rest _ (subset_append_left _ _)⟩
  · exact rest seen fun _ member => member

theorem grounded_serveFile {row : StoredAttachment} {next : FileResponse → FileProc}
    (named : call.user = some user) (readable : Readable seen user row)
    (rest : ∀ response later, Grounded call (next response) later) :
    Grounded call (serveFile row next) seen := by
  refine grounded_ask ⟨user, row, named, readable, rfl⟩ fun answer => ?_
  match answer with
  | .error () => exact rest _ _
  | .ok none => exact rest _ _
  | .ok (some path) =>
    exact ⟨⟨user, row, named, readable.later, seen_newest _⟩, fun answer => rest _ _⟩

theorem grounded_download (named : call.user = some user) (attachmentId : JsString) :
    Grounded call (download call user attachmentId) seen := by
  refine grounded_ask trivial fun answer => ?_
  rcases answer with _ | _ | row
  · trivial
  · trivial
  · dsimp only
    split
    · trivial
    · refine grounded_ask trivial fun answer => ?_
      rcases answer with _ | channel
      · trivial
      · dsimp only
        split
        · trivial
        · rename_i channelId present
          obtain rfl := (Option.filter_eq_some_iff.mp present).1
          refine grounded_asMember fun later kept verified => ?_
          have readable : ∀ last, later ⊆ last → Readable last user row := fun last more =>
            ⟨⟨attachmentId, more (kept (seen_earlier (seen_newest _)))⟩, channelId,
              more (kept (seen_newest _)), more verified⟩
          split
          · refine grounded_serveFile named (readable later fun _ member => member) ?_
            exact fun response last => grounded_renew fun _ _ => trivial
          · refine grounded_renew fun last more => ?_
            exact grounded_serveFile named (readable last more) fun _ _ => trivial

theorem grounded_purge {nowIso : JsString} (decays : call.decays = true)
    {rows : List StoredAttachment}
    (selected : ∀ row ∈ rows, Selected seen row) (purgedDm storageErrors : Nat) :
    Grounded call (purge nowIso rows purgedDm storageErrors) seen := by
  induction rows generalizing seen purgedDm storageErrors with
  | nil => trivial
  | cons row rest ih =>
    have first := selected row mem_cons_self
    refine grounded_ask (.inr ⟨decays, row, first, rfl⟩) fun removed => ?_
    refine grounded_ask ⟨row, first.later, rfl⟩ fun answer => ?_
    have others : ∀ removal marking, ∀ other ∈ rest,
        Selected ((seen ++ [removal]) ++ [marking]) other := fun removal marking other member =>
      (selected other (mem_cons_of_mem _ member)).later.later
    match answer with
    | .error () => exact ih (others _ _) _ _
    | .ok () => exact ih (others _ _) _ _

theorem grounded_fileProgram (call : FileCall) : Grounded call (fileProgram call) [] := by
  have asUser : ∀ next : JsString → FileProc,
      (∀ user, call.user = some user → Grounded call (next user) []) →
        Grounded call (asUser call next) [] := by
    intro next rest
    unfold Attachments.asUser
    split
    · trivial
    · rename_i user named
      exact rest user named
  unfold fileProgram
  cases route : call.route with
  | upload file => exact asUser _ fun user named => grounded_upload named file
  | deleteUpload key =>
    have request : call.decays = false := by rw [FileCall.decays, route]
    exact asUser _ fun user named => grounded_deleteUpload named request key
  | attach body =>
    have request : call.decays = false := by rw [FileCall.decays, route]
    exact asUser _ fun user named => grounded_attach named request body
  | download attachmentId =>
    dsimp only
    split
    · exact asUser _ fun user named => grounded_download named attachmentId
    · trivial
  | attachmentDecay verified =>
    have decays : call.decays = true := by rw [FileCall.decays, route]
    cases verified with
    | error response => trivial
    | ok nothing =>
      refine grounded_ask trivial fun answer => ?_
      match answer with
      | .error () => trivial
      | .ok expired =>
        refine grounded_purge decays (fun row member => ?_) 0 0
        exact ⟨call.nowIso, expired, seen_newest _, member⟩

end Programs

/-! ## Directories of channels -/

/-- Where the files of a channel lie. -/
def Conversations.directory (conversations : Conversations) (channelId : JsString) : DiskPath :=
  conversations.attachmentsDir ++ [js "dm-attachments", channelId]

/-- A key leads into the directory of a channel, if it leads anywhere. -/
def KeyInside (conversations : Conversations) (channelId key : JsString) : Prop :=
  ∀ path, resolved conversations key = some path → conversations.directory channelId <+: path

theorem isUuid_spec {text : JsString} (uuid : isUuid text = true) :
    text ≠ [] ∧ ∀ unit, unit ≠ 45 → hexValue unit = none → unit ∉ text := by
  unfold isUuid at uuid
  rw [Bool.and_eq_true, decide_eq_true_eq, all_eq_true] at uuid
  constructor
  · intro empty
    rw [empty] at uuid
    cases uuid.1
  · intro unit dash letter member
    have found := uuid.2 unit member
    rw [letter, Bool.or_eq_true, decide_eq_true_eq] at found
    rcases found with same | hex
    · exact dash same
    · cases hex

theorem not_mem_extension (name : JsString) : (46 : UInt16) ∉ extension name := by
  unfold extension
  dsimp only
  split
  · decide
  · intro member
    have kept := mem_takeWhile_imp (mem_reverse.mp member)
    cases kept

/-- A piece of a text has no letter more often than the text. -/
theorem count_le_of_mem_splitOn {text segment : JsString} (member : segment ∈ text.splitOn 47)
    (unit : UInt16) : segment.count unit ≤ text.count unit := by
  have joined : [47].intercalate (text.splitOn 47) = text := intercalate_splitOn 47
  rw [← joined]
  generalize text.splitOn 47 = pieces at member
  induction pieces with
  | nil => cases member
  | cons piece rest ih =>
    cases rest with
    | nil =>
      obtain rfl := mem_singleton.mp member
      rw [intercalate_singleton]
    | cons next others =>
      rw [intercalate_cons_cons, count_append, count_append]
      rcases mem_cons.mp member with same | later
      · rw [same]
        omega
      · have bound := ih later
        omega

/-- An uploaded file lies in the directory of its channel. -/
theorem keyInside_upload (conversations : Conversations) (call : FileCall) (file : Upload)
    (channel : isUuid call.channelId = true) :
    KeyInside conversations call.channelId (uploadKey call file) := by
  obtain ⟨named, letters⟩ := isUuid_spec channel
  obtain ⟨-, drawn⟩ := isUuid_spec call.drawn.property
  intro path lands
  have split : (uploadKey call file).splitOn 47 = js "dm-attachments" :: call.channelId ::
      (call.drawn.val ++ 46 :: extension file.name).splitOn 47 := by
    have written : uploadKey call file = js "dm-attachments" ++ 47 :: (call.channelId ++ 47 ::
        (call.drawn.val ++ 46 :: extension file.name)) := by
      unfold uploadKey attachmentPrefix
      have opening : js "dm-attachments/" = js "dm-attachments" ++ [47] := by decide
      have slash : js "/" = [47] := by decide
      rw [opening, slash]
      simp only [append_assoc, cons_append, nil_append]
    have first : (47 : UInt16) ∉ js "dm-attachments" := by decide
    rw [written, splitOn_append_cons_self_of_not_mem first,
      splitOn_append_cons_self_of_not_mem (letters 47 (by decide) rfl)]
  have stays : ∀ segment ∈ (call.drawn.val ++ 46 :: extension file.name).splitOn 47,
      segment ≠ js ".." := by
    intro segment member dots
    have bound := count_le_of_mem_splitOn member 46
    have absent := count_eq_zero.mpr (drawn 46 (by decide) rfl)
    have plain := count_eq_zero.mpr (not_mem_extension file.name)
    rw [count_append, count_cons_self, absent, plain, dots] at bound
    have two : (js "..").count 46 = 2 := by decide
    omega
  have names : ∀ segment ∈ [js "dm-attachments", call.channelId], DiskPath.IsName segment := by
    have dot : ∀ dots : JsString, (46 : UInt16) ∈ dots → call.channelId ≠ dots := by
      intro dots inside same
      exact letters 46 (by decide) rfl (same ▸ inside)
    intro segment member
    simp only [mem_cons, not_mem_nil, or_false] at member
    rcases member with same | same
    · rw [same]
      decide
    · rw [same]
      exact ⟨named, dot _ (by decide), dot _ (by decide), letters 47 (by decide) rfl⟩
  have entered : DiskPath.resolve conversations.attachmentsDir (uploadKey call file) =
      ((call.drawn.val ++ 46 :: extension file.name).splitOn 47).foldl DiskPath.enter
        (conversations.directory call.channelId) := by
    have relative : (uploadKey call file).head? ≠ some 47 := by
      intro slash
      cases slash
    have both := @DiskPath.foldl_enter_names _ conversations.attachmentsDir names
    rw [DiskPath.resolve, if_neg relative, split, Conversations.directory, ← both]
    rfl
  unfold resolved safeResolve at lands
  split at lands
  · cases lands
  · dsimp only at lands
    split at lands
    · cases lands
    · cases lands
      rw [entered]
      exact DiskPath.prefix_foldl_enter stays

/-! ## What has been seen is so -/

section Runs

variable {conversations : Conversations} {initial : Storage → Prop}
  {guard : FilePool → Turn FileCall → Prop} {pool : FilePool} {index : Nat}

/-- What a process has seen was answered by the handler, in a state that was reached. -/
theorem answered_of_seen (reached : (fileSystem conversations initial).Reachable guard pool)
    {access : FileAccess} {answer : storing.Answer access}
    (seen : ⟨access, answer⟩ ∈ Pool.exchanges pool.history index) :
    ∃ (call : FileCall) (before : FilePool) (after : Storage),
      (fileSystem conversations initial).Reachable guard before ∧
        fileHandle conversations call access before.shared = some (answer, after) := by
  obtain ⟨⟨thread, call, request, given⟩, recorded, -, same⟩ := Pool.mem_exchanges.mp seen
  obtain ⟨before, after, earlier, answered⟩ := Pool.answered_of_recorded reached recorded
  cases same
  exact ⟨call, before, after, earlier, answered⟩

/-- An access that did not throw was executed. -/
theorem executed_of_handle {call : FileCall} {access : FileAccess} {answer : storing.Answer access}
    {before after : Storage}
    (answered : fileHandle conversations call access before = some (answer, after))
    (done : answer ≠ thrown access) :
    execute conversations call before access = (answer, after) := by
  unfold fileHandle at answered
  split at answered
  · cases answered
    exact absurd rfl done
  · exact Option.some.inj answered

theorem isMember_of_verified (reached : (fileSystem conversations initial).Reachable guard pool)
    {channelId user : JsString}
    (verified : Verified (Pool.exchanges pool.history index) channelId user) :
    conversations.isMember channelId user = true := by
  obtain ⟨call, before, after, -, answered⟩ := answered_of_seen reached verified
  have executed := executed_of_handle answered (fun thrown => nomatch thrown)
  exact Except.ok.inj (congrArg Prod.fst executed)

/-- The message with an id is in a channel. -/
def Conversations.messageIn (conversations : Conversations) (messageId channelId : JsString) :
    Prop :=
  (conversations.messages.find? messageId).bind DirectMessage.dmChannelId = some channelId

section

variable (reached : (fileSystem conversations initial).Reachable guard pool)

include reached

theorem messageIn_of_channelOf {messageId channelId : JsString} (seen : ⟨.channelOf messageId,
      (.ok (some channelId) : Except Unit (Option JsString))⟩ ∈ Pool.exchanges pool.history index) :
    conversations.messageIn messageId channelId := by
  obtain ⟨call, before, after, -, answered⟩ := answered_of_seen reached seen
  have executed := executed_of_handle answered (fun thrown => nomatch thrown)
  exact Except.ok.inj (congrArg Prod.fst executed)

theorem messageIn_of_findMessage
    {messageId channelId user : JsString} (seen : ⟨.findMessage messageId channelId user,
      (.ok true : Except Unit Bool)⟩ ∈ Pool.exchanges pool.history index) :
    conversations.messageIn messageId channelId := by
  obtain ⟨call, before, after, -, answered⟩ := answered_of_seen reached seen
  have executed := executed_of_handle answered (fun thrown => nomatch thrown)
  have found := Except.ok.inj (congrArg Prod.fst executed)
  obtain ⟨message, listed, fits⟩ := any_eq_true.mp found
  simp only [Bool.and_eq_true, decide_eq_true_eq] at fits
  obtain ⟨⟨named, inside⟩, -⟩ := fits
  have unique : conversations.messages.find? messageId = some message :=
    Table.find?_eq_some.mpr ⟨listed, named⟩
  rw [Conversations.messageIn, unique]
  exact inside

theorem resolved_of_stat {key : JsString} {path : DiskPath} (seen : ⟨.statUploadFile key,
      (.ok (some path) : Except Unit (Option DiskPath))⟩ ∈ Pool.exchanges pool.history index) :
    resolved conversations key = some path := by
  obtain ⟨call, before, after, -, answered⟩ := answered_of_seen reached seen
  have executed := executed_of_handle answered (fun thrown => nomatch thrown)
  have found : Option.filter _ (resolved conversations key) = some path :=
    Except.ok.inj (congrArg Prod.fst executed)
  exact (Option.filter_eq_some_iff.mp found).1

/-- What a process waits for rests on what it has seen. -/
theorem grounds_of_pending
    {call : FileCall} {access : FileAccess} {next : storing.Answer access → FileProc}
    (pending : pool.threads[index]? = some ⟨call, .await access next⟩) :
    Grounds call (Pool.exchanges pool.history index) access :=
  Pool.justified_of_pending reached pending (grounded_fileProgram call)

end

end Runs

/-! ## The storage -/

/-- A row only leads into the directory of the channel its message is in. -/
def RowInside (conversations : Conversations) (row : StoredAttachment) : Prop :=
  ∃ channelId, conversations.messageIn row.dmId channelId ∧
    KeyInside conversations channelId row.url

/-- Every file lies in the directory of the channel it has been uploaded to, and every row
leads into that of its message. -/
structure Contained (conversations : Conversations) (storage : Storage) : Prop where
  files : ∀ file ∈ storage.files, conversations.directory file.uploadedTo <+: file.path
  rows : ∀ row ∈ storage.attachments.rows, RowInside conversations row

/-- The condition on the keys: a request only deletes what lies in the directory of its
channel, and only attaches what lies there. -/
def Confined (conversations : Conversations) (pool : FilePool) : Turn FileCall → Prop
  | .start _ => True
  | .advance index => ∀ call access next, pool.threads[index]? = some ⟨call, .await access next⟩ →
      match access with
      | .deleteUploadFile key =>
          call.decays = false → KeyInside conversations call.channelId key
      | .insertAttachment row => KeyInside conversations call.channelId row.url
      | _ => True

section Runs

variable {conversations : Conversations} {initial : Storage → Prop} {pool : FilePool} {index : Nat}

theorem isUuid_of_isMember {channelId user : JsString}
    (isMember : conversations.isMember channelId user = true) : isUuid channelId = true := by
  obtain ⟨row, found⟩ := Option.isSome_iff_exists.mp isMember
  obtain ⟨listed, named⟩ := Table.find?_eq_some.mp found
  obtain ⟨rfl, -⟩ := Prod.mk.inj named
  exact conversations.channelIds row listed

theorem contained_updateRow {storage : Storage} (contained : Contained conversations storage)
    {id : JsString} {change : StoredAttachment → StoredAttachment}
    {keeps : ∀ row, (change row).id = row.id}
    (leads : ∀ row, (change row).dmId = row.dmId ∧ (change row).url = row.url) :
    Contained conversations (storage.updateRow id change keeps) := by
  refine ⟨contained.files, fun row member => ?_⟩
  obtain ⟨stored, present, rfl⟩ := mem_map.mp member
  split
  · have inside := contained.rows stored present
    unfold RowInside at inside ⊢
    rw [(leads stored).1, (leads stored).2]
    exact inside
  · exact contained.rows stored present

theorem contained_of_reachable (start : ∀ storage, initial storage → Contained conversations storage)
    (reached : (fileSystem conversations initial).Reachable (Confined conversations) pool) :
    Contained conversations pool.shared := by
  refine reached.invariant (P := fun pool => Contained conversations pool.shared) ?_ ?_
  · intro pool fresh
    obtain ⟨storage, initial, rfl⟩ := fresh
    exact start storage initial
  · intro before label after reached contained admitted moved
    obtain ⟨call, -, rfl⟩ | ⟨index, call, access, next, answer, storage, rfl, pending, answered,
      rfl⟩ := Pool.step_cases moved
    · exact contained
    · have confined := admitted call access next pending
      have grounds := grounds_of_pending reached pending
      rcases storage_of_handle answered with same | ⟨key, path, rfl, lands, written⟩ |
        ⟨key, path, -, -, removed⟩ | ⟨row, rfl, free, inserted⟩ | ⟨id, expiresAt, -, renewal⟩ |
        ⟨id, nowIso, -, marked⟩
      · rw [same]
        exact contained
      · obtain ⟨user, file, -, verified, rfl⟩ := grounds
        have channel := isUuid_of_isMember (isMember_of_verified reached verified)
        rw [written]
        refine ⟨fun other member => ?_, contained.rows⟩
        rcases mem_cons.mp member with same | stored
        · rw [same]
          exact keyInside_upload conversations call file channel path lands
        · exact contained.files other (mem_of_mem_filter stored)
      · rw [removed]
        exact ⟨fun file member => contained.files file (mem_of_mem_filter member), contained.rows⟩
      · obtain ⟨-, -, user, -, -, found⟩ := grounds
        rw [inserted]
        refine ⟨contained.files, fun other member => ?_⟩
        rcases Table.mem_insertIgnore.mp member with stored | ⟨rfl, -⟩
        · exact contained.rows other stored
        · exact ⟨call.channelId, messageIn_of_findMessage reached found, confined⟩
      · rw [renewal]
        exact contained_updateRow contained fun row => ⟨rfl, rfl⟩
      · rw [marked]
        exact contained_updateRow contained fun row => ⟨rfl, rfl⟩

theorem rowInside_of_readable (start : ∀ storage, initial storage → Contained conversations storage)
    (reached : (fileSystem conversations initial).Reachable (Confined conversations) pool)
    {user : JsString} {row : StoredAttachment}
    (readable : Readable (Pool.exchanges pool.history index) user row) :
    ∃ channelId, conversations.isMember channelId user = true ∧
      KeyInside conversations channelId row.url := by
  obtain ⟨⟨id, found⟩, channelId, channel, verified⟩ := readable
  obtain ⟨call, before, after, earlier, answered⟩ := answered_of_seen reached found
  have executed := executed_of_handle answered (fun thrown => nomatch thrown)
  have stored : before.shared.attachments.find? id = some row :=
    Except.ok.inj (congrArg Prod.fst executed)
  obtain ⟨other, placed, inside⟩ := (contained_of_reachable start earlier).rows row
    (Table.find?_eq_some.mp stored).1
  obtain rfl : other = channelId :=
    Option.some.inj (placed.symm.trans (messageIn_of_channelOf reached channel))
  exact ⟨other, isMember_of_verified reached verified, inside⟩

/-- The file that an access deletes, attaches or reads. -/
def touched (conversations : Conversations) : FileAccess → Option DiskPath
  | .deleteUploadFile key | .statUploadFile key => resolved conversations key
  | .insertAttachment row => resolved conversations row.url
  | .readFile path => some path
  | _ => none

/-- The next access of a process is that of a request by a user, and touches a stored file
that was uploaded to a channel the user is not a member of. -/
def Trespass (conversations : Conversations) (pool : FilePool) (index : Nat) : Prop :=
  ∃ call access next user file, pool.threads[index]? = some ⟨call, .await access next⟩ ∧
    call.decays = false ∧ call.user = some user ∧ file ∈ pool.shared.files ∧
      touched conversations access = some file.path ∧
        conversations.isMember file.uploadedTo user = false

/-- A file in the directory of a channel has been uploaded to it. -/
theorem uploadedTo_of_inside (contained : Contained conversations pool.shared) {file : StoredFile}
    (listed : file ∈ pool.shared.files) {channelId : JsString}
    (inside : conversations.directory channelId <+: file.path) : file.uploadedTo = channelId := by
  have own := contained.files file listed
  have same : conversations.directory file.uploadedTo = conversations.directory channelId := by
    refine (prefix_of_prefix_length_le own inside ?_).eq_of_length ?_
    all_goals simp only [Conversations.directory, length_append, length_cons,
      length_nil, Nat.le_refl]
  have last := append_cancel_left same
  exact (cons.inj (cons.inj last).2).1

/-- In a run in which requests delete and attach only by keys that lead into the directory
of their channel, no access of a request touches a file of a channel its user is not a
member of. -/
theorem not_trespass_of_reachable
    (start : ∀ storage, initial storage → Contained conversations storage)
    (reached : (fileSystem conversations initial).Reachable (Confined conversations) pool)
    (admitted : Confined conversations pool (.advance index)) :
    ¬ Trespass conversations pool index := by
  intro ⟨call, access, next, user, file, pending, request, named, listed, touches, foreign⟩
  have contained := contained_of_reachable start reached
  have confined := admitted call access next pending
  have grounds := grounds_of_pending reached pending
  have conclude : ∀ channelId, conversations.isMember channelId user = true →
      conversations.directory channelId <+: file.path → False := by
    intro channelId member inside
    rw [uploadedTo_of_inside contained listed inside, member] at foreign
    cases foreign
  cases access with
  | deleteUploadFile key =>
      rcases grounds with ⟨-, ⟨other, same, verified⟩, -⟩ | ⟨decays, -⟩
      · obtain rfl := Option.some.inj (same.symm.trans named)
        exact conclude _ (isMember_of_verified reached verified) (confined request _ touches)
      · rw [request] at decays
        cases decays
  | insertAttachment row =>
      obtain ⟨-, -, other, same, verified, -⟩ := grounds
      obtain rfl := Option.some.inj (same.symm.trans named)
      exact conclude _ (isMember_of_verified reached verified) (confined _ touches)
  | statUploadFile key =>
      obtain ⟨other, row, same, readable, rfl⟩ := grounds
      obtain rfl := Option.some.inj (same.symm.trans named)
      obtain ⟨channelId, member, inside⟩ := rowInside_of_readable start reached readable
      exact conclude channelId member (inside _ touches)
  | readFile path =>
      obtain ⟨other, row, same, readable, found⟩ := grounds
      obtain rfl := Option.some.inj (same.symm.trans named)
      obtain ⟨channelId, member, inside⟩ := rowInside_of_readable start reached readable
      obtain rfl := Option.some.inj touches
      exact conclude channelId member (inside _ (resolved_of_stat reached found))
  | _ => cases touches

end Runs

/-! ## Computed checks -/

instance (conversations : Conversations) (channelId key : JsString) :
    Decidable (KeyInside conversations channelId key) :=
  decidable_of_iff ((resolved conversations key).all fun path =>
      (conversations.directory channelId).isPrefixOf path) (by
    unfold KeyInside
    cases resolved conversations key with
    | none => simp
    | some path => simp)

/-- Check that the keys of a run stay inside. -/
def confined (conversations : Conversations) (pool : FilePool) : Turn FileCall → Bool
  | .start _ => true
  | .advance index =>
      match pool.threads[index]? with
      | some ⟨call, .await (.deleteUploadFile key) _⟩ =>
          call.decays || decide (KeyInside conversations call.channelId key)
      | some ⟨call, .await (.insertAttachment row) _⟩ =>
          decide (KeyInside conversations call.channelId row.url)
      | _ => true

theorem confined_sound (conversations : Conversations) (pool : FilePool) (turn : Turn FileCall)
    (checked : confined conversations pool turn = true) : Confined conversations pool turn := by
  cases turn with
  | start call => trivial
  | advance index =>
    intro call access next pending
    unfold confined at checked
    dsimp only at checked
    rw [pending] at checked
    cases access with
    | deleteUploadFile key =>
      intro request
      simpa only [request, Bool.false_or, decide_eq_true_eq] using checked
    | insertAttachment row => exact of_decide_eq_true checked
    | _ => trivial

/-- Compute whether the next access of a process is a trespass. -/
def trespasses (conversations : Conversations) (pool : FilePool) (index : Nat) : Bool :=
  match pool.threads[index]? with
  | some ⟨call, .await access _⟩ =>
      !call.decays && call.user.any fun user => pool.shared.files.any fun file =>
        touched conversations access = some file.path && !conversations.isMember file.uploadedTo user
  | _ => false

theorem trespass_of_trespasses {conversations : Conversations} {pool : FilePool} {index : Nat}
    (computed : trespasses conversations pool index = true) :
    Trespass conversations pool index := by
  unfold trespasses at computed
  split at computed
  · rename_i call access next pending
    simp only [Bool.and_eq_true, Bool.not_eq_true', Option.any_eq_true, any_eq_true,
      decide_eq_true_eq] at computed
    obtain ⟨request, user, named, file, listed, touches, foreign⟩ := computed
    exact ⟨call, access, next, user, file, pending, request, named, listed, touches, foreign⟩
  · cases computed

namespace Sample

/-- The channel of Alice. -/
def first : JsString := js "00000000-0000-4000-8000-000000000001"

/-- The channel of Carol. -/
def second : JsString := js "00000000-0000-4000-8000-000000000002"

def drawn (text : String) (uuid : isUuid (js text) = true) : Uuid := ⟨js text, uuid⟩

def conversations : Conversations where
  attachmentsDir := [js "data", js "attachments"]
  members := ⟨[⟨first, js "alice", none⟩, ⟨second, js "carol", none⟩], by decide⟩
  messages := ⟨[⟨js "m", js "alice", none, none, none, some first, .null⟩], by decide⟩
  channelIds := by decide

def call (user : String) (channelId : JsString) (id : Uuid) (route : FileRoute) : FileCall where
  user := some (js user)
  channelId := channelId
  route := route
  limited := false
  drawn := id
  nowIso := js "2026-01-01"
  computeDecay := fun _ => some (js "2027-01-01")
  maybeRenewExpiry := fun _ => none
  late := false
  isDirectory := fun _ => false
  fails := fun _ => false

def empty : Storage := ⟨[], ⟨[], List.nodup_nil⟩, []⟩

def picture : Upload := ⟨js "cat.png", js "3", js "image/png", none⟩

def carols : Uuid := drawn "0000000c-0000-4000-8000-00000000000c" (by decide)

def alices : Uuid := drawn "0000000a-0000-4000-8000-00000000000a" (by decide)

/-- Carol uploads a picture to her channel. -/
def uploading : List (Turn FileCall) :=
  [.start (call "carol" second carols (.upload (some picture))), .advance 0, .advance 0]

/-- Alice asks to clean up a key that begins with her channel and leads into Carol's. -/
def straying : List (Turn FileCall) :=
  [.start (call "alice" first alices (.deleteUpload (some (attachmentPrefix first ++ js "../" ++
    second ++ 47 :: carols.val ++ js ".png")))), .advance 1, .advance 1]

/-- Alice uploads a picture and asks to clean it up again. -/
def tidying : List (Turn FileCall) :=
  [.start (call "alice" first alices (.upload (some picture))), .advance 1, .advance 1,
    .start (call "alice" first alices (.deleteUpload (some (uploadKey
      (call "alice" first alices (.upload none)) picture)))), .advance 2, .advance 2]

def follow (check : FilePool → Turn FileCall → Bool) (pool : FilePool)
    (turns : List (Turn FileCall)) :
    Option FilePool :=
  System.follow check (Pool.turn fileProgram fun _ call => fileHandle conversations call) pool turns

abbrev sampleSystem : System FilePool (Turn FileCall) := fileSystem conversations (· = empty)

def strayed : FilePool :=
  (follow System.unchecked (Pool.fresh empty) (uploading ++ straying)).get (by decide)

def tidied : FilePool :=
  (follow (confined conversations) (Pool.fresh empty) (uploading ++ tidying)).get (by decide)

theorem contained_empty : Contained conversations empty :=
  ⟨fun _ => (nomatch ·), fun _ => (nomatch ·)⟩

theorem contained_initial (storage : Storage) (same : storage = empty) :
    Contained conversations storage :=
  same ▸ contained_empty

theorem tidied_reachable : sampleSystem.Reachable (Confined conversations) tidied :=
  System.reachable_of_follow (confined_sound conversations) ⟨empty, rfl, rfl⟩ _

theorem tidied_confined : Confined conversations tidied (.advance 2) :=
  confined_sound conversations tidied (.advance 2) (by decide)

end Sample

/-- What Alice has uploaded herself she may clean up. -/
theorem tidied_not_trespass :
    Confined Sample.conversations Sample.tidied (.advance 2) ∧
      ¬ Trespass Sample.conversations Sample.tidied 2 :=
  ⟨Sample.tidied_confined, not_trespass_of_reachable Sample.contained_initial
    Sample.tidied_reachable Sample.tidied_confined⟩

/-- Alice, who is not a member of Carol's channel, deletes the picture that Carol has
uploaded to it. -/
theorem strayed_trespass :
    Sample.sampleSystem.Reachable System.unguarded Sample.strayed ∧
      Trespass Sample.conversations Sample.strayed 1 ∧
        (Sample.follow System.unchecked Sample.strayed [.advance 1]).any
          (fun pool => pool.shared.files.isEmpty) = true :=
  ⟨System.reachable_of_follow System.unchecked_sound ⟨Sample.empty, rfl, rfl⟩ _,
    trespass_of_trespasses (by decide), by decide⟩

end Vortex.Channels.Attachments
