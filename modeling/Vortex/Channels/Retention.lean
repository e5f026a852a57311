import Vortex.Channels.Isolation

/-!
# How long an attachment has its file

A row whose key named a file when it was inserted keeps the file until the cron job purges
it: the job deletes the file first and marks the row afterwards. A request only cleans up
a file that no row names, as far as it can tell by the text of the key and at the time it
looks; in the runs in which that is enough, and no two rows name one file, nothing else
takes a file away.
-/

namespace Vortex.Channels.Attachments

open Foundation

/-- The key of a row leads to a file. -/
def HasFile (conversations : Conversations) (storage : Storage) (row : StoredAttachment) : Prop :=
  ∃ path, resolved conversations row.url = some path ∧ storage.holds path = true

/-- A row that is not purged, and that had its file when it was inserted. -/
def IsLive (storage : Storage) (row : StoredAttachment) : Prop :=
  row ∈ storage.attachments.rows ∧ row.purgedAt = none ∧ row.id ∈ storage.backed

/-- A process waits for the answer to an access. -/
def Awaits (pool : FilePool) (index : Nat) (call : FileCall) (access : FileAccess)
    (next : storing.Answer access → FileProc) : Prop :=
  pool.threads[index]? = some ⟨call, .await access next⟩

/-- The cron job is about to mark a row, or that has failed. -/
def Purging (pool : FilePool) (id : JsString) : Prop :=
  (∃ index call nowIso next, Awaits pool index call (.markPurged id nowIso) next) ∨
    ∃ index nowIso, ⟨.markPurged id nowIso, (.error () : Except Unit Unit)⟩ ∈
      Pool.exchanges pool.history index

/-- Every live row has its file, unless it is being purged. -/
def Kept (conversations : Conversations) (pool : FilePool) : Prop :=
  ∀ row, IsLive pool.shared row → ¬ Purging pool row.id → HasFile conversations pool.shared row

/-- A row that is not purged and whose key leads where another key leads. -/
def Shares (conversations : Conversations) (key : JsString) (row : StoredAttachment) : Prop :=
  row.purgedAt = none ∧ (resolved conversations key).isSome = true ∧
    resolved conversations row.url = resolved conversations key

/-- A request does not delete by another spelling of the key of a row; the cron job deletes
no file of a row that it does not mark next; and no row is inserted for a key that a
request has found free and is about to delete. -/
def Regular (conversations : Conversations) (pool : FilePool) : Turn FileCall → Prop
  | .start _ => True
  | .advance index =>
      (∀ call key next, Awaits pool index call (.deleteUploadFile key) next →
        ∀ row ∈ pool.shared.attachments.rows, Shares conversations key row →
          if call.decays then
            ∀ answer, ∃ nowIso last, next answer = .await (.markPurged row.id nowIso) last
          else row.url = key) ∧
      ∀ call row next, Awaits pool index call (.insertAttachment row) next →
        ∀ other remover rest, Awaits pool other remover (.deleteUploadFile row.url) rest →
          remover.decays = true

/-- The storage from which a run starts. -/
structure Stocked (conversations : Conversations) (storage : Storage) : Prop where
  kept : ∀ row, IsLive storage row → HasFile conversations storage row
  backed : ∀ id ∈ storage.backed, ∃ row ∈ storage.attachments.rows, row.id = id

/-- What holds in every state of a regular run. -/
structure Retained (conversations : Conversations) (pool : FilePool) : Prop where
  kept : Kept conversations pool
  backed : ∀ id ∈ pool.shared.backed, ∃ row ∈ pool.shared.attachments.rows, row.id = id
  /-- The key that a request is about to delete is that of no row. -/
  free : ∀ index call key next, Awaits pool index call (.deleteUploadFile key) next →
    call.decays = false → ∀ row ∈ pool.shared.attachments.rows, row.url ≠ key

section Steps

variable {conversations : Conversations} {initial : Storage → Prop} {before after : FilePool}
  {label : Turn FileCall}

/-- A row that is being purged goes on being purged, or is purged. -/
theorem purging_of_step (moved : (fileSystem conversations initial).step before label after)
    {id : JsString} (purging : Purging before id) :
    Purging after id ∨ ∀ row ∈ after.shared.attachments.rows, row.id = id →
      row.purgedAt ≠ none := by
  rcases purging with ⟨index, call, nowIso, next, waits⟩ | ⟨index, nowIso, failed⟩
  · rcases Pool.waits_of_step moved waits with still | ⟨answer, -, answered, -, seen⟩
    · exact .inl (.inl ⟨index, call, nowIso, next, still⟩)
    · unfold fileHandle at answered
      split at answered
      · left
        refine .inr ⟨index, nowIso, ?_⟩
        have threw := congrArg Prod.fst (Option.some.inj answered)
        rw [seen]
        have same : answer = (.error () : Except Unit Unit) := threw.symm
        rw [same]
        exact seen_newest _
      · right
        have marked : before.shared.updateRow id (purged nowIso) (id_purged nowIso) =
            after.shared :=
          congrArg Prod.snd (Option.some.inj answered)
        intro row member named
        rw [← marked] at member
        obtain ⟨stored, present, rfl⟩ := List.mem_map.mp member
        split at named
        · rename_i mine
          rw [if_pos mine]
          exact fun unmarked => nomatch unmarked
        · rename_i other
          exact absurd (decide_eq_true named) other
  · exact .inl (.inr ⟨index, nowIso, Pool.exchanges_of_step moved failed⟩)

/-- The key a request has just found free is that of no row. -/
theorem free_of_answered {call : FileCall} {key : JsString} {storage later : Storage}
    (answered : fileHandle conversations call (.attachmentByUrl key) storage =
      some ((.ok false : Except Unit Bool), later)) :
    ∀ row ∈ later.attachments.rows, row.url ≠ key := by
  have executed := executed_of_handle answered (fun thrown => nomatch thrown)
  have same : storage = later := congrArg Prod.snd executed
  have absent : (storage.attachments.rows.any fun row => row.url = key) = false :=
    Except.ok.inj (congrArg Prod.fst executed)
  intro row member url
  rw [← same] at member
  have found := List.any_eq_false.mp absent row member
  exact found (decide_eq_true url)

/-- Every row after a step was there before with its id, its key and its mark, unless it has
been marked, or it has just been inserted. -/
theorem row_of_handle {call : FileCall} {access : FileAccess} {answer : storing.Answer access}
    {storage later : Storage}
    (answered : fileHandle conversations call access storage = some (answer, later))
    {row : StoredAttachment} (member : row ∈ later.attachments.rows) :
    (∃ stored ∈ storage.attachments.rows, stored.id = row.id ∧ stored.url = row.url ∧
        (row.purgedAt = none → stored.purgedAt = none)) ∨
      (access = .insertAttachment row ∧ storage.attachments.find? row.id = none) := by
  rcases storage_of_handle answered with same | ⟨key, path, -, -, same⟩ | ⟨key, path, -, -, same⟩ |
    ⟨inserted, rfl, free, same⟩ | ⟨id, expiresAt, -, same⟩ | ⟨id, nowIso, -, same⟩
  · exact .inl ⟨row, same ▸ member, rfl, rfl, fun unmarked => unmarked⟩
  · rw [same] at member
    exact .inl ⟨row, member, rfl, rfl, fun unmarked => unmarked⟩
  · rw [same] at member
    exact .inl ⟨row, member, rfl, rfl, fun unmarked => unmarked⟩
  · rw [same] at member
    rcases Table.mem_insertIgnore.mp member with stored | ⟨rfl, -⟩
    · exact .inl ⟨row, stored, rfl, rfl, fun unmarked => unmarked⟩
    · exact .inr ⟨rfl, free⟩
  · rw [same] at member
    obtain ⟨stored, present, rfl⟩ := List.mem_map.mp member
    left
    refine ⟨stored, present, ?_⟩
    split
    · exact ⟨rfl, rfl, fun unmarked => unmarked⟩
    · exact ⟨rfl, rfl, fun unmarked => unmarked⟩
  · rw [same] at member
    obtain ⟨stored, present, rfl⟩ := List.mem_map.mp member
    left
    refine ⟨stored, present, ?_⟩
    split
    · exact ⟨rfl, rfl, fun unmarked => nomatch unmarked⟩
    · exact ⟨rfl, rfl, fun unmarked => unmarked⟩

/-- A row stays, with its id. -/
theorem backed_of_handle {call : FileCall} {access : FileAccess} {answer : storing.Answer access}
    {storage later : Storage}
    (answered : fileHandle conversations call access storage = some (answer, later))
    (backed : ∀ id ∈ storage.backed, ∃ row ∈ storage.attachments.rows, row.id = id) :
    ∀ id ∈ later.backed, ∃ row ∈ later.attachments.rows, row.id = id := by
  have updated : ∀ id change keeps, ∀ wanted ∈ (storage.updateRow id change keeps).backed,
      ∃ row ∈ (storage.updateRow id change keeps).attachments.rows, row.id = wanted := by
    intro id change keeps wanted member
    obtain ⟨row, listed, named⟩ := backed wanted member
    refine ⟨_, List.mem_map_of_mem listed, ?_⟩
    split
    · exact (keeps row).trans named
    · exact named
  rcases storage_of_handle answered with same | ⟨key, path, -, -, same⟩ | ⟨key, path, -, -, same⟩ |
    ⟨inserted, -, free, same⟩ | ⟨id, expiresAt, -, same⟩ | ⟨id, nowIso, -, same⟩
  · rw [same]
    exact backed
  · rw [same]
    exact backed
  · rw [same]
    exact backed
  · rw [same]
    have old : ∀ id ∈ storage.backed, ∃ row ∈ (storage.attachments.insertIgnore inserted).rows,
        row.id = id := by
      intro id member
      obtain ⟨row, listed, named⟩ := backed id member
      exact ⟨row, Table.mem_insertIgnore.mpr (.inl listed), named⟩
    have new : ∃ row ∈ (storage.attachments.insertIgnore inserted).rows, row.id = inserted.id :=
      ⟨inserted, Table.mem_insertIgnore.mpr (.inr ⟨rfl, Table.find?_eq_none.mp free⟩), rfl⟩
    intro id member
    unfold Storage.insert at member
    dsimp only at member
    split at member
    · rcases List.mem_cons.mp member with rfl | earlier
      · exact new
      · exact old id earlier
    · exact old id member
  · rw [same]
    exact updated id _ _
  · rw [same]
    exact updated id _ _

/-- A key that a request is about to delete stays that of no row. -/
theorem free_of_step
    (reached : (fileSystem conversations initial).Reachable (Regular conversations) before)
    (moved : (fileSystem conversations initial).step before label after)
    (admitted : Regular conversations before label) (retained : Retained conversations before)
    {index : Nat} {call : FileCall} {key : JsString} {next : Except Unit Unit → FileProc}
    (waits : Awaits after index call (.deleteUploadFile key) next) (request : call.decays = false) :
    ∀ row ∈ after.shared.attachments.rows, row.url ≠ key := by
  have grounds := grounds_of_pending (.step reached admitted moved) waits
  have last : (Pool.exchanges after.history index).getLast? =
      some ⟨.attachmentByUrl key, (.ok false : Except Unit Bool)⟩ := by
    rcases grounds with ⟨-, -, last⟩ | ⟨decays, -⟩
    · exact last
    · rw [request] at decays
      cases decays
  rcases Pool.waited_of_step moved waits with still | ⟨started, same⟩ |
    ⟨earlier, answer, rest, -, -, answered, seen⟩
  · intro row member
    obtain ⟨call', -, same⟩ | ⟨moving, mover, access, continuation, answer, storage, rfl, pending,
      answered, rfl⟩ := Pool.step_cases moved
    · rw [same] at member
      exact retained.free index call key next still request row member
    · rcases row_of_handle answered member with ⟨stored, listed, -, url, -⟩ | ⟨rfl, -⟩
      · rw [← url]
        exact retained.free index call key next still request stored listed
      · intro same
        subst same
        have decays := admitted.2 mover row continuation pending index call next still
        rw [request] at decays
        cases decays
  · rw [same, Pool.exchanges_eq_nil reached started] at last
    cases last
  · rw [seen, List.getLast?_concat] at last
    cases last
    exact free_of_answered answered

/-- A file is still there after another file has been written or removed. -/
theorem holds_write {storage : Storage} {path other : DiskPath} {channelId : JsString}
    (holds : storage.holds path = true) : (storage.write other channelId).holds path = true := by
  obtain ⟨file, listed, same⟩ := List.any_eq_true.mp holds
  refine List.any_eq_true.mpr ?_
  by_cases mine : path = other
  · exact ⟨_, List.mem_cons_self, decide_eq_true mine.symm⟩
  · refine ⟨file, List.mem_cons_of_mem _ (List.mem_filter.mpr ⟨listed, ?_⟩), same⟩
    rw [of_decide_eq_true same]
    exact decide_eq_true mine

theorem holds_remove {storage : Storage} {path other : DiskPath} (different : path ≠ other)
    (holds : storage.holds path = true) : (storage.remove other).holds path = true := by
  obtain ⟨file, listed, same⟩ := List.any_eq_true.mp holds
  refine List.any_eq_true.mpr ⟨file, List.mem_filter.mpr ⟨listed, ?_⟩, same⟩
  rw [of_decide_eq_true same]
  exact decide_eq_true different

/-- A row that lives after an update lived before it, under the same key. -/
theorem isLive_of_update {storage : Storage} {id : JsString}
    {change : StoredAttachment → StoredAttachment} {keeps : ∀ row, (change row).id = row.id}
    (leads : ∀ row, (change row).url = row.url ∧ ((change row).purgedAt = none → row.purgedAt = none))
    {row : StoredAttachment} (live : IsLive (storage.updateRow id change keeps) row) :
    ∃ stored, IsLive storage stored ∧ stored.id = row.id ∧ stored.url = row.url := by
  obtain ⟨member, unmarked, backed⟩ := live
  obtain ⟨stored, present, rfl⟩ := List.mem_map.mp member
  refine ⟨stored, ?_⟩
  split at unmarked
  · rename_i mine
    rw [if_pos mine] at backed ⊢
    exact ⟨⟨present, (leads stored).2 unmarked, keeps stored ▸ backed⟩, (keeps stored).symm,
      (leads stored).1.symm⟩
  · rename_i other
    rw [if_neg other] at backed ⊢
    exact ⟨⟨present, unmarked, backed⟩, rfl, rfl⟩

/-- A row that is inserted has its file if it counts as backed, and no other row changes. -/
theorem hasFile_insert {storage : Storage} {inserted row : StoredAttachment}
    (free : storage.attachments.find? inserted.id = none)
    (backed : ∀ id ∈ storage.backed, ∃ row ∈ storage.attachments.rows, row.id = id)
    (live : IsLive (storage.insert inserted ((resolved conversations inserted.url).any storage.holds))
      row) : IsLive storage row ∨ HasFile conversations storage row := by
  obtain ⟨member, unmarked, counted⟩ := live
  have unused := Table.find?_eq_none.mp free
  unfold Storage.insert at counted
  dsimp only at counted
  rcases Table.mem_insertIgnore.mp member with stored | ⟨rfl, -⟩
  · left
    refine ⟨stored, unmarked, ?_⟩
    split at counted
    · rcases List.mem_cons.mp counted with same | earlier
      · exact absurd same (unused row stored)
      · exact earlier
    · exact counted
  · right
    split at counted
    · rename_i held
      rw [Option.any_eq_true] at held
      obtain ⟨path, lands, holds⟩ := held
      exact ⟨path, lands, holds⟩
    · obtain ⟨stored, listed, named⟩ := backed row.id counted
      exact absurd named (unused stored listed)

theorem kept_of_step (moved : (fileSystem conversations initial).step before label after)
    (admitted : Regular conversations before label) (retained : Retained conversations before) :
    Kept conversations after := by
  intro row live untouched
  -- nothing that is being purged before the step lives after it
  have still : ∀ stored, IsLive before.shared stored → stored.id = row.id →
      HasFile conversations before.shared stored := by
    intro stored alive named
    refine retained.kept stored alive fun purging => ?_
    rw [named] at purging
    rcases purging_of_step moved purging with later | marked
    · exact untouched later
    · exact marked row live.1 rfl live.2.1
  obtain ⟨call, -, rfl⟩ | ⟨index, call, access, next, answer, storage, rfl, pending, answered,
    rfl⟩ := Pool.step_cases moved
  · exact still row live rfl
  · change IsLive storage row at live
    change HasFile conversations storage row
    rcases storage_of_handle answered with same | ⟨key, path, -, -, same⟩ | ⟨key, path, rfl, lands, same⟩ |
      ⟨inserted, -, free, same⟩ | ⟨id, expiresAt, -, same⟩ | ⟨id, nowIso, -, same⟩
    all_goals
      subst same
    · exact still row live rfl
    · obtain ⟨found, leads, holds⟩ := still row live rfl
      exact ⟨found, leads, holds_write holds⟩
    · obtain ⟨found, leads, holds⟩ := still row live rfl
      by_cases other : found = path
      · subst other
        have shares : Shares conversations key row := by
          refine ⟨live.2.1, ?_, leads.trans lands.symm⟩
          rw [lands]
          rfl
        have condition := admitted.1 call key next pending row live.1 shares
        split at condition
        · obtain ⟨nowIso, last, marks⟩ := condition answer
          refine absurd (Or.inl ⟨index, call, nowIso, last, ?_⟩) untouched
          rw [Awaits, ← marks]
          obtain ⟨bound, -⟩ := List.getElem?_eq_some_iff.mp pending
          exact List.getElem?_set_self bound
        · rename_i request
          rw [Bool.not_eq_true] at request
          exact absurd condition (retained.free index call key next pending request row live.1)
      · exact ⟨found, leads, holds_remove other holds⟩
    · rcases hasFile_insert free retained.backed live with alive | found
      · exact still row alive rfl
      · exact found
    · have leads : ∀ row, (renewed expiresAt row).url = row.url ∧
          ((renewed expiresAt row).purgedAt = none → row.purgedAt = none) :=
        fun row => ⟨rfl, fun unmarked => unmarked⟩
      obtain ⟨stored, alive, named, url⟩ := isLive_of_update leads live
      obtain ⟨path, leads, holds⟩ := still stored alive named
      exact ⟨path, url ▸ leads, holds⟩
    · have leads : ∀ row, (purged nowIso row).url = row.url ∧
          ((purged nowIso row).purgedAt = none → row.purgedAt = none) :=
        fun row => ⟨rfl, fun unmarked => nomatch unmarked⟩
      obtain ⟨stored, alive, named, url⟩ := isLive_of_update leads live
      obtain ⟨path, leads, holds⟩ := still stored alive named
      exact ⟨path, url ▸ leads, holds⟩

end Steps

/-! ## Runs -/

section Runs

variable {conversations : Conversations} {initial : Storage → Prop} {pool : FilePool}

theorem retained_of_reachable (start : ∀ storage, initial storage → Stocked conversations storage)
    (reached : (fileSystem conversations initial).Reachable (Regular conversations) pool) :
    Retained conversations pool := by
  refine reached.invariant ?_ ?_
  · intro pool fresh
    obtain ⟨storage, first, rfl⟩ := fresh
    have stocked := start storage first
    exact ⟨fun row live _ => stocked.kept row live, stocked.backed, fun _ _ _ _ absent =>
      nomatch absent⟩
  · intro before label after reached retained admitted moved
    refine ⟨kept_of_step moved admitted retained, ?_, ?_⟩
    · obtain ⟨call, -, rfl⟩ | ⟨index, call, access, next, answer, storage, -, -, answered, rfl⟩ :=
        Pool.step_cases moved
      · exact retained.backed
      · exact backed_of_handle answered retained.backed
    · intro index call key next waits request
      exact free_of_step reached moved admitted retained waits request

/-- In every regular run, a row that is not purged, and whose key named a file when it was
inserted, still has its file, unless the cron job is about to mark it or has failed to. -/
theorem kept_of_reachable (start : ∀ storage, initial storage → Stocked conversations storage)
    (reached : (fileSystem conversations initial).Reachable (Regular conversations) pool) :
    Kept conversations pool :=
  (retained_of_reachable start reached).kept

end Runs

/-! ## Computed checks -/

/-- Check that a request deletes by no other spelling of the key of a row, that the cron job
deletes no file of a row that is not purged, and that no row is inserted for a key that is
about to be deleted. -/
def regular (conversations : Conversations) (pool : FilePool) : Turn FileCall → Bool
  | .start _ => true
  | .advance index =>
      match pool.threads[index]? with
      | some ⟨call, .await (.deleteUploadFile key) _⟩ =>
          pool.shared.attachments.rows.all fun row => row.purgedAt.isSome ||
            resolved conversations row.url ≠ resolved conversations key ||
              (!call.decays && row.url = key)
      | some ⟨_, .await (.insertAttachment row) _⟩ =>
          pool.threads.all fun thread =>
            match thread with
            | ⟨remover, .await (.deleteUploadFile key) _⟩ => remover.decays || key ≠ row.url
            | _ => true
      | _ => true

theorem regular_sound (conversations : Conversations) (pool : FilePool) (turn : Turn FileCall)
    (checked : regular conversations pool turn = true) : Regular conversations pool turn := by
  cases turn with
  | start call => trivial
  | advance index =>
    unfold regular at checked
    dsimp only at checked
    constructor
    · intro call key next pending row member shares
      rw [Awaits] at pending
      rw [pending] at checked
      have passed := List.all_eq_true.mp checked row member
      obtain ⟨unmarked, -, same⟩ := shares
      simp only [unmarked, same, Option.isSome_none, ne_eq, not_true_eq_false, decide_false,
        Bool.or_self, Bool.false_or, Bool.and_eq_true, Bool.not_eq_true', decide_eq_true_eq] at passed
      rw [passed.1, if_neg Bool.false_ne_true]
      exact passed.2
    · intro call row next pending other remover rest waits
      rw [Awaits] at pending
      rw [pending] at checked
      have passed := List.all_eq_true.mp checked _ (List.mem_of_getElem? waits)
      simpa only [ne_eq, not_true_eq_false, decide_false, Bool.or_false] using passed

/-- Compute whether a live row has lost its file. -/
def hasLost (conversations : Conversations) (storage : Storage) : Bool :=
  storage.attachments.rows.any fun row => row.purgedAt.isNone && storage.backed.contains row.id &&
    !(resolved conversations row.url).any storage.holds

theorem not_hasFile_of_hasLost {conversations : Conversations} {storage : Storage}
    (computed : hasLost conversations storage = true) :
    ¬ ∀ row, IsLive storage row → HasFile conversations storage row := by
  intro every
  obtain ⟨row, member, lost⟩ := List.any_eq_true.mp computed
  simp only [Bool.and_eq_true, Option.isNone_iff_eq_none, List.contains_iff_mem] at lost
  obtain ⟨⟨unmarked, backed⟩, missing⟩ := lost
  obtain ⟨path, leads, holds⟩ := every row ⟨member, unmarked, backed⟩
  rw [leads, Option.any_some, holds] at missing
  cases missing

namespace Sample

/-- Alice attaches the picture she has uploaded to her message; `expiresAt` is its expiry. -/
def attaching (expiresAt : String) : FileCall :=
  { call "alice" first alices (.attach (some (.obj [(js "dm_id", .str (js "m")),
      (js "key", .str (uploadKey (call "alice" first alices (.upload none)) picture)),
      (js "filename", .str (js "cat.png")), (js "size", .num (js "3")),
      (js "content_type", .str (js "image/png"))]))) with
    computeDecay := fun _ => some (js expiresAt) }

def attached (expiresAt : String) : List (Turn FileCall) :=
  [.start (call "alice" first alices (.upload (some picture))), .advance 0, .advance 0,
    .start (attaching expiresAt), .advance 1, .advance 1, .advance 1]

/-- The cron job selects the expired row and deletes its file. -/
def purging : List (Turn FileCall) :=
  [.start (call "" [] alices (.attachmentDecay (.ok ()))), .advance 2, .advance 2]

/-- Alice cleans up the key of her picture, with a dot in it. -/
def respelling : List (Turn FileCall) :=
  [.start (call "alice" first alices (.deleteUpload (some (attachmentPrefix first ++ js "./" ++
    alices.val ++ js ".png")))), .advance 2, .advance 2, .advance 2]

/-- Alice cleans up an upload that she has attached, and Carol one that she has not. -/
def cleaning : List (Turn FileCall) :=
  [.start (call "alice" first alices (.deleteUpload (some (uploadKey
      (call "alice" first alices (.upload none)) picture)))), .advance 2, .advance 2,
    .start (call "carol" second carols (.upload (some picture))), .advance 3, .advance 3,
    .start (call "carol" second carols (.deleteUpload (some (uploadKey
      (call "carol" second carols (.upload none)) picture)))), .advance 4, .advance 4, .advance 4]

def decaying : FilePool :=
  (follow System.unchecked (Pool.fresh empty) (attached "2025-06-01" ++ purging)).get
    (by decide)

def respelled : FilePool :=
  (follow System.unchecked (Pool.fresh empty) (attached "2027-06-01" ++ respelling)).get
    (by decide)

def cleaned : FilePool :=
  (follow (regular conversations) (Pool.fresh empty) (attached "2027-06-01" ++ cleaning)).get
    (by decide)

theorem stocked_initial (storage : Storage) (same : storage = empty) :
    Stocked conversations storage := by
  subst same
  exact ⟨fun row live => (nomatch live.1), fun _ => (nomatch ·)⟩

end Sample

/-- What is attached stays, and what is not is cleaned up. -/
theorem cleaned_kept : Kept Sample.conversations Sample.cleaned ∧
    Sample.cleaned.shared.files.length = 1 :=
  ⟨kept_of_reachable Sample.stocked_initial (System.reachable_of_follow
    (regular_sound Sample.conversations) ⟨Sample.empty, rfl, rfl⟩ _), by decide⟩

/-- Between the deletion of an expired file and the mark on its row, the row is not purged
and has no file. -/
theorem decaying_lost : Sample.sampleSystem.Reachable System.unguarded Sample.decaying ∧
    ¬ ∀ row, IsLive Sample.decaying.shared row →
      HasFile Sample.conversations Sample.decaying.shared row :=
  ⟨System.reachable_of_follow System.unchecked_sound ⟨Sample.empty, rfl, rfl⟩ _,
    not_hasFile_of_hasLost (by decide)⟩

/-- By another spelling of its key an attached file is deleted for good. -/
theorem respelled_lost : Sample.sampleSystem.Reachable System.unguarded Sample.respelled ∧
    ¬ ∀ row, IsLive Sample.respelled.shared row →
      HasFile Sample.conversations Sample.respelled.shared row :=
  ⟨System.reachable_of_follow System.unchecked_sound ⟨Sample.empty, rfl, rfl⟩ _,
    not_hasFile_of_hasLost (by decide)⟩

end Vortex.Channels.Attachments
