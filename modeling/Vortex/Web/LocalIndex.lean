import Mathlib.Data.List.Lex
import Mathlib.Data.List.MinMax
import Mathlib.Data.List.Perm.Subperm
import Mathlib.Order.Lex
import Vortex.Foundation.JsText
import Vortex.Foundation.Postings

/-!
# The local search index

The messages a client has decrypted, in three maps: the documents, the ids that each token is
found in, and the ids of each channel. Two caps bound the memory: one document makes room for the
next one, the oldest of its channel or of all.
-/

namespace Vortex.Web

open Foundation List

structure IndexedDocument where
  id : JsString
  channelId : JsString
  authorId : JsString
  authorName : JsString
  avatarUrl : Option JsString
  text : JsString
  createdAt : JsString
  deriving DecidableEq

/-! ## Tokens -/

/-- What the runtime knows of the characters. -/
structure Unicode where
  toLowerCase : JsString → JsString
  /-- By the categories of Unicode. -/
  isLetterOrNumber : Nat → Bool

def STOP_WORDS : List JsString :=
  ["a", "an", "and", "are", "as", "at", "be", "but", "by", "for", "from",
    "has", "have", "he", "her", "him", "his", "how", "i", "if", "in", "is",
    "it", "its", "me", "my", "no", "not", "of", "on", "or", "our", "out",
    "she", "so", "than", "that", "the", "their", "them", "then", "there",
    "they", "this", "to", "up", "us", "was", "we", "were", "what", "when",
    "who", "why", "will", "with", "you", "your"].map js

/-- A text with a space for each run of what is neither a letter nor a number, where a run may have
begun before it. -/
def spaced (unicode : Unicode) (inRun : Bool) : JsString → JsString
  | [] => []
  | [unit] =>
      if unicode.isLetterOrNumber unit.toNat then [unit] else if inRun then [] else [32]
  | lead :: trail :: rest =>
      if JsString.isLeadSurrogate lead && JsString.isTrailSurrogate trail then
        if unicode.isLetterOrNumber
            (0x10000 + (lead.toNat - 0xD800) * 0x400 + (trail.toNat - 0xDC00)) then
          lead :: trail :: spaced unicode false rest
        else if inRun then spaced unicode true rest
        else 32 :: spaced unicode true rest
      else if unicode.isLetterOrNumber lead.toNat then lead :: spaced unicode false (trail :: rest)
      else if inRun then spaced unicode true (trail :: rest)
      else 32 :: spaced unicode true (trail :: rest)

def tokenise (unicode : Unicode) (text : JsString) : List JsString :=
  ((spaced unicode false (unicode.toLowerCase text)).splitOn 32).filter fun token =>
    2 ≤ token.length && !STOP_WORDS.contains token

/-- ASCII, for examples. -/
def Unicode.ascii : Unicode where
  toLowerCase text := text.map fun unit => if 65 ≤ unit && unit ≤ 90 then unit + 32 else unit
  isLetterOrNumber code := (97 ≤ code && code ≤ 122) || (48 ≤ code && code ≤ 57)

example : tokenise .ascii (js "The Quick, quick -- fox!") = [js "quick", js "quick", js "fox"] := by
  decide

/-! ## The index -/

def MAX_DOCS_PER_CHANNEL : Nat := 2000

def MAX_DOCS_GLOBAL : Nat := 10000

structure LocalSearchIndex where
  /-- From tokens to ids. -/
  invertedIndex : Postings JsString JsString
  docs : JsMap JsString IndexedDocument
  /-- From channels to ids. -/
  channelDocs : Postings JsString JsString

/-- The loop of both caps over ids with their times: the first one of the smallest time. An
empty id counts as none. -/
def oldest (entries : List (JsString × JsString)) : Option (JsString × JsString) :=
  entries.foldl (fun oldest entry => match oldest with
    | none => some entry
    | some (oldestId, oldestTs) =>
        if oldestId.isEmpty || entry.2.codeUnits < oldestTs.codeUnits then some entry
        else some (oldestId, oldestTs)) none

/-- Without empty ids the loop is that of a least element. -/
theorem oldest_eq_argmin {entries : List (JsString × JsString)}
    (named : ∀ entry ∈ entries, entry.1 ≠ []) :
    oldest entries = entries.argmin fun entry => entry.2.codeUnits := by
  induction entries using List.reverseRecOn with
  | nil => rfl
  | append_singleton entries entry ih =>
    have earlier := ih fun other member => named other (mem_append_left _ member)
    rw [argmin_concat, ← earlier, oldest, foldl_append, ← oldest]
    cases found : oldest entries with
    | none => rfl
    | some first =>
      have listed := argmin_mem (earlier ▸ found)
      have truthy : first.1 ≠ [] := named first (mem_append_left _ listed)
      simp [truthy]

theorem oldest_spec {entries : List (JsString × JsString)} (nonempty : entries ≠ [])
    (named : ∀ entry ∈ entries, entry.1 ≠ []) :
    ∃ first ∈ entries, oldest entries = some first ∧
      ∀ entry ∈ entries, first.2.codeUnits ≤ entry.2.codeUnits := by
  rw [oldest_eq_argmin named]
  cases found : entries.argmin fun entry => entry.2.codeUnits with
  | none => exact absurd (argmin_eq_none.mp found) nonempty
  | some first =>
    have least := fun entry (member : entry ∈ entries) =>
      not_lt_of_mem_argmin member (Option.mem_def.mpr found)
    exact ⟨first, argmin_mem found, rfl, fun entry member => not_lt.mp (least entry member)⟩

namespace LocalSearchIndex

def empty : LocalSearchIndex := ⟨.empty, .empty, .empty⟩

section Operations

variable (unicode : Unicode)

def removeDocument (index : LocalSearchIndex) (id : JsString) : LocalSearchIndex :=
  match index.docs.get? id with
  | none => index
  | some doc =>
      { invertedIndex := (tokenise unicode doc.text).foldl
          (fun map token => Postings.takeOut map id token) index.invertedIndex
        docs := index.docs.delete id
        channelDocs := index.channelDocs.takeOff id doc.channelId }

/-- The end of both caps. -/
def evictOldest (index : LocalSearchIndex) (entries : List (JsString × JsString)) :
    LocalSearchIndex :=
  match oldest entries with
  | none => index
  | some (oldestId, _) => if oldestId.isEmpty then index else index.removeDocument unicode oldestId

def enforceChannelCap (index : LocalSearchIndex) (channelId : JsString) : LocalSearchIndex :=
  match index.channelDocs.get? channelId with
  | none => index
  | some ids =>
      if ids.size < MAX_DOCS_PER_CHANNEL then index
      else index.evictOldest unicode
        (ids.keys.map fun id => (id, ((index.docs.get? id).map IndexedDocument.createdAt).getD []))

/-- All ids with their times. -/
def times (index : LocalSearchIndex) : List (JsString × JsString) :=
  index.docs.entries.map fun entry => (entry.1, entry.2.createdAt)

def enforceGlobalCap (index : LocalSearchIndex) : LocalSearchIndex :=
  if index.docs.size < MAX_DOCS_GLOBAL then index
  else index.evictOldest unicode index.times

/-- The end of `addDocument`, once there is room. -/
def storeDocument (index : LocalSearchIndex) (doc : IndexedDocument) : LocalSearchIndex where
  invertedIndex := (tokenise unicode doc.text).foldl
    (fun map token => Postings.post map doc.id token) index.invertedIndex
  docs := index.docs.set doc.id doc
  channelDocs := index.channelDocs.post doc.id doc.channelId

def addDocument (index : LocalSearchIndex) (doc : IndexedDocument) : LocalSearchIndex :=
  let index := if index.docs.has doc.id then index.removeDocument unicode doc.id else index
  let index := index.enforceChannelCap unicode doc.channelId
  let index := index.enforceGlobalCap unicode
  index.storeDocument unicode doc

def addDocuments (index : LocalSearchIndex) (docs : List IndexedDocument) : LocalSearchIndex :=
  docs.foldl (fun index doc => index.addDocument unicode doc) index

def clearChannel (index : LocalSearchIndex) (channelId : JsString) : LocalSearchIndex :=
  match index.channelDocs.get? channelId with
  | none => index
  | some ids =>
      -- A removal during the iteration takes no id away but the one that is being visited.
      let index := ids.keys.foldl (fun index id => index.removeDocument unicode id) index
      { index with channelDocs := index.channelDocs.delete channelId }

def clearAll : LocalSearchIndex := empty

end Operations

/-! ## The three maps agree -/

/-- A document that is stored under its id. -/
def Stores (index : LocalSearchIndex) (doc : IndexedDocument) : Prop :=
  index.docs.get? doc.id = some doc

/-- The same documents of a channel. -/
def AlikeInside (first second : LocalSearchIndex) (channelId : JsString) : Prop :=
  ∀ doc, doc.channelId = channelId → (first.Stores doc ↔ second.Stores doc)

structure Consistent (unicode : Unicode) (index : LocalSearchIndex) : Prop where
  named : ∀ id doc, index.docs.get? id = some doc → doc.id = id
  posted : index.invertedIndex.Lists fun token id =>
    ∃ doc, index.docs.get? id = some doc ∧ token ∈ tokenise unicode doc.text
  filled : index.invertedIndex.Filled
  grouped : index.channelDocs.Lists fun channelId id =>
    ∃ doc, index.docs.get? id = some doc ∧ doc.channelId = channelId

/-- The caps hold, and no id is empty. -/
structure Bounded (index : LocalSearchIndex) : Prop where
  truthy : ∀ id doc, index.docs.get? id = some doc → id ≠ []
  channelCap : ∀ channelId, (index.channelDocs.members channelId).length ≤ MAX_DOCS_PER_CHANNEL
  globalCap : index.docs.size ≤ MAX_DOCS_GLOBAL

variable {unicode : Unicode} {index : LocalSearchIndex} {doc old : IndexedDocument}
  {id other channelId : JsString}

theorem consistent_empty : Consistent unicode empty where
  named _ _ stored := by cases stored
  posted token id := by
    constructor
    · exact fun listed => absurd listed not_mem_nil
    · rintro ⟨doc, stored, _⟩
      cases stored
  filled _ _ found := by cases found
  grouped channelId id := by
    constructor
    · exact fun listed => absurd listed not_mem_nil
    · rintro ⟨doc, stored, _⟩
      cases stored

theorem bounded_empty : Bounded empty where
  truthy _ _ stored := by cases stored
  channelCap _ := Nat.zero_le _
  globalCap := Nat.zero_le _

/-! ## Removals -/

theorem removeDocument_of_none (absent : index.docs.get? id = none) :
    index.removeDocument unicode id = index := by
  rw [removeDocument, absent]

theorem removeDocument_of_some (stored : index.docs.get? id = some doc) :
    index.removeDocument unicode id =
      { invertedIndex := (tokenise unicode doc.text).foldl
          (fun map token => Postings.takeOut map id token) index.invertedIndex
        docs := index.docs.delete id
        channelDocs := index.channelDocs.takeOff id doc.channelId } := by
  rw [removeDocument, stored]

theorem get?_removeDocument : (index.removeDocument unicode id).docs.get? other =
    if other = id then none else index.docs.get? other := by
  cases stored : index.docs.get? id with
  | none =>
    rw [removeDocument_of_none stored]
    split
    · rename_i same
      rw [same, stored]
    · rfl
  | some doc =>
    rw [removeDocument_of_some stored]
    exact JsMap.get?_delete

/-- What holds of one of the documents after a removal. -/
theorem exists_removeDocument_iff (stored : index.docs.get? id = some doc)
    {holds : IndexedDocument → Prop} :
    (∃ found, (index.removeDocument unicode id).docs.get? other = some found ∧ holds found) ↔
      (∃ found, index.docs.get? other = some found ∧ holds found) ∧ ¬ (other = id ∧ holds doc) := by
  rw [get?_removeDocument]
  by_cases same : other = id
  · subst same
    simp [stored]
  · simp [same]

theorem size_removeDocument_le :
    (index.removeDocument unicode id).docs.size ≤ index.docs.size := by
  rw [removeDocument]
  split
  · exact le_rfl
  · exact JsMap.size_delete_le

theorem size_removeDocument (stored : index.docs.get? id = some doc) :
    (index.removeDocument unicode id).docs.size + 1 = index.docs.size := by
  rw [removeDocument_of_some stored]
  exact JsMap.size_delete (JsMap.mem_keys.mpr ⟨doc, stored⟩)

theorem length_removeDocument_le :
    ((index.removeDocument unicode id).channelDocs.members channelId).length ≤
      (index.channelDocs.members channelId).length := by
  rw [removeDocument]
  split
  · exact le_rfl
  · exact Postings.length_takeOff_le

namespace Consistent

variable (consistent : Consistent unicode index)

include consistent

theorem stores (stored : index.docs.get? id = some doc) : index.Stores doc := by
  rw [Stores, consistent.named id doc stored]
  exact stored

theorem mem_channel (stored : index.docs.get? id = some doc) :
    id ∈ index.channelDocs.members channelId ↔ doc.channelId = channelId := by
  rw [consistent.grouped channelId id]
  constructor
  · rintro ⟨found, same, grouped⟩
    rw [stored] at same
    cases same
    exact grouped
  · exact fun grouped => ⟨doc, stored, grouped⟩

theorem removeDocument : Consistent unicode (index.removeDocument unicode id) := by
  cases stored : index.docs.get? id with
  | none =>
    rw [removeDocument_of_none stored]
    exact consistent
  | some doc =>
    constructor
    · intro other found there
      rw [get?_removeDocument] at there
      split at there
      · cases there
      · exact consistent.named other found there
    · intro token other
      refine Iff.trans ?_ (exists_removeDocument_iff stored).symm
      rw [removeDocument_of_some stored, Postings.mem_members_takeOutAll,
        consistent.posted token other]
    · rw [removeDocument_of_some stored]
      exact consistent.filled.takeOutAll _
    · intro channelId other
      refine Iff.trans ?_ (exists_removeDocument_iff stored).symm
      rw [removeDocument_of_some stored, Postings.mem_members_takeOff,
        consistent.grouped channelId other, @eq_comm _ channelId]

end Consistent

theorem Bounded.removeDocument (bounded : Bounded index) :
    Bounded (index.removeDocument unicode id) where
  truthy other doc stored := by
    rw [get?_removeDocument] at stored
    split at stored
    · cases stored
    · exact bounded.truthy other doc stored
  channelCap channelId := length_removeDocument_le.trans (bounded.channelCap channelId)
  globalCap := size_removeDocument_le.trans bounded.globalCap

/-! ## Insertions -/

theorem get?_storeDocument : (index.storeDocument unicode doc).docs.get? other =
    if other = doc.id then some doc else index.docs.get? other := JsMap.get?_set

/-- What holds of one of the documents after an insertion. -/
theorem exists_storeDocument_iff (absent : index.docs.get? doc.id = none)
    {holds : IndexedDocument → Prop} :
    (∃ found, (index.storeDocument unicode doc).docs.get? other = some found ∧ holds found) ↔
      (∃ found, index.docs.get? other = some found ∧ holds found) ∨
        (other = doc.id ∧ holds doc) := by
  rw [get?_storeDocument]
  by_cases same : other = doc.id
  · subst same
    simp [absent]
  · simp [same]

theorem Consistent.storeDocument (consistent : Consistent unicode index)
    (absent : index.docs.get? doc.id = none) :
    Consistent unicode (index.storeDocument unicode doc) where
  named other found there := by
    rw [get?_storeDocument] at there
    split at there
    · rename_i same
      cases there
      exact same.symm
    · exact consistent.named other found there
  posted token other := by
    refine Iff.trans ?_ (exists_storeDocument_iff absent).symm
    rw [LocalSearchIndex.storeDocument, Postings.mem_members_postAll, consistent.posted token other]
  filled := consistent.filled.postAll _
  grouped channelId other := by
    refine Iff.trans ?_ (exists_storeDocument_iff absent).symm
    rw [LocalSearchIndex.storeDocument, Postings.mem_members_post,
      consistent.grouped channelId other, @eq_comm _ channelId]

/-- A new document, where there is room for it. -/
theorem Bounded.storeDocument (bounded : Bounded index) (named : doc.id ≠ [])
    (channelRoom : (index.channelDocs.members doc.channelId).length < MAX_DOCS_PER_CHANNEL)
    (globalRoom : index.docs.size < MAX_DOCS_GLOBAL) :
    Bounded (index.storeDocument unicode doc) where
  truthy other found there := by
    rw [get?_storeDocument] at there
    split at there
    · rename_i same
      exact same ▸ named
    · exact bounded.truthy other found there
  channelCap channelId := by
    have more : ((index.storeDocument unicode doc).channelDocs.members channelId).length ≤
        (index.channelDocs.members channelId).length + if channelId = doc.channelId then 1 else 0 :=
      Postings.length_post_le
    split at more
    · rename_i same
      rw [same] at more ⊢
      omega
    · exact more.trans (bounded.channelCap channelId)
  globalCap := by
    have more : (index.storeDocument unicode doc).docs.size ≤ index.docs.size + 1 :=
      JsMap.size_set_le
    omega

/-! ## Evictions -/

/-- The oldest document of a scope. -/
structure IsOldest (index : LocalSearchIndex) (scope : IndexedDocument → Prop)
    (old : IndexedDocument) : Prop where
  stored : index.Stores old
  inside : scope old
  least : ∀ other, index.Stores other → scope other →
    old.createdAt.codeUnits ≤ other.createdAt.codeUnits

/-- What a cap does to an index: nothing or a removal. -/
def Sheds (unicode : Unicode) (index after : LocalSearchIndex) : Prop :=
  after = index ∨ ∃ id, after = index.removeDocument unicode id

theorem evictOldest_sheds (entries : List (JsString × JsString)) :
    Sheds unicode index (index.evictOldest unicode entries) := by
  rw [evictOldest]
  split
  · exact .inl rfl
  · rename_i oldestId _ _
    split
    · exact .inl rfl
    · exact .inr ⟨oldestId, rfl⟩

theorem enforceChannelCap_sheds :
    Sheds unicode index (index.enforceChannelCap unicode channelId) := by
  rw [enforceChannelCap]
  split
  · exact .inl rfl
  · split
    · exact .inl rfl
    · exact evictOldest_sheds _

theorem enforceGlobalCap_sheds : Sheds unicode index (index.enforceGlobalCap unicode) := by
  rw [enforceGlobalCap]
  split
  · exact .inl rfl
  · exact evictOldest_sheds _

theorem Sheds.consistent {after : LocalSearchIndex} (sheds : Sheds unicode index after)
    (consistent : Consistent unicode index) : Consistent unicode after := by
  rcases sheds with rfl | ⟨id, rfl⟩
  · exact consistent
  · exact consistent.removeDocument

theorem Sheds.absent {after : LocalSearchIndex} (sheds : Sheds unicode index after)
    (absent : index.docs.get? id = none) : after.docs.get? id = none := by
  rcases sheds with rfl | ⟨other, rfl⟩
  · exact absent
  · rw [get?_removeDocument, absent, ite_self]

theorem Bounded.evictOldest (bounded : Bounded index) (consistent : Consistent unicode index)
    {scope : IndexedDocument → Prop} {entries : List (JsString × JsString)}
    (nonempty : entries ≠ []) (listed : ∀ id time, (id, time) ∈ entries ↔
      ∃ doc, index.docs.get? id = some doc ∧ scope doc ∧ doc.createdAt = time) :
    ∃ old, index.IsOldest scope old ∧ oldest entries = some (old.id, old.createdAt) ∧
      index.evictOldest unicode entries = index.removeDocument unicode old.id := by
  have named : ∀ entry ∈ entries, entry.1 ≠ [] := by
    intro entry member
    obtain ⟨doc, stored, _⟩ := (listed entry.1 entry.2).mp member
    exact bounded.truthy entry.1 doc stored
  obtain ⟨⟨id, time⟩, member, found, least⟩ := oldest_spec nonempty named
  obtain ⟨old, stored, inside, dated⟩ := (listed id time).mp member
  have same := consistent.named id old stored
  refine ⟨old, ⟨consistent.stores stored, inside, ?_⟩, by rw [found, same, dated], ?_⟩
  · intro other there within
    rw [dated]
    exact least (other.id, other.createdAt) ((listed _ _).mpr ⟨other, there, within, rfl⟩)
  · have truthy : id.isEmpty = false := isEmpty_eq_false_iff.mpr (named _ member)
    rw [LocalSearchIndex.evictOldest, found, same]
    dsimp only
    rw [truthy]
    rfl

/-- The cap of a channel makes no difference, or drops the oldest document of a full channel. -/
theorem Bounded.enforceChannelCap (bounded : Bounded index) (consistent : Consistent unicode index)
    (channelId : JsString) :
    (index.channelDocs.members channelId).length < MAX_DOCS_PER_CHANNEL ∧
        index.enforceChannelCap unicode channelId = index ∨
      MAX_DOCS_PER_CHANNEL ≤ (index.channelDocs.members channelId).length ∧
        ∃ old, index.IsOldest (·.channelId = channelId) old ∧
          index.enforceChannelCap unicode channelId = index.removeDocument unicode old.id := by
  rw [LocalSearchIndex.enforceChannelCap]
  split
  · rename_i none
    exact .inl ⟨by rw [Postings.members_of_none none]; exact Nat.succ_pos _, rfl⟩
  · rename_i ids found
    rw [Postings.members_of_get? found, JsMap.length_keys]
    split
    · rename_i room
      exact .inl ⟨room, rfl⟩
    · rename_i full
      have nonempty : (ids.keys.map fun id =>
          (id, ((index.docs.get? id).map IndexedDocument.createdAt).getD [])) ≠ [] := by
        intro none
        rw [map_eq_nil_iff] at none
        rw [← JsMap.length_keys, none] at full
        exact full (Nat.succ_pos _)
      have listed : ∀ id time, (id, time) ∈ (ids.keys.map fun id =>
          (id, ((index.docs.get? id).map IndexedDocument.createdAt).getD [])) ↔
          ∃ doc, index.docs.get? id = some doc ∧ doc.channelId = channelId ∧
            doc.createdAt = time := by
        intro id time
        rw [mem_map]
        constructor
        · rintro ⟨other, member, same⟩
          cases same
          rw [← Postings.members_of_get? found] at member
          obtain ⟨doc, stored, inside⟩ := (consistent.grouped channelId _).mp member
          exact ⟨doc, stored, inside, by rw [stored]; rfl⟩
        · rintro ⟨doc, stored, inside, rfl⟩
          refine ⟨id, ?_, by rw [stored]; rfl⟩
          rw [← Postings.members_of_get? found]
          exact (consistent.grouped channelId id).mpr ⟨doc, stored, inside⟩
      obtain ⟨old, oldest, _, dropped⟩ := bounded.evictOldest consistent nonempty listed
      exact .inr ⟨not_lt.mp full, old, oldest, dropped⟩

/-- The global cap makes no difference, or drops the oldest document of a full index. -/
theorem Bounded.enforceGlobalCap (bounded : Bounded index) (consistent : Consistent unicode index) :
    index.docs.size < MAX_DOCS_GLOBAL ∧ index.enforceGlobalCap unicode = index ∨
      MAX_DOCS_GLOBAL ≤ index.docs.size ∧ ∃ old, index.IsOldest (fun _ => True) old ∧
        oldest index.times = some (old.id, old.createdAt) ∧
        index.enforceGlobalCap unicode = index.removeDocument unicode old.id := by
  rw [LocalSearchIndex.enforceGlobalCap]
  split
  · rename_i room
    exact .inl ⟨room, rfl⟩
  · rename_i full
    refine .inr ⟨not_lt.mp full, bounded.evictOldest consistent ?_ ?_⟩
    · intro none
      rw [times, map_eq_nil_iff] at none
      rw [JsMap.size, none] at full
      exact full (Nat.succ_pos _)
    · intro id time
      rw [times, mem_map]
      constructor
      · rintro ⟨entry, member, same⟩
        cases same
        exact ⟨entry.2, JsMap.mem_entries.mp member, trivial, rfl⟩
      · rintro ⟨doc, stored, _, rfl⟩
        exact ⟨(id, doc), JsMap.mem_entries.mpr stored, rfl⟩

/-- A document that makes room for another one, among the others: the oldest of a full channel,
or else the first of the oldest of a full index. -/
inductive MakesRoom (index : LocalSearchIndex) (doc old : IndexedDocument) : Prop
  | channel (full : MAX_DOCS_PER_CHANNEL ≤ (index.channelDocs.members doc.channelId).length)
      (oldest : index.IsOldest (·.channelId = doc.channelId) old)
  | all (room : (index.channelDocs.members doc.channelId).length < MAX_DOCS_PER_CHANNEL)
      (full : MAX_DOCS_GLOBAL ≤ index.docs.size) (least : index.IsOldest (fun _ => True) old)
      (first : oldest index.times = some (old.id, old.createdAt))

theorem MakesRoom.stored (room : index.MakesRoom doc old) : index.Stores old := by
  cases room with
  | channel _ least => exact least.stored
  | all _ _ least => exact least.stored

theorem addDocument_eq : index.addDocument unicode doc =
    (((index.removeDocument unicode doc.id).enforceChannelCap unicode doc.channelId).enforceGlobalCap
      unicode).storeDocument unicode doc := by
  rw [addDocument]
  split
  · rfl
  · rename_i absent
    rw [JsMap.has, Bool.not_eq_true, Option.isSome_eq_false_iff,
      Option.isNone_iff_eq_none] at absent
    rw [removeDocument_of_none absent]

theorem Consistent.addDocument (consistent : Consistent unicode index) :
    Consistent unicode (index.addDocument unicode doc) := by
  have absent : (index.removeDocument unicode doc.id).docs.get? doc.id = none := by
    rw [get?_removeDocument, if_pos rfl]
  have others : Consistent unicode (index.removeDocument unicode doc.id) :=
    consistent.removeDocument
  rw [addDocument_eq]
  exact (enforceGlobalCap_sheds.consistent (enforceChannelCap_sheds.consistent others)).storeDocument
    (enforceGlobalCap_sheds.absent (enforceChannelCap_sheds.absent absent))

/-- A document is added to the others, one of which may have made room. -/
theorem Bounded.addDocument_spec (bounded : Bounded index) (consistent : Consistent unicode index)
    (named : doc.id ≠ []) :
    let others := index.removeDocument unicode doc.id
    Bounded (index.addDocument unicode doc) ∧
      (index.addDocument unicode doc = others.storeDocument unicode doc ∨
        ∃ old, others.MakesRoom doc old ∧ index.addDocument unicode doc =
          (others.removeDocument unicode old.id).storeDocument unicode doc) := by
  intro others
  have kept : Consistent unicode others := consistent.removeDocument
  have small : Bounded others := bounded.removeDocument
  rw [addDocument_eq]
  rcases small.enforceChannelCap kept doc.channelId with ⟨room, same⟩ | ⟨full, old, oldest, dropped⟩
  · rw [same]
    rcases small.enforceGlobalCap kept with
      ⟨globalRoom, unchanged⟩ | ⟨full, old, oldest, first, dropped⟩
    · rw [unchanged]
      exact ⟨small.storeDocument named room globalRoom, .inl rfl⟩
    · rw [dropped]
      refine ⟨small.removeDocument.storeDocument named ?_ ?_,
        .inr ⟨old, .all room full oldest first, rfl⟩⟩
      · exact length_removeDocument_le.trans_lt room
      · have less : (others.removeDocument unicode old.id).docs.size + 1 = others.docs.size :=
          size_removeDocument oldest.stored
        have most := small.globalCap
        omega
  · have less : (others.removeDocument unicode old.id).docs.size + 1 = others.docs.size :=
      size_removeDocument oldest.stored
    have most := small.globalCap
    have globalRoom : (others.removeDocument unicode old.id).docs.size < MAX_DOCS_GLOBAL := by omega
    rw [dropped, LocalSearchIndex.enforceGlobalCap, if_pos globalRoom]
    refine ⟨small.removeDocument.storeDocument named ?_ globalRoom,
      .inr ⟨old, .channel full oldest, rfl⟩⟩
    have member := (kept.mem_channel oldest.stored).mpr oldest.inside
    have fewer := Postings.length_takeOff member
    have cap := small.channelCap doc.channelId
    rw [removeDocument_of_some oldest.stored, oldest.inside]
    dsimp only
    omega

/-! ## Whole channels -/

theorem get?_removeAll {ids : List JsString} :
    (ids.foldl (fun index id => index.removeDocument unicode id) index).docs.get? other =
      if other ∈ ids then none else index.docs.get? other := by
  induction ids generalizing index with
  | nil => rfl
  | cons id ids ih =>
    rw [foldl_cons, ih, get?_removeDocument]
    by_cases same : other = id <;> simp [same]

section

variable (consistent : Consistent unicode index)

include consistent

theorem Consistent.removeAll (ids : List JsString) :
    Consistent unicode (ids.foldl (fun index id => index.removeDocument unicode id) index) := by
  induction ids generalizing index with
  | nil => exact consistent
  | cons id ids ih => exact ih consistent.removeDocument

theorem get?_clearChannel :
    (index.clearChannel unicode channelId).docs.get? id =
      (index.docs.get? id).filter fun doc => doc.channelId ≠ channelId := by
  have dropped : ∀ ids : List JsString,
      (∀ other, other ∈ ids ↔ other ∈ index.channelDocs.members channelId) →
      (ids.foldl (fun index id => index.removeDocument unicode id) index).docs.get? id =
        (index.docs.get? id).filter fun doc => doc.channelId ≠ channelId := by
    intro ids same
    rw [get?_removeAll]
    cases stored : index.docs.get? id with
    | none => rw [ite_self, Option.filter_none]
    | some doc =>
      have listed : id ∈ ids ↔ doc.channelId = channelId :=
        (same id).trans (consistent.mem_channel stored)
      by_cases inside : doc.channelId = channelId
      · rw [if_pos (listed.mpr inside), Option.filter_some, if_neg (by simpa using inside)]
      · rw [if_neg fun member => inside (listed.mp member), Option.filter_some,
          if_pos (decide_eq_true inside)]
  rw [clearChannel]
  split
  · rename_i none
    refine dropped [] fun other => ?_
    rw [Postings.members_of_none none]
  · rename_i ids found
    refine dropped ids.keys fun other => ?_
    rw [Postings.members_of_get? found]

theorem Consistent.clearChannel : Consistent unicode (index.clearChannel unicode channelId) := by
  have gone := @get?_clearChannel unicode index
  have unlisted : ∀ other doc, (index.clearChannel unicode channelId).docs.get? other = some doc →
      doc.channelId ≠ channelId := by
    intro other doc stored
    rw [gone consistent, Option.filter_eq_some_iff, decide_eq_true_eq] at stored
    exact stored.2
  rw [LocalSearchIndex.clearChannel] at unlisted ⊢
  split
  · exact consistent
  · rename_i ids found
    rw [found] at unlisted
    have kept := consistent.removeAll ids.keys
    refine ⟨kept.named, kept.posted, kept.filled, fun name other => ?_⟩
    dsimp only
    rw [Postings.members_delete]
    split
    · rename_i same
      constructor
      · exact fun listed => absurd listed not_mem_nil
      · rintro ⟨doc, stored, grouped⟩
        exact absurd (grouped.trans same) (unlisted other doc stored)
    · exact kept.grouped name other

theorem Consistent.addDocuments
    {docs : List IndexedDocument} :
    Consistent unicode (index.addDocuments unicode docs) := by
  induction docs generalizing index with
  | nil => exact consistent
  | cons doc docs ih => exact ih consistent.addDocument

end

theorem Bounded.removeAll (bounded : Bounded index) (ids : List JsString) :
    Bounded (ids.foldl (fun index id => index.removeDocument unicode id) index) := by
  induction ids generalizing index with
  | nil => exact bounded
  | cons id ids ih => exact ih bounded.removeDocument

theorem Bounded.clearChannel (bounded : Bounded index) :
    Bounded (index.clearChannel unicode channelId) := by
  rw [LocalSearchIndex.clearChannel]
  split
  · exact bounded
  · rename_i ids _
    have kept : Bounded (ids.keys.foldl (fun index id => index.removeDocument unicode id) index) :=
      bounded.removeAll ids.keys
    refine ⟨kept.truthy, fun name => ?_, kept.globalCap⟩
    dsimp only
    rw [Postings.members_delete]
    split
    · exact Nat.zero_le _
    · exact kept.channelCap name

theorem Bounded.addDocuments (bounded : Bounded index) (consistent : Consistent unicode index)
    {docs : List IndexedDocument} (named : ∀ doc ∈ docs, doc.id ≠ []) :
    Bounded (index.addDocuments unicode docs) := by
  induction docs generalizing index with
  | nil => exact bounded
  | cons doc docs ih =>
    obtain ⟨first, rest⟩ := forall_mem_cons.mp named
    exact ih (bounded.addDocument_spec consistent first).1 consistent.addDocument rest

end LocalSearchIndex

/-! ## Runs -/

inductive IndexOperation
  | addDocument (doc : IndexedDocument)
  | addDocuments (docs : List IndexedDocument)
  | removeDocument (id : JsString)
  | clearChannel (channelId : JsString)
  | clearAll

namespace IndexOperation

def added : IndexOperation → List IndexedDocument
  | .addDocument doc => [doc]
  | .addDocuments docs => docs
  | _ => []

def apply (unicode : Unicode) (index : LocalSearchIndex) : IndexOperation → LocalSearchIndex
  | .addDocument doc => index.addDocument unicode doc
  | .addDocuments docs => index.addDocuments unicode docs
  | .removeDocument id => index.removeDocument unicode id
  | .clearChannel channelId => index.clearChannel unicode channelId
  | .clearAll => LocalSearchIndex.clearAll

end IndexOperation

namespace LocalSearchIndex

variable {unicode : Unicode} {index : LocalSearchIndex}

/-- The index after some operations. -/
def run (unicode : Unicode) (operations : List IndexOperation) : LocalSearchIndex :=
  operations.foldl (IndexOperation.apply unicode) empty

theorem Consistent.apply (consistent : Consistent unicode index) (operation : IndexOperation) :
    Consistent unicode (operation.apply unicode index) := by
  cases operation with
  | addDocument doc => exact consistent.addDocument
  | addDocuments docs => exact consistent.addDocuments
  | removeDocument id => exact consistent.removeDocument
  | clearChannel channelId => exact consistent.clearChannel
  | clearAll => exact consistent_empty

theorem Bounded.apply (bounded : Bounded index) (consistent : Consistent unicode index)
    {operation : IndexOperation} (named : ∀ doc ∈ operation.added, doc.id ≠ []) :
    Bounded (operation.apply unicode index) := by
  cases operation with
  | addDocument doc =>
    exact (bounded.addDocument_spec consistent (named doc (mem_singleton_self doc))).1
  | addDocuments docs => exact bounded.addDocuments consistent named
  | removeDocument id => exact bounded.removeDocument
  | clearChannel channelId => exact bounded.clearChannel
  | clearAll => exact bounded_empty

theorem consistent_run (operations : List IndexOperation) :
    Consistent unicode (run unicode operations) := by
  induction operations using List.reverseRecOn with
  | nil => exact consistent_empty
  | append_singleton operations operation ih =>
    rw [run, foldl_append]
    exact Consistent.apply ih operation

theorem bounded_run {operations : List IndexOperation}
    (named : ∀ operation ∈ operations, ∀ doc ∈ operation.added, doc.id ≠ []) :
    Bounded (run unicode operations) := by
  induction operations using List.reverseRecOn with
  | nil => exact bounded_empty
  | append_singleton operations operation ih =>
    rw [run, foldl_append]
    refine Bounded.apply (ih fun other member => named other (mem_append_left _ member))
      (consistent_run operations) ?_
    exact named operation (mem_append_right _ (mem_singleton_self operation))

/-- What the three maps have to do with each other. -/
structure WellKept (unicode : Unicode) (index : LocalSearchIndex) : Prop where
  named : ∀ id doc, index.docs.get? id = some doc → doc.id = id
  present : ∀ token, (index.invertedIndex.get? token).isSome = true ↔
    ∃ doc, index.Stores doc ∧ token ∈ tokenise unicode doc.text
  postings : ∀ token ids, index.invertedIndex.get? token = some ids →
    ids.keys ≠ [] ∧ ∀ id, id ∈ ids.keys ↔
      ∃ doc, index.Stores doc ∧ doc.id = id ∧ token ∈ tokenise unicode doc.text
  grouped : ∀ channelId id, (∃ ids, index.channelDocs.get? channelId = some ids ∧ id ∈ ids.keys) ↔
    ∃ doc, index.Stores doc ∧ doc.id = id ∧ doc.channelId = channelId
  channelCap : ∀ channelId,
    (index.docs.entries.filter fun entry => entry.2.channelId = channelId).length ≤ 2000
  globalCap : index.docs.size ≤ 10000

theorem Consistent.exists_iff (consistent : Consistent unicode index) {id : JsString}
    {holds : IndexedDocument → Prop} : (∃ doc, index.docs.get? id = some doc ∧ holds doc) ↔
      ∃ doc, index.Stores doc ∧ doc.id = id ∧ holds doc := by
  constructor
  · rintro ⟨doc, stored, true⟩
    exact ⟨doc, consistent.stores stored, consistent.named id doc stored, true⟩
  · rintro ⟨doc, stored, rfl, true⟩
    exact ⟨doc, stored, true⟩

theorem Consistent.wellKept (consistent : Consistent unicode index) (bounded : Bounded index) :
    WellKept unicode index where
  named := consistent.named
  present token := by
    rw [consistent.filled.get?_isSome_iff]
    constructor
    · rintro ⟨id, listed⟩
      obtain ⟨doc, stored, inside⟩ := (consistent.posted token id).mp listed
      exact ⟨doc, consistent.stores stored, inside⟩
    · rintro ⟨doc, stored, inside⟩
      exact ⟨doc.id, (consistent.posted token doc.id).mpr ⟨doc, stored, inside⟩⟩
  postings token ids found := by
    refine ⟨consistent.filled token ids found, fun id => ?_⟩
    rw [← Postings.members_of_get? found, consistent.posted token id]
    exact consistent.exists_iff
  grouped channelId id := by
    refine Iff.trans ?_ ((consistent.grouped channelId id).trans consistent.exists_iff)
    constructor
    · rintro ⟨ids, found, listed⟩
      rw [Postings.members_of_get? found]
      exact listed
    · intro listed
      cases found : index.channelDocs.get? channelId with
      | none =>
        rw [Postings.members_of_none found] at listed
        cases listed
      | some ids =>
        rw [Postings.members_of_get? found] at listed
        exact ⟨ids, rfl, listed⟩
  channelCap channelId := by
    have single : ((index.docs.entries.filter fun entry => entry.2.channelId = channelId).map
        Prod.fst).Nodup := index.docs.distinct.sublist (filter_sublist.map _)
    have within : (index.docs.entries.filter fun entry => entry.2.channelId = channelId).map Prod.fst ⊆
        index.channelDocs.members channelId := by
      intro id member
      obtain ⟨entry, kept, rfl⟩ := mem_map.mp member
      obtain ⟨stored, inside⟩ := mem_filter.mp kept
      exact (consistent.grouped channelId entry.1).mpr
        ⟨entry.2, JsMap.mem_entries.mp stored, of_decide_eq_true inside⟩
    rw [← length_map Prod.fst]
    exact (List.Nodup.subperm single within).length_le.trans (bounded.channelCap channelId)
  globalCap := bounded.globalCap

/-- A document is added, and of the other documents at most one is dropped, to make room for it. -/
def DropsOnlyOldest (unicode : Unicode) (index : LocalSearchIndex) (doc : IndexedDocument) : Prop :=
  let after := index.addDocument unicode doc
  after.Stores doc ∧
    ((∀ id, id ≠ doc.id → after.docs.get? id = index.docs.get? id) ∨
      ∃ old, (index.removeDocument unicode doc.id).MakesRoom doc old ∧
        ∀ id, id ≠ doc.id → after.docs.get? id = if id = old.id then none else index.docs.get? id)

theorem Bounded.dropsOnlyOldest (bounded : Bounded index) (consistent : Consistent unicode index)
    {doc : IndexedDocument} (named : doc.id ≠ []) : DropsOnlyOldest unicode index doc := by
  have others : ∀ id, id ≠ doc.id →
      (index.removeDocument unicode doc.id).docs.get? id = index.docs.get? id := by
    intro id different
    rw [get?_removeDocument, if_neg different]
  rcases (bounded.addDocument_spec consistent named).2 with added | ⟨old, room, added⟩
  · rw [DropsOnlyOldest, added]
    refine ⟨get?_storeDocument.trans (if_pos rfl), .inl fun id different => ?_⟩
    rw [get?_storeDocument, if_neg different, others id different]
  · rw [DropsOnlyOldest, added]
    refine ⟨get?_storeDocument.trans (if_pos rfl), .inr ⟨old, room, fun id different => ?_⟩⟩
    rw [get?_storeDocument, if_neg different, get?_removeDocument, others id different]

/-- After every sequence of operations the maps agree and the caps hold, and the next document drops
only what was the oldest of a full channel or of a full index. -/
theorem wellKept_run (unicode : Unicode) (operations : List IndexOperation)
    (named : ∀ operation ∈ operations, ∀ doc ∈ operation.added, doc.id ≠ []) :
    WellKept unicode (run unicode operations) ∧
      ∀ doc, doc.id ≠ [] → DropsOnlyOldest unicode (run unicode operations) doc :=
  have consistent := consistent_run operations
  have bounded := bounded_run named
  ⟨consistent.wellKept bounded, fun _ named => bounded.dropsOnlyOldest consistent named⟩

def Sample.doc (id channelId text : String) : IndexedDocument :=
  ⟨js id, js channelId, js "alice", js "Alice", none, js text, js "2025-06-01"⟩

/-- A message moves to another channel with another text, and then its first channel is closed. -/
def Sample.moved : List IndexOperation :=
  [.addDocument (Sample.doc "m1" "chat" "hello world"),
    .addDocuments [Sample.doc "m2" "chat" "hello", Sample.doc "m1" "work" "budget"],
    .clearChannel (js "chat")]

theorem moved_wellKept : WellKept .ascii (run .ascii Sample.moved) ∧
    ∀ doc, doc.id ≠ [] → DropsOnlyOldest .ascii (run .ascii Sample.moved) doc :=
  wellKept_run .ascii Sample.moved (by decide)

end LocalSearchIndex

end Vortex.Web
