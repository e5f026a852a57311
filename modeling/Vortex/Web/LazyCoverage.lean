import Vortex.Web.LazyIndexing

/-!
# What background indexing covers

A document is covered when it is indexed, or its channel is full of documents at least as new. An
addition keeps what is covered so unless an older document makes a newer one go. A run that reads
whole times covers its history.
-/

variable {doc : IndexedDocument} {guard : LazyHook → LazyEvent → Prop}

namespace Vortex.Web

open Foundation

namespace LocalSearchIndex

/-- How many documents of a channel are indexed. -/
def count (index : LocalSearchIndex) (channelId : JsString) : Nat :=
  (index.channelDocs.members channelId).length

/-- A document of a channel is indexed, as far as the channel's cap goes. -/
def Covers (index : LocalSearchIndex) (channelId : JsString) (doc : IndexedDocument) : Prop :=
  index.Stores doc ∨ MAX_DOCS_PER_CHANNEL ≤ index.count channelId ∧
    ∀ other, index.Stores other → other.channelId = channelId →
      doc.createdAt.codeUnits ≤ other.createdAt.codeUnits

/-- An addition that drops no newer document of a channel for an older one, and no document of it
where the channel is not full, and that leaves the documents of the history and of the channel as
they are. -/
structure Fits (unicode : Unicode) (history : List IndexedDocument) (channelId : JsString)
    (index : LocalSearchIndex) (doc : IndexedDocument) : Prop where
  immutable : ∀ old : IndexedDocument, old.id = doc.id →
    old ∈ history ∨ index.Stores old ∧ old.channelId = channelId → old = doc
  yields : ∀ old, (index.removeDocument unicode doc.id).MakesRoom doc old →
    old.channelId = channelId → doc.channelId = channelId ∧
      MAX_DOCS_PER_CHANNEL ≤ (index.removeDocument unicode doc.id).count channelId ∧
      old.createdAt.codeUnits ≤ doc.createdAt.codeUnits

variable {unicode : Unicode} {index second rest : LocalSearchIndex}
    {doc old found : IndexedDocument}
  {id channelId : JsString} {history : List IndexedDocument}

/-! ## Counting -/

theorem count_removeDocument_of_inside (consistent : Consistent unicode index)
    (stored : index.docs.get? id = some old) (inside : old.channelId = channelId) :
    (index.removeDocument unicode id).count channelId + 1 = index.count channelId := by
  have listed := (consistent.mem_channel stored).mpr inside
  rw [count, count, removeDocument_of_some stored, inside]
  exact Postings.length_takeOff listed

theorem count_removeDocument_of_outside
    (outside : ∀ old, index.docs.get? id = some old → old.channelId ≠ channelId) :
    (index.removeDocument unicode id).count channelId = index.count channelId := by
  cases stored : index.docs.get? id with
  | none => rw [removeDocument_of_none stored]
  | some old =>
    rw [count, count, removeDocument_of_some stored]
    dsimp only
    rw [Postings.members_takeOff_of_ne (outside old stored).symm]

theorem le_count_removeDocument (consistent : Consistent unicode index) :
    index.count channelId ≤ (index.removeDocument unicode id).count channelId + 1 := by
  by_cases inside : ∃ old, index.docs.get? id = some old ∧ old.channelId = channelId
  · obtain ⟨old, stored, inside⟩ := inside
    exact (count_removeDocument_of_inside consistent stored inside).ge
  · rw [count_removeDocument_of_outside fun old stored same => inside ⟨old, stored, same⟩]
    exact Nat.le_succ _

theorem count_storeDocument (consistent : Consistent unicode index)
    (absent : index.docs.get? doc.id = none) : (index.storeDocument unicode doc).count channelId =
      index.count channelId + if doc.channelId = channelId then 1 else 0 := by
  have unlisted : doc.id ∉ index.channelDocs.members doc.channelId := by
    intro listed
    obtain ⟨found, stored, _⟩ := (consistent.grouped doc.channelId doc.id).mp listed
    rw [absent] at stored
    cases stored
  by_cases inside : doc.channelId = channelId
  · rw [if_pos inside, count, count, ← inside]
    exact Postings.length_post unlisted
  · rw [if_neg inside, count, count, storeDocument]
    dsimp only
    rw [Postings.members_post_of_ne (Ne.symm inside), Nat.add_zero]

/-! ## What an addition keeps covered -/

theorem stores_storeDocument_iff : (index.storeDocument unicode doc).Stores found ↔
    found = doc ∨ found.id ≠ doc.id ∧ index.Stores found := by
  rw [Stores, get?_storeDocument]
  by_cases same : found.id = doc.id
  · rw [if_pos same]
    simp only [Option.some.injEq, same, ne_eq, not_true_eq_false, false_and, or_false, eq_comm]
  · rw [if_neg same]
    have different : found ≠ doc := fun equal => same (congrArg IndexedDocument.id equal)
    simp only [same, different, ne_eq, not_false_eq_true, true_and, false_or, Stores]

theorem stores_removeDocument_iff : (index.removeDocument unicode id).Stores found ↔
    index.Stores found ∧ found.id ≠ id := by
  rw [Stores, get?_removeDocument]
  by_cases same : found.id = id
  · simp [same]
  · simp [same, Stores]

/-- Nothing of a full channel is dropped by an addition, so the channel had the document already. -/
theorem Fits.covers_of_kept (fits : Fits unicode history channelId index doc)
    (consistent : Consistent unicode index) (keeps : Consistent unicode rest)
    (absent : rest.docs.get? doc.id = none)
    (counted : rest.count channelId = (index.removeDocument unicode doc.id).count channelId)
    (kept : ∀ other, rest.Stores other → index.Stores other)
    (bounded : Bounded (rest.storeDocument unicode doc))
    (full : MAX_DOCS_PER_CHANNEL ≤ index.count channelId)
    (least : ∀ other, index.Stores other → other.channelId = channelId →
      found.createdAt.codeUnits ≤ other.createdAt.codeUnits) :
    (rest.storeDocument unicode doc).Covers channelId found := by
  have cap : (rest.storeDocument unicode doc).count channelId ≤ MAX_DOCS_PER_CHANNEL :=
    bounded.channelCap channelId
  rw [count_storeDocument keeps absent, counted] at cap
  right
  rw [count_storeDocument keeps absent, counted]
  by_cases inside : doc.channelId = channelId
  · rw [if_pos inside] at cap ⊢
    refine ⟨full.trans (le_count_removeDocument consistent), fun other stored within => ?_⟩
    rcases stores_storeDocument_iff.mp stored with rfl | ⟨_, stored⟩
    · by_cases known : ∃ old, index.docs.get? other.id = some old ∧ old.channelId = channelId
      · obtain ⟨old, stored, grouped⟩ := known
        have same := fits.immutable old (consistent.named other.id old stored)
          (.inr ⟨consistent.stores stored, grouped⟩)
        rw [← same]
        exact least old (consistent.stores stored) grouped
      · rw [count_removeDocument_of_outside fun old stored same => known ⟨old, stored, same⟩] at cap
        omega
    · exact least other (kept other stored) within
  · rw [if_neg inside, Nat.add_zero, count_removeDocument_of_outside]
    · refine ⟨full, fun other stored within => ?_⟩
      rcases stores_storeDocument_iff.mp stored with rfl | ⟨_, stored⟩
      · exact absurd within inside
      · exact least other (kept other stored) within
    · intro old stored grouped
      have same := fits.immutable old (consistent.named doc.id old stored)
        (.inr ⟨consistent.stores stored, grouped⟩)
      rw [same] at grouped
      exact inside grouped

/-- An older document of a full channel makes room: what was covered is indexed still, or is no newer
than the one that goes. -/
theorem Fits.covers_of_dropped (fits : Fits unicode history channelId index doc)
    (consistent : Consistent unicode index)
    (room : (index.removeDocument unicode doc.id).MakesRoom doc old)
    (grouped : old.channelId = channelId)
    (member : found ∈ history) (covers : index.Covers channelId found) :
    (((index.removeDocument unicode doc.id).removeDocument unicode old.id).storeDocument unicode
      doc).Covers channelId found := by
  obtain ⟨inside, full, late⟩ := fits.yields old room grouped
  have keeps : Consistent unicode (index.removeDocument unicode doc.id) := consistent.removeDocument
  have oldest : (index.removeDocument unicode doc.id).Stores old ∧
      ∀ other, (index.removeDocument unicode doc.id).Stores other → other.channelId = channelId →
        old.createdAt.codeUnits ≤ other.createdAt.codeUnits := by
    cases room with
    | channel _ least =>
      exact ⟨least.stored,
        fun other stored within => least.least other stored (within.trans inside.symm)⟩
    | all _ _ least => exact ⟨least.stored, fun other stored _ => least.least other stored trivial⟩
  have kept := (stores_removeDocument_iff.mp oldest.1).1
  have absent : ((index.removeDocument unicode doc.id).removeDocument unicode old.id).docs.get? doc.id =
      none := by
    rw [get?_removeDocument, get?_removeDocument, if_pos rfl, ite_self]
  have least : ∀ other, (((index.removeDocument unicode doc.id).removeDocument unicode
      old.id).storeDocument unicode doc).Stores other → other.channelId = channelId →
      old.createdAt.codeUnits ≤ other.createdAt.codeUnits := by
    intro other stored within
    rcases stores_storeDocument_iff.mp stored with rfl | ⟨_, stored⟩
    · exact late
    · exact oldest.2 other (stores_removeDocument_iff.mp stored).1 within
  have counted : MAX_DOCS_PER_CHANNEL ≤ (((index.removeDocument unicode doc.id).removeDocument unicode
      old.id).storeDocument unicode doc).count channelId := by
    rw [count_storeDocument keeps.removeDocument absent, if_pos inside,
      count_removeDocument_of_inside keeps oldest.1 grouped]
    exact full
  have none_newer : found.createdAt.codeUnits ≤ old.createdAt.codeUnits →
      (((index.removeDocument unicode doc.id).removeDocument unicode old.id).storeDocument unicode
        doc).Covers channelId found :=
    fun early => .inr ⟨counted, fun other stored within => early.trans (least other stored within)⟩
  rcases covers with stored | ⟨_, early⟩
  · by_cases same : found.id = doc.id
    · exact .inl (stores_storeDocument_iff.mpr (.inl (fits.immutable found same (.inl member))))
    · by_cases gone : found.id = old.id
      · have equal : found = old := by
          have there : index.docs.get? found.id = some old := by
            rw [gone]
            exact kept
          exact Option.some.inj (Eq.trans (Eq.symm stored) there)
        exact none_newer (by rw [equal])
      · exact .inl (stores_storeDocument_iff.mpr (.inr ⟨same, stores_removeDocument_iff.mpr
          ⟨stores_removeDocument_iff.mpr ⟨stored, same⟩, gone⟩⟩))
  · exact none_newer (early old kept grouped)

/-- What is covered remains so after an addition that fits. -/
theorem Covers.addDocument (bounded : Bounded index) (consistent : Consistent unicode index)
    (named : doc.id ≠ []) (fits : Fits unicode history channelId index doc)
    (member : found ∈ history)
    (inside : found.channelId = channelId) (covers : index.Covers channelId found) :
    (index.addDocument unicode doc).Covers channelId found := by
  obtain ⟨small, added⟩ := bounded.addDocument_spec consistent named
  have keeps : Consistent unicode (index.removeDocument unicode doc.id) := consistent.removeDocument
  have absent : (index.removeDocument unicode doc.id).docs.get? doc.id = none := by
    rw [get?_removeDocument, if_pos rfl]
  rcases added with added | ⟨old, room, added⟩
  · rw [added] at small ⊢
    rcases covers with stored | ⟨full, least⟩
    · left
      rw [stores_storeDocument_iff, stores_removeDocument_iff]
      by_cases same : found.id = doc.id
      · exact .inl (fits.immutable found same (.inl member))
      · exact .inr ⟨same, stored, same⟩
    · exact fits.covers_of_kept consistent keeps absent rfl
        (fun other stored => (stores_removeDocument_iff.mp stored).1) small full least
  · rw [added] at small ⊢
    by_cases grouped : old.channelId = channelId
    · exact fits.covers_of_dropped consistent room grouped member covers
    · have there := room.stored
      have missing : ((index.removeDocument unicode doc.id).removeDocument unicode old.id).docs.get?
          doc.id = none := by
        rw [get?_removeDocument, absent, ite_self]
      rcases covers with stored | ⟨full, least⟩
      · left
        rw [stores_storeDocument_iff, stores_removeDocument_iff, stores_removeDocument_iff]
        by_cases same : found.id = doc.id
        · exact .inl (fits.immutable found same (.inl member))
        · refine .inr ⟨same, ⟨stored, same⟩, fun gone => ?_⟩
          have equal : index.docs.get? found.id = some old := by
            rw [gone]
            exact (stores_removeDocument_iff.mp there).1
          cases Option.some.inj (Eq.trans (Eq.symm stored) equal)
          exact grouped inside
      · refine fits.covers_of_kept consistent keeps.removeDocument missing ?_ ?_ small full least
        · refine count_removeDocument_of_outside fun other stored => ?_
          have equal : (index.removeDocument unicode doc.id).docs.get? old.id = some old := there
          rw [stored] at equal
          cases equal
          exact grouped
        · exact fun other stored =>
            (stores_removeDocument_iff.mp (stores_removeDocument_iff.mp stored).1).1

/-- A document that makes room is dropped, up to another one of its channel and time. -/
theorem MakesRoom.dropped (bounded : Bounded index) (consistent : Consistent unicode index)
    (named : doc.id ≠ []) (room : (index.removeDocument unicode doc.id).MakesRoom doc old) :
    ∃ other, (index.removeDocument unicode doc.id).Stores other ∧ other.channelId = old.channelId ∧
      other.createdAt.codeUnits = old.createdAt.codeUnits ∧ index.addDocument unicode doc =
        ((index.removeDocument unicode doc.id).removeDocument unicode other.id).storeDocument
          unicode doc := by
  have keeps : Consistent unicode (index.removeDocument unicode doc.id) := consistent.removeDocument
  have absent : (index.removeDocument unicode doc.id).docs.get? doc.id = none := by
    rw [get?_removeDocument, if_pos rfl]
  obtain ⟨small, added⟩ := bounded.addDocument_spec consistent named
  rcases added with added | ⟨other, other_room, added⟩
  · rw [added] at small
    exfalso
    cases room with
    | channel full =>
      have cap : ((index.removeDocument unicode doc.id).storeDocument unicode doc).count doc.channelId ≤
          MAX_DOCS_PER_CHANNEL := small.channelCap doc.channelId
      rw [count_storeDocument keeps absent, if_pos rfl, count] at cap
      omega
    | all _ full =>
      have fresh : doc.id ∉ (index.removeDocument unicode doc.id).docs.keys := by
        rw [JsMap.mem_keys, absent]
        simp
      have cap := small.globalCap
      rw [storeDocument, ← JsMap.length_keys, JsMap.keys_set_of_not_mem fresh, List.length_append,
        JsMap.length_keys, List.length_singleton] at cap
      omega
  · have alike : other.channelId = old.channelId ∧
        other.createdAt.codeUnits = old.createdAt.codeUnits := by
      cases room with
      | channel full least =>
        cases other_room with
        | channel _ leastToo =>
          exact ⟨leastToo.inside.trans least.inside.symm,
            le_antisymm (leastToo.least old least.stored least.inside)
              (least.least other leastToo.stored leastToo.inside)⟩
        | all less => exact absurd full (not_le.mpr less)
      | all less _ least first =>
        cases other_room with
        | channel full => exact absurd full (not_le.mpr less)
        | all _ _ leastToo firstToo =>
          have same : other.id = old.id ∧ other.createdAt = old.createdAt := by
            simpa using firstToo.symm.trans first
          have equal : other = old := by
            have there := leastToo.stored
            rw [Stores, same.1] at there
            exact Option.some.inj (there.symm.trans least.stored)
          exact ⟨congrArg _ equal, congrArg (·.createdAt.codeUnits) equal⟩
    exact ⟨other, other_room.stored, alike.1, alike.2, added⟩

/-- An addition that keeps the documents of a channel covered drops no newer one for an older one, and
none where the channel is not full. -/
theorem yields_of_covers (bounded : Bounded index) (consistent : Consistent unicode index)
    (named : doc.id ≠ []) (covers : ∀ found, index.Stores found → found.channelId = channelId →
      found.id ≠ doc.id → (index.addDocument unicode doc).Covers channelId found)
    (room : (index.removeDocument unicode doc.id).MakesRoom doc old)
    (inside : old.channelId = channelId) :
    doc.channelId = channelId ∧
      MAX_DOCS_PER_CHANNEL ≤ (index.removeDocument unicode doc.id).count channelId ∧
      old.createdAt.codeUnits ≤ doc.createdAt.codeUnits := by
  have keeps : Consistent unicode (index.removeDocument unicode doc.id) := consistent.removeDocument
  obtain ⟨other, stored, grouped, dated, added⟩ := room.dropped bounded consistent named
  rw [inside] at grouped
  obtain ⟨kept, different⟩ := stores_removeDocument_iff.mp stored
  have missing : ((index.removeDocument unicode doc.id).removeDocument unicode other.id).docs.get? doc.id =
      none := by
    rw [get?_removeDocument, get?_removeDocument, if_pos rfl, ite_self]
  have covered := covers other kept grouped different
  rw [added] at covered
  have cap : (index.removeDocument unicode doc.id).count channelId ≤ MAX_DOCS_PER_CHANNEL :=
    bounded.removeDocument.channelCap channelId
  have less := count_removeDocument_of_inside keeps stored grouped
  rcases covered with still | ⟨full, least⟩
  · rcases stores_storeDocument_iff.mp still with same | ⟨_, still⟩
    · exact absurd (congrArg IndexedDocument.id same) different
    · exact absurd rfl (stores_removeDocument_iff.mp still).2
  · rw [count_storeDocument keeps.removeDocument missing] at full
    by_cases own : doc.channelId = channelId
    · rw [if_pos own] at full
      refine ⟨own, by omega, ?_⟩
      rw [← dated]
      exact least doc (stores_storeDocument_iff.mpr (.inl rfl)) own
    · rw [if_neg own] at full
      omega

/-- The same documents of a channel cover the same. -/
theorem Covers.alike (consistent : Consistent unicode index)
    (consistentToo : Consistent unicode second)
    (alike : AlikeInside index second channelId) (inside : found.channelId = channelId)
    (covers : index.Covers channelId found) : second.Covers channelId found := by
  rcases covers with stored | ⟨full, least⟩
  · exact .inl ((alike found inside).mp stored)
  · refine .inr ⟨full.trans ?_, fun other stored within => ?_⟩
    · refine (List.Nodup.subperm Postings.nodup_members fun id listed => ?_).length_le
      obtain ⟨doc, stored, grouped⟩ := (consistent.grouped channelId id).mp listed
      have there := (alike doc grouped).mp (consistent.stores stored)
      rw [← consistent.named id doc stored]
      exact (consistentToo.mem_channel there).mpr grouped
    · exact least other ((alike other within).mpr stored) within

/-- Additions one after the other, each of which fits. -/
def FitsAll (unicode : Unicode) (history : List IndexedDocument) (channelId : JsString) :
    LocalSearchIndex → List IndexedDocument → Prop
  | _, [] => True
  | index, doc :: docs => Fits unicode history channelId index doc ∧
      FitsAll unicode history channelId (index.addDocument unicode doc) docs

theorem Covers.addDocuments {docs : List IndexedDocument} (bounded : Bounded index)
    (consistent : Consistent unicode index) (named : ∀ doc ∈ docs, doc.id ≠ [])
    (fits : FitsAll unicode history channelId index docs) (member : found ∈ history)
    (inside : found.channelId = channelId) (covers : index.Covers channelId found) :
    (index.addDocuments unicode docs).Covers channelId found := by
  induction docs generalizing index with
  | nil => exact covers
  | cons doc docs ih =>
    obtain ⟨first, rest⟩ := List.forall_mem_cons.mp named
    exact ih (bounded.addDocument_spec consistent first).1 consistent.addDocument rest fits.2
      (covers.addDocument bounded consistent first fits.1 member inside)

/-- What is added is covered. -/
theorem covers_addDocuments {docs : List IndexedDocument} (bounded : Bounded index)
    (consistent : Consistent unicode index) (named : ∀ doc ∈ docs, doc.id ≠ [])
    (fits : FitsAll unicode history channelId index docs) (member : found ∈ history)
    (inside : found.channelId = channelId) (added : found ∈ docs) :
    (index.addDocuments unicode docs).Covers channelId found := by
  induction docs generalizing index with
  | nil => cases added
  | cons doc docs ih =>
    obtain ⟨first, rest⟩ := List.forall_mem_cons.mp named
    have small := (bounded.addDocument_spec consistent first).1
    rcases List.mem_cons.mp added with rfl | later
    · have stored : (index.addDocument unicode found).Stores found :=
        (bounded.dropsOnlyOldest consistent first).1
      have covers : (index.addDocument unicode found).Covers channelId found := .inl stored
      change ((index.addDocument unicode found).addDocuments unicode docs).Covers channelId found
      exact covers.addDocuments small consistent.addDocument rest fits.2 member inside
    · exact ih small consistent.addDocument rest fits.2 later

end LocalSearchIndex

/-! ## Runs that cover their history -/

namespace LazyHook

open LocalSearchIndex

variable {unicode : Unicode} {hook before after : LazyHook} {n size : Nat} {run : LazyRun}
  {event : LazyEvent} {history : List IndexedDocument} {channelId : JsString}

/-- The documents a step adds. -/
def added (hook : LazyHook) : LazyEvent → List IndexedDocument
  | .loads n batch =>
      if (hook.runs n).any fun run => run.phase = .loading && !run.aborted then batch else []
  | .indexes operation => operation.added
  | _ => []

theorem added_loads (ran : hook.runs n = some run) (live : run.aborted = false)
    (loading : run.phase = .loading) (batch : List IndexedDocument) :
    hook.added (.loads n batch) = batch := by
  rw [added, ran, Option.any_some, live, loading]
  rfl

/-- What a step does to the index is an operation of it, or nothing. -/
theorem index_next (moved : before.next unicode event = some after) :
    after.index = before.index ∧ before.added event = [] ∨
      ∃ operation : IndexOperation, operation.added = before.added event ∧
        after.index = operation.apply unicode before.index := by
  have own : ∀ n, event.actor? = some n → (before.added event = [] ∨
      ∃ batch, event = .loads n batch) → after.index = before.index ∧ before.added event = [] ∨
      ∃ operation : IndexOperation, operation.added = before.added event ∧
        after.index = operation.apply unicode before.index := by
    intro n actor kind
    obtain ⟨run, ran, _, step⟩ := ownStep moved actor
    cases step with
    | ends why =>
      refine .inl ⟨index_finish, ?_⟩
      rcases kind with none | ⟨batch, rfl⟩
      · exact none
      · rcases why with aborted | same | same
        · rw [added, ran, Option.any_some, aborted, Bool.not_true, Bool.and_false,
            if_neg Bool.false_ne_true]
        · cases same
          rw [added, ite_self]
        · cases same
    | @halts batch live loading =>
      exact .inr ⟨.addDocuments batch, (added_loads ran live loading batch).symm, index_finish⟩
    | @reads batch live loading =>
      exact .inr ⟨.addDocuments batch, (added_loads ran live loading batch).symm, rfl⟩
    | resumes => exact .inl ⟨rfl, rfl⟩
  cases event with
  | startsLazyIndexing channelId =>
    cases moved
    exact .inl ⟨abortChannel_index, rfl⟩
  | stopsLazyIndexing channelId =>
    cases moved
    exact .inl ⟨abortChannel_index, rfl⟩
  | clearsChannel channelId =>
    cases moved
    refine .inr ⟨.clearChannel channelId, rfl, ?_⟩
    exact congrArg (LocalSearchIndex.clearChannel unicode · channelId) abortChannel_index
  | clearsAll =>
    cases moved
    exact .inr ⟨.clearAll, rfl, rfl⟩
  | unmounts =>
    cases moved
    exact .inl ⟨rfl, rfl⟩
  | loads n batch => exact own n rfl (.inr ⟨batch, rfl⟩)
  | fails n => exact own n rfl (.inl rfl)
  | wakes n => exact own n rfl (.inl rfl)
  | indexes operation =>
    cases moved
    exact .inr ⟨operation, rfl, rfl⟩

theorem apply_of_added {operation : IndexOperation} {index : LocalSearchIndex}
    (adds : operation.added ≠ []) :
    operation.apply unicode index = index.addDocuments unicode operation.added := by
  cases operation with
  | addDocument doc => rfl
  | addDocuments docs => rfl
  | removeDocument id => exact absurd rfl adds
  | clearChannel channelId => exact absurd rfl adds
  | clearAll => exact absurd rfl adds

/-- What may happen while a run is live: additions fit, nothing else takes documents of the channel
away without ending the run, and no page of the run leaves out a document of the time of its oldest,
or is empty while something is left. -/
structure Undisturbed (unicode : Unicode) (history : List IndexedDocument) (channelId : JsString)
    (n : Nat) (hook : LazyHook) (event : LazyEvent) : Prop where
  named : ∀ doc ∈ hook.added event, doc.id ≠ []
  fits : ∀ run, hook.runs n = some run → run.aborted = false →
    FitsAll unicode history channelId hook.index (hook.added event)
  keeps : ∀ run after, hook.runs n = some run → run.aborted = false → hook.added event = [] →
    hook.next unicode event = some after →
    (∃ later, after.runs n = some later ∧ later.aborted = true) ∨
      AlikeInside hook.index after.index channelId
  whole : ∀ run batch, hook.runs n = some run → run.aborted = false → event = .loads n batch →
    ∀ doc ∈ older history run.before, doc ∉ batch →
      ∃ time, earliest batch = some time ∧ doc.createdAt.codeUnits < time.codeUnits

/-- The steps of runs in which one run reads a history undisturbed. -/
def Reads (unicode : Unicode) (history : List IndexedDocument) (channelId : JsString) (size n : Nat)
    (hook : LazyHook) (event : LazyEvent) : Prop :=
  Pages history size n hook event ∧ Undisturbed unicode history channelId n hook event

theorem consistent_of_reachable (reached : (lazySystem unicode).Reachable guard hook) :
    Consistent unicode hook.index := by
  induction reached with
  | initial start =>
    cases start
    exact consistent_empty
  | step _ _ moved consistent =>
    rcases index_next moved with ⟨same, _⟩ | ⟨operation, _, applied⟩
    · rw [same]
      exact consistent
    · rw [applied]
      exact consistent.apply operation

theorem bounded_index_of_reachable
    (reached : (lazySystem unicode).Reachable (Reads unicode history channelId size n) hook) :
    Bounded hook.index := by
  induction reached with
  | initial start =>
    cases start
    exact bounded_empty
  | step reached reads moved bounded =>
    rcases index_next moved with ⟨same, _⟩ | ⟨operation, adds, applied⟩
    · rw [same]
      exact bounded
    · rw [applied]
      refine bounded.apply (consistent_of_reachable reached) ?_
      rw [adds]
      exact reads.2.named

/-- What a run has read of its history. -/
def HasRead (run : LazyRun) (doc : IndexedDocument) : Prop :=
  run.phase = .done ∨ ∃ time, run.before = some time ∧ time.codeUnits ≤ doc.createdAt.codeUnits

theorem hasRead_of_not_older (member : doc ∈ history) (outside : doc ∉ older history run.before) :
    HasRead run doc := by
  rw [mem_older, not_and, not_forall] at outside
  obtain ⟨time, late⟩ := outside member
  rw [not_forall] at late
  obtain ⟨named, late⟩ := late
  exact .inr ⟨time, named, not_lt.mp late⟩

/-- What others do keeps covered what is covered, as long as the run is live. -/
theorem Undisturbed.covers (undisturbed : Undisturbed unicode history channelId n before event)
    (consistent : Consistent unicode before.index) (bounded : Bounded before.index)
    (moved : before.next unicode event = some after) (ran : before.runs n = some run)
    (live : run.aborted = false)
    (still : ∀ later, after.runs n = some later → later.aborted = false) (member : doc ∈ history)
    (inside : doc.channelId = channelId) (covers : before.index.Covers channelId doc) :
    after.index.Covers channelId doc := by
  rcases index_next moved with ⟨same, _⟩ | ⟨operation, adds, applied⟩
  · rw [same]
    exact covers
  · by_cases none : operation.added = []
    · rcases undisturbed.keeps run after ran live (adds.symm.trans none) moved with
        ⟨later, there, aborted⟩ | alike
      · rw [still later there] at aborted
        cases aborted
      · refine covers.alike consistent ?_ alike inside
        rw [applied]
        exact consistent.apply operation
    · rw [applied, apply_of_added none]
      refine covers.addDocuments bounded consistent ?_ ?_ member inside
      · rw [adds]
        exact undisturbed.named
      · rw [adds]
        exact undisturbed.fits run ran live

/-- A step of the run itself. -/
theorem OwnStep.covers (step : OwnStep unicode before n run event after)
    (reads : Reads unicode history channelId size n before event)
    (consistent : Consistent unicode before.index) (bounded : Bounded before.index)
    (ofChannel : ∀ doc ∈ history, doc.channelId = channelId) (ran : before.runs n = some run)
    (moved : before.next unicode event = some after)
    (before_covers : ∀ doc ∈ history, HasRead run doc → before.index.Covers channelId doc)
    {later : LazyRun} (there : after.runs n = some later) (live : later.aborted = false)
    (member : doc ∈ history) (read : HasRead later doc) : after.index.Covers channelId doc := by
  obtain ⟨pages, undisturbed⟩ := reads
  have kept : run.aborted = false → before.index.Covers channelId doc →
      after.index.Covers channelId doc := by
    intro alive covers
    refine undisturbed.covers consistent bounded moved ran alive ?_ member (ofChannel doc member) covers
    intro other same
    rw [there] at same
    cases same
    exact live
  cases step with
  | ends why =>
    rw [runs_finish_self] at there
    cases there
    rcases why with aborted | rfl | rfl
    · rw [live] at aborted
      cases aborted
    · refine kept live (before_covers doc member (hasRead_of_not_older member fun left => ?_))
      obtain ⟨time, found, _⟩ := undisturbed.whole run [] ran live rfl doc left List.not_mem_nil
      cases found
    · exact absurd rfl (pages run ran live).2
  | halts alive _ nonempty same =>
    obtain ⟨first, listed, found, _⟩ := earliest_spec nonempty
    have less := (mem_older.mp (((pages run ran alive).1 _ rfl).within first listed)).2
      first.createdAt (same.symm.trans found)
    exact absurd less (lt_irrefl _)
  | @reads batch alive loading nonempty =>
    by_cases listed : doc ∈ batch
    · have adds := added_loads ran alive loading batch
      refine covers_addDocuments bounded consistent ?_ ?_ member (ofChannel doc member) listed
      · rw [← adds]
        exact undisturbed.named
      · rw [← adds]
        exact undisturbed.fits run ran alive
    · refine kept alive (before_covers doc member (hasRead_of_not_older member fun left => ?_))
      obtain ⟨time, found, early⟩ := undisturbed.whole run batch ran alive rfl doc left listed
      rw [runs_setRun_self] at there
      cases there
      rcases read with ended | ⟨cursor, same, late⟩
      · cases ended
      · cases found.symm.trans same
        exact absurd early (not_lt.mpr late)
  | resumes alive =>
    rw [runs_setRun_self] at there
    cases there
    rcases read with ended | named
    · cases ended
    · exact kept alive (before_covers doc member (.inr named))

/-- A live run has covered what it has read. -/
theorem covers_of_reachable (ofChannel : ∀ doc ∈ history, doc.channelId = channelId)
    (reached : (lazySystem unicode).Reachable (Reads unicode history channelId size n) hook)
    (ran : hook.runs n = some run) (live : run.aborted = false) (member : doc ∈ history)
    (read : HasRead run doc) : hook.index.Covers channelId doc := by
  induction reached generalizing run doc with
  | initial start =>
    cases start
    cases ran
  | @step before after event reached reads moved covers =>
    have owned := owned_of_reachable reached
    have consistent := consistent_of_reachable reached
    have bounded := bounded_index_of_reachable reached
    by_cases actor : event.actor? = some n
    · obtain ⟨old, running, _, step⟩ := ownStep moved actor
      have alive : old.aborted = false := by
        by_contra aborted
        have quiet : Quiet unicode before := owned.quiet
        obtain ⟨later, there, dead⟩ := quiet.final n old event after running
          ((Bool.not_eq_false _).mp aborted) moved
        rw [ran] at there
        cases there
        rw [live] at dead
        cases dead
      exact step.covers reads consistent bounded ofChannel running moved
        (fun doc member read => covers running alive member read) ran live member read
    · by_cases early : n < before.started
      · rcases runs_next moved actor early with same | same
        · have running := same.symm.trans ran
          refine reads.2.covers consistent bounded moved running live ?_ member (ofChannel doc member)
            (covers running live member read)
          intro later there
          rw [ran] at there
          cases there
          exact live
        · rw [same] at ran
          obtain ⟨old, _, rfl⟩ := Option.map_eq_some_iff.mp ran
          cases live
      · rcases owned.runs_new moved (not_lt.mp early) with absent | ⟨channelId, begun⟩
        · rw [absent] at ran
          cases ran
        · rw [begun] at ran
          cases ran
          rcases read with ended | ⟨time, none, _⟩
          · cases ended
          · cases none

/-- A run calls its loader at most once more than its history has messages; a run that is aborted or
replaced adds nothing and leaves the controllers alone; and when a run that was left undisturbed is
done without having been aborted, its history is indexed, as far as the cap of the channel goes. -/
theorem lazyIndexing (unicode : Unicode) (history : List IndexedDocument) (channelId : JsString)
    (size n : Nat) (ofChannel : ∀ doc ∈ history, doc.channelId = channelId) :
    (∀ hook, (lazySystem unicode).Reachable (Pages history size n) hook →
      ∀ run, hook.runs n = some run → run.calls ≤ history.length + 1) ∧
    (∀ hook, (lazySystem unicode).Reachable System.unguarded hook → Quiet unicode hook) ∧
    ∀ hook, (lazySystem unicode).Reachable (Reads unicode history channelId size n) hook →
      ∀ run, hook.runs n = some run → run.phase = .done → run.aborted = false →
        ∀ doc ∈ history, hook.index.Covers channelId doc := by
  refine ⟨fun hook reached run ran => ?_, fun hook reached => (owned_of_reachable reached).quiet,
    fun hook reached run ran ended live doc member =>
      covers_of_reachable ofChannel reached ran live member (.inl ended)⟩
  have counted := counted_of_reachable reached ran
  rw [LazyRun.Counted] at counted
  split at counted <;> omega

/-! ## Two messages of one time -/

def Sample.message (id time : String) : IndexedDocument :=
  ⟨js id, js "chat", js "alice", js "Alice", none, js "hello", js time⟩

/-- The hook after some events, all of which can happen. -/
def Sample.hookAfter (events : List LazyEvent) : LazyHook :=
  events.foldl (fun hook event => (hook.next .ascii event).getD hook) .empty

/-- Two messages of one time. -/
def Sample.tied : List IndexedDocument := [Sample.message "m1" "2025", Sample.message "m2" "2025"]

def Sample.tiedRun : List LazyEvent :=
  [.startsLazyIndexing (js "chat"), .loads 0 [Sample.message "m1" "2025"], .wakes 0, .loads 0 []]

theorem Sample.pages_tied :
    NewestPage Sample.tied 1 none [Sample.message "m1" "2025"] ∧
      NewestPage Sample.tied 1 (some (js "2025")) [] := by
  constructor
  · exact ⟨by decide, by decide, by decide, by decide⟩
  · exact ⟨by decide, by decide, by decide, by decide⟩

/-- A next event that the guard admits. -/
theorem Sample.reachable_snoc {events : List LazyEvent} (event : LazyEvent)
    (reached : (lazySystem .ascii).Reachable guard (Sample.hookAfter events))
    (admitted : guard (Sample.hookAfter events) event)
    (moved : ((Sample.hookAfter events).next .ascii event).isSome = true) :
    (lazySystem .ascii).Reachable guard (Sample.hookAfter (events ++ [event])) := by
  obtain ⟨after, moved⟩ := Option.isSome_iff_exists.mp moved
  have last : Sample.hookAfter (events ++ [event]) = after := by
    rw [hookAfter, List.foldl_append]
    exact congrArg (Option.getD · (Sample.hookAfter events)) moved
  rw [last]
  exact .step reached admitted moved

/-- An event of a run with what is known of the run before. -/
theorem pages_of_run {before : Option JsString} {phase : LazyPhase} {calls : Nat}
    (ran : hook.runs n = some ⟨channelId, before, phase, false, calls⟩)
    (page : ∀ batch, event = .loads n batch → NewestPage history size before batch)
    (answers : event ≠ .fails n) : Pages history size n hook event := by
  intro run same _
  rw [ran] at same
  cases same
  exact ⟨page, answers⟩

/-- The second message of one time does not fit on the page and is never read. -/
theorem tied_left_out : ∃ hook, (lazySystem .ascii).Reachable (Pages Sample.tied 1 0) hook ∧
    ∃ run, hook.runs 0 = some run ∧ run.phase = .done ∧ run.aborted = false ∧
      ¬ hook.index.Covers (js "chat") (Sample.message "m2" "2025") := by
  have begun : (lazySystem .ascii).Reachable (Pages Sample.tied 1 0) (Sample.hookAfter []) :=
    .initial rfl
  have started := Sample.reachable_snoc (.startsLazyIndexing (js "chat")) begun
    (fun run ran => by cases ran) rfl
  have loaded := Sample.reachable_snoc (.loads 0 [Sample.message "m1" "2025"]) started
    (pages_of_run rfl (fun batch same => by cases same; exact Sample.pages_tied.1) (by simp)) rfl
  have woken := Sample.reachable_snoc (.wakes 0) loaded
    (pages_of_run rfl (fun batch same => by cases same) (by simp)) rfl
  have ended := Sample.reachable_snoc (.loads 0 []) woken
    (pages_of_run rfl (fun batch same => by cases same; exact Sample.pages_tied.2) (by simp)) rfl
  refine ⟨Sample.hookAfter Sample.tiedRun, ended, _, rfl, rfl, rfl, ?_⟩
  have absent : (Sample.hookAfter Sample.tiedRun).index.docs.get? (js "m2") = none := rfl
  have single : (Sample.hookAfter Sample.tiedRun).index.count (js "chat") = 1 := rfl
  rintro (stored | ⟨full, _⟩)
  · cases absent.symm.trans stored
  · rw [single] at full
    exact absurd full (by decide)

def Sample.apart : List IndexedDocument := [Sample.message "m1" "2025", Sample.message "m2" "2024"]

theorem Sample.fits_few {index : LocalSearchIndex} {doc : IndexedDocument}
    (kept : ∀ entry ∈ index.docs.entries, entry.2 ∈ Sample.apart) (member : doc ∈ Sample.apart)
    (few : ((index.removeDocument .ascii doc.id).channelDocs.members doc.channelId).length <
      MAX_DOCS_PER_CHANNEL)
    (small : (index.removeDocument .ascii doc.id).docs.size < MAX_DOCS_GLOBAL) :
    Fits .ascii Sample.apart (js "chat") index doc where
  immutable old same known := by
    have single : ∀ first ∈ Sample.apart, ∀ second ∈ Sample.apart,
        first.id = second.id → first = second := by decide
    refine single old ?_ doc member same
    rcases known with listed | ⟨stored, _⟩
    · exact listed
    · exact kept (old.id, old) (JsMap.mem_entries.mpr stored)
  yields old room _ := by
    cases room with
    | channel full => exact absurd full (not_le.mpr few)
    | all _ full => exact absurd full (not_le.mpr small)

theorem Sample.undisturbed {hook : LazyHook} {event : LazyEvent} (none : hook.added event = [])
    (still : ∀ after, hook.next .ascii event = some after → after.index = hook.index)
    (whole : ∀ run batch, hook.runs 0 = some run → event = .loads 0 batch →
      older Sample.apart run.before = []) :
    Undisturbed .ascii Sample.apart (js "chat") 0 hook event where
  named doc member := by
    rw [none] at member
    cases member
  fits _ _ _ := by
    rw [none]
    trivial
  keeps _ after _ _ _ moved := by
    rw [still after moved]
    exact .inr fun _ _ => .rfl
  whole run batch ran _ same doc left := by
    rw [whole run batch ran same] at left
    cases left

/-- Two messages of different times, on one page. -/
theorem apart_indexed : ∃ hook, (lazySystem .ascii).Reachable
    (Reads .ascii Sample.apart (js "chat") 2 0) hook ∧
    ∀ doc ∈ Sample.apart, hook.index.Covers (js "chat") doc := by
  have begun : (lazySystem .ascii).Reachable (Reads .ascii Sample.apart (js "chat") 2 0)
      (Sample.hookAfter []) := .initial rfl
  have starts : Undisturbed .ascii Sample.apart (js "chat") 0 (Sample.hookAfter [])
      (.startsLazyIndexing (js "chat")) := by
    refine Sample.undisturbed rfl ?_ ?_
    · intro after moved
      cases moved
      rfl
    · intro run batch ran
      cases ran
  have started := Sample.reachable_snoc (.startsLazyIndexing (js "chat")) begun
    ⟨(fun run ran => by cases ran), starts⟩ rfl
  have page : NewestPage Sample.apart 2 none Sample.apart :=
    ⟨by decide, by decide, by decide, by decide⟩
  have loads : Undisturbed .ascii Sample.apart (js "chat") 0
      (Sample.hookAfter [.startsLazyIndexing (js "chat")]) (.loads 0 Sample.apart) := by
    constructor
    · change ∀ doc ∈ Sample.apart, doc.id ≠ []
      decide
    · exact fun _ _ _ => ⟨Sample.fits_few (by decide) (by decide) (by decide) (by decide),
        Sample.fits_few (by decide) (by decide) (by decide) (by decide), trivial⟩
    · intro _ _ _ _ none
      cases none
    · intro run batch ran _ same
      cases ran
      cases same
      decide
  have loaded := Sample.reachable_snoc (.loads 0 Sample.apart) started
    ⟨pages_of_run rfl (fun batch same => by cases same; exact page) (by simp), loads⟩ rfl
  have wakes : Undisturbed .ascii Sample.apart (js "chat") 0
      (Sample.hookAfter [.startsLazyIndexing (js "chat"), .loads 0 Sample.apart]) (.wakes 0) := by
    refine Sample.undisturbed rfl ?_ ?_
    · intro after moved
      cases moved
      rfl
    · intro run batch _ same
      cases same
  have woken := Sample.reachable_snoc (.wakes 0) loaded
    ⟨pages_of_run rfl (fun batch same => by cases same) (by simp), wakes⟩ rfl
  have last : NewestPage Sample.apart 2 (some (js "2024")) [] :=
    ⟨by decide, by decide, by decide, by decide⟩
  have ends : Undisturbed .ascii Sample.apart (js "chat") 0
      (Sample.hookAfter [.startsLazyIndexing (js "chat"), .loads 0 Sample.apart, .wakes 0])
      (.loads 0 []) := by
    refine Sample.undisturbed rfl ?_ ?_
    · intro after moved
      cases moved
      rfl
    · intro run batch ran same
      cases ran
      decide
  have ended := Sample.reachable_snoc (.loads 0 []) woken
    ⟨pages_of_run rfl (fun batch same => by cases same; exact last) (by simp), ends⟩ rfl
  exact ⟨_, ended,
    (lazyIndexing .ascii Sample.apart (js "chat") 2 0 (by decide)).2.2 _ ended _ rfl rfl rfl⟩

end LazyHook

end Vortex.Web
