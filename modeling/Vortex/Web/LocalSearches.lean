import Vortex.Views.Search
import Vortex.Web.LocalIndex

/-!
# Searches in the local index

Whether a token of a query is looked up as a whole word or as the beginning of one is decided by
the whole index, before the results are narrowed to a channel. So a search in a channel depends on
the other channels exactly when one of them holds a token as a word and the channel does not
(`search_alike_iff`).
-/

namespace Vortex.Web

open Foundation List
open Vortex.Views (operator words)

structure LocalSearchFilters where
  fromAuthorId : Option JsString
  before : Option JsString
  deriving DecidableEq

/-- `date` is `new Date(text).toISOString()`, with nothing for an invalid date. -/
def parseLocalSearchQuery (date : JsString → Option JsString) (raw : JsString) :
    JsString × LocalSearchFilters :=
  let (fromAuthorId, query) := match operator (js "from:") raw with
    | some (value, left) => (some value, left)
    | none => (none, raw)
  let (before, query) := match operator (js "before:") query with
    | some (value, left) => (date value, left)
    | none => (none, query)
  (List.intercalate [32] (words query), ⟨fromAuthorId, before⟩)

example : parseLocalSearchQuery (fun _ => none) (js "test  From:bob before:notadate") =
    (js "test", ⟨some (js "bob"), none⟩) := by decide

structure LocalSearchResult (Score : Type) extends IndexedDocument where
  score : Score
  matchedTokens : List JsString

/-- What a search leaves to the runtime. -/
structure SearchRuntime (Score : Type) where
  unicode : Unicode
  date : JsString → Option JsString
  /-- `matched.length * 10 + recencyScore(createdAt)`, at the time of the search. -/
  score : Nat → JsString → Score

/-- `results.slice(0, limit)`. -/
def slice {Result : Type} (results : List Result) (limit : Int) : List Result :=
  if 0 ≤ limit then results.take limit.toNat else results.take (results.length - (-limit).toNat)

/-- How many of so many results a limit lets through. -/
def returned (found : Nat) (limit : Int) : Nat :=
  if 0 ≤ limit then min limit.toNat found else found - (-limit).toNat

theorem length_slice {Result : Type} (results : List Result) (limit : Int) :
    (slice results limit).length = returned results.length limit := by
  rw [slice, returned]
  split
  · rw [length_take]
  · rw [length_take]
    omega

theorem returned_zero (limit : Int) : returned 0 limit = 0 := by
  rw [returned, Nat.min_zero, Nat.zero_sub, ite_self]

theorem slice_nil {Result : Type} (limit : Int) : slice ([] : List Result) limit = [] := by
  rw [slice, take_nil, take_nil, ite_self]

/-! ## The search -/

section Search

variable {Score : Type}

/-- The order of the results: by score, and of one score by time, the greatest first. As no time
is invalid, no score is `NaN`. -/
def inOrder [LinearOrder Score] (left right : LocalSearchResult Score) : Bool :=
  if left.score = right.score then right.createdAt.codeUnits ≤ left.createdAt.codeUnits
  else right.score < left.score

namespace LocalSearchIndex

/-- The ids under all tokens that begin with a token. -/
def prefixed (index : LocalSearchIndex) (token : JsString) : JsSet JsString :=
  index.invertedIndex.entries.foldl (fun postings entry =>
    if token.isPrefixOf entry.1 then entry.2.keys.foldl JsSet.add postings else postings) .empty

def postings (index : LocalSearchIndex) (token : JsString) : JsSet JsString :=
  match index.invertedIndex.get? token with
  | some exactSet => exactSet
  | none => index.prefixed token

/-- The loop over the tokens of a query, which stops when nothing is left. -/
def intersect (index : LocalSearchIndex) :
    Option (JsSet JsString) → List JsString → Option (JsSet JsString)
  | candidateIds, [] => candidateIds
  | candidateIds, token :: tokens =>
      let postings := index.postings token
      let left : JsSet JsString := match candidateIds with
        | none => postings
        | some ids => JsMap.filterMap ids fun id _ => if postings.has id then some () else none
      if left.size = 0 then some left else index.intersect (some left) tokens

def candidateIds (index : LocalSearchIndex) (tokens : List JsString) (channelId : Option JsString) :
    Option (JsSet JsString) :=
  if tokens.isEmpty then
    match channelId with
    | some channelId => some ((index.channelDocs.get? channelId).getD .empty)
    | none => some (index.docs.filterMap fun _ _ => some ())
  else index.intersect none tokens

def toResult (runtime : SearchRuntime Score) (tokens : List JsString) (doc : IndexedDocument) :
    LocalSearchResult Score :=
  let docTokens := tokenise runtime.unicode doc.text
  let matched := tokens.filter fun token => docTokens.any fun word => word = token || token.isPrefixOf word
  { doc with score := runtime.score matched.length doc.createdAt, matchedTokens := matched }

/-- Whether no filter rules a document out. An empty one counts as none. -/
def passes (filters : LocalSearchFilters) (doc : IndexedDocument) : Bool :=
  !(filters.fromAuthorId.any fun author => !author.isEmpty && doc.authorId ≠ author) &&
    !(filters.before.any fun time => !time.isEmpty && time.codeUnits ≤ doc.createdAt.codeUnits)

/-- A candidate, unless the channel or a filter rules it out. -/
def resultOf (index : LocalSearchIndex) (runtime : SearchRuntime Score) (tokens : List JsString)
    (filters : LocalSearchFilters) (channelId : Option JsString) (id : JsString) :
    Option (LocalSearchResult Score) :=
  match index.docs.get? id with
  | none => none
  | some doc =>
      if channelId.any fun channelId => doc.channelId ≠ channelId then none
      else if passes filters doc then some (toResult runtime tokens doc)
      else none

/-- `search(rawQuery, channelId, limit)`, where an empty channel counts as none. A limit is as
`slice` reads it, an integer. -/
def search [LinearOrder Score] (index : LocalSearchIndex) (runtime : SearchRuntime Score)
    (rawQuery : JsString) (channelId : Option JsString) (limit : Option Int) :
    List (LocalSearchResult Score) :=
  let (query, filters) := parseLocalSearchQuery runtime.date rawQuery
  let tokens := tokenise runtime.unicode query
  let channelId := channelId.filter fun channelId => !channelId.isEmpty
  match index.candidateIds tokens channelId with
  | none => []
  | some ids =>
      if ids.size = 0 then []
      else
        let results := ids.keys.filterMap (index.resultOf runtime tokens filters channelId)
        slice (results.mergeSort inOrder) (limit.getD 40)

/-! ## What a channel finds of its own -/

variable (index : LocalSearchIndex) (unicode : Unicode)

/-- Whether a document of the channel holds a token as a word. -/
def knowsInside (channelId token : JsString) : Bool :=
  index.docs.entries.any fun entry =>
    entry.2.channelId = channelId && (tokenise unicode entry.2.text).contains token

def knowsOutside (channelId token : JsString) : Bool :=
  index.docs.entries.any fun entry =>
    entry.2.channelId ≠ channelId && (tokenise unicode entry.2.text).contains token

/-- Whether another channel holds one of the tokens as a word and the channel does not. -/
def shadows (channelId : JsString) (tokens : List JsString) : Bool :=
  tokens.any fun token =>
    index.knowsOutside unicode channelId token && !index.knowsInside unicode channelId token

/-- Whether a document answers to a token, as a word, or by a word that begins with it when no
document of the channel holds it as a word. -/
def answers (channelId token : JsString) (doc : IndexedDocument) : Bool :=
  (tokenise unicode doc.text).contains token ||
    (!index.knowsInside unicode channelId token &&
      (tokenise unicode doc.text).any fun word => token.isPrefixOf word)

/-- The documents of a channel that a query finds in it. -/
def foundInside (channelId : JsString) (tokens : List JsString) (filters : LocalSearchFilters) :
    List IndexedDocument :=
  (index.docs.entries.map Prod.snd).filter fun doc =>
    doc.channelId = channelId && passes filters doc &&
      tokens.all fun token => index.answers unicode channelId token doc

variable {index unicode} {token id channelId : JsString} {tokens : List JsString}
  {filters : LocalSearchFilters}

section

variable (consistent : Consistent unicode index)

include consistent

theorem mem_documents {doc : IndexedDocument} :
    doc ∈ index.docs.entries.map Prod.snd ↔ index.Stores doc := by
  rw [mem_map]
  constructor
  · rintro ⟨entry, member, rfl⟩
    exact consistent.stores (JsMap.mem_entries.mp member)
  · exact fun stored => ⟨(doc.id, doc), JsMap.mem_entries.mpr stored, rfl⟩

theorem any_documents_iff (test : IndexedDocument → Bool) :
    (index.docs.entries.any fun entry => test entry.2) = true ↔
      ∃ doc, index.Stores doc ∧ test doc = true := by
  simp only [any_eq_true, ← mem_documents consistent, mem_map]
  constructor
  · rintro ⟨entry, member, holds⟩
    exact ⟨entry.2, ⟨entry, member, rfl⟩, holds⟩
  · rintro ⟨_, ⟨entry, member, rfl⟩, holds⟩
    exact ⟨entry, member, holds⟩

theorem knowsInside_iff :
    index.knowsInside unicode channelId token = true ↔
      ∃ doc, index.Stores doc ∧ doc.channelId = channelId ∧ token ∈ tokenise unicode doc.text := by
  rw [knowsInside, any_documents_iff consistent fun doc =>
    doc.channelId = channelId && (tokenise unicode doc.text).contains token]
  simp only [Bool.and_eq_true, decide_eq_true_eq, contains_iff_mem]

theorem knowsOutside_iff :
    index.knowsOutside unicode channelId token = true ↔
      ∃ doc, index.Stores doc ∧ doc.channelId ≠ channelId ∧ token ∈ tokenise unicode doc.text := by
  rw [knowsOutside, any_documents_iff consistent fun doc =>
    doc.channelId ≠ channelId && (tokenise unicode doc.text).contains token]
  simp only [Bool.and_eq_true, decide_eq_true_eq, contains_iff_mem]

/-- A token is looked up as a word when some channel holds it as one. -/
theorem get?_isSome_iff_knows (channelId : JsString) :
    (index.invertedIndex.get? token).isSome = true ↔
      index.knowsInside unicode channelId token = true ∨
        index.knowsOutside unicode channelId token = true := by
  rw [consistent.filled.get?_isSome_iff, knowsInside_iff consistent, knowsOutside_iff consistent]
  constructor
  · rintro ⟨id, listed⟩
    obtain ⟨doc, stored, known⟩ := (consistent.posted token id).mp listed
    by_cases inside : doc.channelId = channelId
    · exact .inl ⟨doc, consistent.stores stored, inside, known⟩
    · exact .inr ⟨doc, consistent.stores stored, inside, known⟩
  · rintro (⟨doc, stored, _, known⟩ | ⟨doc, stored, _, known⟩)
    · exact ⟨doc.id, (consistent.posted token doc.id).mpr ⟨doc, stored, known⟩⟩
    · exact ⟨doc.id, (consistent.posted token doc.id).mpr ⟨doc, stored, known⟩⟩

end

/-! ## Candidates -/

theorem mem_addAll {ids : List JsString} {set : JsSet JsString} :
    id ∈ JsMap.keys (ids.foldl JsSet.add set) ↔ id ∈ set.keys ∨ id ∈ ids := by
  induction ids generalizing set with
  | nil => simp
  | cons other ids ih =>
    rw [foldl_cons, ih, JsSet.add, JsMap.mem_keys_set, mem_cons, or_assoc]

theorem mem_prefixed (consistent : Consistent unicode index) :
    id ∈ (index.prefixed token).keys ↔
      ∃ doc, index.docs.get? id = some doc ∧
        ∃ word ∈ tokenise unicode doc.text, token <+: word := by
  have folded : ∀ (entries : List (JsString × JsSet JsString)) (set : JsSet JsString),
      id ∈ JsMap.keys (entries.foldl (fun postings entry =>
        if token.isPrefixOf entry.1 then entry.2.keys.foldl JsSet.add postings else postings) set) ↔
        id ∈ set.keys ∨ ∃ entry ∈ entries, token <+: entry.1 ∧ id ∈ entry.2.keys := by
    intro entries
    induction entries with
    | nil => simp
    | cons entry entries ih =>
      intro set
      rw [foldl_cons, ih]
      simp only [mem_cons, exists_eq_or_imp]
      by_cases begins : token <+: entry.1
      · rw [if_pos (List.isPrefixOf_iff_prefix.mpr begins), mem_addAll, or_assoc]
        simp only [begins, true_and]
      · rw [if_neg (List.isPrefixOf_iff_prefix.not.mpr begins)]
        simp only [begins, false_and, false_or]
  rw [prefixed, folded]
  constructor
  · rintro (impossible | ⟨entry, member, begins, listed⟩)
    · cases impossible
    · rw [← Postings.members_of_get? (JsMap.mem_entries.mp member)] at listed
      obtain ⟨doc, stored, known⟩ := (consistent.posted entry.1 id).mp listed
      exact ⟨doc, stored, entry.1, known, begins⟩
  · rintro ⟨doc, stored, word, known, begins⟩
    have listed := (consistent.posted word id).mpr ⟨doc, stored, known⟩
    cases found : index.invertedIndex.get? word with
    | none =>
      rw [Postings.members_of_none found] at listed
      cases listed
    | some ids =>
      rw [Postings.members_of_get? found] at listed
      exact .inr ⟨(word, ids), JsMap.mem_entries.mpr found, begins, listed⟩

/-- The ids a token stands for. -/
theorem mem_postings (consistent : Consistent unicode index) :
    id ∈ (index.postings token).keys ↔ ∃ doc, index.docs.get? id = some doc ∧
      (token ∈ tokenise unicode doc.text ∨ (index.invertedIndex.get? token).isSome = false ∧
        ∃ word ∈ tokenise unicode doc.text, token <+: word) := by
  rw [postings]
  split
  · rename_i ids found
    rw [← Postings.members_of_get? found, consistent.posted token id, found]
    simp
  · rename_i absent
    rw [mem_prefixed consistent, absent]
    have word : ∀ doc : IndexedDocument, (∃ word ∈ tokenise unicode doc.text, token <+: word) ↔
        (token ∈ tokenise unicode doc.text ∨ Option.isSome (none : Option (JsSet JsString)) = false ∧
          ∃ word ∈ tokenise unicode doc.text, token <+: word) := by
      intro doc
      constructor
      · exact fun begins => .inr ⟨rfl, begins⟩
      · rintro (known | ⟨_, begins⟩)
        · exact ⟨token, known, prefix_rfl⟩
        · exact begins
    simp only [← word]

theorem intersect_spec {tokens : List JsString} {set : JsSet JsString} :
    ∃ left, index.intersect (some set) tokens = some left ∧ ∀ id, id ∈ left.keys ↔
        id ∈ set.keys ∧ ∀ token ∈ tokens, id ∈ (index.postings token).keys := by
  induction tokens generalizing set with
  | nil => exact ⟨set, rfl, by simp⟩
  | cons token tokens ih =>
    have kept : ∀ id, id ∈ JsMap.keys (JsMap.filterMap set fun id _ =>
        if (index.postings token).has id then some () else none) ↔
        id ∈ set.keys ∧ id ∈ (index.postings token).keys := by
      intro id
      rw [JsMap.mem_keys, JsMap.mem_keys, ← JsMap.has_eq_true]
      simp [JsMap.get?_filterMap, Option.bind_eq_some_iff]
    rw [intersect]
    split
    · rename_i empty
      refine ⟨_, rfl, fun id => ?_⟩
      rw [kept, forall_mem_cons, ← and_assoc, ← kept]
      rw [← JsMap.length_keys] at empty
      rw [length_eq_zero_iff.mp empty]
      exact ⟨fun member => absurd member not_mem_nil, fun member => absurd member.1 not_mem_nil⟩
    · obtain ⟨left, found, member⟩ := @ih (JsMap.filterMap set fun id _ =>
        if (index.postings token).has id then some () else none)
      refine ⟨left, found, fun id => ?_⟩
      rw [member, kept, forall_mem_cons, and_assoc]

/-- The candidates of a search in a channel. Without tokens they are the documents of the channel. -/
theorem candidateIds_spec : ∃ ids, index.candidateIds tokens (some channelId) = some ids ∧
    ∀ id, id ∈ ids.keys ↔ (tokens = [] → id ∈ index.channelDocs.members channelId) ∧
      ∀ token ∈ tokens, id ∈ (index.postings token).keys := by
  cases tokens with
  | nil =>
    refine ⟨_, rfl, fun id => ?_⟩
    rw [Postings.members_getD]
    simp
  | cons token tokens =>
    by_cases empty : (index.postings token).size = 0
    · refine ⟨index.postings token, ?_, fun id => ?_⟩
      · rw [candidateIds, isEmpty_cons, if_neg Bool.false_ne_true, intersect]
        exact if_pos empty
      · rw [forall_mem_cons]
        rw [← JsMap.length_keys] at empty
        rw [length_eq_zero_iff.mp empty]
        exact ⟨fun member => absurd member not_mem_nil, fun member => absurd member.2.1 not_mem_nil⟩
    · obtain ⟨left, found, member⟩ := @intersect_spec index tokens (index.postings token)
      refine ⟨left, ?_, fun id => ?_⟩
      · rw [candidateIds, isEmpty_cons, if_neg Bool.false_ne_true, intersect]
        exact (if_neg empty).trans found
      · rw [member, forall_mem_cons]
        exact ⟨fun both => ⟨fun none => absurd none (cons_ne_nil _ _), both⟩, And.right⟩

/-! ## Results -/

/-- What a search in a channel sorts. -/
def results (index : LocalSearchIndex) (runtime : SearchRuntime Score) (tokens : List JsString)
    (filters : LocalSearchFilters) (channelId : JsString) : List (LocalSearchResult Score) :=
  match index.candidateIds tokens (some channelId) with
  | none => []
  | some ids => ids.keys.filterMap (index.resultOf runtime tokens filters (some channelId))

variable {runtime : SearchRuntime Score}

theorem search_eq [LinearOrder Score] (named : channelId ≠ []) (rawQuery : JsString)
    (limit : Option Int) :
    index.search runtime rawQuery (some channelId) limit = slice ((index.results runtime
        (tokenise runtime.unicode (parseLocalSearchQuery runtime.date rawQuery).1)
        (parseLocalSearchQuery runtime.date rawQuery).2 channelId).mergeSort inOrder)
        (limit.getD 40) := by
  have scope : (some channelId).filter (fun channelId => !channelId.isEmpty) = some channelId := by
    rw [Option.filter_some, if_pos]
    rw [isEmpty_eq_false_iff.mpr named]
    rfl
  rw [search, results]
  dsimp only
  rw [scope]
  split
  · rw [mergeSort_nil, slice_nil]
  · split
    · rename_i empty
      rw [← JsMap.length_keys] at empty
      rw [length_eq_zero_iff.mp empty, filterMap_nil, mergeSort_nil, slice_nil]
    · rfl

theorem resultOf_eq_some {result : LocalSearchResult Score} :
    index.resultOf runtime tokens filters (some channelId) id = some result ↔
      ∃ doc, index.docs.get? id = some doc ∧ doc.channelId = channelId ∧ passes filters doc = true ∧
        toResult runtime tokens doc = result := by
  rw [resultOf]
  cases index.docs.get? id with
  | none => simp
  | some doc =>
    by_cases inside : doc.channelId = channelId
    · cases passed : passes filters doc <;> simp [inside, passed]
    · simp [inside]

theorem nodup_documents (consistent : Consistent unicode index) :
    (index.docs.entries.map Prod.snd).Nodup := by
  have ids : (index.docs.entries.map Prod.snd).map IndexedDocument.id = index.docs.keys := by
    rw [map_map, JsMap.keys]
    refine map_congr_left fun entry member => ?_
    exact consistent.named entry.1 entry.2 (JsMap.mem_entries.mp member)
  refine List.Nodup.of_map IndexedDocument.id ?_
  rw [ids]
  exact index.docs.nodup_keys

theorem toResult_injective : Function.Injective (toResult runtime tokens) := by
  intro first second same
  exact congrArg LocalSearchResult.toIndexedDocument same

/-- A document of a channel is among those a token stands for when it answers to the token in the
channel and the token is not shadowed. -/
theorem mem_postings_iff_answers (consistent : Consistent unicode index) {doc : IndexedDocument}
    (stored : index.docs.get? id = some doc) (inside : doc.channelId = channelId) :
    id ∈ (index.postings token).keys ↔ index.answers unicode channelId token doc = true ∧
      ¬ (index.knowsOutside unicode channelId token = true ∧
        (!index.knowsInside unicode channelId token) = true) := by
  have looked : (index.invertedIndex.get? token).isSome = true ↔ _ :=
    get?_isSome_iff_knows consistent channelId
  have own : id ∈ (index.postings token).keys ↔ token ∈ tokenise unicode doc.text ∨
      (index.invertedIndex.get? token).isSome = false ∧
        ∃ word ∈ tokenise unicode doc.text, token <+: word := by
    rw [mem_postings consistent, stored]
    simp only [Option.some.injEq, exists_eq_left']
  rw [own, answers, Bool.or_eq_true, contains_iff_mem, Bool.and_eq_true, any_eq_true]
  simp only [List.isPrefixOf_iff_prefix]
  by_cases known : token ∈ tokenise unicode doc.text
  · have held := (knowsInside_iff consistent).mpr ⟨doc, consistent.stores stored, inside, known⟩
    simp [known, held]
  · rw [Bool.eq_false_iff, ne_eq, looked]
    cases index.knowsInside unicode channelId token <;>
      cases index.knowsOutside unicode channelId token <;> simp [known]

section

variable (consistent : Consistent runtime.unicode index)

include consistent

theorem mem_results
    {result : LocalSearchResult Score} :
    result ∈ index.results runtime tokens filters channelId ↔
      index.shadows runtime.unicode channelId tokens = false ∧
        ∃ doc ∈ index.foundInside runtime.unicode channelId tokens filters,
          toResult runtime tokens doc = result := by
  obtain ⟨ids, found, member⟩ := @candidateIds_spec index channelId tokens
  rw [results, found]
  dsimp only
  rw [mem_filterMap]
  simp only [resultOf_eq_some, member, foundInside, mem_filter, mem_documents consistent, shadows,
    any_eq_false, Bool.and_eq_true, decide_eq_true_eq, all_eq_true]
  constructor
  · rintro ⟨id, ⟨_, listed⟩, doc, stored, inside, passed, rfl⟩
    have answered := fun token member =>
      (mem_postings_iff_answers consistent stored inside).mp (listed token member)
    exact ⟨fun token member => (answered token member).2, doc,
      ⟨consistent.stores stored, ⟨inside, passed⟩, fun token member => (answered token member).1⟩, rfl⟩
  · rintro ⟨clear, doc, ⟨stored, ⟨inside, passed⟩, answered⟩, rfl⟩
    refine ⟨doc.id, ⟨fun _ => (consistent.mem_channel stored).mpr inside, fun token member => ?_⟩,
      doc, stored, inside, passed, rfl⟩
    exact (mem_postings_iff_answers consistent stored inside).mpr
      ⟨answered token member, clear token member⟩

theorem nodup_results : (index.results runtime tokens filters channelId).Nodup := by
  rw [results]
  split
  · exact nodup_nil
  · rename_i ids _
    refine ids.nodup_keys.filterMap ?_
    intro first second result one two
    obtain ⟨doc, stored, _, _, rfl⟩ := resultOf_eq_some.mp one
    obtain ⟨other, storedToo, _, _, same⟩ := resultOf_eq_some.mp two
    cases toResult_injective same
    rw [← consistent.named first doc stored, ← consistent.named second doc storedToo]

/-- A search in a channel finds what the channel finds of its own, or nothing when another channel
shadows a token. -/
theorem results_perm :
    (index.results runtime tokens filters channelId).Perm
      (if index.shadows runtime.unicode channelId tokens then []
        else (index.foundInside runtime.unicode channelId tokens filters).map
          (toResult runtime tokens)) := by
  have distinct : ((index.foundInside runtime.unicode channelId tokens filters).map
      (toResult runtime tokens)).Nodup :=
    ((nodup_documents consistent).filter _).map toResult_injective
  cases shadowed : index.shadows runtime.unicode channelId tokens with
  | true =>
    rw [if_pos rfl, perm_nil, eq_nil_iff_forall_not_mem]
    intro result member
    have clear := ((mem_results consistent).mp member).1
    rw [shadowed] at clear
    cases clear
  | false =>
    rw [if_neg Bool.false_ne_true, perm_ext_iff_of_nodup (nodup_results consistent) distinct]
    intro result
    rw [mem_results consistent, mem_map]
    simp only [shadowed, true_and]

end

/-! ## Two indexes with the same documents of a channel -/

variable {first second : LocalSearchIndex}

theorem AlikeInside.knowsInside (alike : AlikeInside first second channelId)
    (consistent : Consistent unicode first) (consistentToo : Consistent unicode second)
    (token : JsString) :
    first.knowsInside unicode channelId token = second.knowsInside unicode channelId token := by
  rw [Bool.eq_iff_iff, knowsInside_iff consistent, knowsInside_iff consistentToo]
  constructor
  · rintro ⟨doc, stored, inside, known⟩
    exact ⟨doc, (alike doc inside).mp stored, inside, known⟩
  · rintro ⟨doc, stored, inside, known⟩
    exact ⟨doc, (alike doc inside).mpr stored, inside, known⟩

theorem AlikeInside.foundInside (alike : AlikeInside first second channelId)
    (consistent : Consistent unicode first) (consistentToo : Consistent unicode second) :
    (first.foundInside unicode channelId tokens filters).Perm
      (second.foundInside unicode channelId tokens filters) := by
  have answers : first.answers unicode channelId = second.answers unicode channelId := by
    funext token doc
    rw [LocalSearchIndex.answers, LocalSearchIndex.answers,
      alike.knowsInside consistent consistentToo token]
  refine (perm_ext_iff_of_nodup ((nodup_documents consistent).filter _)
    ((nodup_documents consistentToo).filter _)).mpr fun doc => ?_
  rw [mem_filter, mem_filter, mem_documents consistent, mem_documents consistentToo, answers]
  refine and_congr_left fun found => ?_
  simp only [Bool.and_eq_true, decide_eq_true_eq] at found
  exact alike doc found.1.1

section Order

variable [LinearOrder Score]

theorem inOrder_iff {left right : LocalSearchResult Score} : inOrder left right = true ↔
    right.score < left.score ∨
      left.score = right.score ∧ right.createdAt.codeUnits ≤ left.createdAt.codeUnits := by
  rw [inOrder]
  by_cases same : left.score = right.score
  · simp [same]
  · simp [same]

theorem inOrder_trans (left middle right : LocalSearchResult Score)
    (first : inOrder left middle = true)
    (second : inOrder middle right = true) : inOrder left right = true := by
  rw [inOrder_iff] at first second ⊢
  rcases first with less | ⟨same, late⟩
  · rcases second with lesser | ⟨same, _⟩
    · exact .inl (lesser.trans less)
    · exact .inl (same ▸ less)
  · rcases second with less | ⟨sameToo, later⟩
    · exact .inl (same ▸ less)
    · exact .inr ⟨same.trans sameToo, later.trans late⟩

theorem inOrder_total (left right : LocalSearchResult Score) :
    (inOrder left right || inOrder right left) = true := by
  rw [Bool.or_eq_true, inOrder_iff, inOrder_iff]
  rcases lt_trichotomy left.score right.score with less | same | more
  · exact .inr (.inl less)
  · rcases le_total left.createdAt.codeUnits right.createdAt.codeUnits with early | late
    · exact .inr (.inr ⟨same.symm, early⟩)
    · exact .inl (.inr ⟨same, late⟩)
  · exact .inl (.inl more)

/-- Two lists of results that are the beginnings of two orders of the same results, which may differ
only among results of one score and time. -/
def UpToTies (limit : Int) (left right : List (LocalSearchResult Score)) : Prop :=
  ∃ all others : List (LocalSearchResult Score), all.Perm others ∧
    all.Pairwise (fun before after => inOrder before after = true) ∧
    others.Pairwise (fun before after => inOrder before after = true) ∧
    left = slice all limit ∧ right = slice others limit

variable {limit : Int}

theorem upToTies_of_perm {results others : List (LocalSearchResult Score)}
    (perm : results.Perm others) :
    UpToTies limit (slice (results.mergeSort inOrder) limit) (slice (others.mergeSort inOrder) limit) :=
  ⟨results.mergeSort inOrder, others.mergeSort inOrder,
    ((mergeSort_perm results inOrder).trans perm).trans (mergeSort_perm others inOrder).symm,
    pairwise_mergeSort inOrder_trans inOrder_total results,
    pairwise_mergeSort inOrder_trans inOrder_total others, rfl, rfl⟩

theorem UpToTies.length_eq {left right : List (LocalSearchResult Score)}
    (ties : UpToTies limit left right) : left.length = right.length := by
  obtain ⟨all, others, perm, _, _, rfl, rfl⟩ := ties
  rw [length_slice, length_slice, perm.length_eq]

/-- What a search in a channel returns of what the channel finds of its own. -/
theorem length_search (runtime : SearchRuntime Score)
    (consistent : Consistent runtime.unicode index)
    (named : channelId ≠ []) (rawQuery : JsString) (limit : Option Int) :
    let parsed := parseLocalSearchQuery runtime.date rawQuery
    let tokens := tokenise runtime.unicode parsed.1
    (index.search runtime rawQuery (some channelId) limit).length =
      if index.shadows runtime.unicode channelId tokens then 0
      else returned (index.foundInside runtime.unicode channelId tokens parsed.2).length
        (limit.getD 40) := by
  intro parsed tokens
  have count : (index.results runtime tokens parsed.2 channelId).length = _ :=
    (results_perm consistent).length_eq
  rw [search_eq named, length_slice, length_mergeSort, count]
  split
  · exact returned_zero _
  · rw [length_map]

/-- Two indexes with the same documents of a channel find the same in it, if and only if both or
neither have another channel that holds a token of the query as a word where the channel does not,
or nothing would be returned of what the channel finds of its own. -/
theorem search_alike_iff (runtime : SearchRuntime Score) (history other : List IndexOperation)
    (rawQuery channelId : JsString) (limit : Option Int) (named : channelId ≠ [])
    (alike : AlikeInside (run runtime.unicode history) (run runtime.unicode other) channelId) :
    let first := run runtime.unicode history
    let second := run runtime.unicode other
    let parsed := parseLocalSearchQuery runtime.date rawQuery
    let tokens := tokenise runtime.unicode parsed.1
    UpToTies (limit.getD 40) (first.search runtime rawQuery (some channelId) limit)
        (second.search runtime rawQuery (some channelId) limit) ↔
      first.shadows runtime.unicode channelId tokens = second.shadows runtime.unicode channelId tokens ∨
        returned (first.foundInside runtime.unicode channelId tokens parsed.2).length
          (limit.getD 40) = 0 := by
  intro first second parsed tokens
  have consistent : Consistent runtime.unicode first := consistent_run history
  have consistentToo : Consistent runtime.unicode second := consistent_run other
  have found : (first.foundInside runtime.unicode channelId tokens parsed.2).Perm
      (second.foundInside runtime.unicode channelId tokens parsed.2) :=
    alike.foundInside consistent consistentToo
  have counted : (first.search runtime rawQuery (some channelId) limit).length =
      if first.shadows runtime.unicode channelId tokens then 0
      else returned (first.foundInside runtime.unicode channelId tokens parsed.2).length
        (limit.getD 40) := length_search runtime consistent named rawQuery limit
  have countedToo : (second.search runtime rawQuery (some channelId) limit).length =
      if second.shadows runtime.unicode channelId tokens then 0
      else returned (second.foundInside runtime.unicode channelId tokens parsed.2).length
        (limit.getD 40) := length_search runtime consistentToo named rawQuery limit
  constructor
  · intro ties
    have lengths := ties.length_eq
    rw [counted, countedToo, ← found.length_eq] at lengths
    cases one : first.shadows runtime.unicode channelId tokens <;>
      cases two : second.shadows runtime.unicode channelId tokens <;>
      rw [one, two] at lengths
    · exact .inl rfl
    · exact .inr lengths
    · exact .inr lengths.symm
    · exact .inl rfl
  · rintro (same | none)
    · rw [search_eq named, search_eq named]
      refine upToTies_of_perm (((results_perm consistent).trans ?_).trans (results_perm consistentToo).symm)
      rw [same]
      split
      · exact .refl _
      · exact found.map _
    · have empty : first.search runtime rawQuery (some channelId) limit = [] := by
        refine List.eq_nil_of_length_eq_zero (counted.trans ?_)
        rw [none, ite_self]
      have emptyToo : second.search runtime rawQuery (some channelId) limit = [] := by
        refine List.eq_nil_of_length_eq_zero (countedToo.trans ?_)
        rw [← found.length_eq, none, ite_self]
      rw [empty, emptyToo]
      exact ⟨[], [], .refl _, .nil, .nil, (slice_nil _).symm, (slice_nil _).symm⟩

end Order

end LocalSearchIndex

end Search

/-! ## A word of another channel -/

namespace LocalSearchIndex

def Sample.runtime : SearchRuntime Nat := ⟨.ascii, fun _ => none, fun matched _ => matched⟩

def Sample.budget : IndexedDocument := Sample.doc "m1" "work" "The budget"

/-- Another channel gets a message. -/
def Sample.told (text : String) : List IndexOperation :=
  [.addDocument Sample.budget, .addDocument (Sample.doc "m2" "chat" text)]

theorem Sample.alike (text : String) :
    AlikeInside (run .ascii [.addDocument Sample.budget]) (run .ascii (Sample.told text)) (js "work") := by
  have alone : (run .ascii [.addDocument Sample.budget]).docs.entries = [(js "m1", Sample.budget)] := rfl
  have both : (run .ascii (Sample.told text)).docs.entries =
      [(js "m1", Sample.budget), (js "m2", Sample.doc "m2" "chat" text)] := rfl
  intro doc inside
  rw [← mem_documents (consistent_run _), ← mem_documents (consistent_run _), alone, both]
  constructor
  · exact fun member => mem_cons.mpr (.inl (mem_singleton.mp member))
  · intro member
    rcases mem_cons.mp member with first | second
    · exact mem_singleton.mpr first
    · rw [mem_singleton.mp second] at inside
      have other : js "chat" ≠ js "work" := by decide
      exact absurd inside other

/-- "bud" finds the message about the budget, until someone writes "bud" in another channel. -/
theorem budget_hidden :
    AlikeInside (run .ascii [.addDocument Sample.budget]) (run .ascii (Sample.told "bud")) (js "work") ∧
      ¬ UpToTies 40
        ((run .ascii [.addDocument Sample.budget]).search Sample.runtime (js "bud") (some (js "work")) none)
        ((run .ascii (Sample.told "bud")).search Sample.runtime (js "bud") (some (js "work")) none) := by
  refine ⟨Sample.alike "bud", fun ties => ?_⟩
  have one := length_search Sample.runtime (consistent_run [.addDocument Sample.budget])
    (by decide : js "work" ≠ []) (js "bud") none
  have none := length_search Sample.runtime (consistent_run (Sample.told "bud"))
    (by decide : js "work" ≠ []) (js "bud") none
  have lengths : 1 = 0 := one.symm.trans (ties.length_eq.trans none)
  cases lengths

theorem budget_found :
    UpToTies 40
        ((run .ascii [.addDocument Sample.budget]).search Sample.runtime (js "bud") (some (js "work")) none)
        ((run .ascii (Sample.told "lunch")).search Sample.runtime (js "bud") (some (js "work")) none) :=
  (search_alike_iff Sample.runtime [.addDocument Sample.budget] (Sample.told "lunch") (js "bud")
    (js "work") none (by decide) (Sample.alike "lunch")).mpr (.inl (by decide))

end LocalSearchIndex

end Vortex.Web
