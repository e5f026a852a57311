import Vortex.Foundation.Paging
import Vortex.Views.Privacy

/-!
# Pages of messages

A client opens a channel with its newest page and asks for older ones with the time of the
oldest message it has, as long as `has_more` is true. Times are not unique and a full last
page announces more, so that it ends up with every message exactly when the messages fill
no page to its end and none of one time lie on both sides of one (`complete_iff`).
-/

variable {rest : List DirectMessageRow} {oldest : DirectMessageRow}

namespace Vortex.Views

open Foundation Foundation.Paging List

/-- What the time of a message is compared by. -/
def DirectMessageRow.sentAt (row : DirectMessageRow) : List Nat := binary row.createdAt

/-- The messages of a channel that are not deleted. -/
def liveMessages (database : Database) (channelId : JsString) : List DirectMessageRow :=
  database.messages.rows.filter fun row => row.dmChannelId = some channelId && row.deletedAt.isNone

/-- `before`, unless it is empty. -/
def cursor? (before : Option JsString) : Option (List Nat) :=
  (before.filter fun text => !text.isEmpty).map binary

/-- What a client shows of a channel, the oldest message first. -/
structure Conversation where
  messages : List DirectMessageRow
  hasMore : Bool

section Client

variable (engine : Engine) (database : Database) (channelId : JsString)

/-- `loadMessages(before)`. -/
def loadMessages (before : Option JsString) (shown : Conversation) : Conversation :=
  let page := rawMessages engine database channelId before
  { messages := match before with
      | none | some [] => page.reverse
      | some _ => page.reverse ++ shown.messages
    hasMore := page.length = pageSize }

/-- `loadMore()`. -/
def loadMore (shown : Conversation) : Conversation :=
  match shown.messages with
  | [] => shown
  | oldest :: _ => loadMessages engine database channelId (some oldest.createdAt) shown

/-- What is shown after the first page and so many requests for older ones. -/
def conversation : Nat → Conversation
  | 0 => loadMessages engine database channelId none ⟨[], false⟩
  | requests + 1 =>
      let shown := conversation requests
      if shown.hasMore then loadMore engine database channelId shown else shown

/-- The client ends up with every message once, and is told that there is more exactly while
there is. -/
structure Complete : Prop where
  ends : ∃ requests, (conversation engine database channelId requests).hasMore = false ∧
    (conversation engine database channelId requests).messages.Perm
      (liveMessages database channelId)
  exact : ∀ requests, (conversation engine database channelId requests).hasMore = false ↔
    ∀ row ∈ liveMessages database channelId,
      row ∈ (conversation engine database channelId requests).messages

/-- The last page is not full, and no messages of one time lie on both sides of a page's end. -/
def PagesApart : Prop :=
  (liveMessages database channelId = [] ∨
    (liveMessages database channelId).length % pageSize ≠ 0) ∧
  ∀ time, ¬ Straddles DirectMessageRow.sentAt pageSize (liveMessages database channelId) time

end Client

section Pages

variable {engine : Engine} {database : Database} {channelId : JsString}
  {before : Option JsString} {shown : Conversation} {requests : Nat}

theorem arranges_newest (engine : Engine) (rows : List DirectMessageRow) :
    Arranges DirectMessageRow.sentAt rows (engine.newest rows) :=
  ⟨(engine.orders rows).1, (engine.orders rows).2⟩

theorem rawMessages_eq : rawMessages engine database channelId before =
    (engine.newest (below DirectMessageRow.sentAt (cursor? before)
      (liveMessages database channelId))).take pageSize := by
  rw [rawMessages, below, liveMessages, filter_filter]
  congr 3
  funext row
  rw [Bool.and_comm]
  congr 1
  rcases before with _ | _ | ⟨_, _⟩
  · rfl
  · rfl
  · exact decide_eq_decide.mpr Iff.rfl

theorem cursor?_of_ne_nil {time : JsString} (given : time ≠ []) :
    cursor? (some time) = some (binary time) := by
  cases time with
  | nil => exact (given rfl).elim
  | cons => rfl

theorem nodup_liveMessages : (liveMessages database channelId).Nodup :=
  (List.Nodup.of_map _ database.messages.unique).filter _

/-- Asking before an empty time is opening the channel. -/
theorem loadMessages_nil : loadMessages engine database channelId (some []) shown =
    conversation engine database channelId 0 := rfl

variable (engine database channelId shown) in
theorem messages_loadMessages {time : JsString} (given : time ≠ []) :
    (loadMessages engine database channelId (some time) shown).messages =
      (rawMessages engine database channelId (some time)).reverse ++ shown.messages := by
  cases time with
  | nil => exact (given rfl).elim
  | cons => rfl

theorem hasMore_loadMessages :
    (loadMessages engine database channelId before shown).hasMore = true ↔
      (rawMessages engine database channelId before).length = pageSize := by
  simp [loadMessages]

theorem conversation_succ (more : (conversation engine database channelId requests).hasMore = true)
    (listed : (conversation engine database channelId requests).messages = oldest :: rest) :
    conversation engine database channelId (requests + 1) =
      loadMessages engine database channelId (some oldest.createdAt)
        (conversation engine database channelId requests) := by
  rw [conversation, if_pos more, loadMore, listed]

theorem conversation_done
    (done : (conversation engine database channelId requests).hasMore = false) (further : Nat) :
    conversation engine database channelId (requests + further) =
      conversation engine database channelId requests := by
  induction further with
  | zero => rfl
  | succ further ih =>
    rw [← Nat.add_assoc, conversation, ih, if_neg (by rw [done]; exact Bool.false_ne_true)]

variable (engine database channelId) in
/-- The messages shown are in the order of their times. -/
theorem rising (requests : Nat) :
    (conversation engine database channelId requests).messages.Pairwise
    fun first second => first.sentAt ≤ second.sentAt := by
  have page (before : Option JsString) :
      (rawMessages engine database channelId before).reverse.Pairwise
        fun first second => first.sentAt ≤ second.sentAt := by
    rw [rawMessages_eq, pairwise_reverse]
    exact (arranges_newest ..).falling.sublist (take_sublist ..)
  induction requests with
  | zero => exact page none
  | succ requests ih =>
    rw [conversation]
    split
    · cases listed : (conversation engine database channelId requests).messages with
      | nil =>
        rw [loadMore, listed]
        exact ih
      | cons oldest rest =>
        rw [loadMore, listed]
        dsimp only
        rcases eq_or_ne oldest.createdAt [] with empty | given
        · rw [empty, loadMessages_nil]
          exact page none
        rw [messages_loadMessages _ _ _ _ given]
        refine pairwise_append.mpr ⟨page _, ih, fun first one second two => ?_⟩
        rw [rawMessages_eq, mem_reverse] at one
        have beneath := ((arranges_newest ..).perm.mem_iff.mp (mem_of_mem_take one))
        have lower : first.sentAt < oldest.sentAt :=
          (mem_below.mp beneath).2 _ (cursor?_of_ne_nil given)
        rw [listed, pairwise_cons] at ih
        rw [listed] at two
        rcases mem_cons.mp two with rfl | later
        · exact lower.le
        · exact lower.le.trans (ih.1 second later)
    · exact ih

/-- The oldest message shown has the least time. -/
theorem oldest_le
    (listed : (conversation engine database channelId requests).messages = oldest :: rest) :
    ∀ row ∈ (conversation engine database channelId requests).messages,
      oldest.sentAt ≤ row.sentAt := by
  have rising := rising engine database channelId requests
  rw [listed] at rising ⊢
  intro row member
  rcases mem_cons.mp member with rfl | later
  · exact le_rfl
  · exact (pairwise_cons.mp rising).1 row later

end Pages

/-! ## Pages without ties -/

/-- What the client has after some requests, and what is left for it below its oldest message. -/
structure Reading (engine : Engine) (database : Database) (channelId : JsString)
    (requests : Nat) : Prop where
  done : (conversation engine database channelId requests).hasMore = false →
    (conversation engine database channelId requests).messages.Perm
      (liveMessages database channelId)
  length : (conversation engine database channelId requests).hasMore = true →
    (conversation engine database channelId requests).messages.length = pageSize * (requests + 1)
  split : (conversation engine database channelId requests).hasMore = true →
    ∃ oldest rest, (conversation engine database channelId requests).messages = oldest :: rest ∧
      ((conversation engine database channelId requests).messages ++
        below DirectMessageRow.sentAt (some oldest.sentAt) (liveMessages database channelId)).Perm
          (liveMessages database channelId)

section Reads

variable {engine : Engine} {database : Database} {channelId : JsString}
  {before : Option JsString} {requests : Nat}

section

variable (apart : PagesApart database channelId)

include apart

variable (engine before) in
/-- One more page, which is full or all that is left. -/
theorem read_page {early : List DirectMessageRow}
    {pages : Nat} (split : (early ++ below DirectMessageRow.sentAt (cursor? before)
      (liveMessages database channelId)).Perm (liveMessages database channelId))
    (above : ∀ row ∈ early, ∀ bound ∈ cursor? before, bound ≤ row.sentAt)
    (read : early.length = pageSize * pages) :
    ((rawMessages engine database channelId before).length ≠ pageSize →
      ((rawMessages engine database channelId before).reverse ++ early).Perm
        (liveMessages database channelId)) ∧
    ((rawMessages engine database channelId before).length = pageSize → ∃ oldest rest,
      (rawMessages engine database channelId before).reverse ++ early = oldest :: rest ∧
      ((rawMessages engine database channelId before).reverse ++ early ++
        below DirectMessageRow.sentAt (some oldest.sentAt) (liveMessages database channelId)).Perm
          (liveMessages database channelId)) := by
  rw [rawMessages_eq]
  generalize left : engine.newest (below DirectMessageRow.sentAt (cursor? before)
    (liveMessages database channelId)) = arranged
  have arranges := arranges_newest engine
    (below DirectMessageRow.sentAt (cursor? before) (liveMessages database channelId))
  rw [left] at arranges
  constructor
  · intro short
    rw [length_take] at short
    rw [take_of_length_le (by omega)]
    have turned : (arranged.reverse ++ early).Perm (early ++ arranged) :=
      ((reverse_perm arranged).append_right early).trans perm_append_comm
    exact turned.trans ((arranges.perm.append_left early).trans split)
  · intro full
    cases ends : (arranged.take pageSize).getLast? with
    | none =>
      rw [getLast?_eq_none_iff.mp ends] at full
      cases full
    | some last =>
      obtain ⟨front, cut⟩ := getLast?_eq_some_iff.mp ends
      refine ⟨last, front.reverse ++ early, by rw [cut, reverse_concat, cons_append], ?_⟩
      have lower := apart_of_not_straddles split above read arranges full ends (apart.2 _)
      have rest := arranges.perm_below_last ends lower
      have turned : ((arranged.take pageSize).reverse ++ early).Perm
          (early ++ arranged.take pageSize) :=
        ((reverse_perm _).append_right early).trans perm_append_comm
      refine (turned.append rest.symm).trans ?_
      rw [append_assoc, take_append_drop]
      exact (arranges.perm.append_left early).trans split

/-- Something is left below the oldest message as long as there is more. -/
theorem exists_left (more : (conversation engine database channelId requests).hasMore = true)
    (reading : Reading engine database channelId requests) :
    ∃ row ∈ liveMessages database channelId,
      row ∉ (conversation engine database channelId requests).messages := by
  by_contra all
  push Not at all
  obtain ⟨oldest, rest, -, split⟩ := reading.split more
  have length := reading.length more
  have total := split.length_eq
  have covered : (liveMessages database channelId).length ≤
      (conversation engine database channelId requests).messages.length :=
    (subperm_of_subset nodup_liveMessages all).length_le
  rw [length_append] at total
  have exact : (liveMessages database channelId).length = pageSize * (requests + 1) := by omega
  rcases apart.1 with empty | ragged
  · rw [empty, length_nil, pageSize] at exact
    omega
  · rw [exact, Nat.mul_mod_right] at ragged
    exact ragged rfl

variable (engine) in
theorem Reading.of_apart (requests : Nat) : Reading engine database channelId requests := by
  induction requests with
  | zero =>
    have whole : ([] ++ below DirectMessageRow.sentAt (cursor? none)
        (liveMessages database channelId)).Perm (liveMessages database channelId) := by
      rw [nil_append]
      exact .of_eq below_none
    have page := read_page engine none apart whole (fun _ none => (not_mem_nil none).elim)
      (Nat.mul_zero pageSize).symm
    rw [append_nil] at page
    have counted : (conversation engine database channelId 0).hasMore = true ↔
        (rawMessages engine database channelId none).length = pageSize := hasMore_loadMessages
    refine ⟨fun done => page.1 fun full => ?_, fun more => ?_, fun more => ?_⟩
    · rw [counted.mpr full] at done
      cases done
    · exact (length_reverse ..).trans (counted.mp more)
    · exact page.2 (counted.mp more)
  | succ requests ih =>
    cases more : (conversation engine database channelId requests).hasMore with
    | false =>
      rw [Bool.eq_false_iff] at more
      have same : conversation engine database channelId (requests + 1) =
          conversation engine database channelId requests := by
        rw [conversation, if_neg more]
      constructor
      · rw [same]
        exact ih.done
      · rw [same]
        exact fun goes => (more goes).elim
      · rw [same]
        exact fun goes => (more goes).elim
    | true =>
      obtain ⟨oldest, rest, listed, split⟩ := ih.split more
      have given : oldest.createdAt ≠ [] := by
        intro empty
        obtain ⟨row, live, missing⟩ := exists_left apart more ih
        rcases mem_append.mp (split.mem_iff.mpr live) with shown | left
        · exact missing shown
        · have lower := (mem_below.mp left).2 _ rfl
          rw [show oldest.sentAt = [] from congrArg binary empty] at lower
          exact not_lt_nil _ lower
      have next := conversation_succ more listed
      have messages := messages_loadMessages engine database channelId
        (conversation engine database channelId requests) given
      rw [← next] at messages
      have counted : (conversation engine database channelId (requests + 1)).hasMore = true ↔
          (rawMessages engine database channelId (some oldest.createdAt)).length = pageSize := by
        rw [next]
        exact hasMore_loadMessages
      have page := read_page engine (some oldest.createdAt) apart
        (by rw [cursor?_of_ne_nil given]; exact split)
        (by
          intro row member bound named
          rw [cursor?_of_ne_nil given] at named
          obtain rfl := Option.mem_some_iff.mp named
          exact oldest_le listed row member)
        (ih.length more)
      rw [← messages] at page
      refine ⟨fun done => page.1 fun full => ?_, fun goes => ?_, fun goes => ?_⟩
      · rw [counted.mpr full] at done
        cases done
      · rw [messages, length_append, length_reverse, counted.mp goes, ih.length more,
          Nat.mul_succ _ (requests + 1), Nat.add_comm]
      · exact page.2 (counted.mp goes)

theorem complete_of_apart : Complete engine database channelId := by
  have exact (requests : Nat) : (conversation engine database channelId requests).hasMore = false ↔
      ∀ row ∈ liveMessages database channelId,
        row ∈ (conversation engine database channelId requests).messages := by
    constructor
    · intro done row live
      exact ((Reading.of_apart engine apart requests).done done).mem_iff.mpr live
    · intro all
      by_contra more
      rw [Bool.not_eq_false] at more
      obtain ⟨row, live, missing⟩ := exists_left apart more (.of_apart engine apart requests)
      exact missing (all row live)
  -- after enough full pages nothing can be left
  let requests := (liveMessages database channelId).length
  have done : (conversation engine database channelId requests).hasMore = false := by
    by_contra more
    rw [Bool.not_eq_false] at more
    have reading := Reading.of_apart engine apart requests
    obtain ⟨oldest, rest, -, split⟩ := reading.split more
    have total := split.length_eq
    rw [length_append, reading.length more, pageSize] at total
    omega
  exact ⟨⟨requests, done, (Reading.of_apart engine apart requests).done done⟩, exact⟩

end

end Reads

/-! ## Pages that end up complete -/

/-- The client has every message after so many requests, and not before. -/
structure CoversFirst (engine : Engine) (database : Database) (channelId : JsString)
    (requests : Nat) : Prop where
  covers : ∀ row ∈ liveMessages database channelId,
    row ∈ (conversation engine database channelId requests).messages
  earlier : ∀ fewer < requests, ¬ ∀ row ∈ liveMessages database channelId,
    row ∈ (conversation engine database channelId fewer).messages

section Converse

variable {engine : Engine} {database : Database} {channelId : JsString} {requests fewer : Nat}

theorem messages_ne_nil (more : (conversation engine database channelId requests).hasMore = true) :
    (conversation engine database channelId requests).messages ≠ [] := by
  induction requests with
  | zero =>
    intro empty
    have full := hasMore_loadMessages.mp more
    rw [← length_reverse] at full
    change (conversation engine database channelId 0).messages.length = pageSize at full
    rw [empty] at full
    cases full
  | succ requests ih =>
    rw [conversation] at more ⊢
    split at more
    · rename_i goes
      rw [if_pos goes]
      cases listed : (conversation engine database channelId requests).messages with
      | nil => exact (ih goes listed).elim
      | cons oldest rest =>
        rw [loadMore, listed] at more ⊢
        dsimp only at more ⊢
        have full := hasMore_loadMessages.mp more
        intro empty
        unfold loadMessages at empty
        dsimp only at empty
        split at empty
        · cases (reverse_eq_nil_iff.mp empty) ▸ full
        · cases (reverse_eq_nil_iff.mp empty) ▸ full
        · cases (reverse_eq_nil_iff.mp (append_eq_nil_iff.mp empty).1) ▸ full
    · rename_i ended
      exact (ended more).elim

/-- A client that opens the channel again starts anew. -/
theorem conversation_restart (again : conversation engine database channelId requests =
      conversation engine database channelId 0) (further : Nat) :
    conversation engine database channelId (requests + further) =
      conversation engine database channelId further := by
  induction further with
  | zero => exact again
  | succ further ih => rw [← Nat.add_assoc, conversation, ih, conversation]

namespace CoversFirst

variable (complete : Complete engine database channelId)
  (first : CoversFirst engine database channelId requests)
include complete first

theorem more (fewer_lt : fewer < requests) :
    (conversation engine database channelId fewer).hasMore = true := by
  rw [← Bool.not_eq_false, complete.exact]
  exact first.earlier fewer fewer_lt

/-- Each request up to the last one puts a page before what is shown. -/
theorem grown (fewer_lt : fewer < requests) : ∃ oldest rest,
    (conversation engine database channelId fewer).messages = oldest :: rest ∧
      (∀ row ∈ rawMessages engine database channelId (some oldest.createdAt),
        row.sentAt < oldest.sentAt) ∧
      (conversation engine database channelId (fewer + 1)).messages =
        (rawMessages engine database channelId (some oldest.createdAt)).reverse ++
          (conversation engine database channelId fewer).messages ∧
      ((conversation engine database channelId (fewer + 1)).hasMore = true ↔
        (rawMessages engine database channelId (some oldest.createdAt)).length = pageSize) := by
  have more := first.more complete fewer_lt
  obtain ⟨oldest, rest, listed⟩ := exists_cons_of_ne_nil (messages_ne_nil more)
  have next := conversation_succ more listed
  have given : oldest.createdAt ≠ [] := by
    intro empty
    rw [empty, loadMessages_nil] at next
    have same := conversation_restart next (requests - (fewer + 1))
    rw [Nat.add_sub_cancel' fewer_lt] at same
    refine first.earlier (requests - (fewer + 1)) (by omega) ?_
    rw [← same]
    exact first.covers
  refine ⟨oldest, rest, listed, fun row paged => ?_, ?_, ?_⟩
  · rw [rawMessages_eq] at paged
    have beneath := (arranges_newest ..).perm.mem_iff.mp (mem_of_mem_take paged)
    exact (mem_below.mp beneath).2 _ (cursor?_of_ne_nil given)
  · rw [next]
    exact messages_loadMessages _ _ _ _ given
  · rw [next]
    exact hasMore_loadMessages

theorem length_fewer (fewer_lt : fewer < requests) :
    (conversation engine database channelId fewer).messages.length = pageSize * (fewer + 1) := by
  induction fewer with
  | zero =>
    exact (length_reverse ..).trans (hasMore_loadMessages.mp (first.more complete fewer_lt))
  | succ fewer ih =>
    obtain ⟨oldest, rest, -, -, messages, full⟩ :=
      first.grown complete (Nat.lt_of_succ_lt fewer_lt)
    rw [messages, length_append, length_reverse,
      full.mp (first.more complete fewer_lt), ih (Nat.lt_of_succ_lt fewer_lt),
      Nat.mul_succ _ (fewer + 1), Nat.add_comm]

/-- What is loaded later lies below what was shown. -/
theorem later (listed : (conversation engine database channelId fewer).messages = oldest :: rest)
    (further : Nat) (within : fewer + further ≤ requests) : ∃ late,
      (conversation engine database channelId (fewer + further)).messages =
        late ++ (conversation engine database channelId fewer).messages ∧
      ∀ row ∈ late, row.sentAt < oldest.sentAt := by
  induction further with
  | zero => exact ⟨[], rfl, fun _ none => (not_mem_nil none).elim⟩
  | succ further ih =>
    obtain ⟨late, shown, beneath⟩ := ih (Nat.le_of_succ_le within)
    have inside : fewer + further < requests := within
    obtain ⟨next, others, listedNext, lower, messages, -⟩ := first.grown complete inside
    refine ⟨(rawMessages engine database channelId (some next.createdAt)).reverse ++ late, ?_, ?_⟩
    · rw [← Nat.add_assoc, messages, shown, append_assoc]
    · intro row member
      rcases mem_append.mp member with page | early
      · refine (lower row (mem_reverse.mp page)).trans_le (oldest_le listedNext oldest ?_)
        rw [shown, listed]
        exact mem_append_right _ mem_cons_self
      · exact beneath row early

theorem perm : (conversation engine database channelId requests).messages.Perm
    (liveMessages database channelId) := by
  obtain ⟨last, done, perm⟩ := complete.ends
  have ended := (complete.exact requests).mpr first.covers
  have reached : requests ≤ last := by
    by_contra fewer_lt
    exact first.earlier last (not_le.mp fewer_lt) fun row live => perm.mem_iff.mpr live
  rwa [← Nat.add_sub_cancel' reached, conversation_done ended] at perm

/-- The last page is not full, and empty only in an empty channel. -/
theorem length_live : ∃ rest < pageSize, (rest = 0 → requests = 0) ∧
    (liveMessages database channelId).length = pageSize * requests + rest := by
  have ended := (complete.exact requests).mpr first.covers
  rw [← (first.perm complete).length_eq]
  cases requests with
  | zero =>
    have short : (rawMessages engine database channelId none).length ≠ pageSize := by
      intro full
      cases ended.symm.trans (hasMore_loadMessages.mpr full)
    have most : (rawMessages engine database channelId none).length ≤ pageSize := by
      rw [rawMessages_eq]
      exact length_take_le ..
    refine ⟨_, lt_of_le_of_ne most short, fun _ => rfl, ?_⟩
    rw [Nat.mul_zero, Nat.zero_add]
    exact length_reverse ..
  | succ requests =>
    obtain ⟨oldest, rest, -, -, messages, full⟩ := first.grown complete (Nat.lt_succ_self _)
    have short : (rawMessages engine database channelId (some oldest.createdAt)).length ≠
        pageSize := by
      intro all
      cases ended.symm.trans (full.mpr all)
    have most : (rawMessages engine database channelId (some oldest.createdAt)).length ≤
        pageSize := by
      rw [rawMessages_eq]
      exact length_take_le ..
    refine ⟨_, lt_of_le_of_ne most short, fun empty => ?_, ?_⟩
    · -- an empty last page would have brought nothing
      rw [length_eq_zero_iff.mp empty, reverse_nil, nil_append] at messages
      refine (first.earlier requests (Nat.lt_succ_self _) ?_).elim
      rw [← messages]
      exact first.covers
    · rw [messages, length_append, length_reverse,
        first.length_fewer complete (Nat.lt_succ_self _), Nat.add_comm]

theorem pagesApart : PagesApart database channelId := by
  obtain ⟨rest, short, none, length⟩ := first.length_live complete
  constructor
  · rcases Nat.eq_zero_or_pos rest with empty | some
    · refine .inl (length_eq_zero_iff.mp ?_)
      rw [length, none empty, empty, Nat.mul_zero]
    · right
      rw [length, Nat.mul_add_mod, Nat.mod_eq_of_lt short]
      exact some.ne'
  · rintro time ⟨pages, few, many⟩
    cases pages with
    | zero => exact (Nat.not_lt_zero _ few).elim
    | succ fewer =>
      have within : fewer < requests := by
        have most := countP_le_length (p := fun row => decide (time ≤ row.sentAt))
          (l := liveMessages database channelId)
        have pages : pageSize * (fewer + 1) < pageSize * (requests + 1) := by
          rw [Nat.mul_succ pageSize requests]
          omega
        exact Nat.lt_of_succ_lt_succ (Nat.lt_of_mul_lt_mul_left pages)
      obtain ⟨oldest, others, listed, -⟩ := first.grown complete within
      obtain ⟨late, shown, beneath⟩ := first.later complete listed (requests - fewer) (by omega)
      rw [Nat.add_sub_cancel' within.le] at shown
      have parts := first.perm complete
      rw [shown] at parts
      exact not_straddles_of_split parts (first.length_fewer complete within) (oldest_le listed)
        beneath time ⟨few, many⟩

end CoversFirst

theorem apart_of_complete (complete : Complete engine database channelId) :
    PagesApart database channelId := by
  classical
  have covered : ∃ requests, ∀ row ∈ liveMessages database channelId,
      row ∈ (conversation engine database channelId requests).messages := by
    obtain ⟨requests, -, perm⟩ := complete.ends
    exact ⟨requests, fun row live => perm.mem_iff.mpr live⟩
  exact CoversFirst.pagesApart complete
    ⟨Nat.find_spec covered, fun _ fewer_lt => Nat.find_min covered fewer_lt⟩

end Converse

/-- The client ends up with every message exactly once, and is told rightly whether there is
more, exactly when the messages fill no last page and none of one time lie on both sides of
a page's end. -/
theorem complete_iff (engine : Engine) (database : Database) (channelId : JsString) :
    Complete engine database channelId ↔ PagesApart database channelId :=
  ⟨apart_of_complete, complete_of_apart⟩

namespace PageSample

def message (number : Nat) : DirectMessageRow where
  id := List.replicate number 97
  dmChannelId := some (js "group")
  senderId := js "ana"
  content := none
  editedAt := none
  deletedAt := none
  createdAt := List.replicate number 97
  replyToId := none

/-- A channel with exactly as many messages as fit on a page. -/
def database : Database where
  users := .empty
  friendships := .empty
  channels := .empty
  members := [⟨js "group", js "ana"⟩]
  messages := ⟨(List.range pageSize).map message, by
    rw [List.map_map]
    exact List.nodup_range.map fun first second same => by
      simpa [message] using congrArg List.length same⟩
  readStates := []
  attachments := []
  reactions := []

theorem liveMessages_eq : liveMessages database (js "group") = database.messages.rows := by
  refine filter_eq_self.mpr fun row stored => ?_
  obtain ⟨number, -, rfl⟩ := mem_map.mp stored
  rfl

theorem length_newest : (plainEngine.newest (liveMessages database (js "group"))).length =
    pageSize := by
  rw [(plainEngine.orders _).1.length_eq, liveMessages_eq]
  exact length_map .. |>.trans length_range

end PageSample

/-- With the last page full the client is told of more where nothing is left. -/
theorem full_page_incomplete : ¬ Complete plainEngine PageSample.database (js "group") := by
  intro complete
  have page : rawMessages plainEngine PageSample.database (js "group") none =
      plainEngine.newest (liveMessages PageSample.database (js "group")) := by
    rw [rawMessages_eq]
    change List.take pageSize (plainEngine.newest (below _ none _)) = _
    rw [below_none]
    exact List.take_of_length_le PageSample.length_newest.le
  have more : (conversation plainEngine PageSample.database (js "group") 0).hasMore = true :=
    hasMore_loadMessages.mpr (by rw [page, PageSample.length_newest])
  refine absurd ((complete.exact 0).mpr fun row live => ?_) (by rw [more]; exact Bool.noConfusion)
  change row ∈ (rawMessages plainEngine PageSample.database (js "group") none).reverse
  rw [page, List.mem_reverse, (plainEngine.orders _).1.mem_iff]
  exact live

end Vortex.Views
