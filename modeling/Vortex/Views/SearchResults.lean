import Vortex.Foundation.Fts5
import Vortex.Views.Search

/-!
# What a search finds

The statements of `GET /api/search` on SQLite: the conditions on a row, the operand of
`MATCH` as FTS5 reads it, and the limit. What a member is shown is of the channel and within
the filters, and nobody's whom a block separates from the member. It is at most a hundred
messages, and the operand is a conjunction of the words of the query, exactly when the limit
is not negative or little is found, and no word holds a zero (`searchSound_iff`).
-/

variable {query value name text rest : JsString}

namespace Vortex.Views

open Foundation
open Vortex.Gateway (isWhiteSpace trim)

/-! ## Statements -/

/-- `LIKE '%first%second%'`, where texts are given in small letters. -/
def like : List JsString → JsString → Bool
  | [], _ => true
  | part :: parts, text =>
      match text.tails.find? (startsWith part) with
      | none => false
      | some rest => like parts (rest.drop part.length)

def FileKind.patterns : FileKind → List (List JsString)
  | .link => [[js "http"]]
  | .image => [js ".png", js ".jpg", js ".jpeg", js ".gif", js ".webp"].map fun ending =>
      [js "http", ending]
  | .file => [js ".pdf", js ".docx", js ".xlsx", js ".zip", js ".mp3", js ".mp4"].map ([·])

/-- Whether a row satisfies a condition. A comparison with null does not hold. -/
def SearchCondition.holds (row : DirectMessageRow) : SearchCondition → Bool
  | .channel id => row.dmChannelId = some id
  | .notDeleted => row.deletedAt.isNone
  | .sender id => row.senderId = id
  | .before time => binary row.createdAt < binary time
  | .after time => binary time < binary row.createdAt
  | .has kind => row.content.any fun content => kind.patterns.any (like · content)

/-- The strings of an expression that is nothing else but strings, all of which have to match. -/
def literals? : List Fts5.Token → Option (List JsString)
  | [] => some []
  | .literal value :: rest => (literals? rest).map (value :: ·)
  | _ :: _ => none

/-- What the statements leave to SQLite: which rows match, the order of the rows, and dates. -/
structure Sqlite where
  /-- Whether a message contains each of some strings. -/
  matched : List JsString → DirectMessageRow → Bool
  /-- Any other expression, or the error it raises. -/
  expression : List Fts5.Token → Except JsString (DirectMessageRow → Bool)
  /-- The order by rank with an operand, and by time without. -/
  ordered : Option JsString → List DirectMessageRow → List DirectMessageRow
  orders : ∀ operand rows, (ordered operand rows).Perm rows
  date : JsString → Option JsString

namespace Sqlite

variable (sqlite : Sqlite)

/-- The rows that match an operand. -/
def test (operand : JsString) : Except JsString (DirectMessageRow → Bool) :=
  match Fts5.tokens operand with
  | .error .unterminated => .error (js "unterminated string")
  | .error (.syntaxError near) => .error (js "fts5: syntax error near \"" ++ [near] ++ js "\"")
  | .ok tokens =>
      match literals? tokens with
      | some values => .ok (sqlite.matched values)
      | none => sqlite.expression tokens

/-- How many rows a limit lets through. A negative one lets all through. A number that is no
integer of 64 bits is an error, and so is `NaN`, which is bound as null. -/
def rowLimit : Option Int → Except JsString (Option Nat)
  | none => .error (js "datatype mismatch")
  | some (.ofNat limit) => .ok (some limit)
  | some (.negSucc less) =>
      match JsString.natural? (.ofScientific (less + 1) 0) with
      | none => .error (js "datatype mismatch")
      | some size => if size ≤ 2 ^ 63 then .ok none else .error (js "datatype mismatch")

def matching : Option JsString → Except JsString (DirectMessageRow → Bool)
  | none => .ok fun _ => true
  | some operand => sqlite.test operand

def run (statement : SearchStatement) (rows : List DirectMessageRow) :
    Except JsString (List DirectMessageRow) := do
  let limit ← rowLimit statement.limit
  let test ← sqlite.matching statement.operand
  let found := sqlite.ordered statement.operand (rows.filter fun row =>
    test row && statement.conditions.all (·.holds row))
  return match limit with
    | none => found
    | some limit => found.take limit

def engine : SearchEngine := ⟨sqlite.run, sqlite.date⟩

end Sqlite

/-! ## Searches -/

/-- `Math.min(parseInt(limit ?? "25", 10), 100)` -/
def searchLimit (limit : Option JsString) : Option Int :=
  (parseInt (limit.getD (js "25"))).map (min · 100)

def isVisible (database : Database) (viewer : JsString) (row : DirectMessageRow) : Bool :=
  row.senderId.isEmpty || !(blockedUserIds database viewer).contains row.senderId

/-- The messages a search shows, or the answer it stops with. -/
def foundRows (engine : SearchEngine) (fails : Query → Bool) (database : Database)
    (viewer : JsString) (request : SearchRequest) : Except Answer (List DirectMessageRow) :=
  let rawQuery := trim (request.q.getD [])
  if !request.allowed then .error (.error 429 "Rate limited")
  else if rawQuery.isEmpty then .error (.error 400 "q required")
  else if 500 < rawQuery.length then .error (.error 400 "Query too long (max 500 chars)")
  else
    match request.dmChannelId.filter fun id => !id.isEmpty with
    | none => .error (.error 400 "dmChannelId required")
    | some dmChannelId =>
        let (query, filters) := parseSearchQuery engine.date rawQuery
        if fails .memberships then .error internalError
        else if !database.isMember dmChannelId viewer then .error (.error 403 "Forbidden")
        else
          match engine.run ⟨if query.isEmpty then none else some (toFtsMatchQuery query),
              conditions dmChannelId filters, searchLimit request.limit⟩ database.messages.rows with
          | .error message =>
              .error (if mentionsFts5 message then .error 400 "Invalid search query" else internalError)
          | .ok dmMessages =>
              if !dmMessages.isEmpty && fails .users then .error internalError
              else if fails .friendships then .error internalError
              else .ok (dmMessages.filter (isVisible database viewer))

def respond (database : Database) : Except Answer (List DirectMessageRow) → Answer
  | .error answer => answer
  | .ok rows =>
      let results := rows.map (resultJson database)
      ⟨200, .obj [(js "results", .arr results), (js "total", .num (js (toString results.length)))]⟩

/-- A search answers the messages it has found. -/
theorem search_eq (engine : SearchEngine) (fails : Query → Bool) (database : Database)
    (viewer : JsString) (request : SearchRequest) :
    search engine fails database viewer request =
      respond database (foundRows engine fails database viewer request) := by
  unfold search foundRows searchLimit
  dsimp only
  cases request.dmChannelId.filter fun id => !id.isEmpty with
  | none =>
    dsimp only
    split_ifs <;> rfl
  | some dmChannelId =>
    dsimp only
    generalize parseSearchQuery engine.date (trim (request.q.getD [])) = parsed
    generalize (parseInt (request.limit.getD (js "25"))).map (min · 100) = limit
    cases engine.run ⟨if parsed.1.isEmpty then none else some (toFtsMatchQuery parsed.1),
        conditions dmChannelId parsed.2, limit⟩ database.messages.rows with
    | error message =>
      dsimp only
      split_ifs <;> rfl
    | ok dmMessages =>
      dsimp only
      split_ifs <;> rfl

/-! ## What is found -/

/-- A block between two users, whoever made it. -/
def Blocked (database : Database) (viewer other : JsString) : Prop :=
  ∃ row ∈ database.friendships.rows, row.status = .blocked ∧
    (row.requesterId = viewer ∧ row.addresseeId = other ∨
      row.requesterId = other ∧ row.addresseeId = viewer)

/-- A message that may be shown: of the channel, not deleted, within the filters, and not of
somebody whom a block separates from the viewer. -/
structure Fits (database : Database) (viewer dmChannelId : JsString) (filters : SearchFilters)
    (row : DirectMessageRow) : Prop where
  stored : row ∈ database.messages.rows
  live : row.deletedAt = none
  channel : row.dmChannelId = some dmChannelId
  sender : ∀ id ∈ filters.fromUserId, row.senderId = id
  before : ∀ time ∈ filters.before, binary row.createdAt < binary time
  after : ∀ time ∈ filters.after, binary time < binary row.createdAt
  unblocked : ¬ Blocked database viewer row.senderId

/-- A request of a member that passes the checks before the statement. -/
structure SearchRequest.Accepted (request : SearchRequest) (database : Database)
    (viewer dmChannelId : JsString) : Prop where
  allowed : request.allowed = true
  given : trim (request.q.getD []) ≠ []
  short : (trim (request.q.getD [])).length ≤ 500
  channel : request.dmChannelId = some dmChannelId
  named : dmChannelId ≠ []
  member : database.isMember dmChannelId viewer = true

section Found

variable (sqlite : Sqlite) (database : Database) (viewer dmChannelId : JsString)
  (request : SearchRequest)

/-- What is left of the query without its operators, and the filters these set. -/
def parsedQuery : JsString × SearchFilters :=
  parseSearchQuery sqlite.date (trim (request.q.getD []))

/-- The messages a search would show without a limit. -/
def candidates : List DirectMessageRow :=
  let (query, filters) := parsedQuery sqlite request
  (database.messages.rows.filter fun row =>
    (query.isEmpty || sqlite.matched (words query) row) &&
      (conditions dmChannelId filters).all (·.holds row)).filter (isVisible database viewer)

/-- At most a hundred messages are shown, all of them fit, and the operand is read as the
words of the query. -/
structure SearchSound (fails : Query → Bool) : Prop where
  few : ∀ rows, foundRows sqlite.engine fails database viewer request = .ok rows →
    rows.length ≤ 100
  fits : ∀ rows, foundRows sqlite.engine fails database viewer request = .ok rows →
    ∀ row ∈ rows, Fits database viewer dmChannelId (parsedQuery sqlite request).2 row
  operand : Fts5.tokens (toFtsMatchQuery (parsedQuery sqlite request).1) =
    .ok ((words (parsedQuery sqlite request).1).map .literal)

end Found

section Sound

variable {sqlite : Sqlite} {database : Database} {viewer dmChannelId : JsString}
  {request : SearchRequest} {fails : Query → Bool}

/-- The words of a text hold no zero when the text holds none. -/
theorem wordsFrom_whole (word text : JsString) :
    (∀ other ∈ wordsFrom word text, 0 ∉ other) ↔ 0 ∉ word ∧ 0 ∉ text := by
  induction text generalizing word with
  | nil =>
    unfold wordsFrom
    split
    · rename_i empty
      rw [List.isEmpty_iff.mp empty]
      simp
    · simp
  | cons unit rest ih =>
    unfold wordsFrom
    split
    · rename_i space
      have different : (0 : UInt16) ≠ unit := by
        rintro rfl
        exact absurd space (by decide)
      have skipped : (0 ∉ unit :: rest) ↔ 0 ∉ rest := by simp [different]
      split
      · rename_i empty
        rw [ih, List.isEmpty_iff.mp empty, skipped]
      · rw [List.forall_mem_cons, ih, skipped]
        simp
    · rw [ih, List.mem_append, List.mem_cons, List.mem_cons]
      simp only [List.not_mem_nil, or_false]
      tauto

theorem literals?_map (values : List JsString) : literals? (values.map .literal) = some values := by
  induction values with
  | nil => rfl
  | cons value values ih =>
    rw [List.map_cons, literals?, ih]
    rfl

/-- The operand is read as its words exactly when the query holds no zero. -/
theorem operand_iff (query : JsString) :
    Fts5.tokens (toFtsMatchQuery query) = .ok ((words query).map .literal) ↔ 0 ∉ query := by
  have quoted : toFtsMatchQuery query = Fts5.quoteAll (words query) := rfl
  have whole : (∀ word ∈ words query, 0 ∉ word) ↔ 0 ∉ query := by
    rw [words, wordsFrom_whole]
    simp
  rw [quoted, Fts5.tokens_quoteAll, ← whole]
  split
  · rename_i every
    exact ⟨fun _ => every, fun _ => rfl⟩
  · rename_i some
    exact ⟨nofun, fun every => (some every).elim⟩

/-- Without a zero the rows that match are those that contain every word. -/
theorem matching_eq (whole : 0 ∉ query) :
    sqlite.matching (if query.isEmpty then none else some (toFtsMatchQuery query)) =
      .ok fun row => query.isEmpty || sqlite.matched (words query) row := by
  cases query.isEmpty with
  | true => rfl
  | false =>
    change sqlite.test (toFtsMatchQuery query) = _
    rw [Sqlite.test, (operand_iff query).mpr whole]
    dsimp only
    rw [literals?_map]
    rfl

variable (sqlite) in
/-- What an accepted request runs. -/
theorem foundRows_of_accepted (accepted : request.Accepted database viewer dmChannelId)
    (answers : ∀ query, fails query = false) :
    foundRows sqlite.engine fails database viewer request =
      match sqlite.run ⟨if (parsedQuery sqlite request).1.isEmpty then none
            else some (toFtsMatchQuery (parsedQuery sqlite request).1),
          conditions dmChannelId (parsedQuery sqlite request).2, searchLimit request.limit⟩
          database.messages.rows with
      | .error message =>
        .error (if mentionsFts5 message then .error 400 "Invalid search query" else internalError)
      | .ok dmMessages => .ok (dmMessages.filter (isVisible database viewer)) := by
  have given : (trim (request.q.getD [])).isEmpty = false := by
    rw [← Bool.not_eq_true, List.isEmpty_iff]
    exact accepted.given
  have named : (request.dmChannelId.filter fun id => !id.isEmpty) = some dmChannelId := by
    rw [accepted.channel, Option.filter_some_pos]
    cases empty : dmChannelId with
    | nil => exact (accepted.named empty).elim
    | cons => rfl
  have short := Nat.not_lt.mpr accepted.short
  unfold foundRows
  simp only [accepted.allowed, given, short, named, answers, accepted.member, parsedQuery,
    Sqlite.engine, Bool.not_true, Bool.false_eq_true, if_false, Bool.and_false]
  rfl

/-- A search runs the statement with a limit, or fails with it. -/
theorem run_eq (whole : 0 ∉ query) (filters : SearchFilters) (limit : Option Int)
    (rows : List DirectMessageRow) :
    sqlite.run ⟨if query.isEmpty then none else some (toFtsMatchQuery query),
        conditions dmChannelId filters, limit⟩ rows =
      (Sqlite.rowLimit limit).map fun limit =>
        let found := sqlite.ordered (if query.isEmpty then none else some (toFtsMatchQuery query))
          (rows.filter fun row => (query.isEmpty || sqlite.matched (words query) row) &&
            (conditions dmChannelId filters).all (·.holds row))
        match limit with
        | none => found
        | some limit => found.take limit := by
  rw [Sqlite.run, matching_eq whole]
  cases Sqlite.rowLimit limit <;> rfl

/-- The value of an operator is not empty. -/
theorem operatorHere_ne (found : operatorHere name text = some (value, rest)) : value ≠ [] := by
  unfold operatorHere at found
  split at found
  · dsimp only at found
    split at found
    · cases found
    · rename_i given
      cases found
      exact fun empty => given (List.isEmpty_iff.mpr empty)
  · cases found

theorem operatorAfterSpace_ne {before : JsString}
    (found : operatorAfterSpace name text = some (before, value, rest)) : value ≠ [] := by
  induction text generalizing before with
  | nil => cases found
  | cons unit text ih =>
    unfold operatorAfterSpace at found
    split at found
    · rename_i here
      cases found
      split at here
      · exact operatorHere_ne here
      · cases here
    · split at found
      · rename_i later
        cases found
        exact ih later
      · cases found

theorem operator_ne (found : operator name text = some (value, rest)) : value ≠ [] := by
  unfold operator at found
  split at found
  · rename_i here
    cases found
    exact operatorHere_ne here
  · split at found
    · rename_i later
      cases found
      exact operatorAfterSpace_ne later
    · cases found

theorem fromUserId_ne {date : JsString → Option JsString} {raw : JsString} :
    (parseSearchQuery date raw).2.fromUserId ≠ some [] := by
  unfold parseSearchQuery
  dsimp only
  cases found : operator (js "from:") raw with
  | none => exact nofun
  | some pair =>
    intro empty
    exact operator_ne found (Option.some.inj empty)

section

variable (identified : ∀ friendship ∈ database.friendships.rows,
  friendship.requesterId ≠ [] ∧ friendship.addresseeId ≠ [])

include identified

/-- Whoever is not hidden is not blocked, where users have names. -/
theorem unblocked_of_isVisible {row : DirectMessageRow}
    (visible : isVisible database viewer row = true) : ¬ Blocked database viewer row.senderId := by
  rintro ⟨friendship, stored, blocked, pair⟩
  obtain ⟨requester, addressee⟩ := identified friendship stored
  have sender : row.senderId ≠ [] := by
    rcases pair with ⟨-, named⟩ | ⟨named, -⟩
    · exact named ▸ addressee
    · exact named ▸ requester
  have listed : row.senderId ∈ blockedUserIds database viewer := by
    refine List.mem_flatMap.mpr ⟨friendship, stored, ?_⟩
    rw [if_pos blocked, List.mem_append]
    rcases pair with ⟨mine, theirs⟩ | ⟨theirs, mine⟩
    · left
      simp [mine, ← theirs, addressee]
    · right
      simp [mine, ← theirs, requester]
  rw [isVisible, Bool.or_eq_true, List.isEmpty_iff, Bool.not_eq_true', ← Bool.not_eq_true,
    List.contains_iff_mem] at visible
  rcases visible with empty | unlisted
  · exact sender empty
  · exact unlisted listed

/-- Rows that satisfy the conditions and are visible fit. -/
theorem fits_of_holds {row : DirectMessageRow} {filters : SearchFilters}
    (given : filters.fromUserId ≠ some []) (stored : row ∈ database.messages.rows)
    (holds : (conditions dmChannelId filters).all (·.holds row) = true)
    (visible : isVisible database viewer row = true) :
    Fits database viewer dmChannelId filters row := by
  have each := List.all_eq_true.mp holds
  refine ⟨stored, ?_, ?_, ?_, ?_, ?_, unblocked_of_isVisible identified visible⟩
  · have live := each .notDeleted (by simp [conditions])
    exact Option.isNone_iff_eq_none.mp live
  · exact of_decide_eq_true (each (.channel dmChannelId) (by simp [conditions]))
  · intro id named
    have nonempty : id ≠ [] := by
      rintro rfl
      exact given named
    refine of_decide_eq_true (each (.sender id) ?_)
    simp [conditions, Option.mem_def.mp named, nonempty]
  · intro time named
    exact of_decide_eq_true (each (.before time) (by simp [conditions, Option.mem_def.mp named]))
  · intro time named
    exact of_decide_eq_true (each (.after time) (by simp [conditions, Option.mem_def.mp named]))

end

/-- The limit is at most a hundred when it is one. -/
theorem le_of_rowLimit {limit : Option JsString} {size : Nat}
    (bounded : Sqlite.rowLimit (searchLimit limit) = .ok (some size)) : size ≤ 100 := by
  unfold searchLimit at bounded
  cases parsed : parseInt (limit.getD (js "25")) with
  | none =>
    rw [parsed] at bounded
    cases bounded
  | some number =>
    rw [parsed, Option.map_some] at bounded
    have most : min number 100 ≤ 100 := min_le_right ..
    generalize min number 100 = least at bounded most
    cases least with
    | ofNat least =>
      cases bounded
      exact Int.ofNat_le.mp most
    | negSucc less =>
      rw [Sqlite.rowLimit] at bounded
      split at bounded
      · cases bounded
      · split at bounded
        · cases bounded
        · cases bounded

/-- Without a limit everything is shown that a search may show. -/
theorem length_shown {filters : SearchFilters}
    (parsed : parsedQuery sqlite request = (query, filters)) (operand : Option JsString) :
    ((sqlite.ordered operand (database.messages.rows.filter fun row =>
      (query.isEmpty || sqlite.matched (words query) row) &&
        (conditions dmChannelId filters).all (·.holds row))).filter
          (isVisible database viewer)).length =
      (candidates sqlite database viewer dmChannelId request).length := by
  rw [candidates, parsed]
  exact ((sqlite.orders _ _).filter _).length_eq

/-- A member is shown at most a hundred messages, all of which fit, by an operand that is read
as the words of the query, exactly when the query holds no zero and the limit is either not
a negative number or without effect. -/
theorem searchSound_iff (accepted : request.Accepted database viewer dmChannelId)
    (answers : ∀ query, fails query = false)
    (identified : ∀ friendship ∈ database.friendships.rows,
      friendship.requesterId ≠ [] ∧ friendship.addresseeId ≠ []) :
    SearchSound sqlite database viewer dmChannelId request fails ↔
      0 ∉ (parsedQuery sqlite request).1 ∧
        (Sqlite.rowLimit (searchLimit request.limit) = .ok none →
          (candidates sqlite database viewer dmChannelId request).length ≤ 100) := by
  have found := foundRows_of_accepted sqlite accepted answers
  have given : (parsedQuery sqlite request).2.fromUserId ≠ some [] := fromUserId_ne
  cases parsed : parsedQuery sqlite request with
  | mk query filters =>
  rw [parsed] at found given
  constructor
  · intro sound
    have whole : 0 ∉ query := by
      have operand := sound.operand
      rw [parsed] at operand
      exact (operand_iff query).mp operand
    refine ⟨whole, fun unlimited => ?_⟩
    rw [run_eq whole, unlimited] at found
    rw [← length_shown parsed]
    exact sound.few _ found
  · rintro ⟨whole, little⟩
    rw [run_eq whole] at found
    constructor
    · intro rows shown
      rw [found] at shown
      cases limit : Sqlite.rowLimit (searchLimit request.limit) with
      | error message =>
          rw [limit] at shown
          cases shown
      | ok limited =>
          rw [limit] at shown
          cases limited with
          | none =>
              cases shown
              rw [length_shown parsed]
              exact little limit
          | some size =>
              cases shown
              exact (List.length_filter_le ..).trans
                ((List.length_take_le ..).trans (le_of_rowLimit limit))
    · intro rows shown row member
      rw [parsed]
      rw [found] at shown
      cases limit : Sqlite.rowLimit (searchLimit request.limit) with
      | error message =>
          rw [limit] at shown
          cases shown
      | ok limited =>
          rw [limit] at shown
          have selected : row ∈ sqlite.ordered
              (if query.isEmpty then none else some (toFtsMatchQuery query))
              (database.messages.rows.filter fun row =>
                (query.isEmpty || sqlite.matched (words query) row) &&
                  (conditions dmChannelId filters).all (·.holds row)) ∧
              isVisible database viewer row = true := by
            cases limited with
            | none =>
                cases shown
                exact List.mem_filter.mp member
            | some size =>
                cases shown
                exact (List.mem_filter.mp member).imp_left List.mem_of_mem_take
          have meets := List.mem_filter.mp ((sqlite.orders _ _).mem_iff.mp selected.1)
          exact fits_of_holds identified given meets.1 (Bool.and_eq_true_iff.mp meets.2).2 selected.2
    · rw [parsed]
      exact (operand_iff query).mpr whole

end Sound

namespace SearchSample

/-- An index in which every message matches. -/
def sqlite : Sqlite where
  matched _ _ := true
  expression _ := .error []
  ordered _ rows := rows
  orders _ rows := .refl rows
  date := some

def message (number : Nat) : DirectMessageRow where
  id := List.replicate number 97
  dmChannelId := some (js "group")
  senderId := js "bob"
  content := some (js "cat")
  editedAt := none
  deletedAt := none
  createdAt := js "t0"
  replyToId := none

def database (count : Nat) : Database where
  users := .empty
  friendships := .empty
  channels := .empty
  members := [⟨js "group", js "ana"⟩]
  messages := ⟨(List.range count).map message, by
    rw [List.map_map]
    exact List.nodup_range.map fun first second same => by
      simpa [message] using congrArg List.length same⟩
  readStates := []
  attachments := []
  reactions := []

def request (limit : String) : SearchRequest :=
  ⟨true, some (js "cat"), some (js "group"), some (js limit)⟩

theorem accepted (count : Nat) (limit : String) :
    (request limit).Accepted (database count) (js "ana") (js "group") where
  allowed := rfl
  given := show trim (js "cat") ≠ [] by decide
  short := show (trim (js "cat")).length ≤ 500 by decide
  channel := rfl
  named := by decide
  member := rfl

theorem parsed (limit : String) : parsedQuery sqlite (request limit) =
    (js "cat", ⟨none, none, none, none⟩) := by
  change parseSearchQuery some (trim (js "cat")) = _
  decide

/-- Every message is found. -/
theorem candidates_eq (count : Nat) (limit : String) :
    candidates sqlite (database count) (js "ana") (js "group") (request limit) =
      (List.range count).map message := by
  rw [candidates, parsed]
  dsimp only
  rw [List.filter_eq_self.mpr, List.filter_eq_self.mpr]
  · rfl
  · intro row stored
    obtain ⟨number, -, rfl⟩ := List.mem_map.mp stored
    rfl
  · intro row stored
    obtain ⟨number, -, rfl⟩ := List.mem_map.mp (List.mem_of_mem_filter stored)
    rfl

end SearchSample

theorem few_sound :
    SearchSound SearchSample.sqlite (SearchSample.database 3) (js "ana") (js "group")
    (SearchSample.request "2") fun _ => false := by
  refine (searchSound_iff (SearchSample.accepted 3 "2") (fun _ => rfl)
    fun _ none => (List.not_mem_nil none).elim).mpr ⟨?_, fun _ => ?_⟩
  · rw [SearchSample.parsed]
    decide
  · rw [SearchSample.candidates_eq]
    decide

theorem negative_unsound : ¬ SearchSound SearchSample.sqlite (SearchSample.database 101) (js "ana")
    (js "group") (SearchSample.request "-1") fun _ => false := by
  intro sound
  have found := foundRows_of_accepted SearchSample.sqlite
    (SearchSample.accepted 101 "-1") fun _ : Query => rfl
  have unlimited : Sqlite.rowLimit (searchLimit (SearchSample.request "-1").limit) = .ok none := rfl
  rw [SearchSample.parsed, run_eq (by decide), unlimited] at found
  have few := sound.few _ found
  rw [length_shown (SearchSample.parsed "-1"), SearchSample.candidates_eq, List.length_map,
    List.length_range] at few
  omega

end Vortex.Views
