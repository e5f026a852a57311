import Vortex.Gateway.Messages
import Vortex.Views.Tables

/-!
# The friends list

`GET /api/friends` joins both users of every friendship of the viewer with all their
columns and sorts the rows into four lists. What it answers depends on a user's row
exactly through the friendships it shows: `friends_alter` without one, and
`snake_json_eq_of_friends` when there is one.
-/

namespace Vortex.Views

open Foundation List
open Vortex.Gateway (isWhiteSpace)

/-! ## Answers -/

/-- A response by its status and the value of its JSON body. -/
structure Answer where
  status : Nat
  body : Json

def Answer.error (status : Nat) (text : String) : Answer :=
  ⟨status, .obj [(js "error", .str (js text))]⟩

def internalError : Answer := .error 500 "Internal server error"

/-- A query of a route, which may throw. -/
inductive Query
  | memberships
  | channels
  | messages
  | readStates
  | users
  | replies
  | attachments
  | reactions
  | friendships
  deriving DecidableEq

/-- `parseInt(text, 10)`; `none` is `NaN`. -/
def parseInt (text : JsString) : Option Int :=
  let trimmed := text.dropWhile isWhiteSpace
  let unsigned := if trimmed.head? = some 45 || trimmed.head? = some 43 then trimmed.tail else trimmed
  let digits := unsigned.takeWhile Json.isDigit
  if digits.isEmpty then none
  else
    let magnitude : Int := digits.foldl (fun number digit => 10 * number + (digit.toNat - 48)) 0
    some (if trimmed.head? = some 45 then -magnitude else magnitude)

example : parseInt (js " +12px") = some 12 ∧ parseInt (js "-3") = some (-3) ∧
    parseInt (js "x") = none := by decide

/-! ## The route -/

/-- The conditions on a row: it is the viewer's, and it comes after the cursor. -/
def meets (viewer : JsString) (after : Option JsString) (row : FriendshipRow) : Bool :=
  (row.requesterId = viewer || row.addresseeId = viewer) &&
    match after with
    | none | some [] => true
    | some cursor => binary cursor < binary row.id

/-- `asc(friendships.id)`. -/
def inOrder (first second : FriendshipRow) : Bool := binary first.id ≤ binary second.id

def friendRows (database : Database) (viewer : JsString) (after : Option JsString) :
    List FriendshipRow :=
  (database.friendships.rows.filter (meets viewer after)).mergeSort inOrder

def FriendshipStatus.text : FriendshipStatus → JsString
  | .pending => js "pending"
  | .accepted => js "accepted"
  | .blocked => js "blocked"

/-- A joined user. -/
def joinedUser (database : Database) (id : JsString) : Json :=
  match database.user? id with
  | none => .null
  | some row => row.json

/-- `{ ...row, friend }`. -/
def friendEntry (database : Database) (viewer : JsString) (row : FriendshipRow) : Json :=
  .obj [(js "id", .str row.id), (js "requesterId", .str row.requesterId),
    (js "addresseeId", .str row.addresseeId), (js "status", .str row.status.text),
    (js "createdAt", .str row.createdAt), (js "updatedAt", .str row.updatedAt),
    (js "requester", joinedUser database row.requesterId),
    (js "addressee", joinedUser database row.addresseeId),
    (js "friend", joinedUser database
      (if row.requesterId = viewer then row.addresseeId else row.requesterId))]

structure FriendLists where
  accepted : List Json
  pendingReceived : List Json
  pendingSent : List Json
  blocked : List Json

/-- Put a row into its list. Only blocks the viewer initiated are shown. -/
def place (database : Database) (viewer : JsString) (lists : FriendLists) (row : FriendshipRow) :
    FriendLists :=
  let entry := friendEntry database viewer row
  match row.status with
  | .accepted => { lists with accepted := lists.accepted ++ [entry] }
  | .pending =>
      if row.requesterId = viewer then { lists with pendingSent := lists.pendingSent ++ [entry] }
      else { lists with pendingReceived := lists.pendingReceived ++ [entry] }
  | .blocked =>
      if row.requesterId = viewer then { lists with blocked := lists.blocked ++ [entry] }
      else lists

/-- `Math.min(Math.max(parseInt(limit ?? "100", 10), 1), 500)`; `none` is `NaN`. -/
def friendsLimit (limit : Option JsString) : Option Nat :=
  (parseInt (limit.getD (js "100"))).map fun number => (min (max number 1) 500).toNat

/-- `GET /api/friends`, with the two query parameters. A limit that is no number makes the
query throw. -/
def friends (fails : Query → Bool) (database : Database) (viewer : JsString)
    (limit after : Option JsString) : Answer :=
  match friendsLimit limit with
  | none => internalError
  | some limit =>
      if fails .friendships then internalError
      else
        let allRows := (friendRows database viewer after).take (limit + 1)
        let hasMore := limit < allRows.length
        let pageRows := if hasMore then allRows.take limit else allRows
        let lists := pageRows.foldl (place database viewer) ⟨[], [], [], []⟩
        let nextCursor := if hasMore then pageRows.getLast?.map (·.id) else none
        ⟨200, toSnakeCase (.obj [(js "accepted", .arr lists.accepted),
          (js "pending_received", .arr lists.pendingReceived),
          (js "pending_sent", .arr lists.pendingSent), (js "blocked", .arr lists.blocked),
          (js "next_cursor", text? nextCursor)])⟩

/-! ## What is not shown is not told -/

/-- Whether a row of the viewer appears in a list. -/
def FriendshipRow.shownTo (row : FriendshipRow) (viewer : JsString) : Bool :=
  row.status ≠ .blocked || row.requesterId = viewer

/-- Whether a row is between two users. -/
def FriendshipRow.links (row : FriendshipRow) (first second : JsString) : Bool :=
  (row.requesterId = first && row.addresseeId = second) ||
    (row.requesterId = second && row.addresseeId = first)

section Alter

variable {database : Database} {viewer id : JsString} {change : UserRow → UserRow}
  {keeps : ∀ row, (change row).id = row.id}

theorem friendRows_alter (after : Option JsString) :
    friendRows (database.alter id change keeps) viewer after = friendRows database viewer after :=
  rfl

theorem mem_friendRows {row : FriendshipRow} {after : Option JsString}
    (member : row ∈ friendRows database viewer after) :
    row ∈ database.friendships.rows ∧ (row.requesterId = viewer ∨ row.addresseeId = viewer) := by
  have kept := mem_mergeSort.mp member
  obtain ⟨inside, condition⟩ := mem_filter.mp kept
  unfold meets at condition
  rw [Bool.and_eq_true, Bool.or_eq_true, decide_eq_true_eq, decide_eq_true_eq] at condition
  exact ⟨inside, condition.1⟩

theorem joinedUser_alter {wanted : JsString} (different : wanted ≠ id) :
    joinedUser (database.alter id change keeps) wanted = joinedUser database wanted := by
  rw [joinedUser, Database.user?_alter_of_ne different, joinedUser]

/-- A row that is not shown, or has nothing to do with the user, is placed as before. -/
theorem place_alter {row : FriendshipRow}
    (involved : row.requesterId = viewer ∨ row.addresseeId = viewer) (other : viewer ≠ id)
    (hidden : row.links viewer id = true → row.shownTo viewer = false) (lists : FriendLists) :
    place (database.alter id change keeps) viewer lists row = place database viewer lists row := by
  by_cases linked : row.links viewer id = true
  · have unseen := hidden linked
    simp only [FriendshipRow.shownTo, Bool.or_eq_false_iff, decide_eq_false_iff_not,
      ne_eq, Decidable.not_not] at unseen
    simp [place, unseen.1, unseen.2]
  · simp only [FriendshipRow.links, Bool.or_eq_true, Bool.and_eq_true, decide_eq_true_eq,
      not_or, not_and] at linked
    have apart : row.requesterId ≠ id ∧ row.addresseeId ≠ id := by
      rcases involved with same | same
      · exact ⟨same ▸ other, linked.1 same⟩
      · exact ⟨fun requests => linked.2 requests same, same ▸ other⟩
    have friend : (if row.requesterId = viewer then row.addresseeId else row.requesterId) ≠ id := by
      split
      · exact apart.2
      · exact apart.1
    have entry : friendEntry (database.alter id change keeps) viewer row =
        friendEntry database viewer row := by
      simp only [friendEntry, joinedUser_alter apart.1, joinedUser_alter apart.2,
        joinedUser_alter friend]
    simp only [place, entry]

theorem foldl_place_alter (other : viewer ≠ id) {rows : List FriendshipRow}
    (hidden : ∀ row ∈ rows, (row.requesterId = viewer ∨ row.addresseeId = viewer) ∧
      (row.links viewer id = true → row.shownTo viewer = false)) (lists : FriendLists) :
    rows.foldl (place (database.alter id change keeps) viewer) lists =
      rows.foldl (place database viewer) lists := by
  induction rows generalizing lists with
  | nil => rfl
  | cons row rest ih =>
    rw [forall_mem_cons] at hidden
    rw [foldl_cons, foldl_cons, place_alter hidden.1.1 other hidden.1.2, ih hidden.2]

/-- Without a shown friendship, the friends list says nothing of a user's row. -/
theorem friends_alter (other : viewer ≠ id)
    (hidden : ∀ row ∈ database.friendships.rows, row.links viewer id = true →
      row.shownTo viewer = false) (fails : Query → Bool) (limit after : Option JsString) :
    friends fails (database.alter id change keeps) viewer limit after =
      friends fails database viewer limit after := by
  unfold friends
  cases friendsLimit limit with
  | none => rfl
  | some limit =>
    dsimp only
    rw [friendRows_alter, foldl_place_alter other]
    intro row member
    have inside : row ∈ friendRows database viewer after := by
      split at member
      · exact mem_of_mem_take (mem_of_mem_take member)
      · exact mem_of_mem_take member
    obtain ⟨stored, involved⟩ := mem_friendRows inside
    exact ⟨involved, hidden row stored⟩

end Alter

/-! ## What is shown is told -/

section Pages

variable {database : Database} {viewer : JsString}

/-- The rows are in strict order, for no two of them have one id. -/
theorem strict_friendRows (after : Option JsString) :
    (friendRows database viewer after).Pairwise fun first second =>
      binary first.id < binary second.id := by
  have sorted : (friendRows database viewer after).Pairwise fun first second =>
      inOrder first second = true := by
    refine pairwise_mergeSort ?_ ?_ _
    · intro first second third below above
      simp only [inOrder, decide_eq_true_eq] at below above ⊢
      exact le_trans below above
    · intro first second
      simp only [inOrder, Bool.or_eq_true, decide_eq_true_eq]
      exact le_total _ _
  have unique : ((friendRows database viewer after).map fun row => binary row.id).Nodup := by
    have perm := (mergeSort_perm (database.friendships.rows.filter (meets viewer after))
      inOrder).map fun row => binary row.id
    exact perm.nodup_iff.mpr (database.friendships.unique.sublist (filter_sublist.map _))
  refine (sorted.and (pairwise_map.mp unique)).imp ?_
  intro first second both
  simp only [inOrder, decide_eq_true_eq] at both
  exact lt_of_le_of_ne both.1 both.2

/-- A cursor leaves the rows that come after it. -/
theorem friendRows_after {before rest : List FriendshipRow} {last : FriendshipRow}
    (split : friendRows database viewer none = before ++ last :: rest) (named : last.id ≠ []) :
    friendRows database viewer (some last.id) = rest := by
  have cursor : ∀ row, meets viewer (some last.id) row =
      (meets viewer none row && decide (binary last.id < binary row.id)) := by
    intro row
    obtain ⟨unit, text, same⟩ := exists_cons_of_ne_nil named
    simp [meets, same]
  have perm : (friendRows database viewer (some last.id)).Perm
      ((friendRows database viewer none).filter fun row => binary last.id < binary row.id) := by
    refine (mergeSort_perm _ _).trans ?_
    refine List.Perm.trans ?_ ((mergeSort_perm _ inOrder).filter _).symm
    rw [filter_filter]
    refine List.Perm.of_eq (filter_congr ?_)
    intro row _
    rw [cursor, Bool.and_comm]
  have kept : ((friendRows database viewer none).filter fun row =>
      binary last.id < binary row.id) = rest := by
    have strict := @strict_friendRows database viewer none
    rw [split] at strict ⊢
    obtain ⟨-, tail, above⟩ := pairwise_append.mp strict
    obtain ⟨below, -⟩ := pairwise_cons.mp tail
    rw [filter_append, filter_cons_of_neg (by simp)]
    rw [filter_eq_nil_iff.mpr, nil_append, filter_eq_self.mpr]
    · intro row member
      simpa using below row member
    · intro row member
      have before_last := above row member last mem_cons_self
      simpa using le_of_lt before_last
  rw [← kept]
  refine List.Perm.eq_of_pairwise ?_ (strict_friendRows _) ((strict_friendRows none).filter _) perm
  intro first second _ _ below above
  exact absurd below (lt_asymm above)

/-- Every row of the viewer is on some page. -/
theorem exists_page {row : FriendshipRow} (member : row ∈ database.friendships.rows)
    (involved : row.requesterId = viewer ∨ row.addresseeId = viewer) :
    ∃ limit after number, friendsLimit limit = some number ∧
      row ∈ (friendRows database viewer after).take number := by
  have inside : row ∈ friendRows database viewer none := by
    refine mem_mergeSort.mpr (mem_filter.mpr ⟨member, ?_⟩)
    simpa [meets] using involved
  obtain ⟨before, rest, split⟩ := append_of_mem inside
  have one : friendsLimit (some (js "1")) = some 1 := by decide
  have two : friendsLimit (some (js "2")) = some 2 := by decide
  rcases eq_nil_or_concat before with rfl | ⟨earlier, last, rfl⟩
  · exact ⟨some (js "1"), none, 1, one, by rw [split]; simp⟩
  · rw [concat_eq_append, append_assoc, singleton_append] at split
    by_cases named : last.id = []
    · -- Nothing comes before the empty id, which is no cursor.
      have first : earlier = [] := by
        cases earlier with
        | nil => rfl
        | cons other earlier =>
          have strict := @strict_friendRows database viewer none
          rw [split] at strict
          have below := (pairwise_append.mp strict).2.2 other mem_cons_self last mem_cons_self
          rw [named] at below
          exact absurd below (by simp [binary, JsString.encodeUtf8])
      exact ⟨some (js "2"), none, 2, two, by rw [split, first]; simp⟩
    · exact ⟨some (js "1"), some last.id, 1, one, by rw [friendRows_after split named]; simp⟩

end Pages

theorem page_eq (rows : List FriendshipRow) (limit : Nat) :
    (if limit < (rows.take (limit + 1)).length then (rows.take (limit + 1)).take limit
      else rows.take (limit + 1)) = rows.take limit := by
  by_cases more : limit < (rows.take (limit + 1)).length
  · rw [if_pos more, take_take, Nat.min_eq_left (Nat.le_succ limit)]
  · rw [if_neg more]
    rw [length_take] at more
    rw [take_of_length_le (by omega), take_of_length_le (by omega)]

/-- The rows of each list. -/
theorem foldl_place (database : Database) (viewer : JsString) (rows : List FriendshipRow)
    (lists : FriendLists) :
    rows.foldl (place database viewer) lists =
      { accepted := lists.accepted ++
          (rows.filter fun row => row.status = .accepted).map (friendEntry database viewer)
        pendingReceived := lists.pendingReceived ++ (rows.filter fun row =>
          row.status = .pending && row.requesterId ≠ viewer).map (friendEntry database viewer)
        pendingSent := lists.pendingSent ++ (rows.filter fun row =>
          row.status = .pending && row.requesterId = viewer).map (friendEntry database viewer)
        blocked := lists.blocked ++ (rows.filter fun row =>
          row.status = .blocked && row.requesterId = viewer).map (friendEntry database viewer) } := by
  induction rows generalizing lists with
  | nil => simp
  | cons row rest ih =>
    rw [foldl_cons, ih]
    cases status : row.status <;> by_cases requested : row.requesterId = viewer <;>
      simp [place, status, requested]

theorem snake_joinedUser_eq {first second : Database} {viewer : JsString} {row : FriendshipRow}
    (same : toSnakeCase (friendEntry first viewer row) =
      toSnakeCase (friendEntry second viewer row)) :
    toSnakeCase (joinedUser first row.requesterId) =
        toSnakeCase (joinedUser second row.requesterId) ∧
      toSnakeCase (joinedUser first row.addresseeId) =
        toSnakeCase (joinedUser second row.addresseeId) := by
  unfold friendEntry at same
  rw [toSnakeCase_obj rfl, toSnakeCase_obj rfl] at same
  simp only [map_cons, map_nil, snakeMember, Json.obj.injEq, List.cons.injEq,
    Prod.mk.injEq, true_and, and_true] at same
  exact ⟨same.1, same.2.1⟩

/-- Lists that agree agree entry by entry. -/
theorem snake_entry_eq {first second : Database} {viewer : JsString}
    {rows : List FriendshipRow} {row : FriendshipRow} (member : row ∈ rows)
    (same : rows.map (toSnakeCase ∘ friendEntry first viewer) =
      rows.map (toSnakeCase ∘ friendEntry second viewer)) :
    toSnakeCase (friendEntry first viewer row) = toSnakeCase (friendEntry second viewer row) :=
  map_inj_left.mp same row member

/-- With a shown friendship on some page, the friends list tells both users' rows. -/
theorem snake_joinedUser_eq_of_friends {first second : Database} {viewer : JsString}
    (rows : second.friendships = first.friendships) {row : FriendshipRow}
    (member : row ∈ first.friendships.rows)
    (involved : row.requesterId = viewer ∨ row.addresseeId = viewer)
    (shown : row.shownTo viewer = true)
    (same : ∀ limit after, friends (fun _ => false) first viewer limit after =
      friends (fun _ => false) second viewer limit after) :
    toSnakeCase (joinedUser first row.requesterId) =
        toSnakeCase (joinedUser second row.requesterId) ∧
      toSnakeCase (joinedUser first row.addresseeId) =
        toSnakeCase (joinedUser second row.addresseeId) := by
  obtain ⟨limit, after, number, limited, listed⟩ := exists_page member involved
  have pages : friendRows second viewer after = friendRows first viewer after := by
    rw [friendRows, rows, friendRows]
  have answers := same limit after
  simp only [friends, limited, pages, Bool.false_eq_true, if_false, page_eq, foldl_place,
    nil_append, Answer.mk.injEq, true_and] at answers
  rw [toSnakeCase_obj rfl, toSnakeCase_obj rfl] at answers
  simp only [map_cons, map_nil, snakeMember, Json.obj.injEq, List.cons.injEq,
    Prod.mk.injEq, true_and, and_true, toSnakeCase_arr, Json.arr.injEq, map_map] at answers
  obtain ⟨accepted, received, sent, blocked⟩ := answers
  apply snake_joinedUser_eq
  cases status : row.status with
  | accepted =>
    exact snake_entry_eq (mem_filter.mpr ⟨listed, by simp [status]⟩) accepted
  | pending =>
    by_cases requested : row.requesterId = viewer
    · exact snake_entry_eq (mem_filter.mpr ⟨listed, by simp [status, requested]⟩) sent
    · exact snake_entry_eq (mem_filter.mpr ⟨listed, by simp [status, requested]⟩) received
  | blocked =>
    have requested : row.requesterId = viewer := by
      simpa [FriendshipRow.shownTo, status] using shown
    exact snake_entry_eq (mem_filter.mpr ⟨listed, by simp [status, requested]⟩) blocked

section Told

variable {database : Database} {viewer id : JsString} {first second : UserRow → UserRow}
  {left : ∀ row, (first row).id = row.id} {right : ∀ row, (second row).id = row.id}

/-- Two states in which a user's row differs, and no friends list does, have the same
columns of it as far as a response can show. -/
theorem snake_json_eq_of_friends {user : UserRow} (found : database.user? id = some user)
    {row : FriendshipRow} (member : row ∈ database.friendships.rows)
    (linked : row.links viewer id = true) (shown : row.shownTo viewer = true) (same : ∀ limit after,
      friends (fun _ => false) (database.alter id first left) viewer limit after =
        friends (fun _ => false) (database.alter id second right) viewer limit after) :
    toSnakeCase (first user).json = toSnakeCase (second user).json := by
  simp only [FriendshipRow.links, Bool.or_eq_true, Bool.and_eq_true, decide_eq_true_eq] at linked
  have involved : row.requesterId = viewer ∨ row.addresseeId = viewer :=
    linked.imp And.left And.right
  obtain ⟨requester, addressee⟩ :=
    @snake_joinedUser_eq_of_friends (database.alter id first left)
      (database.alter id second right) viewer rfl row member involved shown same
  have told : ∀ {change : UserRow → UserRow} {keeps : ∀ row, (change row).id = row.id},
      joinedUser (database.alter id change keeps) id = (change user).json := by
    intro change keeps
    rw [joinedUser, Database.user?_alter_self found]
  rcases linked with ⟨-, named⟩ | ⟨named, -⟩
  · rwa [named, told, told] at addressee
  · rwa [named, told, told] at requester

end Told

end Vortex.Views
