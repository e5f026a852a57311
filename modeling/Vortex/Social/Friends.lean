import Mathlib.Data.List.Nodup
import Vortex.Gateway.Messages

/-!
# Friendships

`/api/friends` keeps friend requests, friendships and blocks in one table: a row relates
two users, and a block is a row whose requester has blocked its addressee. Each
statement on the table is atomic, and a statement that would break a constraint of the
table fails and leaves it as it was. What the session, the rate limiter and the table
of users answer is a parameter of a request; the notifications and the pages of `GET`
do not touch the table and are left out.
-/

namespace Vortex.Social

open Foundation
open Vortex.Gateway (trim)

/-- The id of a user, which is never the empty string. -/
abbrev UserId : Type := {id : JsString // id ≠ []}

inductive FriendshipStatus
  | pending
  | accepted
  | blocked
deriving DecidableEq

structure FriendshipRow where
  id : JsString
  requesterId : UserId
  addresseeId : UserId
  status : FriendshipStatus
deriving DecidableEq

/-- A row between two users, in either direction. -/
def FriendshipRow.Links (row : FriendshipRow) (left right : UserId) : Prop :=
  (row.requesterId = left ∧ row.addresseeId = right) ∨
    (row.requesterId = right ∧ row.addresseeId = left)

instance (row : FriendshipRow) (left right : UserId) : Decidable (row.Links left right) :=
  inferInstanceAs (Decidable (_ ∨ _))

/-! ## The table -/

/-- The primary key, `friendships_unique` and `friendships_no_self`. -/
structure FriendshipRows (rows : List FriendshipRow) : Prop where
  ids : (rows.map FriendshipRow.id).Nodup
  pairs : (rows.map fun row => (row.requesterId, row.addresseeId)).Nodup
  noSelf : ∀ row ∈ rows, row.requesterId ≠ row.addresseeId

instance (rows : List FriendshipRow) : Decidable (FriendshipRows rows) :=
  decidable_of_iff ((rows.map FriendshipRow.id).Nodup ∧
      (rows.map fun row => (row.requesterId, row.addresseeId)).Nodup ∧
      ∀ row ∈ rows, row.requesterId ≠ row.addresseeId)
    ⟨fun ⟨ids, pairs, noSelf⟩ => ⟨ids, pairs, noSelf⟩, fun kept => ⟨kept.ids, kept.pairs, kept.noSelf⟩⟩

structure Friendships where
  rows : List FriendshipRow
  valid : FriendshipRows rows

namespace Friendships

def empty : Friendships := ⟨[], List.nodup_nil, List.nodup_nil, fun _ none => nomatch none⟩

/-- A statement that has this effect on the rows, with whether it succeeded. -/
def commit (table : Friendships) (rows : List FriendshipRow) : Bool × Friendships :=
  if valid : FriendshipRows rows then (true, ⟨rows, valid⟩) else (false, table)

theorem commit_cases (table : Friendships) (rows : List FriendshipRow) :
    (table.commit rows).1 = true ∧ (table.commit rows).2.rows = rows ∨
      (table.commit rows).1 = false ∧ (table.commit rows).2 = table := by
  unfold commit
  split
  · exact .inl ⟨rfl, rfl⟩
  · exact .inr ⟨rfl, rfl⟩

/-- Two rows with one id are the same row. -/
theorem eq_of_id_eq (table : Friendships) {first second : FriendshipRow}
    (left : first ∈ table.rows) (right : second ∈ table.rows) (same : first.id = second.id) :
    first = second :=
  List.inj_on_of_nodup_map table.valid.ids left right same

end Friendships

/-! ## Statements -/

/-- The columns an update sets. -/
structure FriendshipSet where
  status : FriendshipStatus
  requesterId : Option UserId := none
  addresseeId : Option UserId := none

def FriendshipSet.apply (set : FriendshipSet) (row : FriendshipRow) : FriendshipRow :=
  { row with
    status := set.status
    requesterId := set.requesterId.getD row.requesterId
    addresseeId := set.addresseeId.getD row.addresseeId }

inductive Statement
  | selectPair (left right : UserId)
  | selectById (id : JsString)
  | insert (row : FriendshipRow)
  | update (id : JsString) (set : FriendshipSet)
  | delete (id : JsString)

/-- A query returns at most one row, or throws; a write succeeds or throws. -/
def friends : Interface where
  Request := Statement
  Answer
    | .selectPair _ _ | .selectById _ => Except Unit (Option FriendshipRow)
    | .insert _ | .update _ _ | .delete _ => Bool

/-- The row a query without an order returns when there are several. -/
structure QueryPlan where
  first : List FriendshipRow → Option FriendshipRow
  sound : ∀ rows row, first rows = some row → row ∈ rows
  complete : ∀ rows, first rows = none → rows = []

def updateWhere (id : JsString) (set : FriendshipSet) (rows : List FriendshipRow) :
    List FriendshipRow :=
  rows.map fun row => if row.id = id then set.apply row else row

def deleteWhere (id : JsString) (rows : List FriendshipRow) : List FriendshipRow :=
  rows.filter fun row => row.id ≠ id

/-- The answer to a statement that throws. -/
def thrown : (statement : Statement) → friends.Answer statement
  | .selectPair _ _ | .selectById _ => .error ()
  | .insert _ | .update _ _ | .delete _ => false

def execute (plan : QueryPlan) :
    (statement : Statement) → Friendships → friends.Answer statement × Friendships
  | .selectPair left right, table =>
      (.ok (plan.first (table.rows.filter fun row => row.Links left right)), table)
  | .selectById id, table => (.ok (table.rows.find? fun row => row.id = id), table)
  | .insert row, table => table.commit (table.rows ++ [row])
  | .update id set, table => table.commit (updateWhere id set table.rows)
  | .delete id, table => table.commit (deleteWhere id table.rows)

/-! ## The routes -/

/-- What the rest of the system answers to one request, an error where it throws: the
user of the session, whether the rate limit is exceeded, who has a username, the id a
new row draws, and which statements fail. -/
structure Surroundings where
  user : Except Unit (Option UserId)
  limited : Bool
  findUser : JsString → Except Unit (Option UserId)
  toLowerCase : JsString → JsString
  drawn : JsString
  fails : Statement → Bool

inductive FriendsRequest
  | post (username : Option JsString)
  | patch (friendshipId action : Option JsString)
  | delete (id : Option JsString)

structure FriendsCall where
  surroundings : Surroundings
  request : FriendsRequest

abbrev FriendsProc : Type := Proc friends Empty HttpResponse

def ask (statement : Statement) : Proc friends Empty (friends.Answer statement) :=
  Proc.request (I := friends) statement

def message (text : JsString) : HttpResponse := .json 200 (.obj [(js "message", .str text)])

def internalError : HttpResponse := .error 500 (js "Internal server error")

def GENERIC_SUCCESS : JsString := js "Friend request sent (if user exists)"

/-- A write in a `try` block of its own. -/
def attempt (write : Proc friends Empty Bool) (done : HttpResponse) (failure : JsString) :
    FriendsProc := do
  if ← write then return done else return .error 500 failure

def insert (row : FriendshipRow) : HttpResponse → JsString → FriendsProc :=
  attempt (ask (.insert row))

def update (id : JsString) (set : FriendshipSet) : HttpResponse → JsString → FriendsProc :=
  attempt (ask (.update id set))

def delete (id : JsString) : HttpResponse → JsString → FriendsProc := attempt (ask (.delete id))

/-- What `POST` does about the row it finds between the two users. -/
def request (user target : UserId) (drawn : JsString) : Option FriendshipRow → FriendsProc
  | none => insert ⟨drawn, user, target, .pending⟩ (message GENERIC_SUCCESS)
      (js "Failed to send request")
  | some existing =>
      match existing.status with
      | .accepted => return message GENERIC_SUCCESS
      | .pending =>
          if existing.requesterId = target then
            -- They already sent a request: it is accepted.
            update existing.id { status := .accepted } (message (js "Friend request accepted"))
              (js "Failed to send request")
          else return message GENERIC_SUCCESS
      | .blocked => return message GENERIC_SUCCESS

def POST (surroundings : Surroundings) (user : UserId) (username : Option JsString) : FriendsProc :=
  if surroundings.limited then
    return .error 429 (js "Too many requests. Please try again later.")
  else
    match username with
    | none => return .error 400 (js "Username required")
    | some username =>
        if (trim username).isEmpty then return .error 400 (js "Username required")
        else
          match surroundings.findUser (surroundings.toLowerCase (trim username)) with
          | .error _ => return message GENERIC_SUCCESS
          | .ok none => return message GENERIC_SUCCESS
          | .ok (some target) =>
              if target = user then return .error 400 (js "Cannot add yourself")
              else do
                match ← ask (.selectPair user target) with
                | .error _ => return internalError
                | .ok existing => request user target surroundings.drawn existing

/-- What `PATCH` does about a row that involves the user. -/
def act (user : UserId) (friendshipId action : JsString) (row : FriendshipRow) : FriendsProc :=
  if action = js "accept" then
    if row.addresseeId ≠ user ∨ row.status ≠ .pending then
      return .error 400 (js "Cannot accept this request")
    else
      update friendshipId { status := .accepted } (message (js "Friend request accepted"))
        (js "Failed to accept request")
  else if action = js "decline" then
    if row.addresseeId ≠ user ∨ row.status ≠ .pending then
      return .error 400 (js "Cannot decline this request")
    else
      delete friendshipId (message (js "Friend request declined")) (js "Failed to update friendship")
  else if action = js "block" then
    if row.requesterId = user then
      update friendshipId { status := .blocked } (message (js "User blocked"))
        (js "Failed to update friendship")
    else
      -- The direction is swapped, so that the blocked user is always the addressee.
      update friendshipId
        { status := .blocked, requesterId := some user, addresseeId := some row.requesterId }
        (message (js "User blocked")) (js "Failed to update friendship")
  else return .error 400 (js "Unknown action")

/-- Read a row, refuse whoever it does not involve, and go on with it. -/
def withInvolved (user : UserId) (id : JsString) (next : FriendshipRow → FriendsProc) :
    FriendsProc := do
  match ← ask (.selectById id) with
  | .error _ => return internalError
  | .ok none => return .error 404 (js "Not found")
  | .ok (some row) =>
      if row.requesterId = user ∨ row.addresseeId = user then next row
      else return .error 403 (js "Forbidden")

/-- A text that is not empty. -/
def given : Option JsString → Option JsString
  | none | some [] => none
  | some text => some text

def PATCH (user : UserId) (friendshipId action : Option JsString) : FriendsProc :=
  match given friendshipId, given action with
  | some friendshipId, some action =>
      withInvolved user friendshipId (act user friendshipId action)
  | _, _ => return .error 400 (js "friendshipId and action required")

def DELETE (user : UserId) (id : Option JsString) : FriendsProc :=
  match given id with
  | none => return .error 400 (js "id required")
  | some id =>
      withInvolved user id fun _ =>
        delete id (message (js "Removed")) (js "Failed to remove friend")

def requireAuth (user : Except Unit (Option UserId)) : Except HttpResponse UserId :=
  match user with
  | .error _ => .error (.error 502 (js "Auth service temporarily unavailable"))
  | .ok none => .error (.error 401 (js "Unauthorized"))
  | .ok (some user) => .ok user

def program (call : FriendsCall) : FriendsProc :=
  match requireAuth call.surroundings.user with
  | .error response => return response
  | .ok user =>
      match call.request with
      | .post username => POST call.surroundings user username
      | .patch friendshipId action => PATCH user friendshipId action
      | .delete id => DELETE user id

def handle (plan : QueryPlan) (call : FriendsCall) : Handler friends Friendships :=
  fun statement table =>
    if call.surroundings.fails statement then some (thrown statement, table)
    else some (execute plan statement table)

/-- Every interleaving of any number of requests, from any contents of the table. -/
def friendsSystem (plan : QueryPlan) :
    System (Pool friends Empty HttpResponse FriendsCall Friendships) (Turn FriendsCall) :=
  Pool.system (fun _ => True) program fun _ call => handle plan call

/-! ## Blocks -/

/-- One turn of the loop of `deriveBlockedUserIds`. -/
def addBlocked (userId : JsString) (blocked : List JsString) (row : FriendshipRow) :
    List JsString :=
  if row.status ≠ .blocked then blocked
  else
    let blocked :=
      if row.requesterId.val = userId ∧ row.addresseeId.val ≠ [] then
        blocked ++ [row.addresseeId.val]
      else blocked
    if row.addresseeId.val = userId ∧ row.requesterId.val ≠ [] then
      blocked ++ [row.requesterId.val]
    else blocked

/-- The users blocked relative to a user, by rows that involve them. -/
def deriveBlockedUserIds (userId : JsString) (rows : List FriendshipRow) : List JsString :=
  rows.foldl (addBlocked userId) []

def isBlockedBetweenUsers (leftUserId rightUserId : JsString) (table : Friendships) : Bool :=
  if leftUserId = [] ∨ rightUserId = [] ∨ leftUserId = rightUserId then false
  else
    let rows := table.rows.filter fun row =>
      row.status = .blocked ∧ (row.requesterId.val = leftUserId ∨ row.addresseeId.val = leftUserId)
    (deriveBlockedUserIds leftUserId rows).contains rightUserId

/-- What a row says of the other user. -/
def FriendshipRow.Blocks (row : FriendshipRow) (userId other : JsString) : Prop :=
  row.status = .blocked ∧ ((row.requesterId.val = userId ∧ row.addresseeId.val = other) ∨
    (row.addresseeId.val = userId ∧ row.requesterId.val = other))

theorem mem_addBlocked {userId other : JsString} {blocked : List JsString} {row : FriendshipRow} :
    other ∈ addBlocked userId blocked row ↔ other ∈ blocked ∨ row.Blocks userId other := by
  have requester := row.requesterId.property
  have addressee := row.addresseeId.property
  unfold addBlocked FriendshipRow.Blocks
  grind

theorem mem_deriveBlockedUserIds {userId other : JsString} {rows : List FriendshipRow} :
    other ∈ deriveBlockedUserIds userId rows ↔ ∃ row ∈ rows, row.Blocks userId other := by
  suffices general : ∀ blocked : List JsString, other ∈ rows.foldl (addBlocked userId) blocked ↔
      other ∈ blocked ∨ ∃ row ∈ rows, row.Blocks userId other from
    (general []).trans (or_iff_right List.not_mem_nil)
  induction rows with
  | nil => simp
  | cons row rest ih =>
    intro blocked
    rw [List.foldl_cons, ih, mem_addBlocked, or_assoc]
    simp only [List.mem_cons, exists_eq_or_imp]

/-- A user is blocked by a row that says so, in either direction. -/
theorem isBlocked_of_row {table : Friendships} {left right : UserId} {row : FriendshipRow}
    (member : row ∈ table.rows) (blocked : row.status = .blocked) (linked : row.Links left right) :
    isBlockedBetweenUsers left.val right.val table = true := by
  have distinct : left ≠ right := by
    rintro rfl
    have same : row.requesterId = row.addresseeId :=
      linked.elim (fun both => both.1.trans both.2.symm) fun both => both.1.trans both.2.symm
    exact table.valid.noSelf row member same
  have proceeds : ¬ (left.val = [] ∨ right.val = [] ∨ left.val = right.val) := by
    rintro (empty | empty | same)
    · exact left.property empty
    · exact right.property empty
    · exact distinct (Subtype.ext same)
  unfold isBlockedBetweenUsers
  rw [if_neg proceeds]
  refine List.contains_iff_mem.mpr (mem_deriveBlockedUserIds.mpr ⟨row, ?_, blocked, ?_⟩)
  · refine List.mem_filter.mpr ⟨member, decide_eq_true ⟨blocked, ?_⟩⟩
    exact linked.imp (fun first => congrArg Subtype.val first.1)
      fun second => congrArg Subtype.val second.2
  · exact linked.imp (fun same => ⟨congrArg Subtype.val same.1, congrArg Subtype.val same.2⟩)
      fun same => ⟨congrArg Subtype.val same.2, congrArg Subtype.val same.1⟩

end Vortex.Social
