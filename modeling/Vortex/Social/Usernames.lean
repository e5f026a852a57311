import Vortex.Accounts.Profile
import Vortex.Accounts.SignUps
import Vortex.Social.Friends

/-!
# Finding users by their names

`POST /api/friends` looks for the trimmed name in lower case, while a sign-up stores the name it
submits and `PATCH /api/users/profile` the one its body has. A user is found exactly where the
stored name is what becomes of it there. Sign-ups and changes of profiles interleave statement by
statement; what a column of text makes of a value that is written to it is a parameter.
-/

namespace Vortex.Social.Usernames

open Foundation List
open Vortex.Accounts.Profile (Runtime allowedKeys profileUpdate updateValues)
open Vortex.Accounts
open Vortex.Accounts.SignUps (AccountProc Outcome SignUp Tables Users accounts gate insertUser
  onInvites query signUp)
open Vortex.Gateway (trim)

/-! ## What changes names -/

/-- What the runtime and the driver of the database know of texts and values. -/
structure Platform where
  runtime : Runtime
  toUpperCase : JsString → JsString
  /-- The text that `users.username` holds once a value was written to it; `none` where the
  statement throws. -/
  stored : Json → Option JsString

inductive NameRequest
  | signUp (request : SignUp)
  | patchProfile (session : Except Unit (Option JsString)) (limited : Bool) (body : List UInt8)

/-- A request, and which statements the database refuses. -/
structure NameCall where
  request : NameRequest
  fails : SignUps.Statement → Bool

inductive Reply
  | signedUp (outcome : Outcome)
  | refused (response : HttpResponse)
  | updated

section Programs

variable (platform : Platform)

def failed : AccountProc Reply := return .refused (.error 500 (js "Failed to update profile"))

/-- What a profile body that passes the checks does to the name. -/
def updateName (userId : JsString) (values : List (JsString × Json)) : AccountProc Reply :=
  match values.find? (·.1 = js "username") with
  | none => return .updated
  | some (_, value) =>
      match platform.stored value with
      | none => failed
      | some username => do
          match ← (query (.rename userId username)).attempt with
          | .error _ => failed
          | .ok _ => return .updated

/-- `PATCH /api/users/profile` -/
def patchProfile (session : Except Unit (Option JsString)) (limited : Bool) (body : List UInt8) :
    AccountProc Reply :=
  match session with
  | .error _ | .ok none => return .refused (.error 401 (js "Unauthorized"))
  | .ok (some userId) =>
      if limited then
        return .refused (.error 429 (js "Too many requests. Please try again later."))
      else
        match readJson body with
        | none | some .null => return .refused internalError
        | some body =>
            match profileUpdate platform.runtime body with
            | .error response => return .refused response
            | .ok values => updateName platform userId values

def nameProgram (call : NameCall) : AccountProc Reply :=
  match call.request with
  | .signUp request =>
      .signedUp <$> signUp platform.toUpperCase platform.runtime.toLowerCase request
  | .patchProfile session limited body => patchProfile platform session limited body

end Programs

def nameHandle (call : NameCall) : Handler accounts Tables := fun statement tables =>
  if call.fails statement then some (.error .other, tables)
  else some (SignUps.execute statement tables)

abbrev NamePool : Type :=
  Pool accounts StatementError Reply NameCall Tables

/-- Every interleaving of any number of sign-ups and changes of profiles, while there are no users
at first. -/
def nameSystem (platform : Platform) : System NamePool (Turn NameCall) :=
  Pool.system (fun tables => tables.users.rows = []) (nameProgram platform) fun _ => nameHandle

/-! ## Who is found -/

def userId? (id : JsString) : Option UserId := if filled : id ≠ [] then some ⟨id, filled⟩ else none

/-- The user whose name is a text. -/
def findUser (users : Users) (name : JsString) : Option UserId :=
  (users.rows.find? fun row => row.username = name).bind fun row => userId? row.id

/-- A request by a user, with a fresh id for a new row, that nothing refuses. -/
def asking (toLowerCase : JsString → JsString) (users : Users) (requester : UserId)
    (drawn username : JsString) : FriendsCall where
  surroundings :=
    { user := .ok (some requester)
      limited := false
      findUser := fun name => .ok (findUser users name)
      toLowerCase := toLowerCase
      drawn := drawn
      fails := fun _ => false }
  request := .post (some username)

/-- `POST /api/friends` with a name leaves a pending request to a user, and nothing else. -/
def Requests (plan : QueryPlan) (call : FriendsCall) (table : Friendships)
    (row : FriendshipRow) : Prop :=
  ∃ response after, (program call).run (handle plan call) table = some (.ok response, after) ∧
    after.rows = table.rows ++ [row]

/-- Two users between whom there is no row, one of them to be found by name. -/
structure Strangers (users : Users) (table : Friendships) (user : SignUps.User)
    (requester target : UserId) (drawn : JsString) : Prop where
  listed : user ∈ users.rows
  named : target.val = user.id
  other : requester ≠ target
  apart : ∀ row ∈ table.rows, ¬ row.Links requester target
  fresh : ∀ row ∈ table.rows, row.id ≠ drawn

/-- A name that is what the search makes of it. -/
def Normal (toLowerCase : JsString → JsString) (name : JsString) : Prop :=
  trim name ≠ [] ∧ toLowerCase (trim name) = name

instance (toLowerCase : JsString → JsString) (name : JsString) :
    Decidable (Normal toLowerCase name) := inferInstanceAs (Decidable (_ ∧ _))

section Search

variable {plan : QueryPlan} {toLowerCase : JsString → JsString} {users : Users}
    {table : Friendships} {user : SignUps.User} {requester target : UserId}
    {drawn username : JsString} {call : FriendsCall}

/-- A statement that nothing refuses, alone. -/
theorem run_ask (free : ∀ statement, call.surroundings.fails statement = false)
    (statement : Statement) (table : Friendships) :
    (ask statement).run (handle plan call) table =
      some (.ok (execute plan statement table).1, (execute plan statement table).2) := by
  have answered : handle plan call statement table = some (execute plan statement table) := by
    unfold handle
    rw [free]
    rfl
  exact Proc.run_await _ answered

theorem run_write {write : Proc friends Empty Bool} {success : Bool} {after : Friendships}
    (done : HttpResponse) (failure : JsString)
    (ran : write.run (handle plan call) table = some (.ok success, after)) :
    ∃ response, (attempt write done failure).run (handle plan call) table =
      some (.ok response, after) := by
  refine ⟨if success then done else .error 500 failure, ?_⟩
  rw [attempt, Proc.run_bind_ok _ ran]
  cases success <;> rfl

theorem run_insert (plan : QueryPlan) (free : ∀ statement, call.surroundings.fails statement = false)
    (row : FriendshipRow) (done : HttpResponse) (failure : JsString) (table : Friendships) :
    ∃ response, (insert row done failure).run (handle plan call) table =
      some (.ok response, (table.commit (table.rows ++ [row])).2) :=
  run_write done failure (run_ask free (.insert row) table)

theorem run_update (plan : QueryPlan) (free : ∀ statement, call.surroundings.fails statement = false)
    (id : JsString) (set : FriendshipSet) (done : HttpResponse) (failure : JsString)
    (table : Friendships) :
    ∃ response, (update id set done failure).run (handle plan call) table =
      some (.ok response, (table.commit (updateWhere id set table.rows)).2) :=
  run_write done failure (run_ask free (.update id set) table)

/-- What is done about the row between two users leaves as many rows as there were, or a pending
request. -/
theorem run_request (plan : QueryPlan) (free : ∀ statement, call.surroundings.fails statement = false)
    (requester target : UserId) (drawn : JsString) (existing : Option FriendshipRow)
    (table : Friendships) :
    ∃ response after, (request requester target drawn existing).run (handle plan call) table =
        some (.ok response, after) ∧ (after.rows.length = table.rows.length ∨
        after.rows = table.rows ++ [⟨drawn, requester, target, .pending⟩]) := by
  cases existing with
  | none =>
    obtain ⟨response, ran⟩ := run_insert plan free
      ⟨drawn, requester, target, .pending⟩ (message GENERIC_SUCCESS)
      (js "Failed to send request") table
    refine ⟨response, _, ran, ?_⟩
    rcases table.commit_cases (table.rows ++ [⟨drawn, requester, target, .pending⟩]) with
      ⟨-, written⟩ | ⟨-, kept⟩
    · exact .inr written
    · exact .inl (by rw [kept])
  | some existing =>
    unfold request
    dsimp only
    cases existing.status with
    | accepted => exact ⟨_, table, rfl, .inl rfl⟩
    | blocked => exact ⟨_, table, rfl, .inl rfl⟩
    | pending =>
      dsimp only
      split
      · obtain ⟨response, ran⟩ := run_update plan free existing.id
          { status := .accepted } (message (js "Friend request accepted"))
          (js "Failed to send request") table
        refine ⟨response, _, ran, .inl ?_⟩
        rcases table.commit_cases (updateWhere existing.id { status := .accepted } table.rows)
          with ⟨-, written⟩ | ⟨-, kept⟩
        · rw [written, updateWhere, length_map]
        · rw [kept]
      · exact ⟨_, table, rfl, .inl rfl⟩

/-- The search, request by request. -/
theorem program_asking (toLowerCase : JsString → JsString) (users : Users) (requester : UserId)
    (drawn username : JsString) :
    program (asking toLowerCase users requester drawn username) =
      if (trim username).isEmpty then return .error 400 (js "Username required")
      else
        match findUser users (toLowerCase (trim username)) with
        | none => return message GENERIC_SUCCESS
        | some target =>
          if target = requester then return .error 400 (js "Cannot add yourself")
          else ask (.selectPair requester target) >>= fun
            | .error _ => return internalError
            | .ok existing => request requester target drawn existing := by
  unfold program asking POST
  dsimp only [requireAuth]
  cases findUser users (toLowerCase (trim username)) <;> rfl

/-- What the search for a name leaves of the table. -/
theorem run_post (plan : QueryPlan) (toLowerCase : JsString → JsString) (users : Users)
    (table : Friendships) (requester : UserId) (drawn username : JsString) :
    ∃ response after, (program (asking toLowerCase users requester drawn username)).run
        (handle plan (asking toLowerCase users requester drawn username)) table =
          some (.ok response, after) ∧ (after.rows.length = table.rows.length ∨ trim username ≠ [] ∧
        ∃ found, findUser users (toLowerCase (trim username)) = some found ∧
          after.rows = table.rows ++ [⟨drawn, requester, found, .pending⟩]) := by
  have free : ∀ statement,
      (asking toLowerCase users requester drawn username).surroundings.fails statement = false :=
    fun _ => rfl
  rw [program_asking]
  split
  · exact ⟨_, table, rfl, .inl rfl⟩
  · rename_i filled
    split
    · exact ⟨_, table, rfl, .inl rfl⟩
    · rename_i found named
      split
      · exact ⟨_, table, rfl, .inl rfl⟩
      · rw [Proc.run_bind_ok _ (run_ask free _ table)]
        obtain ⟨response, after, ran, left⟩ := run_request plan free requester found drawn
          (plan.first (table.rows.filter fun row => row.Links requester found)) table
        refine ⟨response, after, ran, left.imp_right fun written => ⟨?_, found, named, written⟩⟩
        exact fun empty => filled (List.isEmpty_iff.mpr empty)

/-- Ids and names of users are unique. -/
theorem findUser_eq (listed : user ∈ users.rows) (named : target.val = user.id) :
    findUser users user.username = some target := by
  have found : users.rows.find? (fun row => row.username = user.username) = some user := by
    cases search : users.rows.find? fun row => row.username = user.username with
    | none => exact absurd (decide_eq_true rfl) (find?_eq_none.mp search user listed)
    | some row =>
      have same : row.username = user.username := by simpa using find?_some search
      rw [inj_on_of_nodup_map users.unique.usernames (mem_of_find?_eq_some search) listed same]
  have filled : user.id ≠ [] := named ▸ target.property
  rw [findUser, found, Option.bind_some, userId?, dif_pos filled]
  exact congrArg some (Subtype.ext named.symm)

theorem username_of_findUser (listed : user ∈ users.rows) (named : target.val = user.id)
    {name : JsString} (found : findUser users name = some target) : name = user.username := by
  obtain ⟨row, search, shown⟩ := Option.bind_eq_some_iff.mp found
  unfold userId? at shown
  split at shown
  · cases shown
    have same := inj_on_of_nodup_map users.unique.ids (mem_of_find?_eq_some search) listed named
    have called : row.username = name := by simpa using find?_some search
    rw [← called, same]
  · cases shown

section

variable (strangers : Strangers users table user requester target drawn)

include strangers

/-- A request to a stranger is stored. -/
theorem commit_of_strangers :
    (table.commit (table.rows ++ [⟨drawn, requester, target, .pending⟩])).2.rows =
      table.rows ++ [⟨drawn, requester, target, .pending⟩] := by
  have valid : FriendshipRows (table.rows ++ [⟨drawn, requester, target, .pending⟩]) := by
    constructor
    · rw [map_append]
      refine nodup_append_comm.mp (nodup_cons.mpr ⟨fun member => ?_, table.valid.ids⟩)
      obtain ⟨row, listed, same⟩ := mem_map.mp member
      exact strangers.fresh row listed same
    · rw [map_append]
      refine nodup_append_comm.mp (nodup_cons.mpr ⟨fun member => ?_, table.valid.pairs⟩)
      obtain ⟨row, listed, same⟩ := mem_map.mp member
      obtain ⟨from_, to_⟩ := Prod.mk.inj same
      exact strangers.apart row listed (.inl ⟨from_, to_⟩)
    · intro row member
      rcases mem_append.mp member with earlier | now
      · exact table.valid.noSelf row earlier
      · rw [mem_singleton.mp now]
        exact strangers.other
  rw [Friendships.commit, dif_pos valid]

/-- A stranger whose name is what the search makes of it is asked. -/
theorem requests_of_normal (normal : Normal toLowerCase user.username) :
    Requests plan (asking toLowerCase users requester drawn user.username) table
      ⟨drawn, requester, target, .pending⟩ := by
  have nobody : plan.first (table.rows.filter fun row => row.Links requester target) = none := by
    have empty : (table.rows.filter fun row => row.Links requester target) = [] :=
      filter_eq_nil_iff.mpr fun row member => by simpa using strangers.apart row member
    rw [empty]
    cases first : plan.first [] with
    | none => rfl
    | some row => cases plan.sound [] row first
  have free : ∀ statement, (asking toLowerCase users requester drawn
      user.username).surroundings.fails statement = false := fun _ => rfl
  unfold Requests
  rw [program_asking, if_neg (mt List.isEmpty_iff.mp normal.1), normal.2,
    findUser_eq strangers.listed strangers.named]
  dsimp only
  rw [if_neg strangers.other.symm, Proc.run_bind_ok _ (run_ask free _ table)]
  dsimp only [execute]
  rw [nobody]
  obtain ⟨response, ran⟩ := run_insert plan free ⟨drawn, requester, target, .pending⟩
    (message GENERIC_SUCCESS) (js "Failed to send request") table
  exact ⟨response, _, ran, commit_of_strangers strangers⟩

/-- A search asks a stranger where their name is what it makes of it, and nowhere else. -/
theorem requests_iff :
    Requests plan (asking toLowerCase users requester drawn user.username) table
        ⟨drawn, requester, target, .pending⟩ ↔ Normal toLowerCase user.username := by
  refine ⟨fun requested => ?_, requests_of_normal strangers⟩
  obtain ⟨response, after, ran, written⟩ := requested
  obtain ⟨_, left, ran', cases⟩ :=
    run_post plan toLowerCase users table requester drawn user.username
  rw [ran] at ran'
  obtain ⟨-, rfl⟩ := Prod.mk.inj (Option.some.inj ran')
  rcases cases with kept | ⟨filled, found, search, written'⟩
  · rw [written, length_append, length_singleton] at kept
    omega
  · rw [written] at written'
    obtain rfl : target = found := by
      have same := cons.inj (append_cancel_left written')
      exact congrArg FriendshipRow.addresseeId same.1
    exact ⟨filled, username_of_findUser strangers.listed strangers.named search⟩

end

end Search

/-! ## Runs -/

/-- The names a request may write are what the search makes of them. -/
def Plain (platform : Platform) (request : NameRequest) : Prop :=
  match request with
  | .signUp request =>
      ∀ name ∈ request.name, Normal platform.runtime.toLowerCase name
  | .patchProfile _ _ body =>
      ∀ value ∈ (readJson body).bind (·.get? (js "username")),
        ∀ name ∈ platform.stored value, Normal platform.runtime.toLowerCase name

instance (platform : Platform) : (request : NameRequest) → Decidable (Plain platform request)
  | .signUp request => inferInstanceAs (Decidable (∀ name ∈ request.name, _))
  | .patchProfile _ _ body =>
      inferInstanceAs (Decidable (∀ value ∈ (readJson body).bind (·.get? (js "username")),
        ∀ name ∈ platform.stored value, _))

/-- Every request that comes in writes such names only. -/
def Careful (platform : Platform) (_ : NamePool) : Turn NameCall → Prop
  | .start call => Plain platform call.request
  | .advance _ => True

def careful (platform : Platform) (_ : NamePool) : Turn NameCall → Bool
  | .start call => decide (Plain platform call.request)
  | .advance _ => true

/-- A statement that writes a name writes such a one. -/
def Writes (toLowerCase : JsString → JsString) : SignUps.Statement → Prop
  | .insert row => Normal toLowerCase row.username
  | .rename _ username => Normal toLowerCase username
  | _ => True

section Runs

variable {platform : Platform}

theorem along_onInvites {α : Type} (process : InviteProc α) :
    (onInvites process).Along fun statement _ => Writes platform.runtime.toLowerCase statement := by
  induction process with
  | done result => trivial
  | await statement next ih => exact ⟨trivial, ih⟩

theorem along_signUp {request : SignUp}
    (plain : ∀ name ∈ request.name, Normal platform.runtime.toLowerCase name) :
    (signUp platform.toUpperCase platform.runtime.toLowerCase request).Along fun statement _ =>
      Writes platform.runtime.toLowerCase statement := by
  have inserts : (insertUser platform.runtime.toLowerCase request).Along fun statement _ =>
      Writes platform.runtime.toLowerCase statement := by
    unfold insertUser
    cases named : request.name with
    | none => trivial
    | some username =>
      refine Proc.Along.bind ⟨plain username (named ▸ rfl), fun _ => trivial⟩ fun _ => trivial
  have gated (taken : Bool) : (gate platform.toUpperCase platform.runtime.toLowerCase request
      taken).Along fun statement _ => Writes platform.runtime.toLowerCase statement := by
    unfold gate
    split
    · exact inserts
    · refine Proc.Along.bind (along_onInvites _) fun consumed => ?_
      cases consumed with
      | true => exact inserts
      | false => trivial
  unfold signUp
  refine Proc.Along.bind ⟨trivial, fun _ => trivial⟩ fun count => ?_
  split
  · exact inserts
  · dsimp only
    split
    · exact gated false
    · exact Proc.Along.bind ⟨trivial, fun _ => trivial⟩ fun taken => gated taken

/-- The name that a body sets is the one it has. -/
theorem get?_of_updateValues {body value : Json} {banner : Option JsString}
    (member : (js "username", value) ∈ updateValues body banner) :
    body.get? (js "username") = some value := by
  obtain ⟨⟨key, column⟩, listed, made⟩ := mem_filterMap.mp member
  obtain ⟨set, found, same⟩ := Option.map_eq_some_iff.mp made
  have keys : ∀ entry ∈ allowedKeys, entry.2 = js "username" → entry.1 = js "username" := by decide
  obtain rfl : key = js "username" := keys _ listed (congrArg Prod.fst same)
  obtain rfl : set = value := congrArg Prod.snd same
  rw [if_neg (by decide)] at found
  exact found

theorem updateValues_of_profileUpdate {runtime : Runtime} {body : Json}
    {values : List (JsString × Json)} (asked : profileUpdate runtime body = .ok values) :
    ∃ banner, values = updateValues body banner := by
  unfold profileUpdate at asked
  dsimp only at asked
  split at asked
  · cases asked
  · split at asked
    · cases asked
    · split at asked
      · cases asked
      · exact ⟨_, (Except.ok.inj asked).symm⟩

theorem along_patchProfile {session : Except Unit (Option JsString)} {limited : Bool}
    {body : List UInt8} (plain : Plain platform (.patchProfile session limited body)) :
    (patchProfile platform session limited body).Along fun statement _ =>
      Writes platform.runtime.toLowerCase statement := by
  unfold patchProfile
  split
  · trivial
  · trivial
  · split
    · trivial
    · split
      · trivial
      · trivial
      · rename_i json _ sent
        split
        · trivial
        · rename_i values asked
          unfold updateName
          split
          · trivial
          · rename_i column value search
            split
            · trivial
            · rename_i username stored
              have named : column = js "username" := by simpa using find?_some search
              have found : json.get? (js "username") = some value := by
                obtain ⟨banner, rfl⟩ := updateValues_of_profileUpdate asked
                exact get?_of_updateValues (named ▸ mem_of_find?_eq_some search)
              have normal : Normal platform.runtime.toLowerCase username :=
                plain value (by rw [sent]; exact found) username stored
              refine Proc.Along.bind (Proc.Along.attempt ⟨normal, fun _ => trivial⟩) fun done => ?_
              cases done <;> trivial

theorem along_nameProgram {call : NameCall} (plain : Plain platform call.request) :
    (nameProgram platform call).Along fun statement _ =>
      Writes platform.runtime.toLowerCase statement := by
  unfold nameProgram
  cases asked : call.request with
  | signUp request =>
    rw [asked] at plain
    exact Proc.Along.bind (along_signUp plain) fun _ => trivial
  | patchProfile session limited body =>
    rw [asked] at plain
    exact along_patchProfile plain

/-- The names in a table are what the search makes of them. -/
def Found (toLowerCase : JsString → JsString) (tables : Tables) : Prop :=
  ∀ user ∈ tables.users.rows, Normal toLowerCase user.username

/-- A write keeps them if the rows it writes have such names. -/
theorem Found.commit {toLowerCase : JsString → JsString} {tables : Tables}
    (found : Found toLowerCase tables) {rows : List SignUps.User}
    (normal : ∀ user ∈ rows, Normal toLowerCase user.username) :
    Found toLowerCase (SignUps.commit tables rows).2 := by
  unfold SignUps.commit Users.ofRows?
  split
  · rename_i users valid
    split at valid
    · cases valid
      exact normal
    · cases valid
  · exact found

theorem Found.execute {toLowerCase : JsString → JsString} {tables : Tables}
    (found : Found toLowerCase tables) {statement : SignUps.Statement}
    (writes : Writes toLowerCase statement) :
    Found toLowerCase (SignUps.execute statement tables).2 := by
  cases statement with
  | insert row =>
    apply found.commit
    intro user listed
    rcases mem_append.mp listed with earlier | now
    · exact found user earlier
    · rw [mem_singleton.mp now]
      exact writes
  | rename userId username =>
    apply found.commit
    intro user listed
    obtain ⟨row, earlier, rfl⟩ := mem_map.mp listed
    split
    · exact writes
    · exact found row earlier
  | delete userId =>
    intro user listed
    exact found user (mem_filter.mp listed).1
  | _ => exact found

theorem found_of_reachable {pool : NamePool}
    (reached : (nameSystem platform).Reachable (Careful platform) pool) :
    Found platform.runtime.toLowerCase pool.shared := by
  refine reached.invariant (P := fun pool => Found platform.runtime.toLowerCase pool.shared) ?_ ?_
  · rintro _ ⟨tables, empty, rfl⟩ user listed
    change user ∈ tables.users.rows at listed
    rw [empty] at listed
    cases listed
  · intro before turn after reached found _ moved
    obtain ⟨call, -, rfl⟩ | ⟨index, call, statement, next, answer, tables, -, pending, answered,
      rfl⟩ := Pool.step_cases moved
    · exact found
    · have starts : ∀ pool call, Careful platform pool (.start call) →
          Plain platform call.request := fun _ _ admitted => admitted
      have plain : Plain platform call.request := Pool.calls_of_reachable starts reached pending
      have writes := (Pool.along_of_reachable reached pending (along_nameProgram plain)).1
      unfold nameHandle at answered
      split at answered
      · cases answered
        exact found
      · have left : (SignUps.execute statement before.shared).2 = tables :=
          congrArg Prod.snd (Option.some.inj answered)
        rw [← left]
        exact found.execute writes

theorem careful_sound (pool : NamePool) (turn : Turn NameCall)
    (checked : careful platform pool turn = true) : Careful platform pool turn := by
  cases turn with
  | start call =>
    have plain : Plain platform call.request := of_decide_eq_true checked
    exact plain
  | advance index => trivial

end Runs

/-- A search by the stored name of a stranger asks them and nobody else if and only if the search
makes of the name what it is; in every run that writes such names only it does so for all. -/
theorem found_by_username {platform : Platform} {pool : NamePool} (plan : QueryPlan)
    {table : Friendships} {user : SignUps.User} {requester target : UserId} {drawn : JsString}
    (strangers : Strangers pool.shared.users table user requester target drawn) :
    (Requests plan (asking platform.runtime.toLowerCase pool.shared.users requester drawn
        user.username) table ⟨drawn, requester, target, .pending⟩ ↔
      Normal platform.runtime.toLowerCase user.username) ∧
    ((nameSystem platform).Reachable (Careful platform) pool →
      Requests plan (asking platform.runtime.toLowerCase pool.shared.users requester drawn
        user.username) table ⟨drawn, requester, target, .pending⟩) :=
  ⟨requests_iff strangers, fun guarded =>
    requests_of_normal strangers (found_of_reachable guarded user strangers.listed)⟩

namespace Sample

/-- The lower case of what has ASCII letters only. -/
def lower (text : JsString) : JsString :=
  text.map fun unit => if 65 ≤ unit ∧ unit ≤ 90 then unit + 32 else unit

def platform : Platform where
  runtime := ⟨lower, fun _ => true, fun _ _ => false⟩
  toUpperCase := id
  stored := fun value => Json.string? (some value)

theorem complete_head? (rows : List FriendshipRow) (absent : rows.head? = none) : rows = [] :=
  List.head?_eq_none_iff.mp absent

def plan : QueryPlan where
  first := List.head?
  sound := fun _ _ found => List.mem_of_mem_head? found
  complete := complete_head?

def tables : Tables := ⟨⟨[], List.nodup_nil, List.nodup_nil, List.nodup_nil⟩, .empty⟩

def signUp (name : String) : NameCall where
  request := .signUp ⟨js name, some (js name), some (js name), none, js "t"⟩
  fails := fun _ => false

/-- Two users that both sign up while there are none. -/
def turns (name : String) : List (Turn NameCall) :=
  [.start (signUp name), .start (signUp "bob"), .advance 0, .advance 1, .advance 0, .advance 1]

def run (check : NamePool → Turn NameCall → Bool) (name : String) : Option NamePool :=
  Pool.replay (nameProgram platform) (fun _ => nameHandle) check tables (turns name)

theorem plain_completes : (run (careful platform) "alice").isSome := by decide

theorem mixed_completes : (run System.unchecked "Alice").isSome := by decide

theorem named_alice : js "alice" ≠ [] := by decide

theorem named_bob : js "bob" ≠ [] := by decide

def alice : UserId := ⟨js "alice", named_alice⟩

def mixed : UserId := ⟨js "Alice", by decide⟩

def bob : UserId := ⟨js "bob", named_bob⟩

def plain : NamePool := (run (careful platform) "alice").get plain_completes

def capital : NamePool := (run System.unchecked "Alice").get mixed_completes

theorem plain_reachable : (nameSystem platform).Reachable (Careful platform) plain := by
  refine Pool.reachable_of_replay careful_sound ?_ _
  rfl

theorem capital_reachable : (nameSystem platform).Reachable System.unguarded capital := by
  refine Pool.reachable_of_replay System.unchecked_sound ?_ _
  rfl

def listed (pool : NamePool) (id : UserId) : SignUps.User :=
  (pool.shared.users.rows.find? fun row => row.id = id.val).getD ⟨[], none, []⟩

theorem alice_strangers : Strangers plain.shared.users .empty (listed plain alice) bob alice
    (js "f") where
  listed := by
    have found : (plain.shared.users.rows.find? fun row => row.id = alice.val) =
      some (listed plain alice) := by rfl
    exact mem_of_find?_eq_some found
  named := by decide
  other := by decide
  apart := fun _ none => nomatch none
  fresh := fun _ none => nomatch none

theorem capital_strangers : Strangers capital.shared.users .empty (listed capital mixed) bob mixed
    (js "f") where
  listed := by
    have found : (capital.shared.users.rows.find? fun row => row.id = mixed.val) =
      some (listed capital mixed) := by rfl
    exact mem_of_find?_eq_some found
  named := by decide
  other := by decide
  apart := fun _ none => nomatch none
  fresh := fun _ none => nomatch none

end Sample

theorem alice_is_found :
    Requests Sample.plan (asking Sample.lower Sample.plain.shared.users Sample.bob (js "f")
        (Sample.listed Sample.plain Sample.alice).username) .empty
      ⟨js "f", Sample.bob, Sample.alice, .pending⟩ :=
  (found_by_username Sample.plan Sample.alice_strangers).2 Sample.plain_reachable

/-- A user who has signed up as `Alice` cannot be found. -/
theorem capital_alice_is_lost : ¬ ∀ (platform : Platform) (pool : NamePool),
    (nameSystem platform).Reachable System.unguarded pool →
      ∀ (plan : QueryPlan) (table : Friendships) (user : SignUps.User) (requester target : UserId)
        (drawn : JsString), (∃ row ∈ pool.shared.users.rows, row.id = requester.val) →
        Strangers pool.shared.users table user requester target drawn →
          Requests plan (asking platform.runtime.toLowerCase pool.shared.users requester drawn
            user.username) table ⟨drawn, requester, target, .pending⟩ := by
  intro always
  have requested := always Sample.platform Sample.capital Sample.capital_reachable Sample.plan
    .empty _ Sample.bob Sample.mixed (js "f") ?_ Sample.capital_strangers
  · have normal := (requests_iff Sample.capital_strangers).mp requested
    revert normal
    decide
  · decide

end Vortex.Social.Usernames
