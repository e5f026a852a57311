import Vortex.Accounts.Invites

/-!
# Registration by invite

The hook that runs before a row of `users` is inserted asks for an invite, unless there are
no users yet or the email or the name is taken, in which case the insert is bound to fail.
Sign-ups, changes of names and deletions of accounts interleave statement by statement. An
account is created only after a use of an invite as long as nobody frees the email and the
name of a sign-up that has been told that they are taken (`gated_of_reachable`).
-/

namespace Vortex.Accounts.SignUps

open Foundation List

/-! ## The tables -/

/-- The columns of `users` that a sign-up meets. -/
structure User where
  id : JsString
  email : Option JsString
  username : JsString

/-- The constraints of `users`. Emails that are null do not collide. -/
structure Unique (rows : List User) : Prop where
  ids : (rows.map User.id).Nodup
  emails : (rows.filterMap User.email).Nodup
  usernames : (rows.map User.username).Nodup

structure Users where
  rows : List User
  unique : Unique rows

/-- The rows a statement leaves, unless they break a constraint. -/
def Users.ofRows? (rows : List User) : Option Users :=
  if valid : (rows.map User.id).Nodup ∧ (rows.filterMap User.email).Nodup ∧
      (rows.map User.username).Nodup then
    some ⟨rows, valid.1, valid.2.1, valid.2.2⟩
  else none

def Users.without (users : Users) (userId : JsString) : Users where
  rows := users.rows.filter fun row => row.id ≠ userId
  unique :=
    { ids := users.unique.ids.sublist (List.filter_sublist.map _)
      emails := users.unique.emails.sublist (List.filter_sublist.filterMap _)
      usernames := users.unique.usernames.sublist (List.filter_sublist.map _) }

structure Tables where
  users : Users
  invites : Invites

/-! ## Statements -/

inductive Statement
  | count
  | taken (email username : JsString)
  | invite (statement : InviteStatement)
  | insert (row : User)
  | rename (userId username : JsString)
  | delete (userId : JsString)

def Statement.Result : Statement → Type
  | .count => Nat
  | .taken _ _ => Bool
  | .invite _ => List Invite
  | _ => Unit

abbrev accounts : Interface := ⟨Statement, fun statement => Except StatementError statement.Result⟩

/-- The conditions of `isEmailOrUsernameTaken`. -/
def matchesUser (email username : JsString) (row : User) : Bool :=
  row.email = some email || row.username = username

/-- A write that may break a constraint. -/
def commit (tables : Tables) (rows : List User) : Except StatementError Unit × Tables :=
  match Users.ofRows? rows with
  | some users => (.ok (), { tables with users := users })
  | none => (.error .unique, tables)

def execute : (statement : Statement) → Tables → Except StatementError statement.Result × Tables
  | .count, tables => (.ok tables.users.rows.length, tables)
  | .taken email username, tables =>
      (.ok (tables.users.rows.any (matchesUser email username)), tables)
  | .invite statement, tables =>
      let (answer, invites) := Accounts.execute statement tables.invites
      (answer, { tables with invites := invites })
  | .insert row, tables => commit tables (tables.users.rows ++ [row])
  | .rename userId username, tables => commit tables (tables.users.rows.map fun row =>
      if row.id = userId then { row with username := username } else row)
  | .delete userId, tables => (.ok (), { tables with users := tables.users.without userId })

/-! ## Requests -/

abbrev AccountProc (α : Type) : Type := Proc accounts StatementError α

/-- A statement whose exception is the caller's. -/
def query (statement : Statement) : AccountProc statement.Result :=
  .await statement fun answer => .done answer

/-- The statements on invites are statements. -/
def onInvites {α : Type} : InviteProc α → AccountProc α
  | .done result => .done result
  | .await statement next => .await (.invite statement) fun answer => onInvites (next answer)

/-- What better-auth hands to the hook, where a field that is no text counts as none, the
invite code of the body, the id of the new row and the time. -/
structure SignUp where
  id : JsString
  email : Option JsString
  name : Option JsString
  inviteCode : Option JsString
  nowIso : JsString

inductive Outcome
  | done
  | refused (code message : JsString)

section Programs

variable (toUpperCase toLowerCase : JsString → JsString)

/-- The insert that follows the hook. The column of the name is not null. -/
def insertUser (request : SignUp) : AccountProc Outcome :=
  match request.name with
  | none => throw .other
  | some username => do
      let _ ← query (.insert ⟨request.id, request.email.map toLowerCase, username⟩)
      return .done

def invalidInviteCode : Outcome :=
  .refused (js "invalid_invite_code") (js "A valid invite code is required to create an account.")

/-- The code is required and consumed where the account does not exist. -/
def gate (request : SignUp) (alreadyExists : Bool) : AccountProc Outcome :=
  if alreadyExists then insertUser toLowerCase request
  else do
    let consumed ← onInvites
      (consumeInviteCode toUpperCase (request.inviteCode.getD []) request.nowIso)
    if consumed then insertUser toLowerCase request else return invalidInviteCode

/-- `databaseHooks.user.create.before`, and the insert. -/
def signUp (request : SignUp) : AccountProc Outcome := do
  let count : Nat ← query .count
  if count = 0 then insertUser toLowerCase request
  else
    let email := (request.email.map toLowerCase).getD []
    let username := request.name.getD []
    if email.isEmpty || username.isEmpty then gate toUpperCase toLowerCase request false
    else do
      let alreadyExists : Bool ← query (.taken email username)
      gate toUpperCase toLowerCase request alreadyExists

inductive Route
  | signUp (request : SignUp)
  | rename (userId username : JsString)
  | delete (userId : JsString)

structure Call where
  route : Route
  fails : Statement → Bool

def program (call : Call) : AccountProc Outcome :=
  match call.route with
  | .signUp request => signUp toUpperCase toLowerCase request
  | .rename userId username => do
      let _ ← query (.rename userId username)
      return .done
  | .delete userId => do
      let _ ← query (.delete userId)
      return .done

end Programs

def accountHandle (call : Call) : Handler accounts Tables := fun statement tables =>
  if call.fails statement then some (.error .other, tables) else some (execute statement tables)

abbrev AccountPool : Type := Pool accounts StatementError Outcome Call Tables

/-- Every interleaving of any number of requests, from the given contents of the tables. -/
def accountSystem (toUpperCase toLowerCase : JsString → JsString) (initial : Tables → Prop) :
    System AccountPool (Turn Call) :=
  Pool.system initial (program toUpperCase toLowerCase) fun _ => accountHandle

/-! ## What a sign-up has asked -/

abbrev Exchanges : Type := List (Proc.Exchange accounts)

/-- A user has been created. -/
def inserts : Proc.Exchange accounts → Bool
  | ⟨.insert _, .ok _⟩ => true
  | _ => false

/-- An insert has been tried. -/
def tries : Proc.Exchange accounts → Bool
  | ⟨.insert _, _⟩ => true
  | _ => false

/-- An invite has been used. -/
def consumes : Proc.Exchange accounts → Bool
  | ⟨.invite (.consume _ _), .ok (_ :: _)⟩ => true
  | _ => false

/-- There were no users. -/
def Bootstraps (seen : Exchanges) : Prop := ⟨.count, .ok (0 : Nat)⟩ ∈ seen

/-- The email and the name of a row were taken, one of them at least. -/
def Told (seen : Exchanges) : Prop := ∃ email username, ⟨.taken email username, .ok true⟩ ∈ seen

/-- A process tries to insert once, as the first user, after a use of an invite, or what it has been
told is taken, and then at once. -/
def Justified (seen : Exchanges) (statement : Statement) : Prop :=
  (∀ exchange ∈ seen, tries exchange = false) ∧
    match statement with
    | .insert row => (Bootstraps seen ∨ Told seen ∨ ∃ exchange ∈ seen, consumes exchange = true) ∧
        ∀ email username, ⟨.taken email username, .ok true⟩ ∈ seen →
          row.email = some email ∧ row.username = username
    | _ => ¬ Told seen

abbrev Asks {α : Type} (process : AccountProc α) (seen : Exchanges) : Prop :=
  process.Obeys (.recorder (fun _ => true) Justified) (fun _ _ => True) seen

section Asking

variable {toUpperCase toLowerCase : JsString → JsString} {seen : Exchanges} {request : SignUp}

theorem asks_query {statement : Statement} {next : statement.Result → AccountProc Outcome}
    (justified : Justified seen statement)
    (rest : ∀ value, Asks (next value) (seen ++ [⟨statement, .ok value⟩])) :
    Asks (query statement >>= next) seen := by
  refine ⟨justified, fun answer => ?_⟩
  cases answer with
  | error error => trivial
  | ok value => exact rest value

theorem asks_insertUser (unwritten : ∀ exchange ∈ seen, tries exchange = false)
    (admitted : Bootstraps seen ∨ Told seen ∨ ∃ exchange ∈ seen, consumes exchange = true)
    (named : ∀ email username, ⟨.taken email username, .ok true⟩ ∈ seen →
      request.email.map toLowerCase = some email ∧ request.name = some username) :
    Asks (insertUser toLowerCase request) seen := by
  unfold insertUser
  split
  · trivial
  · rename_i username given
    refine asks_query ⟨unwritten, admitted, fun email name told => ?_⟩ fun _ => trivial
    obtain ⟨same, sameName⟩ := named email name told
    exact ⟨same, Option.some.inj (given.symm.trans sameName)⟩

/-- Who has not been told that the account exists consumes an invite. -/
theorem asks_gate_false (unwritten : ∀ exchange ∈ seen, tries exchange = false)
    (untold : ¬ Told seen) : Asks (gate toUpperCase toLowerCase request false) seen := by
  unfold gate
  rw [if_neg Bool.false_ne_true, consumeInviteCode]
  split
  · trivial
  · refine ⟨⟨unwritten, untold⟩, fun answer => ?_⟩
    rcases answer with _ | _ | ⟨invite, rest⟩
    · trivial
    · trivial
    · refine asks_insertUser ?_ (.inr (.inr ⟨_, mem_append_right _ mem_cons_self, rfl⟩)) ?_
      · intro exchange member
        rcases mem_append.mp member with early | last
        · exact unwritten exchange early
        · rw [mem_singleton.mp last]
          rfl
      · intro email username told
        rcases mem_append.mp told with early | last
        · exact (untold ⟨email, username, early⟩).elim
        · cases mem_singleton.mp last

theorem some_of_getD_ne_nil {text : Option JsString} (given : text.getD [] ≠ []) :
    text = some (text.getD []) := by
  cases text with
  | none => exact (given rfl).elim
  | some text => rfl

theorem asks_signUp (request : SignUp) : Asks (signUp toUpperCase toLowerCase request) [] := by
  have nothing : ∀ exchange ∈ ([] : Exchanges), tries exchange = false :=
    fun _ none => (not_mem_nil none).elim
  have silent : ¬ Told [] := fun ⟨_, _, told⟩ => not_mem_nil told
  refine asks_query ⟨nothing, silent⟩ fun count => ?_
  have counted : ∀ exchange ∈ ([⟨.count, .ok count⟩] : Exchanges), tries exchange = false := by
    intro exchange member
    rw [mem_singleton.mp member]
    rfl
  have untold : ¬ Told [⟨.count, .ok count⟩] := by
    rintro ⟨email, username, told⟩
    cases mem_singleton.mp told
  dsimp only
  split
  · rename_i first
    refine asks_insertUser counted (.inl ?_) fun email username told => (untold ⟨_, _, told⟩).elim
    subst first
    exact mem_singleton_self _
  · split
    · exact asks_gate_false counted untold
    · rename_i given
      refine asks_query ⟨counted, untold⟩ fun taken => ?_
      have unwritten : ∀ exchange ∈ ([⟨.count, .ok count⟩] ++ [⟨.taken _ _, .ok taken⟩] : Exchanges),
          tries exchange = false := by
        intro exchange member
        rcases mem_append.mp member with early | last
        · exact counted exchange early
        · rw [mem_singleton.mp last]
          rfl
      cases taken with
      | false =>
        refine asks_gate_false unwritten ?_
        rintro ⟨email, username, told⟩
        rcases mem_append.mp told with early | last
        · exact untold ⟨email, username, early⟩
        · cases mem_singleton.mp last
      | true =>
        refine asks_insertUser unwritten (.inr (.inl ⟨_, _, mem_append_right _ mem_cons_self⟩)) ?_
        intro email username told
        rcases mem_append.mp told with early | last
        · exact (untold ⟨email, username, early⟩).elim
        · cases mem_singleton.mp last
          rw [Bool.or_eq_true, List.isEmpty_iff, List.isEmpty_iff, not_or] at given
          exact ⟨some_of_getD_ne_nil given.1, some_of_getD_ne_nil given.2⟩

theorem asks_program (call : Call) : Asks (program toUpperCase toLowerCase call) [] := by
  have nothing : ∀ exchange ∈ ([] : Exchanges), tries exchange = false :=
    fun _ none => (not_mem_nil none).elim
  have silent : ¬ Told [] := fun ⟨_, _, told⟩ => not_mem_nil told
  unfold program
  split
  · exact asks_signUp _
  · exact asks_query ⟨nothing, silent⟩ fun _ => trivial
  · exact asks_query ⟨nothing, silent⟩ fun _ => trivial

end Asking

/-! ## Runs -/

/-- Some user has the email or the name of a row. -/
def Users.Conflicts (users : Users) (row : User) : Prop :=
  ∃ email, row.email = some email ∧ users.rows.any (matchesUser email row.username) = true

/-- Somebody has an account. -/
def Populated (pool : AccountPool) : Prop := pool.shared.users.rows ≠ []

/-- Whatever a statement changes in accounts that exist. -/
def Statement.Alters : Statement → Prop
  | .rename _ _ | .delete _ => True
  | _ => False

/-- No change of a name and no deletion frees the email and the name of a sign-up that has
been told that they are taken and has yet to insert. -/
def Kept (pool : AccountPool) : Turn Call → Prop
  | .start _ => True
  | .advance index =>
      ∀ call statement next, pool.threads[index]? = some ⟨call, .await statement next⟩ →
      statement.Alters → ∀ other waiting row rest,
      pool.threads[other]? = some ⟨waiting, .await (.insert row) rest⟩ →
      Told (Pool.exchanges pool.history other) → pool.shared.users.Conflicts row →
      (execute statement pool.shared).2.users.Conflicts row

/-- The runs in which somebody has an account throughout. -/
def Inhabited (pool : AccountPool) (_ : Turn Call) : Prop := Populated pool

/-- Those in which, besides, what is taken stays taken. -/
def Careful (pool : AccountPool) (turn : Turn Call) : Prop := Populated pool ∧ Kept pool turn

def exchangeOf (event : Event accounts Call) : Proc.Exchange accounts :=
  ⟨event.request, event.answer⟩

/-- Every user that was created was preceded by a use of an invite of the same request, so
that no more users were created than uses of invites were consumed. -/
structure Gated (pool : AccountPool) : Prop where
  preceded : ∀ recent event earlier, pool.history = recent ++ event :: earlier →
    inserts (exchangeOf event) = true →
    ∃ other ∈ earlier, other.thread = event.thread ∧ consumes (exchangeOf other) = true
  counted : (pool.history.filter fun event => inserts (exchangeOf event)).length ≤
    (pool.history.filter fun event => consumes (exchangeOf event)).length

section Runs

variable {toUpperCase toLowerCase : JsString → JsString} {initial : Tables → Prop}
  {guard : AccountPool → Turn Call → Prop} {pool : AccountPool}

theorem accountHandle_cases {call : Call} {statement : Statement} {before after : Tables}
    {answer : Except StatementError statement.Result}
    (answered : accountHandle call statement before = some (answer, after)) :
    (answer = .error .other ∧ after = before) ∨ execute statement before = (answer, after) := by
  unfold accountHandle at answered
  split at answered
  · cases answered
    exact .inl ⟨rfl, rfl⟩
  · exact .inr (Option.some.inj answered)

/-- A row that conflicts is not inserted. -/
theorem commit_of_conflicts {tables : Tables} {row : User}
    (conflicts : tables.users.Conflicts row) :
    commit tables (tables.users.rows ++ [row]) = (.error .unique, tables) := by
  obtain ⟨email, mine, taken⟩ := conflicts
  obtain ⟨stored, present, matched⟩ := any_eq_true.mp taken
  have invalid : ¬ ((((tables.users.rows ++ [row]).map User.id).Nodup ∧
      ((tables.users.rows ++ [row]).filterMap User.email).Nodup ∧
        ((tables.users.rows ++ [row]).map User.username).Nodup)) := by
    rintro ⟨-, emails, usernames⟩
    rw [matchesUser, Bool.or_eq_true, decide_eq_true_eq, decide_eq_true_eq] at matched
    rcases matched with same | same
    · rw [filterMap_append, nodup_append] at emails
      refine emails.2.2 email (mem_filterMap.mpr ⟨stored, present, same⟩) email ?_ rfl
      exact mem_filterMap.mpr ⟨row, mem_singleton_self row, mine⟩
    · rw [map_append, nodup_append] at usernames
      refine usernames.2.2 stored.username (mem_map_of_mem present) row.username ?_ same
      exact mem_map_of_mem (mem_singleton_self row)
  rw [commit, Users.ofRows?, dif_neg invalid]

theorem commit_rows {tables after : Tables} {rows : List User} {answer : Except StatementError Unit}
    (committed : commit tables rows = (answer, after)) :
    after.users.rows = tables.users.rows ∨ after.users.rows = rows := by
  unfold commit at committed
  split at committed
  · rename_i users valid
    unfold Users.ofRows? at valid
    split at valid
    · cases valid
      cases committed
      exact .inr rfl
    · cases valid
  · cases committed
    exact .inl rfl

/-- What is taken stays taken where no account is altered. -/
theorem conflicts_of_execute {statement : Statement} {before after : Tables} {row : User}
    {answer : Except StatementError statement.Result} (unaltered : ¬ statement.Alters)
    (executed : execute statement before = (answer, after))
    (conflicts : before.users.Conflicts row) : after.users.Conflicts row := by
  obtain ⟨email, mine, taken⟩ := conflicts
  refine ⟨email, mine, ?_⟩
  cases statement with
  | count =>
    cases executed
    exact taken
  | taken email username =>
    cases executed
    exact taken
  | invite statement =>
    cases executed
    exact taken
  | insert other =>
    rcases commit_rows executed with same | same
    · rwa [same]
    · rw [same, any_append, taken, Bool.true_or]
  | rename userId username => exact (unaltered trivial).elim
  | delete userId => exact (unaltered trivial).elim

/-- While somebody has an account nobody signs up as the first user. -/
theorem not_bootstraps (populated : ∀ pool turn, guard pool turn → Populated pool)
    (reached : (accountSystem toUpperCase toLowerCase initial).Reachable guard pool) (index : Nat) :
    ¬ Bootstraps (Pool.exchanges pool.history index) := by
  refine reached.invariant (P := fun pool => ¬ Bootstraps (Pool.exchanges pool.history index)) ?_ ?_
  · rintro _ ⟨tables, -, rfl⟩
    exact not_mem_nil
  · intro before turn after _ ih admitted moved boots
    rcases Pool.exchanges_step_cases moved boots with early | ⟨call, next, -, -, answered⟩
    · exact ih early
    · rcases accountHandle_cases answered with ⟨failed, -⟩ | executed
      · cases failed
      · have none : before.shared.users.rows.length = 0 :=
          Except.ok.inj (congrArg Prod.fst executed)
        exact populated before turn admitted (length_eq_zero_iff.mp none)

section

variable (reached : (accountSystem toUpperCase toLowerCase initial).Reachable Careful pool)

include reached

/-- A sign-up that has been told that its email or name is taken cannot insert. -/
theorem conflicts_of_told {index : Nat} {call : Call} {row : User}
    {next : Except StatementError Unit → AccountProc Outcome}
    (waits : pool.threads[index]? = some ⟨call, .await (.insert row) next⟩)
    (told : Told (Pool.exchanges pool.history index)) : pool.shared.users.Conflicts row := by
  revert index call row
  refine reached.invariant (P := fun pool => ∀ {index call row next},
    pool.threads[index]? = some ⟨call, .await (.insert row) next⟩ →
    Told (Pool.exchanges pool.history index) → pool.shared.users.Conflicts row) ?_ ?_
  · rintro _ ⟨tables, -, rfl⟩ index call row next waits
    cases waits
  · intro before turn after reached ih admitted moved index call row next waits told
    have justified := Pool.justified_of_pending (reached.step admitted moved) waits
      (asks_program call)
    rcases Pool.waited_of_step moved waits with earlier | ⟨absent, silent⟩ |
      ⟨statement, answer, rest, -, pending, answered, seen⟩
    · obtain ⟨email, username, taken⟩ := told
      have toldBefore : Told (Pool.exchanges before.history index) := by
        rcases Pool.exchanges_step_cases moved taken with issued | ⟨_, _, -, other, -⟩
        · exact ⟨email, username, issued⟩
        · rw [earlier] at other
          cases other
      have conflicts := ih earlier toldBefore
      obtain ⟨started, -, rfl⟩ | ⟨moving, caller, statement, rest, answer, shared, rfl, found,
        answered, rfl⟩ := Pool.step_cases moved
      · exact conflicts
      · rcases accountHandle_cases answered with ⟨-, same⟩ | executed
        · rw [same]
          exact conflicts
        · by_cases alters : statement.Alters
          · have kept := admitted.2 caller statement rest found alters index call row next earlier
              toldBefore conflicts
            rw [executed] at kept
            exact kept
          · exact conflicts_of_execute alters executed conflicts
    · obtain ⟨email, username, taken⟩ := told
      rw [silent, Pool.exchanges_eq_nil reached absent] at taken
      exact (not_mem_nil taken).elim
    · -- the insert follows the answer that the account exists
      have unwritten : ∀ row, statement ≠ .insert row := by
        rintro other rfl
        have tried := justified.1 ⟨.insert other, answer⟩
        rw [seen] at tried
        cases tried (mem_append_right _ (mem_singleton_self _))
      have untold : ¬ Told (Pool.exchanges before.history index) := by
        have earlier := (Pool.justified_of_pending reached pending (asks_program call)).2
        cases statement with
        | insert other => exact (unwritten other rfl).elim
        | _ => exact earlier
      obtain ⟨email, username, taken⟩ := told
      have named := justified.2.2 email username taken
      rw [seen] at taken
      rcases mem_append.mp taken with early | last
      · exact (untold ⟨email, username, early⟩).elim
      · cases mem_singleton.mp last
        rcases accountHandle_cases answered with ⟨failed, -⟩ | executed
        · cases failed
        · refine ⟨email, named.1, ?_⟩
          have same : before.shared = after.shared := congrArg Prod.snd executed
          rw [named.2, ← same]
          exact Except.ok.inj (congrArg Prod.fst executed)

/-- Whoever creates a user has used an invite. -/
theorem consumed_of_inserted {index : Nat} {call : Call} {row : User}
    {next : Except StatementError Unit → AccountProc Outcome}
    (waits : pool.threads[index]? = some ⟨call, .await (.insert row) next⟩) {after : Tables}
    (answered : accountHandle call (.insert row) pool.shared = some (.ok (), after)) :
    ∃ event ∈ pool.history, event.thread = index ∧ consumes (exchangeOf event) = true := by
  have justified := Pool.justified_of_pending reached waits (asks_program call)
  rcases justified.2.1 with boots | told | ⟨exchange, issued, consumed⟩
  · exact (not_bootstraps (fun _ _ careful => careful.1) reached index boots).elim
  · have conflicts := conflicts_of_told reached waits told
    rcases accountHandle_cases answered with ⟨failed, -⟩ | executed
    · cases failed
    · have refused : execute (.insert row) pool.shared = (.error .unique, pool.shared) :=
        commit_of_conflicts conflicts
      rw [refused] at executed
      cases executed
  · obtain ⟨event, recorded, mine, rfl⟩ := Pool.mem_exchanges.mp issued
    exact ⟨event, recorded, mine, consumed⟩

end

theorem tries_of_inserts {exchange : Proc.Exchange accounts} (inserted : inserts exchange = true) :
    tries exchange = true := by
  rcases exchange with ⟨statement, answer⟩
  cases statement with
  | insert row => rfl
  | _ => cases inserted

/-- Created users, in the order of the history, belong to different requests, each of which has
used an invite before. -/
structure Preceded (history : List (Event accounts Call)) : Prop where
  before : ∀ recent event earlier, history = recent ++ event :: earlier →
    inserts (exchangeOf event) = true →
    ∃ other ∈ earlier, other.thread = event.thread ∧ consumes (exchangeOf other) = true
  once : ((history.filter fun event => inserts (exchangeOf event)).map Event.thread).Nodup

theorem preceded_of_reachable
    (reached : (accountSystem toUpperCase toLowerCase initial).Reachable Careful pool) :
    Preceded pool.history := by
  refine reached.invariant (P := fun pool => Preceded pool.history) ?_ ?_
  · rintro _ ⟨tables, -, rfl⟩
    refine ⟨fun recent event earlier split => ?_, nodup_nil⟩
    exact absurd split.symm (append_ne_nil_of_right_ne_nil recent (by simp))
  · intro before turn after reached ih admitted moved
    obtain ⟨started, -, rfl⟩ | ⟨index, call, statement, next, answer, shared, -, waits, answered,
      rfl⟩ := Pool.step_cases moved
    · exact ih
    · cases created : inserts ⟨statement, answer⟩ with
      | false =>
        constructor
        · intro recent event earlier split inserted
          rcases cons_eq_append_iff.mp split with ⟨-, same⟩ | ⟨more, -, same⟩
          · cases (cons.inj same).1
            cases created.symm.trans inserted
          · exact ih.before more event earlier same inserted
        · rw [filter_cons_of_neg (by rw [Bool.not_eq_true]; exact created)]
          exact ih.once
      | true =>
        cases statement with
        | insert row =>
          cases answer with
          | error error => cases created
          | ok value =>
            obtain ⟨used, recorded, mine, consumed⟩ :=
              consumed_of_inserted reached waits answered
            constructor
            · intro recent event earlier split inserted
              rcases cons_eq_append_iff.mp split with ⟨-, same⟩ | ⟨more, -, same⟩
              · obtain ⟨rfl, rfl⟩ := cons.inj same
                exact ⟨used, recorded, mine, consumed⟩
              · exact ih.before more event earlier same inserted
            · have extended : ((⟨index, call, .insert row, .ok value⟩ :: before.history).filter
                  fun event : Event accounts Call => inserts (exchangeOf event)) =
                    ⟨index, call, .insert row, .ok value⟩ ::
                      before.history.filter fun event => inserts (exchangeOf event) :=
                filter_cons_of_pos created
              rw [extended, map_cons, nodup_cons]
              refine ⟨fun again => ?_, ih.once⟩
              -- who waits to insert has not tried to before
              obtain ⟨event, listed, same⟩ := mem_map.mp again
              obtain ⟨recorded, inserted⟩ := mem_filter.mp listed
              have untried := (Pool.justified_of_pending reached waits (asks_program call)).1
                (exchangeOf event) (Pool.mem_exchanges.mpr ⟨event, recorded, same, rfl⟩)
              rw [tries_of_inserts inserted] at untried
              cases untried
        | _ => cases created

/-- While somebody has an account, and nobody frees what a sign-up has been told is taken, every
user is created after a use of an invite of the same sign-up. -/
theorem gated_of_reachable
    (reached : (accountSystem toUpperCase toLowerCase initial).Reachable Careful pool) :
    Gated pool := by
  have preceded := preceded_of_reachable reached
  refine ⟨preceded.before, ?_⟩
  have covered : (pool.history.filter fun event => inserts (exchangeOf event)).map Event.thread ⊆
      (pool.history.filter fun event => consumes (exchangeOf event)).map Event.thread := by
    intro index member
    obtain ⟨event, listed, rfl⟩ := List.mem_map.mp member
    obtain ⟨recorded, inserted⟩ := List.mem_filter.mp listed
    obtain ⟨recent, earlier, split⟩ := List.append_of_mem recorded
    obtain ⟨other, before, same, consumed⟩ := preceded.before recent event earlier split inserted
    refine List.mem_map.mpr ⟨other, List.mem_filter.mpr ⟨?_, consumed⟩, same⟩
    rw [split]
    exact List.mem_append_right _ (List.mem_cons_of_mem _ before)
  have fewer := (List.subperm_of_subset preceded.once covered).length_le
  rwa [List.length_map, List.length_map] at fewer

end Runs

namespace Sample

def capitals (text : JsString) : JsString :=
  text.map fun unit => if 97 ≤ unit && unit ≤ 122 then unit - 32 else unit

/-- One user, and an invite. -/
def tables : Tables where
  users := ⟨[⟨js "u1", some (js "a@x"), js "alice"⟩], ⟨by decide, by decide, by decide⟩⟩
  invites := ⟨⟨[⟨js "i", js "CODE1", some (js "u1"), 1, 0, none, none⟩], by decide⟩, by decide⟩

def signsUp (username : String) (inviteCode : Option JsString) : Call where
  route := .signUp ⟨js "u2", some (js "b@x"), some (js username), inviteCode, js "t"⟩
  fails _ := false

def renames : Call := ⟨.rename (js "u1") (js "alicia"), fun _ => false⟩

def run (check : AccountPool → Turn Call → Bool) (turns : List (Turn Call)) : Option AccountPool :=
  System.follow check (Pool.turn (program capitals id) fun _ => accountHandle)
    (Pool.fresh tables) turns

/-- Somebody has an account, and the turn alters none. -/
def careful (pool : AccountPool) (turn : Turn Call) : Bool :=
  !pool.shared.users.rows.isEmpty &&
    match turn with
    | .start _ => true
    | .advance index =>
        match pool.threads[index]? with
        | some ⟨_, .await (.rename _ _) _⟩ => false
        | some ⟨_, .await (.delete _) _⟩ => false
        | _ => true

theorem careful_sound (pool : AccountPool) (turn : Turn Call) (checked : careful pool turn = true) :
    Careful pool turn := by
  obtain ⟨some, unaltered⟩ := Bool.and_eq_true_iff.mp checked
  refine ⟨fun none => ?_, ?_⟩
  · rw [none] at some
    cases some
  · cases turn with
    | start call => trivial
    | advance index =>
      intro call statement next found alters
      dsimp only at unaltered
      rw [found] at unaltered
      cases statement with
      | rename userId username => cases unaltered
      | delete userId => cases unaltered
      | _ => cases alters

/-- A sign-up with an invite. -/
def invited : AccountPool :=
  (run careful [.start (signsUp "bob" (some (js "code1"))), .advance 0, .advance 0, .advance 0,
    .advance 0]).get (by decide)

theorem invited_reachable : (accountSystem capitals id (· = tables)).Reachable Careful invited :=
  System.reachable_of_follow careful_sound ⟨tables, rfl, rfl⟩ _

def inhabited (pool : AccountPool) (_ : Turn Call) : Bool := !pool.shared.users.rows.isEmpty

theorem inhabited_sound (pool : AccountPool) (turn : Turn Call)
    (checked : inhabited pool turn = true) : Inhabited pool turn := by
  intro none
  rw [inhabited, none] at checked
  cases checked

/-- A sign-up under a name that is taken, until its user takes another one. -/
def uninvited : AccountPool :=
  (run inhabited [.start (signsUp "alice" none), .advance 0, .advance 0, .start renames, .advance 1,
    .advance 0]).get (by decide)

theorem uninvited_reachable :
    (accountSystem capitals id (· = tables)).Reachable Inhabited uninvited :=
  System.reachable_of_follow inhabited_sound ⟨tables, rfl, rfl⟩ _

end Sample

theorem invited_gated : Gated Sample.invited := gated_of_reachable Sample.invited_reachable

theorem uninvited_ungated : ∃ pool, (accountSystem Sample.capitals id (· = Sample.tables)).Reachable
    Inhabited pool ∧ ¬ Gated pool := by
  refine ⟨_, Sample.uninvited_reachable, fun gated => ?_⟩
  have more : ¬ (Sample.uninvited.history.filter fun event => inserts (exchangeOf event)).length ≤
      (Sample.uninvited.history.filter fun event => consumes (exchangeOf event)).length := by
    decide
  exact more gated.counted

end Vortex.Accounts.SignUps
