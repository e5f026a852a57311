import Vortex.Social.Friends

/-!
# How long a block lasts

A row that records a block can be deleted by the user it blocks, and a request that read
the row before the block can still write it afterwards. In the runs without such writes
a block lasts until its own author removes it.
-/

namespace Vortex.Social

open Foundation

/-! ## What the routes write -/

/-- An update that leaves a row between the two users of a row between them. -/
def FriendshipSet.Keeps (set : FriendshipSet) (row : FriendshipRow) : Prop :=
  ∀ stored : FriendshipRow, stored.Links row.requesterId row.addresseeId →
    (set.apply stored).Links row.requesterId row.addresseeId

/-- A process that blocks has read the row it writes. -/
def Informed (seen : List (Proc.Exchange friends)) : Statement → Prop
  | .update id set => set.status = .blocked →
      ∃ row, (⟨.selectById id, .ok (some row)⟩ : Proc.Exchange friends) ∈ seen ∧ set.Keeps row
  | _ => True

/-- Only an update that blocks changes the users of a row. -/
def Statement.Straight : Statement → Prop
  | .update _ set => set.status ≠ .blocked → set.requesterId = none ∧ set.addresseeId = none
  | _ => True

def Grounded (seen : List (Proc.Exchange friends)) (statement : Statement) : Prop :=
  Informed seen statement ∧ statement.Straight

abbrev grounding : Monitor friends (List (Proc.Exchange friends)) :=
  .recorder (fun _ => true) Grounded

section Programs

variable {seen : List (Proc.Exchange friends)} {done : HttpResponse} {failure : JsString}

/-- A process that issues only grounded statements. -/
abbrev IsGrounded (process : FriendsProc) (seen : List (Proc.Exchange friends)) : Prop :=
  process.Obeys grounding (fun _ _ => True) seen

theorem grounded_attempt (write : Statement) {answers : friends.Answer write → Bool}
    (grounded : Grounded seen write) :
    IsGrounded (attempt (.await write fun answer => .done (.ok (answers answer))) done failure)
      seen := by
  refine ⟨grounded, fun answer => ?_⟩
  change IsGrounded (if answers answer = true then return done else return .error 500 failure) _
  split
  · trivial
  · trivial

theorem grounded_insert (row : FriendshipRow) : IsGrounded (insert row done failure) seen :=
  grounded_attempt (.insert row) ⟨trivial, trivial⟩

theorem grounded_update {id : JsString} {set : FriendshipSet}
    (grounded : Grounded seen (.update id set)) :
    IsGrounded (update id set done failure) seen :=
  grounded_attempt (.update id set) grounded

theorem grounded_delete (id : JsString) : IsGrounded (delete id done failure) seen :=
  grounded_attempt (.delete id) ⟨trivial, trivial⟩

theorem grounded_accept (id : JsString) :
    IsGrounded (update id { status := .accepted } done failure) seen :=
  grounded_update ⟨nofun, fun _ => ⟨rfl, rfl⟩⟩

theorem grounded_request (user target : UserId) (drawn : JsString)
    (existing : Option FriendshipRow) : IsGrounded (request user target drawn existing) seen := by
  cases existing with
  | none => exact grounded_insert _
  | some existing =>
    unfold request
    dsimp only
    cases existing.status with
    | accepted => trivial
    | blocked => trivial
    | pending =>
      dsimp only
      split
      · exact grounded_accept _
      · trivial

theorem grounded_post (surroundings : Surroundings) (user : UserId) (username : Option JsString) :
    IsGrounded (POST surroundings user username) seen := by
  unfold POST
  split
  · trivial
  · split
    · trivial
    · split
      · trivial
      · split
        · trivial
        · trivial
        · split
          · trivial
          · refine ⟨⟨trivial, trivial⟩, fun answer => ?_⟩
            cases answer with
            | error _ => trivial
            | ok existing => exact grounded_request _ _ _ _

/-- Either way of blocking leaves the row between its two users. -/
theorem grounded_act {user : UserId} {id action : JsString} {row : FriendshipRow}
    (read : (⟨.selectById id, .ok (some row)⟩ : Proc.Exchange friends) ∈ seen)
    (involved : row.requesterId = user ∨ row.addresseeId = user) :
    IsGrounded (act user id action row) seen := by
  unfold act
  split
  · split
    · trivial
    · exact grounded_accept _
  · split
    · split
      · trivial
      · exact grounded_delete _
    · split
      · split
        · exact grounded_update
            ⟨fun _ => ⟨row, read, fun stored linked => linked⟩, fun other => absurd rfl other⟩
        · rename_i other
          have addressee := involved.resolve_left other
          exact grounded_update ⟨fun _ => ⟨row, read, fun stored _ => .inr ⟨addressee.symm, rfl⟩⟩,
              fun other => absurd rfl other⟩
      · trivial

theorem grounded_withInvolved {user : UserId} {id : JsString} {next : FriendshipRow → FriendsProc}
    (grounded : ∀ row seen, (⟨.selectById id, .ok (some row)⟩ : Proc.Exchange friends) ∈ seen →
      row.requesterId = user ∨ row.addresseeId = user → IsGrounded (next row) seen) :
    IsGrounded (withInvolved user id next) seen := by
  refine ⟨⟨trivial, trivial⟩, fun answer => ?_⟩
  rcases answer with _ | _ | row
  · trivial
  · trivial
  · change IsGrounded (if row.requesterId = user ∨ row.addresseeId = user then next row
      else return .error 403 (js "Forbidden")) _
    split
    · rename_i involved
      exact grounded row _ (List.mem_append_right _ (List.mem_singleton.mpr rfl)) involved
    · trivial

theorem grounded_program (call : FriendsCall) : IsGrounded (program call) [] := by
  unfold program
  split
  · trivial
  · split
    · exact grounded_post _ _ _
    · unfold PATCH
      split
      · exact grounded_withInvolved fun row seen read involved => grounded_act read involved
      · trivial
    · unfold DELETE
      split
      · trivial
      · exact grounded_withInvolved fun _ _ _ _ => grounded_delete _

end Programs

/-! ## What the statements do -/

/-- What a statement leaves behind: the table as it was, or with the write it asked for. -/
theorem handle_cases {plan : QueryPlan} {call : FriendsCall} {statement : Statement}
    {before after : Friendships} {answer : friends.Answer statement}
    (answered : handle plan call statement before = some (answer, after)) :
    (after = before ∧ ∀ id set,
        (⟨statement, answer⟩ : Proc.Exchange friends) ≠ ⟨.update id set, true⟩) ∨
      (∃ row, statement = .insert row ∧ after.rows = before.rows ++ [row]) ∨
      (∃ id set, statement = .update id set ∧ after.rows = updateWhere id set before.rows) ∨
      ∃ id, statement = .delete id ∧ after.rows = deleteWhere id before.rows := by
  unfold handle at answered
  split at answered
  · left
    cases answered
    refine ⟨rfl, fun id set same => ?_⟩
    cases statement with
    | update id set => exact Bool.false_ne_true (eq_of_heq (Sigma.mk.inj same).2)
    | _ => cases (Sigma.mk.inj same).1
  · have effect := Option.some.inj answered
    cases statement with
    | selectPair left right =>
      left
      cases effect
      exact ⟨rfl, fun _ _ same => nomatch (Sigma.mk.inj same).1⟩
    | selectById id =>
      left
      cases effect
      exact ⟨rfl, fun _ _ same => nomatch (Sigma.mk.inj same).1⟩
    | insert row =>
      change before.commit _ = (answer, after) at effect
      rcases before.commit_cases (before.rows ++ [row]) with ⟨-, written⟩ | ⟨-, kept⟩
      · rw [effect] at written
        exact .inr (.inl ⟨row, rfl, written⟩)
      · rw [effect] at kept
        exact .inl ⟨kept, fun _ _ same => nomatch (Sigma.mk.inj same).1⟩
    | update id set =>
      change before.commit _ = (answer, after) at effect
      rcases before.commit_cases (updateWhere id set before.rows) with
        ⟨-, written⟩ | ⟨failed, kept⟩
      · rw [effect] at written
        exact .inr (.inr (.inl ⟨id, set, rfl, written⟩))
      · rw [effect] at failed kept
        refine .inl ⟨kept, fun id' set' same => ?_⟩
        cases (Sigma.mk.inj same).1
        exact Bool.false_ne_true (failed.symm.trans (eq_of_heq (Sigma.mk.inj same).2))
    | delete id =>
      change before.commit _ = (answer, after) at effect
      rcases before.commit_cases (deleteWhere id before.rows) with ⟨-, written⟩ | ⟨-, kept⟩
      · rw [effect] at written
        exact .inr (.inr (.inr ⟨id, rfl, written⟩))
      · rw [effect] at kept
        exact .inl ⟨kept, fun _ _ same => nomatch (Sigma.mk.inj same).1⟩

theorem mem_updateWhere (id : JsString) (set : FriendshipSet) {rows : List FriendshipRow}
    {row : FriendshipRow} (member : row ∈ rows) :
    (if row.id = id then set.apply row else row) ∈ updateWhere id set rows :=
  List.mem_map.mpr ⟨row, member, rfl⟩

theorem mem_deleteWhere {id : JsString} {rows : List FriendshipRow} {row : FriendshipRow} :
    row ∈ deleteWhere id rows ↔ row ∈ rows ∧ row.id ≠ id := by
  simp only [deleteWhere, List.mem_filter, decide_eq_true_eq]

/-- Rows that link the same two users link the same users. -/
theorem FriendshipRow.Links.transfer {first second : FriendshipRow} {a b c d : UserId}
    (left : first.Links a b) (shared : first.Links c d) (right : second.Links c d) :
    second.Links a b := by
  unfold Links at *
  grind

/-! ## Blocks in a run -/

abbrev FriendsPool : Type := Pool friends Empty HttpResponse FriendsCall Friendships

def FriendsCall.By (call : FriendsCall) (user : UserId) : Prop :=
  call.surroundings.user = .ok (some user)

instance (call : FriendsCall) (user : UserId) : Decidable (call.By user) :=
  inferInstanceAs (Decidable (_ = _))

/-- A write that made the row with an id a block. -/
def IsBlock (event : Event friends FriendsCall) (id : JsString) : Prop :=
  ∃ set : FriendshipSet, set.status = .blocked ∧
    (⟨event.request, event.answer⟩ : Proc.Exchange friends) = ⟨.update id set, true⟩

/-- A user's `DELETE` removes the row with an id. -/
def IsRemoval (event : Event friends FriendsCall) (user : UserId) (id : JsString) : Prop :=
  event.call.By user ∧ (∃ wanted, event.call.request = .delete wanted) ∧ event.request = .delete id

/-- A block that its author has not removed since: by `action: "block"` on a row that links
the author and the other user. -/
structure Standing (history : List (Event friends FriendsCall)) (author other : UserId)
    (id : JsString) : Prop where
  made : ∃ later event earlier row, history = later ++ event :: earlier ∧
    event.call.By author ∧ event.call.request = .patch (some id) (some (js "block")) ∧
    IsBlock event id ∧
    (⟨.selectById id, .ok (some row)⟩ : Proc.Exchange friends) ∈
      Pool.exchanges earlier event.thread ∧
    row.Links author other ∧ ∀ removal ∈ later, ¬ IsRemoval removal author id

/-- Every standing block blocks. -/
def Permanent (pool : FriendsPool) : Prop :=
  ∀ author other id, Standing pool.history author other id →
    isBlockedBetweenUsers author.val other.val pool.shared = true

/-- A write that respects the blocks of the table: a row becomes a block while it still
links the users it linked when it was read, a block is not overwritten with anything else,
and it is deleted only by a `DELETE` of a user such that nobody else has made it a block. -/
def Respects (pool : FriendsPool) (index : Nat) (call : FriendsCall) : Statement → Prop
  | .update id set =>
      if set.status = .blocked then
        ∀ row, (⟨.selectById id, .ok (some row)⟩ : Proc.Exchange friends) ∈
            Pool.exchanges pool.history index →
          ∃ stored ∈ pool.shared.rows, stored.id = id ∧
            stored.Links row.requesterId row.addresseeId
      else ∀ stored ∈ pool.shared.rows, stored.id = id → stored.status ≠ .blocked
  | .delete id => ∀ stored ∈ pool.shared.rows, stored.id = id → stored.status = .blocked →
      (∃ wanted, call.request = .delete wanted) ∧ ∀ event ∈ pool.history, IsBlock event id →
        call.surroundings.user = event.call.surroundings.user
  | _ => True

def Respectful (pool : FriendsPool) : Turn FriendsCall → Prop
  | .start _ => True
  | .advance index => ∀ call statement next,
      pool.threads[index]? = some ⟨call, .await statement next⟩ →
        Respects pool index call statement

/-- The row of a standing block. -/
def Recorded (table : Friendships) (author other : UserId) (id : JsString) : Prop :=
  ∃ stored ∈ table.rows, stored.id = id ∧ stored.status = .blocked ∧ stored.Links author other

section Steps

variable {plan : QueryPlan} {pool : FriendsPool} {index : Nat} {call : FriendsCall}
  {statement : Statement} {answer : friends.Answer statement} {after : Friendships}
  {author other : UserId} {id : JsString}

/-- An update for a block changes the direction of the row at most. -/
theorem links_apply {set : FriendshipSet}
    (informed : Informed (Pool.exchanges pool.history index) (.update id set))
    (respects : Respects pool index call (.update id set)) (blocked : set.status = .blocked)
    {stored : FriendshipRow} (member : stored ∈ pool.shared.rows) (same : stored.id = id)
    (linked : stored.Links author other) : (set.apply stored).Links author other := by
  obtain ⟨row, read, keeps⟩ := informed blocked
  dsimp only [Respects] at respects
  rw [if_pos blocked] at respects
  obtain ⟨found, present, sameId, links⟩ := respects row read
  obtain rfl := pool.shared.eq_of_id_eq member present (same.trans sameId.symm)
  exact linked.transfer links (keeps stored links)

/-- A write that respects the blocks keeps the row of a standing one. -/
theorem Recorded.step (recorded : Recorded pool.shared author other id)
    (informed : Informed (Pool.exchanges pool.history index) statement)
    (respects : Respects pool index call statement)
    (answered : handle plan call statement pool.shared = some (answer, after))
    {event : Event friends FriendsCall} (made : event ∈ pool.history) (block : IsBlock event id)
    (mine : event.call.By author) (kept : ¬ IsRemoval ⟨index, call, statement, answer⟩ author id) :
    Recorded after author other id := by
  obtain ⟨stored, member, same, blocked, linked⟩ := recorded
  rcases handle_cases answered with ⟨rfl, -⟩ | ⟨row, rfl, written⟩ | ⟨updated, set, rfl, written⟩ |
    ⟨deleted, rfl, written⟩
  · exact ⟨stored, member, same, blocked, linked⟩
  · refine ⟨stored, ?_, same, blocked, linked⟩
    rw [written]
    exact List.mem_append_left _ member
  · have changed := mem_updateWhere updated set member
    rw [← written] at changed
    by_cases here : stored.id = updated
    · rw [if_pos here] at changed
      by_cases blocking : set.status = .blocked
      · exact ⟨_, changed, same, blocking,
          links_apply informed respects blocking member here linked⟩
      · dsimp only [Respects] at respects
        rw [if_neg blocking] at respects
        exact absurd blocked (respects stored member here)
    · rw [if_neg here] at changed
      exact ⟨stored, changed, same, blocked, linked⟩
  · by_cases here : stored.id = deleted
    · obtain ⟨unblocking, nobody⟩ := respects stored member here blocked
      have by_author : call.By author :=
        (nobody event made (here.symm.trans same ▸ block)).trans mine
      exact absurd ⟨by_author, unblocking, by rw [← here, same]⟩ kept
    · refine ⟨stored, ?_, same, blocked, linked⟩
      rw [written]
      exact mem_deleteWhere.mpr ⟨member, here⟩

/-- A row that is made a block while it links the users it linked records the block. -/
theorem recorded_block (informed : Informed (Pool.exchanges pool.history index) statement)
    (respects : Respects pool index call statement)
    (answered : handle plan call statement pool.shared = some (answer, after))
    (block : IsBlock ⟨index, call, statement, answer⟩ id) {row : FriendshipRow}
    (read : (⟨.selectById id, .ok (some row)⟩ : Proc.Exchange friends) ∈
      Pool.exchanges pool.history index) (linked : row.Links author other) :
    Recorded after author other id := by
  obtain ⟨set, blocked, same⟩ := block
  obtain rfl := (Sigma.mk.inj same).1
  have present := respects
  dsimp only [Respects] at present
  rw [if_pos blocked] at present
  obtain ⟨stored, member, sameId, links⟩ := present row read
  rcases handle_cases answered with ⟨-, failed⟩ | ⟨_, impossible, -⟩ | ⟨_, _, updates, written⟩ |
    ⟨_, impossible, -⟩
  · exact absurd same (failed id set)
  · cases impossible
  · cases updates
    have changed := mem_updateWhere id set member
    rw [← written, if_pos sameId] at changed
    refine ⟨_, changed, sameId, blocked, ?_⟩
    have own : row.Links row.requesterId row.addresseeId := .inl ⟨rfl, rfl⟩
    exact links_apply informed respects blocked member sameId (linked.transfer own links)
  · cases impossible

end Steps

theorem recorded_of_reachable {plan : QueryPlan} {pool : FriendsPool}
    (reached : (friendsSystem plan).Reachable Respectful pool) :
    ∀ author other id, Standing pool.history author other id →
      Recorded pool.shared author other id := by
  refine reached.invariant (P := fun pool => ∀ author other id,
    Standing pool.history author other id → Recorded pool.shared author other id) ?_ ?_
  · rintro _ ⟨table, -, rfl⟩ author other id ⟨later, event, earlier, row, split, -⟩
    cases later with
    | nil => cases split
    | cons => cases split
  · intro before label after reached kept respectful moved author other id standing
    obtain ⟨call, -, rfl⟩ | ⟨index, call, statement, next, answer, shared, rfl, found, answered,
      rfl⟩ := Pool.step_cases moved
    · exact kept author other id standing
    · have respects := respectful call statement next found
      have informed := (Pool.justified_of_pending reached found (grounded_program call)).1
      obtain ⟨later, event, earlier, row, split, mine, asked, block, read, linked, unremoved⟩ :=
        standing.made
      cases later with
      | nil =>
        obtain ⟨rfl, rfl⟩ := List.cons.inj split
        exact recorded_block informed respects answered block read linked
      | cons latest later =>
        obtain ⟨rfl, rest⟩ := List.cons.inj split
        have stood : Standing before.history author other id :=
          ⟨later, event, earlier, row, rest, mine, asked, block, read, linked,
            fun removal member => unremoved removal (List.mem_cons_of_mem _ member)⟩
        have made : event ∈ before.history := by
          rw [rest]
          exact List.mem_append_right later List.mem_cons_self
        exact (kept author other id stood).step informed respects answered made block mine
          (unremoved _ List.mem_cons_self)

/-- In every run of `/api/friends` whose writes respect the blocks of the table, a block
lasts until the user who made it removes it. -/
theorem block_permanent {plan : QueryPlan} {pool : FriendsPool}
    (reached : (friendsSystem plan).Reachable Respectful pool) : Permanent pool := by
  intro author other id standing
  obtain ⟨stored, member, -, blocked, linked⟩ :=
    recorded_of_reachable reached author other id standing
  exact isBlocked_of_row member blocked linked

namespace Sample

def alice : UserId := ⟨js "alice", by decide⟩

def bob : UserId := ⟨js "bob", by decide⟩

/-- A query without an order returns the first row it comes to. -/
def plan : QueryPlan where
  first := List.head?
  sound := fun _ _ found => List.mem_of_mem_head? found
  complete := fun _ absent => List.head?_eq_none_iff.mp absent

def asks (user : UserId) (request : FriendsRequest) : FriendsCall where
  surroundings :=
    { user := .ok (some user)
      limited := false
      findUser := fun username => .ok ([alice, bob].find? fun user => user.val = username)
      toLowerCase := id
      drawn := js "f"
      fails := fun _ => false }
  request := request

def advances (index count : Nat) : List (Turn FriendsCall) := List.replicate count (.advance index)

/-- A request on its own; each route reads once and then writes. -/
def alone (index : Nat) (call : FriendsCall) : List (Turn FriendsCall) :=
  .start call :: advances index 2

def block : FriendsCall := asks alice (.patch (some (js "f")) (some (js "block")))

/-- Alice asks Bob to be her friend, and blocks him. -/
def blocking : List (Turn FriendsCall) :=
  alone 0 (asks alice (.post (some (js "bob")))) ++
    alone 1 block

/-- Bob, whom Alice has blocked, deletes the row. -/
def unblocking : List (Turn FriendsCall) := blocking ++ alone 2 (asks bob (.delete (some (js "f"))))

/-- Bob accepts the request he has read of before, and asks Alice to be his friend. -/
def insisting : List (Turn FriendsCall) :=
  blocking ++
    [.start (asks bob (.patch (some (js "f")) (some (js "accept")))), .advance 2,
      .start (asks bob (.post (some (js "alice")))), .advance 3]

/-- Check a write against the table and the history. -/
def respects (pool : FriendsPool) (index : Nat) : Statement → Bool
  | .update id set =>
      if set.status = .blocked then
        (Pool.exchanges pool.history index).all fun
          | ⟨.selectById _, .ok (some row)⟩ => pool.shared.rows.any fun stored =>
              stored.id = id ∧ stored.Links row.requesterId row.addresseeId
          | _ => true
      else pool.shared.rows.all fun stored => stored.id ≠ id || stored.status ≠ .blocked
  | .delete id => pool.shared.rows.all fun stored => stored.id ≠ id || stored.status ≠ .blocked
  | _ => true

def check (pool : FriendsPool) : Turn FriendsCall → Bool
  | .start _ => true
  | .advance index =>
      match pool.threads[index]? with
      | some ⟨_, .await statement _⟩ => respects pool index statement
      | _ => true

theorem unblocked_sound {pool : FriendsPool} {id : JsString}
    (checked : (pool.shared.rows.all fun stored => stored.id ≠ id || stored.status ≠ .blocked) = true) :
    ∀ stored ∈ pool.shared.rows, stored.id = id → stored.status ≠ .blocked := by
  intro stored member same
  have either := List.all_eq_true.mp checked stored member
  simpa only [same, ne_eq, not_true_eq_false, decide_false, Bool.false_or, decide_eq_true_eq]
    using either

theorem check_sound (pool : FriendsPool) (turn : Turn FriendsCall)
    (checked : check pool turn = true) : Respectful pool turn := by
  cases turn with
  | start call => trivial
  | advance index =>
    intro call statement next found
    simp only [check, found] at checked
    cases statement with
    | update id set =>
      dsimp only [Respects, respects] at checked ⊢
      split
      · rename_i blocked
        rw [if_pos blocked] at checked
        intro row read
        have stored := List.all_eq_true.mp checked _ read
        simpa only [List.any_eq_true, decide_eq_true_eq] using stored
      · rename_i blocked
        rw [if_neg blocked] at checked
        exact unblocked_sound checked
    | delete id =>
      intro stored member same blocked
      exact absurd blocked (unblocked_sound checked stored member same)
    | _ => trivial

def run (check : FriendsPool → Turn FriendsCall → Bool) (turns : List (Turn FriendsCall)) :
    Option FriendsPool :=
  Pool.replay program (fun _ call => handle plan call) check .empty turns

theorem unblocking_completed : (run (fun _ _ => true) unblocking).isSome := by decide

theorem unblocking_reachable : (friendsSystem plan).Reachable System.unguarded
    ((run (fun _ _ => true) unblocking).get unblocking_completed) :=
  Pool.reachable_of_replay (fun _ _ _ => trivial) trivial unblocking_completed

theorem insisting_completed : (run check insisting).isSome := by decide

theorem insisting_reachable : (friendsSystem plan).Reachable Respectful
    ((run check insisting).get insisting_completed) :=
  Pool.reachable_of_replay check_sound trivial insisting_completed

/-- The table once Alice has asked. -/
def pending : FriendshipRow := ⟨js "f", alice, bob, .pending⟩

/-- The write that blocks Bob, and what has happened until then. -/
def blockEvent : Event friends FriendsCall :=
  ⟨1, block, .update (js "f") { status := .blocked }, true⟩

def earlier : List (Event friends FriendsCall) :=
  let ask := asks alice (.post (some (js "bob")))
  [⟨1, block, .selectById (js "f"), .ok (some pending)⟩, ⟨0, ask, .insert pending, true⟩,
    ⟨0, ask, .selectPair alice bob, .ok none⟩]

/-- Alice's block stands while only Bob does something. -/
theorem standing_of_history {history : List (Event friends FriendsCall)} (count : Nat)
    (begun : history.drop count = blockEvent :: earlier)
    (others : ∀ event ∈ history.take count, event.call.By bob) :
    Standing history alice bob (js "f") where
  made := by
    refine ⟨history.take count, blockEvent, earlier, pending, ?_, rfl, rfl,
      ⟨{ status := .blocked }, rfl, rfl⟩, ?_, .inl ⟨rfl, rfl⟩, ?_⟩
    · rw [← begun, List.take_append_drop]
    · exact Pool.mem_exchanges.mpr ⟨_, List.mem_cons_self, rfl, rfl⟩
    · intro event member removal
      exact absurd ((others event member).symm.trans removal.1) (by decide)

end Sample

/-- The table blocks Alice and Bob from each other after all that Bob has tried. -/
theorem insisting_permanent :
    isBlockedBetweenUsers Sample.alice.val Sample.bob.val
      ((Sample.run Sample.check Sample.insisting).get Sample.insisting_completed).shared = true := by
  refine block_permanent Sample.insisting_reachable _ _ _ (Sample.standing_of_history 2 rfl ?_)
  decide

/-- Alice blocks Bob, and Bob deletes the row. -/
theorem block_deleted : ∃ pool, (friendsSystem Sample.plan).Reachable System.unguarded pool ∧
    ¬ Permanent pool := by
  refine ⟨_, Sample.unblocking_reachable, fun permanent => ?_⟩
  have lost := permanent _ _ _ (Sample.standing_of_history 2 rfl ?_)
  · exact absurd lost (by decide)
  · decide

end Vortex.Social
