import Vortex.Social.Blocking

/-!
# One row between two users

Before `POST` inserts a row it looks for one in either direction, but the table only keeps
the pairs in one direction apart: two users who ask each other at the same time are left
with two rows. While no row is inserted between users who have one by then, no two users
ever have two, whatever else the requests do; a block may turn a row around, and the row
that is turned is the one that was read.
-/

namespace Vortex.Social

open Foundation

/-- No two rows are between the same two users, in either direction. -/
def SingleRows (rows : List FriendshipRow) : Prop :=
  ∀ first ∈ rows, ∀ second ∈ rows, second.Links first.requesterId first.addresseeId →
    first = second

instance (rows : List FriendshipRow) : Decidable (SingleRows rows) :=
  inferInstanceAs (Decidable (∀ first ∈ rows, ∀ second ∈ rows, _ → first = second))

def Friendships.Single (table : Friendships) : Prop := SingleRows table.rows

theorem Friendships.single_empty : Friendships.empty.Single :=
  fun _ none => (List.not_mem_nil none).elim

namespace FriendshipRow.Links

variable {row other : FriendshipRow} {left right : UserId}

theorem self (row : FriendshipRow) : row.Links row.requesterId row.addresseeId := .inl ⟨rfl, rfl⟩

theorem symm (linked : row.Links other.requesterId other.addresseeId) :
    other.Links row.requesterId row.addresseeId :=
  (FriendshipRow.Links.self row).transfer linked (.self other)

end FriendshipRow.Links

/-! ## What the writes do to it -/

section Writes

variable {rows : List FriendshipRow}

theorem SingleRows.append (single : SingleRows rows) {row : FriendshipRow}
    (alone : ∀ stored ∈ rows, ¬ stored.Links row.requesterId row.addresseeId) :
    SingleRows (rows ++ [row]) := by
  intro first left second right linked
  rcases List.mem_append.mp left with left | left
  · rcases List.mem_append.mp right with right | right
    · exact single first left second right linked
    · rw [List.mem_singleton.mp right] at linked
      exact absurd linked.symm (alone first left)
  · rw [List.mem_singleton.mp left] at linked ⊢
    rcases List.mem_append.mp right with right | right
    · exact absurd linked (alone second right)
    · exact (List.mem_singleton.mp right).symm

/-- A change that leaves every row between its users. -/
theorem SingleRows.map (single : SingleRows rows) {change : FriendshipRow → FriendshipRow}
    (keeps : ∀ row ∈ rows, (change row).Links row.requesterId row.addresseeId) :
    SingleRows (rows.map change) := by
  intro _ changed _ changed' linked
  obtain ⟨first, left, rfl⟩ := List.mem_map.mp changed
  obtain ⟨second, right, rfl⟩ := List.mem_map.mp changed'
  have between : second.Links (change first).requesterId (change first).addresseeId :=
    linked.transfer (keeps second right) (.self second)
  have shared : second.Links first.requesterId first.addresseeId :=
    (keeps first left).transfer (.self _) between
  rw [single first left second right shared]

theorem SingleRows.sublist {fewer : List FriendshipRow} (single : SingleRows rows)
    (kept : ∀ row ∈ fewer, row ∈ rows) : SingleRows fewer :=
  fun first left second right => single first (kept first left) second (kept second right)

end Writes

/-! ## Runs -/

/-- A query for a row by its id, answered with the row. -/
def Reads (event : Event friends FriendsCall) (id : JsString) (row : FriendshipRow) : Prop :=
  (⟨event.request, event.answer⟩ : Proc.Exchange friends) = ⟨.selectById id, .ok (some row)⟩

/-- A row is inserted between users who have none, as they had none when the request looked,
and under an id that no row has had before. -/
def Uncrossed (pool : FriendsPool) : Turn FriendsCall → Prop
  | .start _ => True
  | .advance index => ∀ call row next,
      pool.threads[index]? = some ⟨call, .await (.insert row) next⟩ →
        (∀ stored ∈ pool.shared.rows, ¬ stored.Links row.requesterId row.addresseeId) ∧
          ∀ event ∈ pool.history, ∀ read, ¬ Reads event row.id read

/-- A row is between the users it was between when it was read. -/
def Traced (history : List (Event friends FriendsCall)) (table : Friendships) : Prop :=
  ∀ event ∈ history, ∀ id read, Reads event id read → ∀ stored ∈ table.rows, stored.id = id →
    stored.Links read.requesterId read.addresseeId

section Steps

variable {plan : QueryPlan} {pool : FriendsPool} {index : Nat} {call : FriendsCall}
  {statement : Statement} {answer : friends.Answer statement} {after : Friendships}

/-- Every update leaves the row it changes between its two users. -/
theorem links_update {id : JsString} {set : FriendshipSet}
    (traced : Traced pool.history pool.shared)
    (grounded : Grounded (Pool.exchanges pool.history index) (.update id set))
    {row : FriendshipRow} (member : row ∈ pool.shared.rows) :
    (if row.id = id then set.apply row else row).Links row.requesterId row.addresseeId := by
  split
  · rename_i same
    obtain ⟨informed, straight⟩ := grounded
    by_cases blocks : set.status = .blocked
    · obtain ⟨read, known, keeps⟩ := informed blocks
      obtain ⟨event, recorded, -, reads⟩ := Pool.mem_exchanges.mp known
      have linked := traced event recorded id read reads row member same
      exact (keeps row linked).symm.transfer (.self read) linked |>.symm
    · obtain ⟨requester, addressee⟩ := straight blocks
      exact .inl ⟨by rw [FriendshipSet.apply, requester]; rfl,
        by rw [FriendshipSet.apply, addressee]; rfl⟩
  · exact .self row

/-- What a query finds is in the table. -/
theorem stored_of_reads (answered : handle plan call statement pool.shared = some (answer, after))
    {id : JsString} {read : FriendshipRow}
    (reads : Reads ⟨index, call, statement, answer⟩ id read) :
    read ∈ pool.shared.rows ∧ read.id = id ∧ after = pool.shared := by
  obtain rfl := (Sigma.mk.inj reads).1
  obtain rfl := eq_of_heq (Sigma.mk.inj reads).2
  unfold handle at answered
  split at answered
  · cases answered
  · have found := congrArg Prod.fst (Option.some.inj answered)
    have same := congrArg Prod.snd (Option.some.inj answered)
    have lookup : pool.shared.rows.find? (fun row => row.id = id) = some read := Except.ok.inj found
    exact ⟨List.mem_of_find?_eq_some lookup, by simpa using List.find?_some lookup, same.symm⟩

/-- Where the rows after a statement come from: from the rows before, which keep their ids
and their users, or from the insertion of a row. -/
theorem origin_of_handle (traced : Traced pool.history pool.shared)
    (grounded : Grounded (Pool.exchanges pool.history index) statement)
    (answered : handle plan call statement pool.shared = some (answer, after))
    {stored : FriendshipRow} (member : stored ∈ after.rows) :
    (∃ earlier ∈ pool.shared.rows, earlier.id = stored.id ∧
      stored.Links earlier.requesterId earlier.addresseeId) ∨ statement = .insert stored := by
  rcases handle_cases answered with ⟨rfl, -⟩ | ⟨row, rfl, written⟩ | ⟨id, set, rfl, written⟩ |
    ⟨id, rfl, written⟩
  · exact .inl ⟨stored, member, rfl, .self stored⟩
  · rw [written] at member
    rcases List.mem_append.mp member with member | new
    · exact .inl ⟨stored, member, rfl, .self stored⟩
    · rw [List.mem_singleton.mp new]
      exact .inr rfl
  · rw [written] at member
    obtain ⟨earlier, present, rfl⟩ := List.mem_map.mp member
    refine .inl ⟨earlier, present, ?_, links_update traced grounded present⟩
    split
    · rfl
    · rfl
  · rw [written] at member
    exact .inl ⟨stored, (mem_deleteWhere.mp member).1, rfl, .self stored⟩

theorem Traced.step (traced : Traced pool.history pool.shared)
    (grounded : Grounded (Pool.exchanges pool.history index) statement)
    (new : ∀ row, statement = .insert row → ∀ event ∈ pool.history, ∀ read,
      ¬ Reads event row.id read)
    (answered : handle plan call statement pool.shared = some (answer, after)) :
    Traced (⟨index, call, statement, answer⟩ :: pool.history) after := by
  intro event recorded id read reads stored member same
  rcases List.mem_cons.mp recorded with rfl | before
  · obtain ⟨present, named, unchanged⟩ := stored_of_reads answered reads
    rw [unchanged] at member
    rw [pool.shared.eq_of_id_eq member present (same.trans named.symm)]
    exact .self read
  · rcases origin_of_handle traced grounded answered member with
      ⟨earlier, present, kept, linked⟩ | rfl
    · have between := traced event before id read reads earlier present (kept.trans same)
      exact between.transfer (.self earlier) linked
    · rw [← same] at reads
      exact absurd reads (new stored rfl event before read)

theorem single_step (single : pool.shared.Single) (traced : Traced pool.history pool.shared)
    (grounded : Grounded (Pool.exchanges pool.history index) statement)
    (alone : ∀ row, statement = .insert row → ∀ stored ∈ pool.shared.rows,
      ¬ stored.Links row.requesterId row.addresseeId)
    (answered : handle plan call statement pool.shared = some (answer, after)) : after.Single := by
  unfold Friendships.Single at *
  rcases handle_cases answered with ⟨rfl, -⟩ | ⟨row, rfl, written⟩ | ⟨id, set, rfl, written⟩ |
    ⟨id, rfl, written⟩
  · exact single
  · rw [written]
    exact single.append (alone row rfl)
  · rw [written]
    exact single.map fun row member => links_update traced grounded member
  · rw [written]
    exact single.sublist fun row member => (mem_deleteWhere.mp member).1

end Steps

/-- In every run of `/api/friends` in which a request inserts its row only while there is
still none between its two users, no two users ever have two rows. -/
theorem single_of_steps {plan : QueryPlan} {table : Friendships} {pool : FriendsPool}
    (single : table.Single) (path : (friendsSystem plan).Steps Uncrossed (Pool.fresh table) pool) :
    pool.shared.Single := by
  have kept : (friendsSystem plan).Reachable Uncrossed pool ∧ Traced pool.history pool.shared ∧
      pool.shared.Single := by
    refine path.invariant (P := fun pool => (friendsSystem plan).Reachable Uncrossed pool ∧
      Traced pool.history pool.shared ∧ pool.shared.Single) ?_ ?_
    · intro before label after ⟨reached, traced, single⟩ uncrossed moved
      refine ⟨.step reached uncrossed moved, ?_⟩
      obtain ⟨call, -, rfl⟩ | ⟨index, call, statement, next, answer, shared, rfl, found, answered,
        rfl⟩ := Pool.step_cases moved
      · exact ⟨traced, single⟩
      · have grounded := Pool.justified_of_pending reached found (grounded_program call)
        refine ⟨traced.step grounded ?_ answered, single_step single traced grounded ?_ answered⟩
        · rintro row rfl
          exact (uncrossed call row next found).2
        · rintro row rfl
          exact (uncrossed call row next found).1
    · exact ⟨.initial ⟨table, trivial, rfl⟩, fun _ none => (List.not_mem_nil none).elim, single⟩
  exact kept.2.2

namespace Sample

/-- A request to be friends, whose row gets this id. -/
def befriends (user : UserId) (username drawn : JsString) : FriendsCall :=
  let call := asks user (.post (some username))
  { call with surroundings := { call.surroundings with drawn } }

/-- Alice and Bob look for a row at the same time, and both insert one. -/
def crossing : List (Turn FriendsCall) :=
  [.start (befriends alice (js "bob") (js "f")), .start (befriends bob (js "alice") (js "g")),
    .advance 0, .advance 1, .advance 0, .advance 1]

/-- Alice asks Bob, and Bob blocks her. -/
def turning : List (Turn FriendsCall) :=
  alone 0 (befriends alice (js "bob") (js "f")) ++
    alone 1 (asks bob (.patch (some (js "f")) (some (js "block"))))

def uncrossed (pool : FriendsPool) : Turn FriendsCall → Bool
  | .start _ => true
  | .advance index =>
      match pool.threads[index]? with
      | some ⟨_, .await (.insert row) _⟩ =>
          (pool.shared.rows.all fun stored =>
            decide (¬ stored.Links row.requesterId row.addresseeId)) && pool.history.all fun event =>
              match (⟨event.request, event.answer⟩ : Proc.Exchange friends) with
              | ⟨.selectById id, .ok (some _)⟩ => id ≠ row.id
              | _ => true
      | _ => true

theorem uncrossed_sound (pool : FriendsPool) (turn : Turn FriendsCall)
    (checked : uncrossed pool turn = true) : Uncrossed pool turn := by
  cases turn with
  | start call => trivial
  | advance index =>
    intro call row next found
    simp only [uncrossed, found, Bool.and_eq_true, List.all_eq_true] at checked
    refine ⟨fun stored member => of_decide_eq_true (checked.1 stored member), ?_⟩
    intro event member read reads
    have other := checked.2 event member
    rw [reads] at other
    exact absurd rfl (of_decide_eq_true other)

theorem crossing_steps :
    (friendsSystem plan).Steps System.unguarded (Pool.fresh .empty)
      ((run System.unchecked crossing).get (by decide)) :=
  System.steps_of_follow System.unchecked_sound (Option.some_get _).symm

theorem turning_steps :
    (friendsSystem plan).Steps Uncrossed (Pool.fresh .empty)
      ((run uncrossed turning).get (by decide)) :=
  System.steps_of_follow uncrossed_sound (Option.some_get _).symm

end Sample

/-- Bob, who turns the row around, still has only that row with Alice. -/
theorem turning_single :
    ((Sample.run Sample.uncrossed Sample.turning).get (by decide)).shared.Single :=
  single_of_steps Friendships.single_empty Sample.turning_steps

/-- Two requests that cross leave Alice and Bob with two rows. -/
theorem crossing_rows : ∃ pool, (friendsSystem Sample.plan).Steps System.unguarded
    (Pool.fresh .empty) pool ∧ Friendships.empty.Single ∧ ¬ pool.shared.Single := by
  refine ⟨_, Sample.crossing_steps, Friendships.single_empty, ?_⟩
  unfold Friendships.Single
  decide

end Vortex.Social
