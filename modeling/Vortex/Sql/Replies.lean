import Vortex.Sql.FullText

/-!
# Replies and their channels

A reply refers to a message of its own channel. The triggers look at the row that is written and
not at the rows that reply to it, so an update of a message with replies can leave them behind.
-/

variable {columns : Columns} {rows : List DirectMessage}

namespace Vortex.Sql

open Foundation

namespace Database

section Rows

variable {Token : Type} (database : Database Token)

/-- What the migration verifier checks. -/
def RepliesStay : Prop :=
  ∀ row ∈ database.messages.rows, ∀ parent, row.replyToId = some parent →
    ∃ other ∈ database.messages.rows, other.id = parent ∧ other.dmChannelId = row.dmChannelId

def DistinctIds : Prop :=
  ∀ first ∈ database.messages.rows, ∀ second ∈ database.messages.rows, first.id = second.id →
    first = second

/-- A database to start from: an empty one, or a verified one. -/
structure Sound : Prop where
  distinct : database.DistinctIds
  stay : database.RepliesStay

variable {database} {row : DirectMessage}

theorem allowsReply_iff : database.allowsReply row = true ↔ ∀ parent, row.replyToId = some parent →
      ∃ other ∈ database.messages.rows, other.id = parent ∧
        other.dmChannelId = row.dmChannelId := by
  rw [allowsReply]
  cases row.replyToId with
  | none => simp
  | some parent => simp

/-- A message replies to none of another channel. -/
def Together (database : Database Token) (reply : DirectMessage) : Prop :=
  ∀ other ∈ database.messages.rows, reply.replyToId = some other.id →
    other.dmChannelId = reply.dmChannelId

/-- Every message replies to none of another channel, but for those the statement is still to
check. -/
def Settling (columns : Columns) (later : List DirectMessage) (database : Database Token) : Prop :=
  ∀ reply ∈ database.messages.rows, database.Together reply ∨
    columns.rechecks = true ∧ reply.rowid ∈ later.map DirectMessage.rowid

/-- When a message gets another channel or id, the replies to it are in that channel, or are still
to be written by the statement, with a check. -/
def Accompanied (columns : Columns) (later : List DirectMessage) (database : Database Token)
    (row : DirectMessage) : Prop :=
  ∀ old ∈ database.messages.rows, old.rowid = row.rowid →
    (row.id ≠ old.id ∨ row.dmChannelId ≠ old.dmChannelId) →
      ∀ reply ∈ database.messages.rows, reply.rowid ≠ row.rowid → reply.replyToId = some row.id →
        reply.dmChannelId = row.dmChannelId ∨
          columns.rechecks = true ∧ reply.rowid ∈ later.map DirectMessage.rowid

theorem Sound.start (sound : database.Sound) (columns : Columns) (rows : List DirectMessage) :
    database.Settling columns rows := by
  intro reply member
  left
  intro other stored replies
  obtain ⟨parent, found, same, together⟩ := sound.stay reply member other.id replies
  rw [sound.distinct other stored parent found same.symm]
  exact together

/-- Foreign keys hold at the end of a statement. -/
theorem exists_of_satisfiesForeignKeys (satisfied : database.satisfiesForeignKeys = true)
    {reply : DirectMessage} (member : reply ∈ database.messages.rows) {parent : JsString}
    (replies : reply.replyToId = some parent) :
    ∃ other ∈ database.messages.rows, other.id = parent := by
  have keys := List.all_eq_true.mp satisfied reply member
  rw [Bool.and_eq_true, replies] at keys
  obtain ⟨other, stored, same⟩ := List.any_eq_true.mp keys.2
  exact ⟨other, stored, of_decide_eq_true same⟩

variable [DecidableEq Token] {tokenize : JsString → List Token} {after : Database Token}

/-! ## One row -/

theorem insertRow_spec (inserted : database.insertRow tokenize row = some after) :
    database.allowsReply row = true ∧ (∀ other ∈ database.messages.rows, other.id ≠ row.id) ∧
      ∀ other, other ∈ after.messages.rows ↔ other ∈ database.messages.rows ∨ other = row := by
  unfold insertRow at inserted
  split at inserted
  · cases inserted
  rename_i allowed
  split at inserted
  · cases inserted
  rename_i fresh
  cases inserted
  rw [List.any_eq_true] at fresh
  refine ⟨by simpa using allowed, ?_, ?_⟩
  · intro other stored same
    exact fresh ⟨other, stored, by simp [same]⟩
  · intro other
    rw [Table.mem_insertIgnore]
    refine or_congr_right (and_iff_left ?_)
    intro stored member same
    exact fresh ⟨stored, member, by simp [same]⟩

theorem updateRow_spec (updated : database.updateRow tokenize columns row = some after) :
    ∃ old ∈ database.messages.rows, old.rowid = row.rowid ∧ columns.keeps old row = true ∧
      (columns.rechecks = true → database.allowsReply row = true) ∧
      (∀ other ∈ database.messages.rows, other.rowid ≠ row.rowid → other.id ≠ row.id) ∧
      ∀ other, other ∈ after.messages.rows ↔
        other = row ∨ other ∈ database.messages.rows ∧ other.rowid ≠ row.rowid := by
  unfold updateRow at updated
  split at updated
  · cases updated
  rename_i old stored
  obtain ⟨member, named⟩ := Table.find?_eq_some.mp stored
  split at updated
  · cases updated
  rename_i keeps
  split at updated
  · cases updated
  rename_i allowed
  split at updated
  · cases updated
  rename_i free
  cases updated
  refine ⟨old, member, named, by simpa using keeps, by simpa using allowed, ?_, ?_⟩
  · intro other present different same
    exact free (List.any_eq_true.mpr ⟨other, present, by simp [different, same]⟩)
  · intro other
    rw [Table.mem_updateWhere]
    constructor
    · rintro ⟨found, present, rfl⟩
      split
      · rename_i mine
        rw [of_decide_eq_true mine]
        exact .inl rfl
      · rename_i foreign
        exact .inr ⟨present, fun same => foreign (decide_eq_true same)⟩
    · rintro (rfl | ⟨present, different⟩)
      · exact ⟨old, member, by rw [if_pos (decide_eq_true named), named]⟩
      · exact ⟨other, present, if_neg fun same => different (of_decide_eq_true same)⟩

theorem deleteRow_spec {rowid : Int} {old : DirectMessage}
    (stored : database.messages.find? rowid = some old) (other : DirectMessage) :
    other ∈ (database.deleteRow tokenize rowid).messages.rows ↔
      ∃ kept ∈ database.messages.rows, kept.rowid ≠ rowid ∧
        (if kept.replyToId = some old.id then { kept with replyToId := none } else kept) = other := by
  unfold deleteRow
  rw [stored]
  dsimp only
  rw [Table.mem_updateWhere]
  simp only [Table.mem_deleteWhere, decide_eq_false_iff_not, decide_eq_true_eq, and_assoc]

/-! ## Insertions and deletions -/

/-- An inserted reply has been checked, and nobody replies to a new message yet. -/
theorem Sound.insertRow (sound : database.Sound)
    (inserted : database.insertRow tokenize row = some after) : after.Sound := by
  obtain ⟨allowed, fresh, rows⟩ := insertRow_spec inserted
  constructor
  · intro first left second right same
    rw [rows] at left right
    rcases left with left | rfl <;> rcases right with right | rfl
    · exact sound.distinct first left second right same
    · exact absurd same (fresh first left)
    · exact absurd same.symm (fresh second right)
    · rfl
  · intro reply member parent replies
    have found : ∃ other ∈ database.messages.rows, other.id = parent ∧
        other.dmChannelId = reply.dmChannelId := by
      rcases (rows reply).mp member with old | rfl
      · exact sound.stay reply old parent replies
      · exact allowsReply_iff.mp allowed parent replies
    obtain ⟨other, stored, named, together⟩ := found
    exact ⟨other, (rows other).mpr (.inl stored), named, together⟩

/-- The replies to a deleted message reply to nothing. -/
theorem Sound.deleteRow (sound : database.Sound) (rowid : Int) :
    (database.deleteRow tokenize rowid).Sound := by
  cases found : database.messages.find? rowid with
  | none =>
    rw [Database.deleteRow, found]
    exact sound
  | some old =>
    obtain ⟨present, named⟩ := Table.find?_eq_some.mp found
    have rows (other : DirectMessage) : other ∈ (database.deleteRow tokenize rowid).messages.rows ↔
          _ := deleteRow_spec found other
    constructor
    · intro first left second right same
      obtain ⟨one, stored, _, rfl⟩ := (rows first).mp left
      obtain ⟨two, other, _, rfl⟩ := (rows second).mp right
      have ids : one.id = two.id := by
        split at same <;> split at same <;> exact same
      rw [sound.distinct one stored two other ids]
    · intro reply member parent replies
      obtain ⟨kept, stored, _, rfl⟩ := (rows reply).mp member
      split at replies
      · cases replies
      · rename_i elsewhere
        obtain ⟨other, there, named', together⟩ := sound.stay kept stored parent replies
        have differs : other.rowid ≠ rowid := by
          intro same
          have equal := database.messages.eq_of_key_eq there present (same.trans named.symm)
          rw [equal] at named'
          exact elsewhere (named' ▸ replies)
        refine ⟨_, (rows _).mpr ⟨other, there, differs, rfl⟩, ?_, ?_⟩
        · split <;> exact named'
        · rw [if_neg elsewhere]
          split <;> exact together

/-! ## Updates -/

theorem DistinctIds.updateRow (distinct : database.DistinctIds)
    (updated : database.updateRow tokenize columns row = some after) : after.DistinctIds := by
  obtain ⟨_, _, _, _, _, free, rows⟩ := updateRow_spec updated
  intro first left second right same
  rw [rows] at left right
  rcases left with rfl | ⟨left, one⟩ <;> rcases right with rfl | ⟨right, two⟩
  · rfl
  · exact absurd same.symm (free second right two)
  · exact absurd same (free first left one)
  · exact distinct first left second right same

theorem Settling.updateRow {later : List DirectMessage} (distinct : database.DistinctIds)
    (settling : database.Settling columns (row :: later))
    (accompanied : Accompanied columns later database row)
    (updated : database.updateRow tokenize columns row = some after) :
    after.Settling columns later := by
  obtain ⟨old, present, named, keeps, allowed, free, rows⟩ := updateRow_spec updated
  intro reply member
  rcases (rows reply).mp member with rfl | ⟨stored, different⟩
  · left
    intro other there replies
    rcases (rows other).mp there with rfl | ⟨there, foreign⟩
    · rfl
    by_cases checked : columns.rechecks = true
    · obtain ⟨parent, found, same, together⟩ :=
        allowsReply_iff.mp (allowed checked) other.id replies
      rw [distinct other there parent found same.symm]
      exact together
    · -- Without the check the columns of a reply have not changed.
      rw [Columns.rechecks, Bool.not_eq_true, Bool.or_eq_false_iff] at checked
      obtain ⟨-, -, -, -, -, channel, replyTo⟩ := Columns.keeps_iff.mp keeps
      rcases settling old present with together | ⟨rechecks, -⟩
      · rw [channel checked.2]
        exact together other there ((replyTo checked.1).symm.trans replies)
      · rw [Columns.rechecks, checked.1, checked.2] at rechecks
        cases rechecks
  · by_cases exempt : columns.rechecks = true ∧ reply.rowid ∈ later.map DirectMessage.rowid
    · exact .inr exempt
    have together : database.Together reply := by
      rcases settling reply stored with together | ⟨rechecks, pending⟩
      · exact together
      · rcases List.mem_cons.mp pending with same | later
        · exact absurd same different
        · exact absurd ⟨rechecks, later⟩ exempt
    left
    intro other there replies
    rcases (rows other).mp there with rfl | ⟨there, _⟩
    · by_cases moved : other.id ≠ old.id ∨ other.dmChannelId ≠ old.dmChannelId
      · exact ((accompanied old present named moved reply stored different replies).resolve_right
          exempt).symm
      · rw [not_or, not_not, not_not] at moved
        rw [moved.2]
        exact together old present (moved.1 ▸ replies)
    · exact together other there replies

/-! ## Statements -/

/-- Every write of an update is accompanied. -/
def AllAccompanied (tokenize : JsString → List Token) (columns : Columns) :
    Database Token → List DirectMessage → Prop
  | _, [] => True
  | database, row :: later => Accompanied columns later database row ∧
      ∀ after, database.updateRow tokenize columns row = some after →
        AllAccompanied tokenize columns after later

theorem Settling.updateRows (distinct : database.DistinctIds)
    (settling : database.Settling columns rows) (once : (rows.map DirectMessage.rowid).Nodup)
    (accompanied : AllAccompanied tokenize columns database rows)
    (updated : rows.foldlM (Database.updateRow tokenize columns) database = some after) :
    after.DistinctIds ∧ after.Settling columns [] := by
  induction rows generalizing database with
  | nil =>
    cases updated
    exact ⟨distinct, settling⟩
  | cons row later ih =>
    obtain ⟨middle, first, rest⟩ := Option.bind_eq_some_iff.mp updated
    obtain ⟨fresh, once⟩ := List.nodup_cons.mp once
    exact ih (distinct.updateRow first) (settling.updateRow distinct accompanied.1 first) once
      (accompanied.2 middle first) rest

/-- A row that an update does not write is still there. -/
theorem mem_of_updateRows {kept : DirectMessage} (stored : kept ∈ database.messages.rows)
    (untouched : kept.rowid ∉ rows.map DirectMessage.rowid)
    (updated : rows.foldlM (Database.updateRow tokenize columns) database = some after) :
    kept ∈ after.messages.rows := by
  induction rows generalizing database with
  | nil =>
    cases updated
    exact stored
  | cons row later ih =>
    obtain ⟨middle, first, rest⟩ := Option.bind_eq_some_iff.mp updated
    rw [List.map_cons, List.mem_cons, not_or] at untouched
    obtain ⟨_, _, _, _, _, _, rows⟩ := updateRow_spec first
    exact ih ((rows kept).mpr (.inr ⟨stored, untouched.1⟩)) untouched.2 rest

/-- An update that names neither column leaves the replies what they are. -/
theorem exists_of_updateRows (unchecked : columns.rechecks = false) {kept : DirectMessage}
    (stored : kept ∈ database.messages.rows)
    (updated : rows.foldlM (Database.updateRow tokenize columns) database = some after) :
    ∃ row ∈ after.messages.rows, row.replyToId = kept.replyToId ∧
      row.dmChannelId = kept.dmChannelId := by
  induction rows generalizing database kept with
  | nil =>
    cases updated
    exact ⟨kept, stored, rfl, rfl⟩
  | cons row later ih =>
    obtain ⟨middle, first, rest⟩ := Option.bind_eq_some_iff.mp updated
    obtain ⟨old, present, named, keeps, _, _, rows⟩ := updateRow_spec first
    by_cases mine : kept.rowid = row.rowid
    · rw [Columns.rechecks, Bool.or_eq_false_iff] at unchecked
      obtain ⟨-, -, -, -, -, channel, replyTo⟩ := Columns.keeps_iff.mp keeps
      have same := database.messages.eq_of_key_eq stored present (mine.trans named.symm)
      rw [same, ← channel unchecked.2, ← replyTo unchecked.1]
      exact ih ((rows row).mpr (.inl rfl)) rest
    · exact ih ((rows kept).mpr (.inr ⟨stored, mine⟩)) rest

/-- A message that leaves a reply behind stays apart from it. -/
theorem not_repliesStay_of_updateRows (distinct : database.DistinctIds)
    (once : (rows.map DirectMessage.rowid).Nodup)
    (left : ¬AllAccompanied tokenize columns database rows)
    (updated : rows.foldlM (Database.updateRow tokenize columns) database = some after) :
    ¬after.RepliesStay := by
  induction rows generalizing database with
  | nil => exact absurd trivial left
  | cons row later ih =>
    obtain ⟨middle, first, rest⟩ := Option.bind_eq_some_iff.mp updated
    obtain ⟨fresh, once⟩ := List.nodup_cons.mp once
    by_cases accompanied : Accompanied columns later database row
    · apply ih (distinct.updateRow first) once _ rest
      intro others
      refine left ⟨accompanied, fun other written => ?_⟩
      cases first.symm.trans written
      exact others
    · unfold Accompanied at accompanied
      push Not at accompanied
      obtain ⟨old, present, named, moved, reply, stored, different, replies, apart, unchecked⟩ :=
        accompanied
      obtain ⟨_, _, _, _, _, _, rows⟩ := updateRow_spec first
      have written := mem_of_updateRows ((rows row).mpr (.inl rfl)) fresh rest
      have remains : ∃ left ∈ after.messages.rows, left.replyToId = reply.replyToId ∧
          left.dmChannelId = reply.dmChannelId := by
        have still := (rows reply).mpr (.inr ⟨stored, different⟩)
        by_cases pending : reply.rowid ∈ later.map DirectMessage.rowid
        · have unnamed : columns.rechecks = false := by
            rw [Bool.eq_false_iff]
            exact fun checked => unchecked checked pending
          exact exists_of_updateRows unnamed still rest
        · exact ⟨reply, mem_of_updateRows still pending rest, rfl, rfl⟩
      obtain ⟨behind, there, same, channel⟩ := remains
      intro stay
      obtain ⟨other, found, ids, together⟩ := stay behind there row.id (same.trans replies)
      have each (before : Database Token) (row : DirectMessage) (after : Database Token)
          (distinct : before.DistinctIds) (written : before.updateRow tokenize columns row = some after) :
          after.DistinctIds := distinct.updateRow written
      have unique := kept_of_foldlM each (distinct.updateRow first) rest
      rw [unique other found row written ids, channel] at together
      exact apart together.symm

/-- The rows that an update writes are accompanied, if it is accepted. -/
def Accompanies (tokenize : JsString → List Token) (database : Database Token) : Statement → Prop
  | .update columns rows => (database.execute tokenize (.update columns rows)).isSome →
      AllAccompanied tokenize columns database rows
  | _ => True

theorem Sound.update (sound : database.Sound)
    (accompanied : AllAccompanied tokenize columns database rows)
    (executed : database.execute tokenize (.update columns rows) = some after) : after.Sound := by
  obtain ⟨written, satisfied⟩ := Option.filter_eq_some_iff.mp executed
  obtain ⟨once, updated⟩ := Option.ite_none_right_eq_some.mp written
  obtain ⟨distinct, settling⟩ :=
    Settling.updateRows sound.distinct (sound.start columns rows) once accompanied updated
  refine ⟨distinct, ?_⟩
  intro reply member parent replies
  obtain ⟨other, stored, rfl⟩ := exists_of_satisfiesForeignKeys satisfied member replies
  rcases settling reply member with together | ⟨_, pending⟩
  · exact ⟨other, stored, rfl, together other stored replies⟩
  · cases pending

theorem Sound.deleteRows (tokenize : JsString → List Token) (sound : database.Sound)
    (rowids : List Int) : (rowids.foldl (Database.deleteRow tokenize) database).Sound := by
  have each (before : Database Token) (rowid : Int) (sound : before.Sound) :
      (before.deleteRow tokenize rowid).Sound := sound.deleteRow rowid
  exact kept_of_foldl each rowids sound

theorem Sound.execute (sound : database.Sound) {statement : Statement}
    (accompanies : database.Accompanies tokenize statement)
    (executed : database.execute tokenize statement = some after) : after.Sound := by
  have written := (Option.filter_eq_some_iff.mp executed).1
  cases statement with
  | insertUser id | insertChannel id =>
    cases written
    exact ⟨sound.distinct, sound.stay⟩
  | insert rows =>
    have each (before : Database Token) (row : DirectMessage) (after : Database Token)
        (sound : before.Sound) (inserted : before.insertRow tokenize row = some after) :
        after.Sound := sound.insertRow inserted
    exact kept_of_foldlM each sound written
  | update columns rows =>
    exact sound.update (accompanies (Option.isSome_of_eq_some executed)) executed
  | delete rowids =>
    cases written
    exact sound.deleteRows tokenize rowids
  | deleteChannel id =>
    have deleted :=
      sound.deleteRows tokenize (database.selecting fun row => row.dmChannelId = some id)
    cases written
    exact ⟨deleted.distinct, deleted.stay⟩
  | deleteUser id =>
    have deleted := sound.deleteRows tokenize (database.selecting fun row =>
      row.senderId = id || row.receiverId = some id)
    cases written
    exact ⟨deleted.distinct, deleted.stay⟩

/-- An accepted statement keeps the replies together exactly when what it moves is accompanied. -/
theorem Sound.repliesStay_iff (sound : database.Sound) {statement : Statement}
    (executed : database.execute tokenize statement = some after) :
    after.RepliesStay ↔ database.Accompanies tokenize statement := by
  constructor
  · intro stay
    cases statement with
    | update columns rows =>
      intro _
      by_contra left
      obtain ⟨once, updated⟩ :=
        Option.ite_none_right_eq_some.mp (Option.filter_eq_some_iff.mp executed).1
      exact not_repliesStay_of_updateRows sound.distinct once left updated stay
    | _ => trivial
  · exact fun accompanies => (sound.execute accompanies executed).stay

theorem replies_of_reachable {guard : Database Token → Statement → Prop}
    (admits : ∀ database statement, guard database statement → database.Accompanies tokenize statement)
    (reached : (messageSystem tokenize Sound).Reachable guard database) : database.Sound := by
  induction reached with
  | initial sound => exact sound
  | step _ admitted moved ih => exact ih.execute (admits _ _ admitted) moved

/-- In every run whose moves are accompanied the replies stay in their channels; and a statement
whose moves are not takes them apart. -/
theorem repliesStay_of_reachable
    (reached : (messageSystem tokenize Sound).Reachable (Accompanies tokenize) database) :
    database.RepliesStay ∧ ∀ statement after, database.execute tokenize statement = some after →
      (after.RepliesStay ↔ database.Accompanies tokenize statement) := by
  have sound := replies_of_reachable (fun _ _ => id) reached
  exact ⟨sound.stay, fun statement after => sound.repliesStay_iff⟩

end Rows

end Database

namespace Sample

/-- A reply in one channel, and a second channel. -/
def replying : List Statement :=
  [.insertUser (js "ana"), .insertChannel (js "chat"), .insertChannel (js "work"),
    .insert [message 1 "m" (some (js "hello")) "chat" none],
    .insert [message 2 "n" (some (js "hi")) "chat" (some (js "m"))]]

/-- Runs without updates. -/
def noUpdate (_ : Database JsString) : Statement → Bool
  | .update _ _ => false
  | _ => true

theorem noUpdate_sound (database : Database JsString) (statement : Statement)
    (checked : noUpdate database statement = true) : database.Accompanies word statement := by
  cases statement with
  | update columns rows => cases checked
  | _ => trivial

def replied : Database JsString :=
  (System.follow noUpdate (fun database statement => database.execute word statement) unused
    replying).get (by decide)

theorem unused_sound : unused.Sound :=
  ⟨fun _ member => (nomatch member), fun _ member => (nomatch member)⟩

theorem replied_reachable :
    (messageSystem word Database.Sound).Reachable (Database.Accompanies word) replied :=
  System.reachable_of_follow noUpdate_sound unused_sound _

/-- The message that is replied to is moved alone. -/
def moving : Statement :=
  .update ⟨false, false, false, false, false, true, false⟩ [message 1 "m" (some (js "hello")) "work" none]

def parted : Database JsString := (follow (replying ++ [moving])).get (by decide)

theorem parted_reachable : (messageSystem word Database.Sound).Reachable System.unguarded parted :=
  System.reachable_of_follow System.unchecked_sound unused_sound _

end Sample

/-- A reply in its channel. -/
theorem replied_stay : Sample.replied.RepliesStay :=
  (Database.repliesStay_of_reachable Sample.replied_reachable).1

/-- A reply is left behind. -/
theorem parted_apart :
    (messageSystem Sample.word Database.Sound).Reachable System.unguarded Sample.parted ∧
      ¬Sample.parted.RepliesStay := by
  refine ⟨Sample.parted_reachable, ?_⟩
  intro stay
  have allowed : Sample.parted.allowsReply (Sample.message 2 "n" (some (js "hi")) "chat"
      (some (js "m"))) = true :=
    Database.allowsReply_iff.mpr (stay _ (by decide))
  exact absurd allowed (by decide)

end Vortex.Sql
