import Vortex.Channels.Messages
import Vortex.Channels.Outsiders

/-!
# Whether a deletion is final

A deleted message stays in the table, with its mark and without its content. Every
statement of the routes respects that except the update of an edit, which asks who has
sent the message but not whether it is still there: it gives a deleted message a content
again, and a read by id shows it. In the runs without such an edit a deletion is final.
-/

namespace Vortex.Channels

open Foundation List

/-- Every message that is marked as deleted is without its content. -/
def Cleared (table : Messages) : Prop :=
  ∀ row ∈ table.rows, row.deletedAt ≠ none → row.content = none

/-- The message with an id has been deleted. -/
def Gone (id : JsString) (table : Messages) : Prop :=
  ∃ row ∈ table.rows, row.id = id ∧ row.deletedAt ≠ none

/-- The rows a statement has returned. -/
def returned (exchange : Proc.Exchange direct) : List DirectMessage :=
  match exchange.2 with
  | .ok rows => rows
  | .error _ => []

/-- The rows a response shows. -/
def MessageResponse.rows : MessageResponse → List DirectMessage
  | .refused _ | .deleted => []
  | .sent _ replyTo => replyTo.toList
  | .edited row => [row]
  | .message shown => shown.row :: shown.replyTo.toList
  | .page messages _ => messages.flatMap fun shown => shown.row :: shown.replyTo.toList

/-- From a pool on in which a message has been deleted: it stays without content, no
statement returns it with one, and neither does any response to a request that is made
from then on. -/
structure FinallyGone (id : JsString) (pool later : MessagePool) : Prop where
  stored : ∀ row ∈ later.shared.rows, row.id = id → row.content = none
  statements : ∀ recent, later.history = recent ++ pool.history → ∀ event ∈ recent,
    ∀ row ∈ returned ⟨event.request, event.answer⟩, row.id = id → row.content = none
  responses : ∀ (index : Nat) (thread : Thread direct Empty MessageResponse MessageCall)
    (response : MessageResponse), pool.threads[index]? = none →
    later.threads[index]? = some thread → thread.result? = some (.ok response) →
    ∀ row ∈ response.rows, row.id = id → row.content = none

/-- An edit updates only messages that are not deleted. -/
def Undeleted (pool : MessagePool) : Turn MessageCall → Prop
  | .start _ => True
  | .advance index => ∀ call own content nowIso next,
      pool.threads[index]? = some ⟨call, .await (.edit own content nowIso) next⟩ →
        ∀ row ∈ pool.shared.rows, own.matches row = true → row.deletedAt = none

/-! ## What a response shows has been returned -/

/-- A response shows only rows that the statements of its request have returned. -/
def Shown (seen : List (Proc.Exchange direct)) (result : Except Empty MessageResponse) : Prop :=
  ∀ response, result = .ok response → ∀ row ∈ response.rows,
    ∃ exchange ∈ seen, row ∈ returned exchange

abbrev showing : Monitor direct (List (Proc.Exchange direct)) :=
  .recorder (fun _ => true) fun _ _ => True

section Programs

variable {call : MessageCall} {seen : List (Proc.Exchange direct)}

/-- A process whose response shows only what it has read. -/
abbrev ShowsRead (process : MessageProc) (seen : List (Proc.Exchange direct)) : Prop :=
  process.Obeys showing Shown seen

theorem shows_nothing {response : MessageResponse} (nothing : response.rows = []) :
    ShowsRead (return response) seen := by
  intro other same row shown
  obtain rfl := Except.ok.inj same
  rw [nothing] at shown
  cases shown

/-- A statement, with every answer to it. -/
theorem shows_perform {statement : MessageStatement}
    {next : Except Unit (List DirectMessage) → MessageProc}
    (rest : ∀ answer : Except Unit (List DirectMessage),
      ShowsRead (next answer) (seen ++ [⟨statement, answer⟩])) :
    ShowsRead (perform statement >>= next) seen :=
  ⟨trivial, rest⟩

theorem shows_finish {response : MessageResponse}
    (known : ∀ row ∈ response.rows, ∃ exchange ∈ seen, row ∈ returned exchange) :
    ShowsRead (finish call response) seen := by
  unfold finish
  split
  · exact shows_nothing rfl
  · intro other same row shown
    obtain rfl := Except.ok.inj same
    exact known row shown

theorem shows_asMember {next : MessageProc} (rest : ShowsRead next seen) :
    ShowsRead (asMember call next) seen := by
  unfold asMember
  split
  · exact shows_nothing rfl
  · exact shows_nothing rfl
  · exact rest

/-- The last exchange is among those that have been seen. -/
theorem seen_last {exchange : Proc.Exchange direct} : exchange ∈ seen ++ [exchange] :=
  mem_append_right _ mem_cons_self

theorem shows_replyTarget {replyToId : Json} {next : Option DirectMessage → MessageProc}
    (rest : ∀ replyTo seen, (∀ row ∈ replyTo.toList, ∃ exchange ∈ seen, row ∈ returned exchange) →
      ShowsRead (next replyTo) seen) :
    ShowsRead (replyTarget call.channelId replyToId next) seen := by
  unfold replyTarget
  split
  · refine rest none _ ?_
    rintro _ ⟨⟩
  · split
    · refine shows_perform fun answer => ?_
      rcases answer with _ | _ | ⟨target, others⟩
      · exact shows_nothing rfl
      · exact shows_nothing rfl
      · dsimp only
        split
        · exact shows_nothing rfl
        · refine rest (some target) _ fun row shown => ?_
          obtain rfl := mem_singleton.mp shown
          exact ⟨_, seen_last, mem_cons_self⟩
    all_goals exact shows_nothing rfl

theorem shows_send (user : JsString) (body : Option Json) :
    ShowsRead (send call user body) seen := by
  unfold send
  split
  · exact shows_nothing rfl
  · split
    · exact shows_nothing rfl
    · split
      · exact shows_nothing rfl
      · refine shows_replyTarget fun replyTo seen known => shows_perform fun answer => ?_
        rcases answer with _ | _ | ⟨row, others⟩
        · exact shows_nothing rfl
        · exact shows_nothing rfl
        · dsimp only
          split
          · exact shows_nothing rfl
          · intro other same row shown
            obtain rfl := Except.ok.inj same
            obtain ⟨exchange, member, there⟩ := known row shown
            exact ⟨exchange, mem_append_left _ member, there⟩

theorem shows_edit (user messageId : JsString) (body : Option Json) :
    ShowsRead (edit call user messageId body) seen := by
  unfold edit
  split
  · exact shows_nothing rfl
  · split
    · exact shows_nothing rfl
    · split
      · exact shows_nothing rfl
      · refine shows_perform fun answer => ?_
        rcases answer with _ | _ | ⟨row, others⟩
        · exact shows_nothing rfl
        · exact shows_nothing rfl
        · intro other same shown member
          obtain rfl := Except.ok.inj same
          obtain rfl := mem_singleton.mp member
          exact ⟨_, seen_last, mem_cons_self⟩

theorem shows_delete (user messageId : JsString) : ShowsRead (delete call user messageId) seen := by
  unfold delete
  split
  · exact shows_nothing rfl
  · refine shows_perform fun answer => ?_
    rcases answer with _ | _ | ⟨row, others⟩
    · exact shows_nothing rfl
    · exact shows_nothing rfl
    · exact shows_nothing rfl

theorem shows_read (messageId : JsString) : ShowsRead (read call messageId) seen := by
  refine shows_asMember (shows_perform fun answer => ?_)
  rcases answer with _ | _ | ⟨row, others⟩
  · exact shows_nothing rfl
  · exact shows_nothing rfl
  · dsimp only
    split
    · refine shows_finish fun shown member => ?_
      obtain rfl := mem_singleton.mp member
      exact ⟨_, seen_last, mem_cons_self⟩
    · refine shows_perform fun answer => ?_
      rcases answer with _ | replies
      · exact shows_nothing rfl
      · refine shows_finish fun shown member => ?_
        rcases mem_cons.mp member with rfl | reply
        · exact ⟨_, mem_append_left _ seen_last, mem_cons_self⟩
        · exact ⟨_, seen_last, mem_of_mem_head? (Option.mem_toList.mp reply)⟩

theorem mem_withReplies {rows replies : List DirectMessage} {row : DirectMessage}
    (shown : row ∈ (withReplies rows replies).flatMap fun shown =>
      shown.row :: shown.replyTo.toList) : row ∈ rows ∨ row ∈ replies := by
  obtain ⟨_, listed, member⟩ := mem_flatMap.mp shown
  obtain ⟨shown, present, rfl⟩ := mem_map.mp listed
  rcases mem_cons.mp member with rfl | reply
  · exact .inl (mem_reverse.mp present)
  · obtain ⟨replyId, -, found⟩ := Option.bind_eq_some_iff.mp (Option.mem_toList.mp reply)
    exact .inr (mem_of_find?_eq_some found)

theorem shows_readPage (before : Option JsString) : ShowsRead (readPage call before) seen := by
  refine shows_asMember (shows_perform fun answer => ?_)
  rcases answer with _ | rows
  · exact shows_nothing rfl
  · dsimp only
    split
    · refine shows_finish fun row shown => ?_
      rcases mem_withReplies shown with page | reply
      · exact ⟨_, seen_last, page⟩
      · cases reply
    · refine shows_perform fun answer => ?_
      rcases answer with _ | replies
      · exact shows_nothing rfl
      · refine shows_finish fun row shown => ?_
        rcases mem_withReplies shown with page | reply
        · exact ⟨_, mem_append_left _ seen_last, page⟩
        · exact ⟨_, seen_last, reply⟩

theorem shows_messageProgram (call : MessageCall) : ShowsRead (messageProgram call) [] := by
  unfold messageProgram
  split
  · exact shows_nothing rfl
  · split
    · exact shows_send _ _
    · exact shows_edit _ _ _
    · exact shows_delete _ _
    · exact shows_read _
    · exact shows_readPage _

end Programs

/-! ## What a statement does to a deletion -/

section Statements

variable {clock : Clock} {call : MessageCall} {statement : MessageStatement}
  {before after : Messages} {answer : Except Unit (List DirectMessage)}

/-- What an update of the messages of a user leaves of a row. -/
theorem mem_updateOwn {own : OwnMessage} {change : DirectMessage → DirectMessage}
    {keeps : ∀ row, (change row).id = row.id} {row : DirectMessage}
    (member : row ∈ (before.updateWhere own.matches change keeps).rows) :
    (row ∈ before.rows ∧ own.matches row = false) ∨
      ∃ stored ∈ before.rows, own.matches stored = true ∧ row = change stored := by
  obtain ⟨stored, present, rfl⟩ := mem_map.mp member
  split
  · rename_i mine
    exact .inr ⟨stored, present, mine, rfl⟩
  · rename_i other
    exact .inl ⟨present, Bool.not_eq_true _ ▸ other⟩

section

variable (answered : messageHandle clock call statement before = some (answer, after))

include answered

/-- A statement returns rows of the table it leaves behind. -/
theorem stored_of_returned
    {row : DirectMessage} (found : row ∈ returned ⟨statement, answer⟩) : row ∈ after.rows := by
  unfold messageHandle at answered
  split at answered
  · cases answered
    cases found
  · have effect := Option.some.inj answered
    cases statement with
    | insert message =>
      unfold execute at effect
      dsimp only at effect
      split at effect
      · cases effect
        cases found
      · rename_i absent
        cases effect
        obtain rfl := mem_singleton.mp found
        exact Table.mem_insertIgnore.mpr (.inr ⟨rfl, Table.find?_eq_none.mp absent⟩)
    | page channelId time =>
      cases effect
      have listed := mem_of_mem_take found
      exact (mem_filter.mp (mem_mergeSort.mp listed)).1
    | _ =>
      cases effect
      exact (mem_filter.mp found).1

/-- What a statement leaves behind: the table as it was, or with its write. -/
theorem table_of_handle :
    after = before ∨ (∃ message, statement = .insert message ∧
        after = before.insertIgnore (.ofMessage message)) ∨
      (∃ own content nowIso, statement = .edit own content nowIso ∧
        after = before.updateWhere own.matches (edited content nowIso) fun _ => rfl) ∨
      ∃ own nowIso, statement = .delete own nowIso ∧
        after = before.updateWhere own.matches (erased nowIso) fun _ => rfl := by
  unfold messageHandle at answered
  split at answered
  · cases answered
    exact .inl rfl
  · have effect := Option.some.inj answered
    cases statement with
    | insert message =>
      unfold execute at effect
      dsimp only at effect
      split at effect
      · cases effect
        exact .inl rfl
      · cases effect
        exact .inr (.inl ⟨message, rfl, rfl⟩)
    | edit own content nowIso =>
      cases effect
      exact .inr (.inr (.inl ⟨own, content, nowIso, rfl, rfl⟩))
    | delete own nowIso =>
      cases effect
      exact .inr (.inr (.inr ⟨own, nowIso, rfl, rfl⟩))
    | _ =>
      cases effect
      exact .inl rfl

end

theorem Cleared.step (cleared : Cleared before)
    (undeleted : ∀ own content nowIso, statement = .edit own content nowIso →
      ∀ row ∈ before.rows, own.matches row = true → row.deletedAt = none)
    (answered : messageHandle clock call statement before = some (answer, after)) :
    Cleared after := by
  intro row member marked
  rcases table_of_handle answered with rfl | ⟨message, rfl, rfl⟩ | ⟨own, content, nowIso, rfl, rfl⟩ |
    ⟨own, nowIso, rfl, rfl⟩
  · exact cleared row member marked
  · rcases Table.mem_insertIgnore.mp member with member | ⟨rfl, -⟩
    · exact cleared row member marked
    · exact absurd rfl marked
  · rcases mem_updateOwn member with ⟨member, -⟩ | ⟨stored, present, mine, rfl⟩
    · exact cleared row member marked
    · exact absurd (undeleted own content nowIso rfl stored present mine) marked
  · rcases mem_updateOwn member with ⟨member, -⟩ | ⟨stored, present, mine, rfl⟩
    · exact cleared row member marked
    · rfl

/-- The mark of a deletion stays. -/
theorem Gone.step {id : JsString} (gone : Gone id before)
    (answered : messageHandle clock call statement before = some (answer, after)) :
    Gone id after := by
  obtain ⟨row, member, named, marked⟩ := gone
  rcases table_of_handle answered with rfl | ⟨message, rfl, rfl⟩ | ⟨own, content, nowIso, rfl, rfl⟩ |
    ⟨own, nowIso, rfl, rfl⟩
  · exact ⟨row, member, named, marked⟩
  · exact ⟨row, Table.mem_insertIgnore.mpr (.inl member), named, marked⟩
  · refine ⟨_, mem_map.mpr ⟨row, member, rfl⟩, ?_⟩
    split
    · exact ⟨named, marked⟩
    · exact ⟨named, marked⟩
  · refine ⟨_, mem_map.mpr ⟨row, member, rfl⟩, ?_⟩
    split
    · exact ⟨named, nofun⟩
    · exact ⟨named, marked⟩

end Statements

/-- The only row with the id of a deleted message has no content. -/
theorem content_of_gone {table : Messages} {id : JsString} (cleared : Cleared table)
    (gone : Gone id table) {row : DirectMessage} (member : row ∈ table.rows) (named : row.id = id) :
    row.content = none := by
  obtain ⟨stored, present, same, marked⟩ := gone
  rw [table.eq_of_key_eq member present (named.trans same.symm)]
  exact cleared stored present marked

/-! ## Runs -/

section Runs

variable {clock : Clock} {initial : Messages → Prop}

theorem cleared_of_reachable (start : ∀ table, initial table → Cleared table) {pool : MessagePool}
    (reached : (messageSystem clock initial).Reachable Undeleted pool) : Cleared pool.shared := by
  refine reached.invariant (P := fun pool => Cleared pool.shared) ?_ ?_
  · rintro _ ⟨table, begun, rfl⟩
    exact start table begun
  · intro before label after _ cleared undeleted moved
    obtain ⟨call, -, rfl⟩ | ⟨index, call, statement, next, answer, shared, rfl, found, answered,
      rfl⟩ := Pool.step_cases moved
    · exact cleared
    · refine cleared.step ?_ answered
      rintro own content nowIso rfl
      exact undeleted call own content nowIso next found

/-- In every run of the requests for messages whose edits update only messages that are not
deleted, a deletion is final. -/
theorem deletion_final (start : ∀ table, initial table → Cleared table) {pool later : MessagePool}
    (reached : (messageSystem clock initial).Reachable Undeleted pool)
    (path : (messageSystem clock initial).Steps Undeleted pool later) {id : JsString}
    (gone : Gone id pool.shared) : FinallyGone id pool later := by
  have kept : ∀ later, (messageSystem clock initial).Steps Undeleted pool later →
      Gone id later.shared ∧ ∀ recent, later.history = recent ++ pool.history → ∀ event ∈ recent,
        ∀ row ∈ returned ⟨event.request, event.answer⟩, row.id = id → row.content = none := by
    intro later path
    induction path with
    | refl =>
        refine ⟨gone, fun recent split event member => ?_⟩
        rw [List.self_eq_append_left.mp split] at member
        cases member
    | @step before after label path undeleted moved ih =>
        obtain ⟨gone, silent⟩ := ih
        have cleared := cleared_of_reachable start ((reached.steps path).step undeleted moved)
        obtain ⟨call, -, rfl⟩ | ⟨index, call, statement, next, answer, shared, rfl, found, answered,
          rfl⟩ := Pool.step_cases moved
        · exact ⟨gone, silent⟩
        · have still : Gone id shared := gone.step answered
          refine ⟨still, fun recent split event member row found named => ?_⟩
          obtain ⟨older, same⟩ := Pool.history_of_steps path
          rw [same] at split
          obtain rfl : recent = _ :: older := by
            rw [← List.cons_append] at split
            exact (List.append_cancel_right split).symm
          rcases List.mem_cons.mp member with rfl | member
          · exact content_of_gone cleared still (stored_of_returned answered found) named
          · exact silent older same event member row found named
  have final := kept later path
  refine ⟨?_, final.2, ?_⟩
  · intro row member named
    exact content_of_gone (cleared_of_reachable start (reached.steps path)) final.1 member named
  · intro index thread response absent found finished row shown named
    obtain ⟨exchange, seen, there⟩ := Pool.ended_of_reachable (reached.steps path) found
      (shows_messageProgram thread.call) finished response rfl row shown
    rw [Pool.memory_recorder] at seen
    obtain ⟨event, recorded, mine, rfl⟩ := Pool.mem_exchanges.mp seen
    obtain ⟨recent, split⟩ := Pool.history_of_steps path
    rw [split] at recorded
    rcases List.mem_append.mp recorded with new | old
    · exact final.2 recent split event new row there named
    · obtain ⟨started, present, -⟩ :=
        (Pool.consistent_of_reachable reached).started event old
      rw [mine, absent] at present
      cases present

end Runs

namespace Sample

def clock : Clock := ⟨fun _ => js "t"⟩

/-- The message that Bob has sent. -/
def written : DirectMessage := ⟨js "m", js "bob", some (js "hi"), none, none, some channel, .null⟩

def messages : Messages := ⟨[written], by decide⟩

def bobs (route : MessageRoute) : MessageCall where
  user := some (js "bob")
  channelId := channel
  route := route
  environment := ⟨.ok none, .ok false, .ok [], fun _ => .ok false, .ok none, fun _ => .ok none, .ok none,
    .ok none⟩
  limited := false
  isMember := .ok true
  others := .ok ()
  drawn := js "n"
  nowIso := js "t"
  fails := fun _ => false

/-- Bob deletes his message. -/
def deleting : List (Turn MessageCall) := [.start (bobs (.delete (js "m"))), .advance 0]

/-- Bob edits the message, and reads it. -/
def reviving : List (Turn MessageCall) :=
  [.start (bobs (.edit (js "m") (some (.obj [(js "content", .str (js "ho"))])))), .advance 1,
    .start (bobs (.read (js "m"))), .advance 2]

def rereading : List (Turn MessageCall) := [.start (bobs (.read (js "m"))), .advance 1]

/-- No statement of these turns is an edit. -/
def untouched (pool : MessagePool) : Turn MessageCall → Bool
  | .start _ => true
  | .advance index =>
      match pool.threads[index]? with
      | some ⟨_, .await (.edit _ _ _) _⟩ => false
      | _ => true

theorem untouched_sound (pool : MessagePool) (turn : Turn MessageCall)
    (checked : untouched pool turn = true) : Undeleted pool turn := by
  cases turn with
  | start call => trivial
  | advance index =>
    intro call own content nowIso next found
    simp [untouched, found] at checked

def follow (check : MessagePool → Turn MessageCall → Bool) (pool : MessagePool)
    (turns : List (Turn MessageCall)) : Option MessagePool :=
  System.follow check (Pool.turn messageProgram fun _ call => messageHandle clock call) pool turns

def deleted : MessagePool :=
  (follow untouched (Pool.fresh messages) deleting).get (by decide)

def revived : MessagePool := (follow System.unchecked deleted reviving).get (by decide)

def reread : MessagePool := (follow untouched deleted rereading).get (by decide)

abbrev sampleSystem : System MessagePool (Turn MessageCall) := messageSystem clock (· = messages)

theorem deleted_reachable : sampleSystem.Reachable Undeleted deleted :=
  System.reachable_of_follow untouched_sound ⟨messages, rfl, rfl⟩ _

theorem reread_steps : sampleSystem.Steps Undeleted deleted reread :=
  System.steps_of_follow untouched_sound (Option.some_get _).symm

theorem revived_steps : sampleSystem.Steps System.unguarded deleted revived :=
  System.steps_of_follow System.unchecked_sound (Option.some_get _).symm

theorem cleared_messages : Cleared messages := by
  intro row member marked
  obtain rfl := mem_singleton.mp member
  exact absurd rfl marked

theorem deleted_gone : Gone (js "m") deleted.shared :=
  ⟨{ written with content := none, deletedAt := some (js "t") }, mem_singleton.mpr rfl, rfl, nofun⟩

end Sample

/-- After Bob's deletion nobody reads what he has written. -/
theorem reread_final : FinallyGone (js "m") Sample.deleted Sample.reread := by
  refine deletion_final (fun table begun => ?_) Sample.deleted_reachable Sample.reread_steps
    Sample.deleted_gone
  obtain rfl : table = Sample.messages := begun
  exact Sample.cleared_messages

/-- Bob deletes his message, edits it, and reads what he has written. -/
theorem revived_readable : ∃ pool later,
    Sample.sampleSystem.Reachable System.unguarded pool ∧
      Sample.sampleSystem.Steps System.unguarded pool later ∧
      Gone (js "m") pool.shared ∧ ¬ FinallyGone (js "m") pool later := by
  refine ⟨_, _, Sample.deleted_reachable.admit fun _ _ _ _ => trivial, Sample.revived_steps,
    Sample.deleted_gone, fun final => ?_⟩
  have silent := final.responses 2 _ (.message ⟨_, none⟩) rfl rfl rfl _ List.mem_cons_self rfl
  cases silent

end Vortex.Channels
