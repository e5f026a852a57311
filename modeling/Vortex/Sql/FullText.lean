import Mathlib.Data.List.Induction
import Vortex.Sql.DirectMessages

/-!
# The full-text index of the messages

The index has the entry of the current content of every message and nothing else, so that a
search finds the messages whose contents satisfy it.
-/

namespace Vortex.Sql

open Foundation

namespace Database

variable {Token : Type} (tokenize : JsString → List Token)

/-- The texts the index should have entries of. -/
def texts (messages : Messages) (rowid : Int) : Option (List Token) :=
  (messages.find? rowid).map fun row => tokensOf tokenize row.content

section Texts

variable {tokenize} {messages : Messages} {row : DirectMessage}

theorem texts_insertIgnore (absent : messages.find? row.rowid = none) :
    texts tokenize (messages.insertIgnore row) =
      Function.update (texts tokenize messages) row.rowid (some (tokensOf tokenize row.content)) := by
  funext rowid
  rw [texts, Table.find?_insertIgnore absent, Function.update_apply]
  split <;> rfl

/-- A row is written with the text of its new version. -/
theorem texts_updateWhere {old : DirectMessage} (stored : messages.find? row.rowid = some old) :
    texts tokenize (messages.updateWhere (fun other => other.rowid = row.rowid)
        (fun other => { row with rowid := other.rowid }) fun _ => rfl) =
      Function.update (texts tokenize messages) row.rowid (some (tokensOf tokenize row.content)) := by
  funext rowid
  rw [texts, Table.find?_updateWhere, Function.update_apply]
  split
  · rename_i same
    have named := (Table.find?_eq_some.mp stored).2
    rw [same, stored, Option.map_some, Option.map_some, if_pos (decide_eq_true named)]
  · rename_i different
    rw [texts]
    cases found : messages.find? rowid with
    | none => rfl
    | some other =>
      have named := (Table.find?_eq_some.mp found).2
      rw [Option.map_some, Option.map_some, Option.map_some, if_neg]
      rw [decide_eq_true_eq, named]
      exact different

/-- Rows that lose their reply keep their text. -/
theorem texts_deleteWhere {rowid : Int} {parent : JsString} :
    texts tokenize ((messages.deleteWhere fun row => row.rowid = rowid).updateWhere
        (fun row => row.replyToId = some parent) (fun row => { row with replyToId := none })
        fun _ => rfl) = Function.update (texts tokenize messages) rowid none := by
  funext other
  rw [texts, Table.find?_updateWhere, Table.find?_deleteWhere_key, Function.update_apply]
  split
  · rfl
  · rw [texts]
    cases messages.find? other with
    | none => rfl
    | some found =>
      rw [Option.map_some, Option.map_some, Option.map_some]
      split <;> rfl

end Texts

variable [DecidableEq Token]

/-- `rebuildFts5Index`, from an empty index. -/
def rebuildFts5Index (rows : List DirectMessage) : ExternalIndex Int Token :=
  rows.foldl (fun index row => index.insert row.rowid (tokensOf tokenize row.content)) .empty

/-- The index is in step with the table. -/
def InStep (database : Database Token) : Prop :=
  database.directMessagesFts.Holds (texts tokenize database.messages)

/-- The messages a `MATCH` finds, joined by rowid. What satisfies a query is told by the
positions of the tokens. -/
def matching (database : Database Token) (query : (Token → List Nat) → Bool) : List DirectMessage :=
  database.messages.rows.filter fun row => query (database.directMessagesFts row.rowid)

/-- The tables right after the index was built. -/
def Built (database : Database Token) : Prop :=
  database.directMessagesFts = rebuildFts5Index tokenize database.messages.rows

section Rows

variable {tokenize} {database after : Database Token} {row : DirectMessage}

theorem InStep.insertRow (inStep : database.InStep tokenize)
    (inserted : database.insertRow tokenize row = some after) : after.InStep tokenize := by
  unfold Database.insertRow at inserted
  split at inserted
  · cases inserted
  split at inserted
  · cases inserted
  · rename_i fresh
    cases inserted
    have absent : database.messages.find? row.rowid = none := by
      rw [Table.find?_eq_none]
      intro other stored same
      refine fresh (List.any_eq_true.mpr ⟨other, stored, ?_⟩)
      rw [Bool.or_eq_true, decide_eq_true_eq]
      exact .inl same
    rw [InStep, texts_insertIgnore absent]
    refine ExternalIndex.Holds.insert inStep ?_
    rw [texts, absent]
    rfl

/-- The trigger is given the old content, which is the one the index has. Without it the content
does not change. -/
theorem InStep.updateRow (inStep : database.InStep tokenize) {columns : Columns}
    (updated : database.updateRow tokenize columns row = some after) : after.InStep tokenize := by
  unfold Database.updateRow at updated
  split at updated
  · cases updated
  rename_i old stored
  have text : texts tokenize database.messages row.rowid =
      some (tokensOf tokenize old.content) := by
    rw [texts, stored]
    rfl
  split at updated
  · cases updated
  rename_i keeps
  split at updated
  · cases updated
  split at updated
  · cases updated
  cases updated
  rw [InStep, texts_updateWhere stored]
  by_cases named : columns.content = true
  · simp only [named, if_true]
    exact ExternalIndex.Holds.replace inStep text _
  · rw [Bool.not_eq_true', Bool.not_eq_false, Columns.keeps_iff] at keeps
    rw [Bool.not_eq_true] at named
    have same : row.content = old.content := keeps.2.2.2.1 named
    rw [same, ← text, Function.update_eq_self]
    simp only [named, Bool.false_eq_true, if_false]
    exact inStep

theorem InStep.deleteRow (inStep : database.InStep tokenize) (rowid : Int) :
    (database.deleteRow tokenize rowid).InStep tokenize := by
  unfold Database.deleteRow
  split
  · exact inStep
  · rename_i old stored
    rw [InStep, texts_deleteWhere]
    refine ExternalIndex.Holds.delete inStep ?_
    rw [texts, stored]
    rfl

end Rows

/-! ## Statements -/

section Statements

variable {tokenize} {database after : Database Token}

theorem InStep.deleteRows (inStep : database.InStep tokenize) (rowids : List Int) :
    (rowids.foldl (Database.deleteRow tokenize) database).InStep tokenize := by
  have each (before : Database Token) (rowid : Int) (inStep : before.InStep tokenize) :
      (before.deleteRow tokenize rowid).InStep tokenize := inStep.deleteRow rowid
  exact kept_of_foldl each rowids inStep

theorem InStep.write (inStep : database.InStep tokenize) {statement : Statement}
    (written : database.write tokenize statement = some after) : after.InStep tokenize := by
  cases statement with
  | insertUser id | insertChannel id =>
    cases written
    exact inStep
  | insert rows => exact kept_of_foldlM (fun _ _ _ inStep => inStep.insertRow) inStep written
  | update columns rows =>
    obtain ⟨_, written⟩ := Option.ite_none_right_eq_some.mp written
    exact kept_of_foldlM (fun _ _ _ inStep => inStep.updateRow) inStep written
  | delete rowids =>
    cases written
    exact inStep.deleteRows rowids
  | deleteChannel id | deleteUser id =>
    cases written
    exact inStep.deleteRows _

/-- The index that is built from all rows at once. -/
theorem holds_rebuildFts5Index {rows : List DirectMessage}
    (distinct : (rows.map DirectMessage.rowid).Nodup) :
    (rebuildFts5Index tokenize rows).Holds fun rowid =>
      (rows.find? fun row => row.rowid = rowid).map fun row => tokensOf tokenize row.content := by
  induction rows using List.reverseRecOn with
  | nil => exact ExternalIndex.holds_empty
  | append_singleton rows row ih =>
    rw [List.map_append, List.nodup_append'] at distinct
    have absent : rows.find? (fun other => other.rowid = row.rowid) = none := by
      rw [List.find?_eq_none]
      intro other stored same
      rw [decide_eq_true_eq] at same
      exact distinct.2.2 (List.mem_map_of_mem stored) (by rw [same]; exact List.mem_singleton_self _)
    rw [rebuildFts5Index, List.foldl_concat]
    refine ((ih distinct.1).insert (by rw [absent]; rfl)).congr ?_
    intro rowid
    rw [List.find?_append, Function.update_apply]
    split
    · rename_i same
      rw [same, absent]
      simp
    · rename_i different
      simp [Ne.symm different]

theorem Built.inStep (built : database.Built tokenize) : database.InStep tokenize := by
  rw [InStep, built]
  exact holds_rebuildFts5Index database.messages.unique

theorem inStep_of_reachable {guard : Database Token → Statement → Prop}
    (reached : (messageSystem tokenize (Built tokenize)).Reachable guard database) :
    database.InStep tokenize := by
  induction reached with
  | initial built => exact built.inStep
  | step _ _ moved ih => exact ih.write (Option.filter_eq_some_iff.mp moved).1

/-- The index has for every message the entry of its content and none for another rowid, and a
search finds the messages whose contents satisfy it. -/
theorem searchable_of_reachable
    (reached : (messageSystem tokenize (Built tokenize)).Reachable System.unguarded database) :
    (∀ rowid token, database.directMessagesFts rowid token =
      match database.messages.find? rowid with
      | some row => ExternalIndex.positions (tokensOf tokenize row.content) token
      | none => []) ∧
    ∀ query, database.matching query = database.messages.rows.filter fun row =>
      query (ExternalIndex.positions (tokensOf tokenize row.content)) := by
  have inStep := inStep_of_reachable reached
  have entries (rowid : Int) (token : Token) : database.directMessagesFts rowid token =
      match database.messages.find? rowid with
      | some row => ExternalIndex.positions (tokensOf tokenize row.content) token
      | none => [] := by
    rw [inStep rowid token, texts]
    cases database.messages.find? rowid <;> rfl
  refine ⟨entries, fun query => List.filter_congr fun row member => ?_⟩
  have stored : database.messages.find? row.rowid = some row :=
    Table.find?_eq_some.mpr ⟨member, rfl⟩
  congr 1
  funext token
  rw [entries, stored]

end Statements

end Database

namespace Sample

/-- Texts of one word. -/
def word (text : JsString) : List JsString := [text]

def unused : Database JsString := ⟨[], [], .empty, .empty⟩

/-- A message of Ana. -/
def message (rowid : Int) (id : String) (content : Option JsString) (channel : String)
    (replyToId : Option JsString) : DirectMessage :=
  ⟨rowid, js id, js "ana", none, content, none, some (js channel), replyToId⟩

/-- Ana sends two messages and deletes one of them softly. -/
def chatting : List Statement :=
  [.insertUser (js "ana"), .insertChannel (js "chat"),
    .insert [message 1 "m" (some (js "hello")) "chat" none],
    .insert [message 2 "n" (some (js "hello")) "chat" (some (js "m"))],
    .update ⟨false, false, false, true, true, false, false⟩ [message 1 "m" none "chat" none]]

def follow (statements : List Statement) : Option (Database JsString) :=
  System.follow System.unchecked (fun database statement => database.execute word statement) unused
    statements

def chatted : Database JsString := (follow chatting).get (by decide)

theorem unused_built : unused.Built word := rfl

theorem chatted_reachable :
    (messageSystem word (Database.Built word)).Reachable System.unguarded chatted :=
  System.reachable_of_follow System.unchecked_sound unused_built _

end Sample

/-- A search finds the message that is left. -/
theorem chatted_searchable :
    Sample.chatted.matching (fun positions => !(positions (js "hello")).isEmpty) =
      Sample.chatted.messages.rows.filter fun row =>
        !(ExternalIndex.positions (Database.tokensOf Sample.word row.content) (js "hello")).isEmpty :=
  (Database.searchable_of_reachable Sample.chatted_reachable).2 _

end Vortex.Sql
