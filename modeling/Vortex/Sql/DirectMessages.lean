import Vortex.Foundation.ExternalIndex
import Vortex.Foundation.JsText
import Vortex.Foundation.System
import Vortex.Foundation.Table

/-!
# The messages table and its triggers

`direct_messages` with its foreign keys, the full-text index beside it, and the triggers of
`fts5-and-triggers.sql` on it. A statement writes its rows one after the other, each with the
triggers and the foreign key actions of the row; it is taken back as a whole when a trigger
aborts it or a constraint does not hold. Columns that no trigger and no constraint reads are left
out, and so are the triggers that write other tables.
-/

namespace Vortex.Sql

open Foundation

structure DirectMessage where
  rowid : Int
  id : JsString
  senderId : JsString
  receiverId : Option JsString
  content : Option JsString
  deletedAt : Option JsString
  dmChannelId : Option JsString
  replyToId : Option JsString
  deriving DecidableEq

abbrev Messages : Type := Table DirectMessage Int DirectMessage.rowid

/-- The tables, with the tokens of the full-text index. -/
structure Database (Token : Type) where
  users : List JsString
  channels : List JsString
  messages : Messages
  directMessagesFts : ExternalIndex Int Token

/-- The columns an `UPDATE` names. -/
structure Columns where
  id : Bool
  senderId : Bool
  receiverId : Bool
  content : Bool
  deletedAt : Bool
  dmChannelId : Bool
  replyToId : Bool
  deriving DecidableEq

/-- A column that is not named keeps its value. -/
def Columns.keeps (columns : Columns) (old new : DirectMessage) : Bool :=
  (columns.id || new.id = old.id) && (columns.senderId || new.senderId = old.senderId) &&
    (columns.receiverId || new.receiverId = old.receiverId) &&
    (columns.content || new.content = old.content) &&
    (columns.deletedAt || new.deletedAt = old.deletedAt) &&
    (columns.dmChannelId || new.dmChannelId = old.dmChannelId) &&
    (columns.replyToId || new.replyToId = old.replyToId)

theorem Columns.keeps_iff {columns : Columns} {old new : DirectMessage} :
    columns.keeps old new = true ↔ (columns.id = false → new.id = old.id) ∧
      (columns.senderId = false → new.senderId = old.senderId) ∧
      (columns.receiverId = false → new.receiverId = old.receiverId) ∧
      (columns.content = false → new.content = old.content) ∧
      (columns.deletedAt = false → new.deletedAt = old.deletedAt) ∧
      (columns.dmChannelId = false → new.dmChannelId = old.dmChannelId) ∧
      (columns.replyToId = false → new.replyToId = old.replyToId) := by
  have either (named : Bool) (same : Prop) [Decidable same] :
      (named || decide same) = true ↔ (named = false → same) := by
    cases named <;> simp
  simp only [Columns.keeps, Bool.and_eq_true, either, and_assoc]

/-- Whether `UPDATE OF reply_to_id, dm_channel_id` triggers fire. -/
def Columns.rechecks (columns : Columns) : Bool := columns.replyToId || columns.dmChannelId

inductive Statement
  | insertUser (id : JsString)
  | insertChannel (id : JsString)
  | insert (rows : List DirectMessage)
  | update (columns : Columns) (rows : List DirectMessage)
  | delete (rowids : List Int)
  | deleteChannel (id : JsString)
  | deleteUser (id : JsString)

namespace Database

variable {Token : Type} (tokenize : JsString → List Token)

/-- The tokens of a content; a null has none. -/
def tokensOf (content : Option JsString) : List Token := (content.map tokenize).getD []

/-- The test of `trg_dm_reply_same_channel_insert` and `_update`. -/
def allowsReply (database : Database Token) (row : DirectMessage) : Bool :=
  row.replyToId.all fun parent => database.messages.rows.any fun other =>
    other.id = parent && other.dmChannelId = row.dmChannelId

variable [DecidableEq Token]

/-- One row of an `INSERT`. -/
def insertRow (database : Database Token) (row : DirectMessage) : Option (Database Token) :=
  if !database.allowsReply row then none
  else if database.messages.rows.any fun other => other.rowid = row.rowid || other.id = row.id then none
  else some { database with
    messages := database.messages.insertIgnore row
    -- `direct_messages_fts_ai`
    directMessagesFts := database.directMessagesFts.insert row.rowid (tokensOf tokenize row.content) }

/-- One row of an `UPDATE`. -/
def updateRow (columns : Columns) (database : Database Token) (row : DirectMessage) :
    Option (Database Token) :=
  match database.messages.find? row.rowid with
  | none => none
  | some old =>
      if !columns.keeps old row then none
      else if columns.rechecks && !database.allowsReply row then none
      else if database.messages.rows.any fun other => other.rowid ≠ row.rowid && other.id = row.id then
        none
      else some { database with
        messages := database.messages.updateWhere (fun other => other.rowid = row.rowid)
          (fun other => { row with rowid := other.rowid }) fun _ => rfl
        -- `direct_messages_fts_au`
        directMessagesFts :=
          if columns.content then
            (database.directMessagesFts.delete row.rowid (tokensOf tokenize old.content)).insert
              row.rowid (tokensOf tokenize row.content)
          else database.directMessagesFts }

/-- One row of a `DELETE`, with the action of the foreign key of the replies to it. -/
def deleteRow (database : Database Token) (rowid : Int) : Database Token :=
  match database.messages.find? rowid with
  | none => database
  | some old =>
      { database with
        messages := (database.messages.deleteWhere fun row => row.rowid = rowid).updateWhere
          (fun row => row.replyToId = some old.id) (fun row => { row with replyToId := none })
          fun _ => rfl
        -- `direct_messages_fts_ad`
        directMessagesFts := database.directMessagesFts.delete rowid (tokensOf tokenize old.content) }

/-- The rows that a cascading deletion selects. -/
def selecting (database : Database Token) (condition : DirectMessage → Bool) : List Int :=
  (database.messages.rows.filter condition).map DirectMessage.rowid

/-- The foreign keys of the table. -/
def satisfiesForeignKeys (database : Database Token) : Bool :=
  database.messages.rows.all fun row =>
    database.users.contains row.senderId && row.receiverId.all database.users.contains &&
      row.dmChannelId.all database.channels.contains &&
      row.replyToId.all fun parent => database.messages.rows.any fun other => other.id = parent

/-- The writes of a statement; nothing when it is aborted. -/
def write (database : Database Token) : Statement → Option (Database Token)
  | .insertUser id => some { database with users := id :: database.users }
  | .insertChannel id => some { database with channels := id :: database.channels }
  | .insert rows => rows.foldlM (insertRow tokenize) database
  | .update columns rows =>
      -- An `UPDATE` writes each row once.
      if (rows.map DirectMessage.rowid).Nodup then rows.foldlM (updateRow tokenize columns) database
      else none
  | .delete rowids => some (rowids.foldl (deleteRow tokenize) database)
  | .deleteChannel id =>
      let deleted := (database.selecting fun row => row.dmChannelId = some id).foldl
        (deleteRow tokenize) database
      some { deleted with channels := deleted.channels.filter (· ≠ id) }
  | .deleteUser id =>
      let deleted := (database.selecting fun row => row.senderId = id || row.receiverId = some id).foldl
        (deleteRow tokenize) database
      some { deleted with users := deleted.users.filter (· ≠ id) }

/-- A statement that is accepted. Foreign keys are checked at its end. -/
def execute (database : Database Token) (statement : Statement) : Option (Database Token) :=
  (database.write tokenize statement).filter fun after => after.satisfiesForeignKeys

end Database

/-- What each row of a statement keeps, the statement keeps. -/
theorem kept_of_foldlM {State Row : Type} {keeps : State → Prop}
    {writeRow : State → Row → Option State}
    (each : ∀ before row after, keeps before → writeRow before row = some after → keeps after)
    {rows : List Row} {before after : State} (start : keeps before)
    (written : rows.foldlM writeRow before = some after) : keeps after := by
  induction rows generalizing before with
  | nil =>
    cases written
    exact start
  | cons row rest ih =>
    obtain ⟨middle, first, last⟩ := Option.bind_eq_some_iff.mp written
    exact ih (each before row middle start first) last

theorem kept_of_foldl {State Row : Type} {keeps : State → Prop} {writeRow : State → Row → State}
    (each : ∀ before row, keeps before → keeps (writeRow before row)) (rows : List Row)
    {before : State} (start : keeps before) : keeps (rows.foldl writeRow before) := by
  induction rows generalizing before with
  | nil => exact start
  | cons row rest ih => exact ih (each before row start)

/-- Every sequence of statements; one that is not accepted changes nothing. -/
def messageSystem {Token : Type} [DecidableEq Token] (tokenize : JsString → List Token)
    (initial : Database Token → Prop) : System (Database Token) Statement :=
  .ofNext initial fun database statement => database.execute tokenize statement

end Vortex.Sql
