import Vortex.Views.Channels

/-!
# Search

`GET /api/search` reads its operators out of the query, asks the engine for the messages
and shows of their senders an id, a name and a picture.
-/

namespace Vortex.Views

open Foundation
open Vortex.Gateway (isWhiteSpace trim)

/-! ## The query -/

inductive FileKind
  | link
  | image
  | file
  deriving DecidableEq

structure SearchFilters where
  fromUserId : Option JsString
  has : Option FileKind
  before : Option JsString
  after : Option JsString
  deriving DecidableEq

def lowerAscii (unit : UInt16) : UInt16 := if 65 ≤ unit && unit ≤ 90 then unit + 32 else unit

/-- Whether a text starts with a lower-case word, in any case. -/
def startsWith (word text : JsString) : Bool := (text.take word.length).map lowerAscii = word

/-- An operator right here, as its value and what comes after it. -/
def operatorHere (name text : JsString) : Option (JsString × JsString) :=
  if startsWith name text then
    let value := (text.drop name.length).takeWhile fun unit => !isWhiteSpace unit
    if value.isEmpty then none else some (value, text.drop (name.length + value.length))
  else none

/-- The first operator after a white space, with what comes before that. -/
def operatorAfterSpace (name : JsString) : JsString → Option (JsString × JsString × JsString)
  | [] => none
  | unit :: rest =>
      match if isWhiteSpace unit then operatorHere name rest else none with
      | some (value, after) => some ([], value, after)
      | none =>
          match operatorAfterSpace name rest with
          | some (before, value, after) => some (unit :: before, value, after)
          | none => none

/-- `text.match(/(?:^|\s)name([^\s]+)/i)`, as the value and the text with a space in place
of the match. -/
def operator (name text : JsString) : Option (JsString × JsString) :=
  match operatorHere name text with
  | some (value, after) => some (value, 32 :: after)
  | none =>
      match operatorAfterSpace name text with
      | some (before, value, after) => some (value, before ++ 32 :: after)
      | none => none

/-- `has:(link|image|file)` right here, with its length. -/
def hasHere (text : JsString) : Option (FileKind × Nat) :=
  if startsWith (js "has:link") text then some (.link, 8)
  else if startsWith (js "has:image") text then some (.image, 9)
  else if startsWith (js "has:file") text then some (.file, 8)
  else none

/-- The kinds after white spaces, and the text with a space in place of each match, once
so many units of a match have been passed. -/
def hasAfterSpace : Nat → JsString → List FileKind × JsString
  | _, [] => ([], [])
  | skip + 1, _ :: rest => hasAfterSpace skip rest
  | 0, unit :: rest =>
      match if isWhiteSpace unit then hasHere rest else none with
      | some (kind, length) =>
          let (kinds, left) := hasAfterSpace length rest
          (kind :: kinds, 32 :: left)
      | none =>
          let (kinds, left) := hasAfterSpace 0 rest
          (kinds, unit :: left)

def hasOperators (text : JsString) : List FileKind × JsString :=
  match hasHere text with
  | some (kind, length) =>
      let (kinds, left) := hasAfterSpace length text
      (kind :: kinds, 32 :: left)
  | none => hasAfterSpace 0 text

/-- The words of a text, after the units of the word that is being read. -/
def wordsFrom (word : JsString) : JsString → List JsString
  | [] => if word.isEmpty then [] else [word]
  | unit :: rest =>
      if isWhiteSpace unit then
        if word.isEmpty then wordsFrom [] rest else word :: wordsFrom [] rest
      else wordsFrom (word ++ [unit]) rest

/-- `text.split(/\s+/).filter(Boolean)`. -/
def words (text : JsString) : List JsString := wordsFrom [] text

/-- `parseSearchQuery(raw)`. `date` is `new Date(text).toISOString()`, with nothing for an
invalid date. -/
def parseSearchQuery (date : JsString → Option JsString) (raw : JsString) :
    JsString × SearchFilters :=
  let (fromUserId, query) := match operator (js "from:") raw with
    | some (value, left) => (some value, left)
    | none => (none, raw)
  let (kinds, query) := hasOperators query
  let (before, query) := match operator (js "before:") query with
    | some (value, left) => (date value, left)
    | none => (none, query)
  let (after, query) := match operator (js "after:") query with
    | some (value, left) => (date value, left)
    | none => (none, query)
  (List.intercalate [32] (words query), ⟨fromUserId, kinds.getLast?, before, after⟩)

example : parseSearchQuery some (js "From:u1  cat has:image HAS:file before: after:x") =
    (js "cat before:", ⟨some (js "u1"), some .file, none, some (js "x")⟩) := by decide

/-- A token as a phrase of its own, with its quotation marks doubled. -/
def quoted (token : JsString) : JsString :=
  34 :: token.flatMap (fun unit => if unit = 34 then [34, 34] else [unit]) ++ [34]

/-- `toFtsMatchQuery(query)`. -/
def toFtsMatchQuery (query : JsString) : JsString :=
  List.intercalate [32] ((words query).map quoted)

/-! ## The route -/

inductive SearchCondition
  | channel (id : JsString)
  | notDeleted
  | sender (id : JsString)
  | before (time : JsString)
  | after (time : JsString)
  | has (kind : FileKind)

/-- A statement over the messages. Without an operand of `MATCH` it orders them by time. -/
structure SearchStatement where
  operand : Option JsString
  conditions : List SearchCondition
  limit : Option Int

/-- What else the search leaves to the engine and to the runtime: what a statement
selects, or the message of its error, and dates. -/
structure SearchEngine where
  run : SearchStatement → List DirectMessageRow → Except JsString (List DirectMessageRow)
  date : JsString → Option JsString

def conditions (dmChannelId : JsString) (filters : SearchFilters) : List SearchCondition :=
  [.channel dmChannelId, .notDeleted] ++
    ((filters.fromUserId.filter fun id => !id.isEmpty).map .sender).toList ++
    (filters.before.map .before).toList ++ (filters.after.map .after).toList ++
    (filters.has.map .has).toList

/-- Whether a message of an error says that the operand could not be parsed. -/
def mentionsFts5 (message : JsString) : Bool :=
  message.tails.any fun rest => startsWith (js "fts5:") rest

/-- `deriveBlockedUserIds`, on the rows that involve the viewer. -/
def blockedUserIds (database : Database) (viewer : JsString) : List JsString :=
  database.friendships.rows.flatMap fun row =>
    if row.status = .blocked then
      (if row.requesterId = viewer && !row.addresseeId.isEmpty then [row.addresseeId] else []) ++
        (if row.addresseeId = viewer && !row.requesterId.isEmpty then [row.requesterId] else [])
    else []

def author? : Option Author → Json
  | none => .null
  | some author => author.json

def resultJson (database : Database) (row : DirectMessageRow) : Json :=
  .obj [(js "type", .str (js "dm")), (js "id", .str row.id), (js "content", text? row.content),
    (js "channel_id", text? row.dmChannelId), (js "created_at", .str row.createdAt),
    (js "author_id", .str row.senderId),
    (js "author", toSnakeCase (author? (database.author? row.senderId)))]

/-- The parameters of a search, and whether the rate limiter lets it through. -/
structure SearchRequest where
  allowed : Bool
  q : Option JsString
  dmChannelId : Option JsString
  limit : Option JsString

/-- `GET /api/search`. -/
def search (engine : SearchEngine) (fails : Query → Bool) (database : Database)
    (viewer : JsString) (request : SearchRequest) : Answer :=
  if !request.allowed then .error 429 "Rate limited"
  else
    let rawQuery := trim (request.q.getD [])
    let limit := (parseInt (request.limit.getD (js "25"))).map (min · 100)
    if rawQuery.isEmpty then .error 400 "q required"
    else if 500 < rawQuery.length then .error 400 "Query too long (max 500 chars)"
    else
      match request.dmChannelId.filter fun id => !id.isEmpty with
      | none => .error 400 "dmChannelId required"
      | some dmChannelId =>
          let (query, filters) := parseSearchQuery engine.date rawQuery
          if fails .memberships then internalError
          else if !database.isMember dmChannelId viewer then .error 403 "Forbidden"
          else
            let operand := if query.isEmpty then none else some (toFtsMatchQuery query)
            match engine.run ⟨operand, conditions dmChannelId filters, limit⟩
                database.messages.rows with
            | .error message =>
                if mentionsFts5 message then .error 400 "Invalid search query" else internalError
            | .ok dmMessages =>
                if !dmMessages.isEmpty && fails .users then internalError
                else if fails .friendships then internalError
                else
                  let visible := dmMessages.filter fun row =>
                    row.senderId.isEmpty || !(blockedUserIds database viewer).contains row.senderId
                  let results := visible.map (resultJson database)
                  ⟨200, .obj [(js "results", .arr results),
                    (js "total", .num (js (toString results.length)))]⟩

/-- A search shows the authors of the messages. -/
theorem search_alter {engine : SearchEngine} {fails : Query → Bool} {database : Database}
    {viewer id : JsString} {change : UserRow → UserRow} {keeps : ∀ row, (change row).id = row.id}
    (authors : (database.alter id change keeps).author? = database.author?)
    (request : SearchRequest) :
    search engine fails (database.alter id change keeps) viewer request =
      search engine fails database viewer request := by
  have results : resultJson (database.alter id change keeps) = resultJson database := by
    funext row
    rw [resultJson, authors, resultJson]
  have isMember : (database.alter id change keeps).isMember = database.isMember := rfl
  have messages : (database.alter id change keeps).messages = database.messages := rfl
  have blocked : blockedUserIds (database.alter id change keeps) viewer =
      blockedUserIds database viewer := rfl
  simp only [search, results, isMember, messages, blocked]

end Vortex.Views
