import Vortex.Channels.Routes
import Vortex.Foundation.WriteLog
import Vortex.Web.Messages

/-!
# The timeline of a channel

The server with the messages and reactions of one channel, and the pages on which its
members look at it. A page fetches pages of messages, single messages for events, sends
messages and toggles reactions, with any number of requests in flight; the gateway tells
each page of writes. Every writer of the message list keeps it in order and free of
duplicates except two: an own message is put at the end without a look at the list, and an
older page is put in front of it.
-/

namespace Vortex.Web

open Foundation List

/-! ## The server -/

structure MessageRow where
  id : JsString
  senderId : JsString
  createdAt : Int
  deleted : Bool
  deriving DecidableEq

def MessageRow.stamp (row : MessageRow) : JsString × Int := (row.id, row.createdAt)

/-- `orderBy(desc(createdAt))`, with the engine's choice among rows of one time. -/
structure PageOrder where
  newest : List MessageRow → List MessageRow
  perm : ∀ rows, (newest rows).Perm rows
  sorted : ∀ rows, (newest rows).Pairwise fun first second => second.createdAt ≤ first.createdAt

/-- Why a page asks for messages: to load the channel, for an older page, when it is shown
again, and for an event. -/
inductive Purpose
  | load
  | older (cursor : Int)
  | resync
  | hydrate (id : JsString)
  deriving DecidableEq

def pageLimit : Nat := 50

/-- What the queries of messages select: a page in the order of time, or one message. -/
def Purpose.select (order : PageOrder) (rows : List MessageRow) : Purpose → List MessageRow
  | .load | .resync =>
      ((order.newest (rows.filter fun row => !row.deleted)).take pageLimit).reverse
  | .older cursor => ((order.newest (rows.filter fun row =>
      !row.deleted && decide (row.createdAt < cursor))).take pageLimit).reverse
  | .hydrate id => rows.filter fun row => row.id = id

/-- A row with its reactions. -/
def MessageRow.withReactions (reactions : List DmReaction) (row : MessageRow) : Message :=
  ⟨row.id, row.senderId, row.createdAt, reactions.filter fun r => r.dmId = row.id⟩

/-! ## A page -/

/-- How far the server is with a fetch; an answer says how many writes of reactions there
were when it read them. -/
inductive Progress
  | asked
  | found (rows : List MessageRow)
  | answered (seen : Nat) (messages : Messages)

structure Fetch where
  purpose : Purpose
  progress : Progress

/-- An own message on its way: posted, or stored and answered. For a file the page appends
it after another request, so at any time later. -/
inductive Send
  | posted
  | stored (seen : Nat) (message : Message)

inductive TogglePhase
  | sent
  | written
  | abandoned
  deriving DecidableEq

/-- A request of `handleDmReaction`. One that has been abandoned may still be carried out. -/
structure Toggle where
  messageId : JsString
  emoji : JsString
  remove : Bool
  phase : TogglePhase
  deriving DecidableEq

/-- A page: its list and the list of its last rendering, whether an older page is being
loaded, what is in flight, and which events have reached it, or never will. -/
structure Client where
  user : JsString
  messages : Messages
  rendered : Messages
  paginating : Bool
  fetches : List Fetch
  sends : List Send
  toggles : List Toggle
  subscribed : Bool
  passed : List Nat

/-- What the rest of the system is for a page. -/
structure Server where
  rows : List MessageRow
  reactions : List DmReaction
  writes : List (Write DmReaction)
  /-- The writes whose events are published. -/
  published : List Nat
  /-- The messages whose events are published, with who sent them. -/
  announced : List (JsString × JsString)

/-- What happens to a page by itself. -/
inductive ClientEvent
  | loads
  | loadsMore
  | resyncs
  | hears (messageId actorId : JsString)
  | finds (number : Nat)
  | answers (number : Nat)
  | arrives (number : Nat)
  | breaksOff (number : Nat)
  | renders
  | sends
  | appends (number : Nat)
  | givesUp (number : Nat)
  | removes (id : JsString)
  | subscribes
  | delivers (number : Nat)
  | toggles (messageId emoji : JsString)
  | finishes (number : Nat)
  | refused (number : Nat)
  | fails (number : Nat)
  deriving DecidableEq

/-- The list after an answer. -/
def Purpose.apply (data prev : Messages) : Purpose → Messages
  | .load => data
  | .older _ => Messages.prepend data prev
  | .resync => Messages.resync data prev
  | .hydrate _ => data.foldl (fun prev newMsg => Messages.hydrate newMsg prev) prev

namespace Client

def new (user : JsString) : Client :=
  ⟨user, [], [], false, [], [], [], false, []⟩

/-- Ask for messages. -/
def ask (client : Client) (purpose : Purpose) : Client :=
  { client with fetches := client.fetches ++ [⟨purpose, .asked⟩] }

/-- A fetch is over. -/
def drop (client : Client) (number : Nat) (fetch : Fetch) : Client :=
  { client with
    fetches := client.fetches.eraseIdx number
    paginating := match fetch.purpose with
      | .older _ => false
      | _ => client.paginating }

def deliver (client : Client) (number : Nat) (write : Write DmReaction) : Client :=
  { client with
    messages := if write.raised then client.messages.reactionAdded client.user write.key
      else client.messages.reactionRemoved client.user write.key
    passed := number :: client.passed }

/-- Show a reaction or not, as its request or the failure of that has it. -/
def display (client : Client) (toggle : Toggle) (shown : Bool) : Client :=
  { client with
    messages := client.messages.showReaction client.user toggle.messageId toggle.emoji shown }

def react (order : PageOrder) (server : Server) (client : Client) : ClientEvent → Option Client
  | .loads => some (client.ask .load)
  | .loadsMore =>
      if client.paginating then none
      else client.rendered.head?.map fun first =>
        { client.ask (.older first.createdAt) with paginating := true }
  | .resyncs => some (client.ask .resync)
  | .hears messageId actorId =>
      if client.subscribed && server.announced.contains (messageId, actorId) then
        some (if actorId = client.user then client else client.ask (.hydrate messageId))
      else none
  | .finds number =>
      match client.fetches[number]? with
      | some ⟨purpose, .asked⟩ => some { client with
          fetches := client.fetches.set number ⟨purpose, .found (purpose.select order server.rows)⟩ }
      | _ => none
  | .answers number =>
      match client.fetches[number]? with
      | some ⟨purpose, .found rows⟩ => some { client with
          fetches := client.fetches.set number ⟨purpose, .answered server.writes.length
            (rows.map (MessageRow.withReactions server.reactions))⟩ }
      | _ => none
  | .arrives number =>
      match client.fetches[number]? with
      | some ⟨purpose, .answered seen data⟩ =>
          some { client.drop number ⟨purpose, .answered seen data⟩ with
            messages := purpose.apply data client.messages }
      | _ => none
  | .breaksOff number => client.fetches[number]?.map fun fetch => client.drop number fetch
  | .renders => some { client with rendered := client.messages }
  | .sends => some { client with sends := client.sends ++ [.posted] }
  | .appends number =>
      match client.sends[number]? with
      | some (.stored _ message) => some { client with
          messages := client.messages.append message
          sends := client.sends.eraseIdx number }
      | _ => none
  | .givesUp number => client.sends[number]?.map fun _ =>
      { client with sends := client.sends.eraseIdx number }
  | .removes id => some { client with messages := client.messages.remove id }
  | .subscribes =>
      if client.subscribed then none
      else some { client with subscribed := true, passed := server.published }
  | .delivers number =>
      if client.subscribed && server.published.contains number then
        server.writes[number]?.map (client.deliver number)
      else none
  | .toggles messageId emoji =>
      (client.rendered.ownReaction client.user messageId emoji).map fun existing =>
        let toggle : Toggle := ⟨messageId, emoji, existing, .sent⟩
        { client.display toggle (!existing) with toggles := client.toggles ++ [toggle] }
  | .finishes number =>
      match client.toggles[number]? with
      | some ⟨_, _, _, .written⟩ => some { client with toggles := client.toggles.eraseIdx number }
      | _ => none
  | .refused number =>
      -- The server has answered with an error and writes nothing.
      match client.toggles[number]? with
      | some ⟨messageId, emoji, remove, .sent⟩ =>
          some { client.display ⟨messageId, emoji, remove, .sent⟩ remove with
            toggles := client.toggles.eraseIdx number }
      | some ⟨_, _, _, .abandoned⟩ => some { client with toggles := client.toggles.eraseIdx number }
      | _ => none
  | .fails number =>
      -- The answer is lost: the page reverts, whatever the server has done or will do.
      match client.toggles[number]? with
      | some ⟨messageId, emoji, remove, .sent⟩ =>
          let toggle : Toggle := ⟨messageId, emoji, remove, .abandoned⟩
          some { client.display toggle remove with toggles := client.toggles.set number toggle }
      | some ⟨messageId, emoji, remove, .written⟩ =>
          some { client.display ⟨messageId, emoji, remove, .written⟩ remove with
            toggles := client.toggles.eraseIdx number }
      | _ => none

end Client

/-! ## The system -/

structure World where
  server : Server
  clients : List Client

/-- What can happen: a page is opened, something happens to one by itself, a message is
stored and its event published, a message is deleted, and a reaction is written and its
event published. -/
inductive TimelineEvent
  | mounts (user : JsString)
  | own (client : Nat) (event : ClientEvent)
  | stores (client number : Nat) (id : JsString) (createdAt : Int)
  | announces (id senderId : JsString)
  | deletes (id : JsString)
  | writes (client number : Nat)
  | publishes (number : Nat)
  deriving DecidableEq

/-- The emoji the server reads in the body of a request. -/
def sentEmoji (emoji : JsString) : Option JsString :=
  (Channels.normalizeEmoji (some (.obj [(js "emoji", .str emoji)]))).toOption

namespace Server

/-- `insert … onConflictDoNothing`, or `delete`. -/
def write (server : Server) (reaction : DmReaction) (remove : Bool) : Server :=
  { server with
    reactions :=
      if remove then server.reactions.filter fun r => r ≠ reaction
      else if server.reactions.contains reaction then server.reactions
      else server.reactions ++ [reaction]
    writes := server.writes ++ [⟨reaction, !remove⟩] }

def delete (server : Server) (id : JsString) : Server :=
  { server with
    rows := server.rows.map fun row => if row.id = id then { row with deleted := true } else row }

end Server

namespace World

/-- Replace a page. -/
def put (world : World) (number : Nat) (client : Client) : World :=
  { world with clients := world.clients.set number client }

/-- A toggle is carried out. -/
def carryOut (world : World) (number index : Nat) (client : Client) (toggle : Toggle)
    (emoji : JsString) : World :=
  { server := world.server.write ⟨toggle.messageId, client.user, emoji⟩ toggle.remove
    clients := world.clients.set number { client with
      toggles := if toggle.phase = .sent then client.toggles.set index { toggle with phase := .written }
        else client.toggles.eraseIdx index } }

def next (order : PageOrder) (world : World) : TimelineEvent → Option World
  | .mounts user => some { world with clients := world.clients ++ [Client.new user] }
  | .own number event =>
      world.clients[number]?.bind fun client =>
        (client.react order world.server event).map (world.put number)
  | .stores number index id createdAt =>
      world.clients[number]?.bind fun client =>
        match client.sends[index]? with
        | some .posted =>
            if world.server.rows.any fun row => row.id = id then none
            else
              let row : MessageRow := ⟨id, client.user, createdAt, false⟩
              some
                { server := { world.server with rows := world.server.rows ++ [row] }
                  clients := world.clients.set number { client with
                    sends := client.sends.set index
                      (.stored world.server.writes.length ⟨id, client.user, createdAt, []⟩) } }
        | _ => none
  | .announces id senderId =>
      if world.server.rows.any fun row => row.id = id && row.senderId = senderId then
        some { world with server := { world.server with
          announced := world.server.announced ++ [(id, senderId)] } }
      else none
  | .deletes id => some { world with server := world.server.delete id }
  | .writes number index =>
      world.clients[number]?.bind fun client =>
        client.toggles[index]?.bind fun toggle =>
          if toggle.phase = .written then none
          else if world.server.rows.any fun row => row.id = toggle.messageId then
            (sentEmoji toggle.emoji).map (world.carryOut number index client toggle)
          else none
  | .publishes number =>
      if number < world.server.writes.length && !world.server.published.contains number then
        some { world with server := { world.server with
          published := number :: world.server.published } }
      else none

/-- The messages and reactions there are, and nothing in flight. -/
structure Initial (world : World) : Prop where
  rows : (world.server.rows.map MessageRow.id).Nodup
  reactions : world.server.reactions.Nodup
  referenced : ∀ r ∈ world.server.reactions, ∃ row ∈ world.server.rows, row.id = r.dmId
  writes : world.server.writes = []
  published : world.server.published = []
  clients : world.clients = []

end World

/-- All runs of the pages and the server. -/
def timelineSystem (order : PageOrder) : System World TimelineEvent :=
  .ofNext World.Initial (World.next order)

/-! ## Uniqueness and order -/

/-- The messages of a fetch: known, each once, in order, and before the cursor. -/
structure Purpose.Page (purpose : Purpose) (stamps : List (JsString × Int))
    (page : List (JsString × Int)) : Prop where
  known : ∀ stamp ∈ page, stamp ∈ stamps
  unique : (page.map Prod.fst).Nodup
  sorted : page.Pairwise fun first second => first.2 ≤ second.2
  before : ∀ cursor, purpose = .older cursor → ∀ stamp ∈ page, stamp.2 < cursor

/-- What holds of a fetch when these messages have been stored. -/
def Fetch.Orderly (stamps : List (JsString × Int)) (fetch : Fetch) : Prop :=
  match fetch.progress with
  | .asked => True
  | .found rows => fetch.purpose.Page stamps (rows.map MessageRow.stamp)
  | .answered _ messages => fetch.purpose.Page stamps (messages.map Message.stamp)

/-- What holds of a page when these messages have been stored. -/
structure Client.Orderly (stamps : List (JsString × Int)) (client : Client) : Prop where
  list : client.messages.Orderly
  known : ∀ message ∈ client.messages, message.stamp ∈ stamps
  fetches : ∀ fetch ∈ client.fetches, fetch.Orderly stamps
  sends : ∀ seen message, Send.stored seen message ∈ client.sends → message.stamp ∈ stamps

/-- The invariant of the message lists. -/
structure World.Orderly (world : World) : Prop where
  unique : (world.server.rows.map MessageRow.id).Nodup
  clients : ∀ client ∈ world.clients, client.Orderly (world.server.rows.map MessageRow.stamp)

/-- The condition on what happens to a page: an own message is appended only to a list
without it and without a later message, and an older page is put in front of a list only
if that has no message from before the cursor. -/
def Client.timely (client : Client) : ClientEvent → Prop
  | .appends number => ∀ seen msg, client.sends[number]? = some (.stored seen msg) →
      ∀ message ∈ client.messages, message.id ≠ msg.id ∧ message.createdAt ≤ msg.createdAt
  | .arrives number => ∀ cursor progress,
      client.fetches[number]? = some ⟨.older cursor, progress⟩ →
        ∀ message ∈ client.messages, cursor ≤ message.createdAt
  | _ => True

def World.timely (world : World) : TimelineEvent → Prop
  | .own number event => ∀ client, world.clients[number]? = some client → client.timely event
  | _ => True

section Server

variable {order : PageOrder} {rows : List MessageRow}

theorem Purpose.Page.mono {purpose : Purpose} {stamps wider page : List (JsString × Int)}
    (sound : purpose.Page stamps page) (wide : ∀ stamp ∈ stamps, stamp ∈ wider) :
    purpose.Page wider page :=
  { sound with known := fun stamp member => wide stamp (sound.known stamp member) }

/-- The rows of a page are in order. -/
theorem page_newest (unique : (rows.map MessageRow.id).Nodup) (chosen : MessageRow → Bool) :
    let page := (((order.newest (rows.filter chosen)).take pageLimit).reverse).map MessageRow.stamp
    (∀ stamp ∈ page, stamp ∈ rows.map MessageRow.stamp) ∧ (page.map Prod.fst).Nodup ∧
      page.Pairwise fun first second => first.2 ≤ second.2 := by
  have part : ((order.newest (rows.filter chosen)).take pageLimit).Sublist
      (order.newest (rows.filter chosen)) := take_sublist _ _
  refine ⟨?_, ?_, ?_⟩
  · intro stamp member
    obtain ⟨row, listed, rfl⟩ := mem_map.mp member
    have kept := (order.perm _).mem_iff.mp (part.subset (mem_reverse.mp listed))
    exact mem_map_of_mem (mem_filter.mp kept).1
  · have ids : ((order.newest (rows.filter chosen)).map MessageRow.id).Nodup :=
      ((order.perm _).map MessageRow.id).nodup_iff.mpr (unique.sublist (filter_sublist.map _))
    rw [map_map, map_reverse, nodup_reverse]
    exact ids.sublist (part.map _)
  · rw [pairwise_map, pairwise_reverse]
    exact (order.sorted _).sublist part

theorem page_select (unique : (rows.map MessageRow.id).Nodup) (purpose : Purpose) :
    purpose.Page (rows.map MessageRow.stamp) ((purpose.select order rows).map MessageRow.stamp) := by
  cases purpose with
  | load =>
    obtain ⟨known, ids, sorted⟩ := page_newest unique _
    exact ⟨known, ids, sorted, nofun⟩
  | resync =>
    obtain ⟨known, ids, sorted⟩ := page_newest unique _
    exact ⟨known, ids, sorted, nofun⟩
  | older cursor =>
    obtain ⟨known, ids, sorted⟩ := page_newest unique _
    refine ⟨known, ids, sorted, ?_⟩
    rintro _ ⟨⟩ stamp member
    obtain ⟨row, listed, rfl⟩ := mem_map.mp member
    have kept := (order.perm _).mem_iff.mp (mem_of_mem_take (mem_reverse.mp listed))
    have chosen := (mem_filter.mp kept).2
    rw [Bool.and_eq_true, decide_eq_true_eq] at chosen
    exact chosen.2
  | hydrate id =>
    refine ⟨?_, ?_, ?_, nofun⟩
    · intro stamp member
      obtain ⟨row, listed, rfl⟩ := mem_map.mp member
      exact mem_map_of_mem (mem_filter.mp listed).1
    · rw [map_map]
      exact unique.sublist (filter_sublist.map _)
    · -- Two rows of one id would be one row.
      rw [pairwise_map]
      refine ((pairwise_map.mp unique).sublist filter_sublist).imp_of_mem ?_
      intro first second left right different
      have same : first.id = second.id := by
        rw [of_decide_eq_true (mem_filter.mp left).2, of_decide_eq_true (mem_filter.mp right).2]
      exact absurd same different

theorem stamps_withReactions (reactions : List DmReaction) (rows : List MessageRow) :
    (rows.map (MessageRow.withReactions reactions)).map Message.stamp =
      rows.map MessageRow.stamp := by
  rw [map_map]
  rfl

end Server

section Pages

variable {order : PageOrder} {server : Server} {client after : Client}
  {stamps : List (JsString × Int)}

theorem Fetch.Orderly.mono {fetch : Fetch} {wider : List (JsString × Int)}
    (sound : fetch.Orderly stamps) (wide : ∀ stamp ∈ stamps, stamp ∈ wider) :
    fetch.Orderly wider := by
  unfold Fetch.Orderly at *
  cases progress : fetch.progress with
  | asked => trivial
  | found rows =>
    rw [progress] at sound
    exact Purpose.Page.mono sound wide
  | answered seen messages =>
    rw [progress] at sound
    exact Purpose.Page.mono sound wide

section

variable (sound : client.Orderly stamps)

include sound

theorem Client.Orderly.mono {wider : List (JsString × Int)}
    (wide : ∀ stamp ∈ stamps, stamp ∈ wider) : client.Orderly wider where
  list := sound.list
  known message member := wide _ (sound.known message member)
  fetches fetch member := (sound.fetches fetch member).mono wide
  sends seen message member := wide _ (sound.sends seen message member)

/-- A list with the same stamps is as good. -/
theorem Client.Orderly.of_stamps
    (same : after.messages.map Message.stamp = client.messages.map Message.stamp)
    (fetches : after.fetches = client.fetches) (sends : after.sends = client.sends) :
    after.Orderly stamps where
  list := sound.list.of_stamps same
  known message member := by
    have listed : message.stamp ∈ after.messages.map Message.stamp := mem_map_of_mem member
    rw [same] at listed
    obtain ⟨other, held, equal⟩ := mem_map.mp listed
    rw [← equal]
    exact sound.known other held
  fetches := by rw [fetches]; exact sound.fetches
  sends := by rw [sends]; exact sound.sends

theorem Client.Orderly.ask (purpose : Purpose) :
    (client.ask purpose).Orderly stamps where
  list := sound.list
  known := sound.known
  fetches fetch member := by
    rcases mem_append.mp member with old | new
    · exact sound.fetches fetch old
    · obtain rfl := mem_singleton.mp new
      trivial
  sends := sound.sends

theorem Client.Orderly.drop (number : Nat) (fetch : Fetch) :
    (client.drop number fetch).Orderly stamps where
  list := sound.list
  known := sound.known
  fetches other member := sound.fetches other (mem_of_mem_eraseIdx member)
  sends := sound.sends

/-- A fetch gets on. -/
theorem Client.Orderly.set {fetch : Fetch}
    (next : fetch.Orderly stamps) (number : Nat) :
    { client with fetches := client.fetches.set number fetch }.Orderly stamps where
  list := sound.list
  known := sound.known
  fetches other member := by
    rcases mem_or_eq_of_mem_set member with old | rfl
    · exact sound.fetches other old
    · exact next
  sends := sound.sends

end

/-- The list after an answer holds what it held and what the answer brings. -/
theorem mem_apply {purpose : Purpose} {data prev : Messages} {message : Message}
    (member : message ∈ purpose.apply data prev) : message ∈ prev ∨ message ∈ data := by
  cases purpose with
  | load => exact .inr member
  | older cursor => exact (mem_append.mp member).symm
  | resync => exact (Messages.mem_resync member).imp_right And.left
  | hydrate id =>
    unfold Purpose.apply at member
    induction data generalizing prev with
    | nil => exact .inl member
    | cons first rest ih =>
      rcases ih member with held | later
      · rcases Messages.mem_hydrate held with old | ⟨rfl, -⟩
        · exact .inl old
        · exact .inr mem_cons_self
      · exact .inr (mem_cons_of_mem _ later)

/-- Messages of one id have one time. -/
theorem eq_of_known (unique : (stamps.map Prod.fst).Nodup) {first second : Message}
    (left : first.stamp ∈ stamps) (right : second.stamp ∈ stamps) (same : first.id = second.id) :
    first.createdAt = second.createdAt := by
  have equal := inj_on_of_nodup_map unique left right same
  exact congrArg Prod.snd equal

theorem orderly_apply {purpose : Purpose} {data prev : Messages} (list : prev.Orderly)
    (unique : (stamps.map Prod.fst).Nodup) (known : ∀ message ∈ prev, message.stamp ∈ stamps)
    (page : purpose.Page stamps (data.map Message.stamp))
    (later : ∀ cursor, purpose = .older cursor → ∀ message ∈ prev, cursor ≤ message.createdAt) :
    (purpose.apply data prev).Orderly := by
  have orderly : data.Orderly := Messages.orderly_iff.mpr ⟨page.unique, page.sorted⟩
  cases purpose with
  | load => exact orderly
  | older cursor =>
    have apart : ∀ message ∈ data, ∀ other ∈ prev, message.createdAt < other.createdAt := by
      intro message member other held
      exact lt_of_lt_of_le (page.before cursor rfl message.stamp (mem_map_of_mem member))
        (later cursor rfl other held)
    apply list.prepend orderly
    · intro message member other held same
      have equal := eq_of_known unique (page.known _ (mem_map_of_mem member))
        (known other held) same
      exact absurd equal (apart message member other held).ne
    · intro message member other held
      exact (apart message member other held).le
  | resync => exact list.resync orderly
  | hydrate id =>
    have all : ∀ (data prev : Messages), prev.Orderly →
        (data.foldl (fun prev newMsg => Messages.hydrate newMsg prev) prev).Orderly := by
      intro data
      induction data with
      | nil => exact fun _ list => list
      | cons first rest ih => exact fun prev list => ih _ list.hydrate
    exact all data prev list

theorem stamps_display (client : Client) (toggle : Toggle) (shown : Bool) :
    (client.display toggle shown).messages.map Message.stamp =
      client.messages.map Message.stamp := by
  exact Messages.stamps_showReaction _ _ _ _ _

/-- A page keeps its list in order through everything the condition admits. -/
theorem Client.Orderly.react {event : ClientEvent} (sound : client.Orderly stamps)
    (rows : server.rows.map MessageRow.stamp = stamps)
    (unique : (server.rows.map MessageRow.id).Nodup) (timely : client.timely event)
    (reacted : client.react order server event = some after) : after.Orderly stamps := by
  have ids : (stamps.map Prod.fst).Nodup := by
    rw [← rows, map_map]
    exact unique
  cases event with
  | loads | resyncs =>
    cases reacted
    exact sound.ask _
  | loadsMore =>
    simp only [Client.react] at reacted
    split at reacted
    · cases reacted
    · obtain ⟨first, -, rfl⟩ := Option.map_eq_some_iff.mp reacted
      exact (sound.ask (.older first.createdAt)).of_stamps rfl rfl rfl
  | hears messageId actorId =>
    simp only [Client.react] at reacted
    split at reacted
    · cases reacted
      split
      · exact sound
      · exact sound.ask _
    · cases reacted
  | finds number =>
    simp only [Client.react] at reacted
    split at reacted
    · rename_i purpose _
      cases reacted
      refine sound.set ?_ number
      rw [← rows]
      exact page_select unique purpose
    · cases reacted
  | answers number =>
    simp only [Client.react] at reacted
    split at reacted
    · rename_i purpose found asked
      cases reacted
      refine sound.set ?_ number
      have before := sound.fetches _ (mem_of_getElem? asked)
      simp only [Fetch.Orderly] at before ⊢
      rwa [stamps_withReactions]
    · cases reacted
  | arrives number =>
    simp only [Client.react] at reacted
    split at reacted
    · rename_i purpose seen data asked
      cases reacted
      have page := sound.fetches _ (mem_of_getElem? asked)
      simp only [Fetch.Orderly] at page
      have dropped := sound.drop number ⟨purpose, .answered seen data⟩
      refine ⟨?_, ?_, dropped.fetches, dropped.sends⟩
      · apply orderly_apply sound.list ids sound.known page
        rintro cursor rfl
        exact timely cursor _ asked
      · intro message member
        rcases mem_apply member with held | new
        · exact sound.known message held
        · exact page.known _ (mem_map_of_mem new)
    · cases reacted
  | breaksOff number =>
    obtain ⟨fetch, -, rfl⟩ := Option.map_eq_some_iff.mp reacted
    exact sound.drop number fetch
  | renders =>
    cases reacted
    exact sound.of_stamps rfl rfl rfl
  | sends =>
    cases reacted
    refine { sound with sends := ?_ }
    intro seen message member
    rcases mem_append.mp member with old | new
    · exact sound.sends seen message old
    · cases mem_singleton.mp new
  | appends number =>
    simp only [Client.react] at reacted
    split at reacted
    · rename_i seen message stored
      cases reacted
      refine ⟨sound.list.append (timely seen message stored), ?_, sound.fetches, ?_⟩
      · intro other member
        rcases mem_append.mp member with held | new
        · exact sound.known other held
        · obtain rfl := mem_singleton.mp new
          exact sound.sends seen other (mem_of_getElem? stored)
      · intro seen other member
        exact sound.sends seen other (mem_of_mem_eraseIdx member)
    · cases reacted
  | givesUp number =>
    obtain ⟨send, -, rfl⟩ := Option.map_eq_some_iff.mp reacted
    exact { sound with
      sends := fun seen message member =>
        sound.sends seen message (mem_of_mem_eraseIdx member) }
  | removes id =>
    cases reacted
    exact { sound with
      list := sound.list.sublist filter_sublist
      known := fun message member => sound.known message (mem_of_mem_filter member) }
  | subscribes =>
    simp only [Client.react] at reacted
    split at reacted
    · cases reacted
    · cases reacted
      exact sound.of_stamps rfl rfl rfl
  | delivers number =>
    simp only [Client.react] at reacted
    split at reacted
    · obtain ⟨write, -, rfl⟩ := Option.map_eq_some_iff.mp reacted
      refine sound.of_stamps ?_ rfl rfl
      dsimp only [Client.deliver]
      split
      · exact Messages.stamps_reactionAdded _ _ _
      · exact Messages.stamps_reactionRemoved _ _ _
    · cases reacted
  | toggles messageId emoji =>
    obtain ⟨existing, -, rfl⟩ := Option.map_eq_some_iff.mp reacted
    exact sound.of_stamps (stamps_display client _ _) rfl rfl
  | finishes number =>
    simp only [Client.react] at reacted
    split at reacted
    · cases reacted
      exact sound.of_stamps rfl rfl rfl
    · cases reacted
  | refused number =>
    simp only [Client.react] at reacted
    split at reacted
    · cases reacted
      exact sound.of_stamps (stamps_display client _ _) rfl rfl
    · cases reacted
      exact sound.of_stamps rfl rfl rfl
    · cases reacted
  | fails number =>
    simp only [Client.react] at reacted
    split at reacted
    · cases reacted
      exact sound.of_stamps (stamps_display client _ _) rfl rfl
    · cases reacted
      exact sound.of_stamps (stamps_display client _ _) rfl rfl
    · cases reacted

end Pages

section Runs

variable {order : PageOrder} {world after : World}

theorem World.Orderly.put (sound : world.Orderly) (number : Nat) {client : Client}
    (orderly : client.Orderly (world.server.rows.map MessageRow.stamp)) :
    (world.put number client).Orderly where
  unique := sound.unique
  clients other member := by
    rcases mem_or_eq_of_mem_set member with old | rfl
    · exact sound.clients other old
    · exact orderly

theorem stamps_delete (server : Server) (id : JsString) :
    (server.delete id).rows.map MessageRow.stamp = server.rows.map MessageRow.stamp := by
  rw [Server.delete, map_map]
  apply map_congr_left
  intro row _
  dsimp only [Function.comp]
  split <;> rfl

theorem ids_delete (server : Server) (id : JsString) :
    (server.delete id).rows.map MessageRow.id = server.rows.map MessageRow.id := by
  rw [Server.delete, map_map]
  apply map_congr_left
  intro row _
  dsimp only [Function.comp]
  split <;> rfl

/-- What one step keeps. -/
theorem World.Orderly.next {event : TimelineEvent} (sound : world.Orderly)
    (timely : world.timely event) (moved : world.next order event = some after) :
    after.Orderly := by
  cases event with
  | mounts user =>
    cases moved
    refine ⟨sound.unique, ?_⟩
    intro client member
    rcases mem_append.mp member with old | new
    · exact sound.clients client old
    · obtain rfl := mem_singleton.mp new
      exact ⟨Messages.orderly_nil, nofun, nofun, nofun⟩
  | own number event =>
    obtain ⟨client, here, moved⟩ := Option.bind_eq_some_iff.mp moved
    obtain ⟨later, reacted, rfl⟩ := Option.map_eq_some_iff.mp moved
    exact sound.put number ((sound.clients client (mem_of_getElem? here)).react rfl
      sound.unique (timely client here) reacted)
  | stores number index id createdAt =>
    obtain ⟨client, here, moved⟩ := Option.bind_eq_some_iff.mp moved
    dsimp only at moved
    split at moved
    · split at moved
      · cases moved
      · rename_i fresh
        cases moved
        have wide : ∀ stamp ∈ world.server.rows.map MessageRow.stamp, stamp ∈ (world.server.rows ++
              [(⟨id, client.user, createdAt, false⟩ : MessageRow)]).map MessageRow.stamp := by
          intro stamp member
          rw [map_append]
          exact mem_append_left _ member
        refine ⟨?_, ?_⟩
        · rw [map_append]
          refine sound.unique.append (nodup_singleton _) ?_
          rintro _ held new
          obtain ⟨row, member, rfl⟩ := mem_map.mp held
          have same : row.id = id := mem_singleton.mp new
          exact fresh (any_eq_true.mpr ⟨row, member, by simpa using same⟩)
        · intro other member
          rcases mem_or_eq_of_mem_set member with old | rfl
          · exact (sound.clients other old).mono wide
          · have before := (sound.clients client (mem_of_getElem? here)).mono wide
            refine { before with sends := ?_ }
            intro seen message member
            rcases mem_or_eq_of_mem_set member with old | new
            · exact before.sends seen message old
            · cases new
              dsimp only
              rw [map_append]
              exact mem_append_right _ (mem_singleton.mpr rfl)
    · cases moved
  | announces id senderId =>
    simp only [World.next] at moved
    split at moved
    · cases moved
      exact ⟨sound.unique, sound.clients⟩
    · cases moved
  | deletes id =>
    cases moved
    refine ⟨?_, ?_⟩
    · rw [ids_delete]
      exact sound.unique
    · rw [stamps_delete]
      exact sound.clients
  | writes number index =>
    obtain ⟨client, here, moved⟩ := Option.bind_eq_some_iff.mp moved
    obtain ⟨toggle, -, moved⟩ := Option.bind_eq_some_iff.mp moved
    split at moved
    · cases moved
    · split at moved
      · obtain ⟨emoji, -, rfl⟩ := Option.map_eq_some_iff.mp moved
        refine ⟨sound.unique, ?_⟩
        intro other member
        rcases mem_or_eq_of_mem_set member with old | rfl
        · exact sound.clients other old
        · exact (sound.clients client (mem_of_getElem? here)).of_stamps rfl rfl rfl
      · cases moved
  | publishes number =>
    simp only [World.next] at moved
    split at moved
    · cases moved
      exact ⟨sound.unique, sound.clients⟩
    · cases moved

end Runs

/-- In a run whose steps all meet the condition, every message list has each message once
and is sorted by time. -/
theorem World.timelines_of_reachable (order : PageOrder) {world : World}
    (reached : (timelineSystem order).Reachable World.timely world) :
    ∀ client ∈ world.clients, client.messages.Orderly := by
  have sound : world.Orderly := by
    refine reached.invariant ?_ ?_
    · intro start initial
      exact ⟨initial.rows, by rw [initial.clients]; exact nofun⟩
    · intro before event after _ sound timely moved
      exact sound.next timely moved
  intro client member
  exact (sound.clients client member).list

/-! ## An own message that is fetched before it is appended -/

/-- The condition on a step, computed. -/
def World.isTimely (world : World) : TimelineEvent → Bool
  | .own number event =>
      match world.clients[number]? with
      | none => true
      | some client =>
          match event with
          | .appends index =>
              match client.sends[index]? with
              | some (.stored _ msg) => client.messages.all fun message =>
                  message.id ≠ msg.id && decide (message.createdAt ≤ msg.createdAt)
              | _ => true
          | .arrives index =>
              match client.fetches[index]? with
              | some ⟨.older cursor, _⟩ =>
                  client.messages.all fun message => decide (cursor ≤ message.createdAt)
              | _ => true
          | _ => true
  | _ => true

theorem World.isTimely_sound (world : World) (event : TimelineEvent)
    (checked : world.isTimely event = true) : world.timely event := by
  cases event with
  | own number event =>
    intro client here
    simp only [World.isTimely, here] at checked
    cases event with
    | appends index =>
      intro seen msg stored message member
      simp only [stored] at checked
      simpa using all_eq_true.mp checked message member
    | arrives index =>
      intro cursor progress asked message member
      simp only [asked] at checked
      simpa using all_eq_true.mp checked message member
    | _ => trivial
  | _ => trivial

namespace Sample

def plainOrder : PageOrder where
  newest rows := rows.insertionSort fun first second => second.createdAt ≤ first.createdAt
  perm rows := List.perm_insertionSort _ rows
  sorted rows := by
    have : Std.Total fun first second : MessageRow => second.createdAt ≤ first.createdAt :=
      ⟨fun first second => le_total second.createdAt first.createdAt⟩
    have : IsTrans MessageRow fun first second => second.createdAt ≤ first.createdAt :=
      ⟨fun _ _ _ above below => le_trans below above⟩
    exact List.pairwise_insertionSort _ rows

def emptyWorld : World := ⟨⟨[], [], [], [], []⟩, []⟩

theorem initial_emptyWorld : emptyWorld.Initial :=
  ⟨nodup_nil, nodup_nil, nofun, rfl, rfl, rfl⟩

/-- A message is sent and appended, and the page is shown again. -/
def appended : World :=
  (System.follow World.isTimely (World.next plainOrder) emptyWorld
    [.mounts (js "u"), .own 0 .sends, .stores 0 0 (js "m") 1, .own 0 (.appends 0),
      .own 0 .resyncs, .own 0 (.finds 0), .own 0 (.answers 0), .own 0 (.arrives 0)]).get
    (by decide)

/-- The page is shown again after a message is stored and before it is appended. -/
def doubled : World :=
  (System.follow System.unchecked (World.next plainOrder) emptyWorld
    [.mounts (js "u"), .own 0 .sends, .stores 0 0 (js "m") 1, .own 0 .resyncs,
      .own 0 (.finds 0), .own 0 (.answers 0), .own 0 (.arrives 0), .own 0 (.appends 0)]).get
    (by decide)

end Sample

theorem appended_orderly : Sample.appended.clients.length = 1 ∧
    ∀ client ∈ Sample.appended.clients, client.messages.Orderly :=
  ⟨by decide, World.timelines_of_reachable Sample.plainOrder
    (System.reachable_of_follow World.isTimely_sound Sample.initial_emptyWorld _)⟩

/-- The own message is in the list twice. -/
theorem doubled_disorderly :
    (timelineSystem Sample.plainOrder).Reachable System.unguarded Sample.doubled ∧
      ¬∀ client ∈ Sample.doubled.clients, client.messages.Orderly := by
  refine ⟨System.reachable_of_follow System.unchecked_sound Sample.initial_emptyWorld _, ?_⟩
  intro orderly
  have twice : Sample.doubled.clients.any fun client =>
      client.messages.map Message.id = [js "m", js "m"] := by decide
  obtain ⟨client, member, same⟩ := List.any_eq_true.mp twice
  have unique := (orderly client member).unique
  rw [of_decide_eq_true same] at unique
  exact absurd unique (by decide)

end Vortex.Web
