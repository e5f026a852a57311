import Vortex.Foundation.JsNumber

/-!
# Event streams

The events of the gateway and the Redis streams they are kept in, one stream a
channel. A stream is kept as everything that was ever appended to it and how much
of that has been trimmed away again; commands only see what is left. An entry
carries the event its text parses to, if it parses.
-/

namespace Vortex.Gateway

open Foundation

def EVENT_STREAM_MAXLEN : Nat := 1000

def MAX_REPLAY_EVENTS : Nat := 500

structure VortexEvent where
  id : JsString
  type : JsString
  channelId : JsString
  serverId : Option JsString
  actorId : JsString
  timestamp : Nat
  data : Json

/-- An event before it has an id and a timestamp. -/
structure PartialEvent where
  type : JsString
  channelId : JsString
  serverId : Option JsString
  actorId : JsString
  data : Json

def PERSISTED_EVENT_TYPES : List JsString :=
  [js "message.created", js "message.updated", js "message.deleted", js "reaction.added",
    js "reaction.removed", js "thread.created", js "thread.updated", js "member.joined",
    js "member.left", js "channel.updated"]

def VortexEvent.persisted (event : VortexEvent) : Bool := PERSISTED_EVENT_TYPES.contains event.type

/-- The id of a stream entry, `ms-seq`. -/
structure StreamId where
  ms : Nat
  seq : Nat
  deriving DecidableEq

namespace StreamId

def le (first second : StreamId) : Bool :=
  first.ms < second.ms || (first.ms = second.ms && first.seq ≤ second.seq)

/-- Where the reverse scan goes on below an entry; the script computes with doubles. -/
def previous (id : StreamId) : StreamId :=
  if 1 ≤ id.seq then ⟨id.ms, JsString.lessOne id.seq⟩ else ⟨JsString.lessOne id.ms, 99999⟩

/-- The id `XADD` draws at a time for an entry after another one; `0-0` is not one. -/
def after (last : Option StreamId) (now : Nat) : StreamId :=
  match last with
  | none => ⟨now, if now = 0 then 1 else 0⟩
  | some last => if last.ms < now then ⟨now, 0⟩ else ⟨last.ms, last.seq + 1⟩

end StreamId

structure StreamEntry where
  id : StreamId
  event : Option VortexEvent

/-- Whether an entry holds the event with this id. -/
def StreamEntry.holds (eventId : JsString) (entry : StreamEntry) : Bool :=
  entry.event.any fun event => event.id = eventId

structure Stream where
  log : List StreamEntry
  trimmed : Nat

namespace Stream

def empty : Stream := ⟨[], 0⟩

/-- What is left in a stream, oldest first. -/
def entries (stream : Stream) : List StreamEntry := stream.log.drop stream.trimmed

/-- `XADD key MAXLEN ~ … * event …`. What the approximate limit trims is a step of
its own (`trim`). -/
def xadd (now : Nat) (event : VortexEvent) (stream : Stream) : Stream :=
  { stream with
    log := stream.log ++
      [⟨.after (stream.log.getLast?.map StreamEntry.id) now, some event⟩] }

/-- Trim the oldest entries; at least `EVENT_STREAM_MAXLEN` stay. -/
def trim (count : Nat) (stream : Stream) : Stream :=
  { stream with
    trimmed := stream.trimmed + min count (stream.entries.length - EVENT_STREAM_MAXLEN) }

/-- `XRANGE key (after + COUNT count`, from the start without `after`. -/
def xrange (after : Option StreamId) (count : Nat) (stream : Stream) : List StreamEntry :=
  (stream.entries.filter fun entry => after.all fun id => !entry.id.le id).take count

/-- `XREVRANGE key endId - COUNT count`, from the end without `endId`. -/
def xrevrange (endId : Option StreamId) (count : Nat) (stream : Stream) : List StreamEntry :=
  (stream.entries.reverse.filter fun entry => endId.all entry.id.le).take count

end Stream

end Vortex.Gateway
