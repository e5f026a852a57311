import Vortex.Gateway.Handle

/-!
# The event bus

`event-bus.ts`: an event is appended to the stream of its channel, if its type is
persisted, and then published; a replay finds the entry of an event by scanning the
stream from its end and reads on from there.
-/

namespace Vortex.Gateway

open Foundation

/-- Issue a command that may fail. -/
def command {α : Type} (answer : Proc gateway Unit (Except Unit α)) : Proc gateway Unit α := do
  let outcome ← answer
  match outcome with
  | .ok value => pure value
  | .error _ => throw ()

theorem run_ask {deployment : Deployment} {request : Request} {world after : World}
    {answer : request.Answer} (answered : handle deployment request world = some (answer, after)) :
    (ask request).run (handle deployment) world = some (.ok answer, after) :=
  (Proc.run_await (I := gateway) (handle deployment) answered).trans rfl

/-- A command ends as it is answered. -/
theorem run_command {deployment : Deployment} {α : Type}
    {answer : Proc gateway Unit (Except Unit α)} {world after : World} {outcome : Except Unit α}
    (ran : answer.run (handle deployment) world = some (.ok outcome, after)) :
    (command answer).run (handle deployment) world = some (outcome, after) := by
  unfold command
  rw [Proc.run_bind_ok (handle deployment) ran]
  cases outcome <;> rfl

def PartialEvent.complete (event : PartialEvent) (id : JsString) (timestamp : Nat) : VortexEvent :=
  ⟨id, event.type, event.channelId, event.serverId, event.actorId, timestamp, event.data⟩

namespace EventBus

/-- Append the event to the stream of its channel, if its type is persisted. -/
def persist (event : VortexEvent) : Proc gateway Unit Unit :=
  if event.persisted then command (ask (.xadd event)) else pure ()

def publish (event : PartialEvent) : Proc gateway Unit JsString := do
  let destroyed : Bool ← ask .busDestroyed
  if destroyed then throw ()
  else do
    let (id, timestamp) ← (ask .stamp : Proc gateway Unit (JsString × Nat))
    persist (event.complete id timestamp)
    command (ask (.publish (event.complete id timestamp)))
    pure id

def BATCH_SIZE : Nat := 200

/-- Scan the stream from `endId` towards its start, in so many batches. -/
def findStreamEntryId (channelId eventId : JsString) :
    (attempts : Nat) → (endId : Option StreamId) → Proc gateway Unit (Option StreamId)
  | 0, _ => pure none
  | attempts + 1, endId => do
      let entries : List StreamEntry ← command (ask (.xrevrange channelId endId BATCH_SIZE))
      match entries.getLast? with
      | none => pure none
      | some oldest =>
          match entries.find? (·.holds eventId) with
          | some entry => pure (some entry.id)
          | none => findStreamEntryId channelId eventId attempts (some oldest.id.previous)

/-- The events after an event, or from the start of the stream when it is not found. -/
def readAfter (channelId afterEventId : JsString) (limit : Nat) :
    Proc gateway Unit (List VortexEvent) := do
  let streamEntryId ← findStreamEntryId channelId afterEventId 5 none
  let entries : List StreamEntry ← command (ask (.xrange channelId streamEntryId limit))
  pure (entries.filterMap StreamEntry.event)

/-- A replay never throws: a failed read has no events. -/
def replay (channelId afterEventId : JsString) (limit : Nat) :
    Proc gateway Unit (List VortexEvent) := do
  let destroyed : Bool ← ask .busDestroyed
  if destroyed then pure []
  else tryCatch (readAfter channelId afterEventId limit) fun _ => pure []

end EventBus

end Vortex.Gateway
