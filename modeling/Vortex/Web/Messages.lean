import Mathlib.Data.List.Sort
import Vortex.Gateway.Messages

/-!
# The message list of a channel

What the writers of the page do to its list of messages: pages that are loaded, merged or
put in front, a message that is fetched for an event, an own message, and reactions.
-/

namespace Vortex.Web

open Foundation
open Vortex.Gateway (trim)

/-- A reaction, by its primary key. -/
structure DmReaction where
  dmId : JsString
  userId : JsString
  emoji : JsString
  deriving DecidableEq

/-- A message as the page holds it. `createdAt` is the time its text denotes. -/
structure Message where
  id : JsString
  senderId : JsString
  createdAt : Int
  reactions : List DmReaction
  deriving DecidableEq

/-- What identifies and orders a message. -/
def Message.stamp (message : Message) : JsString × Int := (message.id, message.createdAt)

abbrev Messages : Type := List Message

namespace Messages

/-- `sort((a, b) => new Date(a.created_at).getTime() - new Date(b.created_at).getTime())`. -/
def sortByTime (messages : Messages) : Messages :=
  messages.insertionSort fun first second => first.createdAt ≤ second.createdAt

/-- `prev.some((m) => m.id === id)`. -/
def has (messages : Messages) (id : JsString) : Bool := messages.any fun message => message.id = id

/-- An older page is put in front. -/
def prepend (data prev : Messages) : Messages := data ++ prev

/-- The newest page, as the page is shown again. -/
def resync (latest prev : Messages) : Messages :=
  if latest.isEmpty then prev
  else
    let fresh := latest.filter fun message => !prev.has message.id
    if fresh.isEmpty then prev else sortByTime (prev ++ fresh)

/-- A message fetched for an event. -/
def hydrate (newMsg : Message) (prev : Messages) : Messages :=
  if prev.has newMsg.id then prev else sortByTime (prev ++ [newMsg])

/-- An own message. -/
def append (msg : Message) (prev : Messages) : Messages := prev ++ [msg]

/-- `handleDelete`, once the message is deleted. -/
def remove (id : JsString) (prev : Messages) : Messages :=
  prev.filter fun message => message.id ≠ id

/-- The message with other reactions. -/
def withReactions (messageId : JsString) (change : List DmReaction → List DmReaction)
    (prev : Messages) : Messages :=
  prev.map fun message =>
    if message.id = messageId then { message with reactions := change message.reactions }
    else message

/-- `reaction.added`. -/
def reactionAdded (currentUserId : JsString) (r : DmReaction) (prev : Messages) : Messages :=
  if r.userId = currentUserId then prev
  else if !prev.has r.dmId then prev
  else prev.withReactions r.dmId fun reactions =>
    if reactions.contains r then reactions else reactions ++ [r]

/-- `reaction.removed`. -/
def reactionRemoved (currentUserId : JsString) (r : DmReaction) (prev : Messages) : Messages :=
  if r.userId = currentUserId then prev
  else if !prev.has r.dmId then prev
  else prev.withReactions r.dmId fun reactions => reactions.filter fun other => other ≠ r

/-- What `handleDmReaction` shows before it asks the server; what it reverts to is the same
with the other direction. -/
def showReaction (currentUserId messageId emoji : JsString) (shown : Bool) (prev : Messages) :
    Messages :=
  prev.withReactions messageId fun reactions =>
    if shown then reactions ++ [⟨messageId, currentUserId, emoji⟩]
    else reactions.filter fun r => !(r.userId = currentUserId && r.emoji = emoji)

/-- Whether the reaction of the user is shown, if the message is there. -/
def ownReaction (currentUserId messageId emoji : JsString) (messages : Messages) : Option Bool :=
  (messages.find? fun message => message.id = messageId).map fun message =>
    message.reactions.any fun r => r.userId = currentUserId && r.emoji = emoji

/-! ## Uniqueness and order -/

/-- Each id once, and by `created_at`. -/
structure Orderly (messages : Messages) : Prop where
  unique : (messages.map Message.id).Nodup
  sorted : messages.Pairwise fun first second => first.createdAt ≤ second.createdAt

variable {messages : Messages}

theorem has_iff {id : JsString} :
    messages.has id = true ↔ ∃ message ∈ messages, message.id = id := by
  simp [has]

theorem orderly_nil : Orderly [] := ⟨List.nodup_nil, List.Pairwise.nil⟩

theorem Orderly.sublist {kept : Messages} (orderly : messages.Orderly)
    (part : kept.Sublist messages) : kept.Orderly :=
  ⟨orderly.unique.sublist (part.map _), orderly.sorted.sublist part⟩

theorem perm_sortByTime (messages : Messages) : (sortByTime messages).Perm messages :=
  List.perm_insertionSort _ messages

/-- Sorting restores the order of a list without duplicates. -/
theorem orderly_sortByTime (unique : (messages.map Message.id).Nodup) :
    (sortByTime messages).Orderly where
  unique := ((perm_sortByTime messages).map Message.id).nodup_iff.mpr unique
  sorted := by
    have : Std.Total fun first second : Message => first.createdAt ≤ second.createdAt :=
      ⟨fun first second => le_total first.createdAt second.createdAt⟩
    have : IsTrans Message fun first second => first.createdAt ≤ second.createdAt :=
      ⟨fun _ _ _ below above => le_trans below above⟩
    exact List.pairwise_insertionSort _ messages

theorem unique_append {first second : Messages} (left : (first.map Message.id).Nodup)
    (right : (second.map Message.id).Nodup)
    (apart : ∀ message ∈ first, ∀ other ∈ second, message.id ≠ other.id) :
    ((first ++ second).map Message.id).Nodup := by
  rw [List.map_append]
  refine left.append right ?_
  rintro _ here there
  obtain ⟨message, member, rfl⟩ := List.mem_map.mp here
  obtain ⟨other, also, same⟩ := List.mem_map.mp there
  exact apart message member other also same.symm

theorem mem_resync {latest : Messages} {message : Message}
    (member : message ∈ resync latest messages) :
    message ∈ messages ∨ message ∈ latest ∧ messages.has message.id = false := by
  unfold resync at member
  split at member
  · exact .inl member
  · dsimp only at member
    split at member
    · exact .inl member
    · rcases List.mem_append.mp ((perm_sortByTime _).mem_iff.mp member) with old | fresh
      · exact .inl old
      · exact .inr (by simpa using List.mem_filter.mp fresh)

theorem mem_hydrate {newMsg message : Message} (member : message ∈ hydrate newMsg messages) :
    message ∈ messages ∨ message = newMsg ∧ messages.has message.id = false := by
  unfold hydrate at member
  split at member
  · exact .inl member
  · rename_i absent
    rcases List.mem_append.mp ((perm_sortByTime _).mem_iff.mp member) with old | fresh
    · exact .inl old
    · obtain rfl := List.mem_singleton.mp fresh
      exact .inr ⟨rfl, by simpa using absent⟩

theorem mem_hydrate_of_mem {newMsg message : Message} (member : message ∈ messages) :
    message ∈ hydrate newMsg messages := by
  unfold hydrate
  split
  · exact member
  · exact (perm_sortByTime _).mem_iff.mpr (List.mem_append_left _ member)

section

variable (orderly : messages.Orderly)

include orderly

theorem Orderly.resync {latest : Messages} (page : latest.Orderly) :
    (resync latest messages).Orderly := by
  unfold Messages.resync
  split
  · exact orderly
  · dsimp only
    split
    · exact orderly
    · apply orderly_sortByTime
      apply unique_append orderly.unique (page.sublist List.filter_sublist).unique
      intro message member other fresh same
      have absent := (List.mem_filter.mp fresh).2
      rw [Bool.not_eq_true', ← Bool.not_eq_true, has_iff] at absent
      exact absent ⟨message, member, same⟩

theorem Orderly.hydrate {newMsg : Message} : (hydrate newMsg messages).Orderly := by
  unfold Messages.hydrate
  split
  · exact orderly
  · rename_i absent
    apply orderly_sortByTime
    apply unique_append orderly.unique (by simp)
    intro message member other fresh same
    obtain rfl := List.mem_singleton.mp fresh
    exact absent (has_iff.mpr ⟨message, member, same⟩)

/-- A page of messages that are all older and not there yet. -/
theorem Orderly.prepend {data : Messages} (page : data.Orderly)
    (apart : ∀ message ∈ data, ∀ other ∈ messages, message.id ≠ other.id)
    (older : ∀ message ∈ data, ∀ other ∈ messages, message.createdAt ≤ other.createdAt) :
    (prepend data messages).Orderly :=
  ⟨unique_append page.unique orderly.unique apart,
    List.pairwise_append.mpr ⟨page.sorted, orderly.sorted, older⟩⟩

/-- An own message that is not there yet, when nothing later is. -/
theorem Orderly.append {msg : Message}
    (last : ∀ message ∈ messages, message.id ≠ msg.id ∧ message.createdAt ≤ msg.createdAt) :
    (append msg messages).Orderly := by
  refine ⟨unique_append orderly.unique (by simp) ?_, List.pairwise_append.mpr
    ⟨orderly.sorted, List.pairwise_singleton _ _, ?_⟩⟩
  · intro message member other fresh
    obtain rfl := List.mem_singleton.mp fresh
    exact (last message member).1
  · intro message member other fresh
    obtain rfl := List.mem_singleton.mp fresh
    exact (last message member).2

end

/-! ## Reactions leave the rest as it is -/

theorem mem_withReactions {messageId : JsString} {change : List DmReaction → List DmReaction}
    {message : Message} : message ∈ messages.withReactions messageId change ↔
      ∃ before ∈ messages, message =
        if before.id = messageId then { before with reactions := change before.reactions }
        else before := by
  simp [withReactions, eq_comm]

theorem stamps_withReactions (messageId : JsString) (change : List DmReaction → List DmReaction)
    (messages : Messages) :
    (messages.withReactions messageId change).map Message.stamp = messages.map Message.stamp := by
  rw [withReactions, List.map_map]
  apply List.map_congr_left
  intro message _
  dsimp only [Function.comp]
  split <;> rfl

theorem stamps_showReaction (user messageId emoji : JsString) (shown : Bool) (messages : Messages) :
    (showReaction user messageId emoji shown messages).map Message.stamp =
      messages.map Message.stamp := by
  unfold showReaction
  exact stamps_withReactions _ _ _

theorem stamps_reactionAdded (user : JsString) (r : DmReaction) (messages : Messages) :
    (reactionAdded user r messages).map Message.stamp = messages.map Message.stamp := by
  unfold reactionAdded
  split
  · rfl
  · split
    · rfl
    · exact stamps_withReactions _ _ _

theorem stamps_reactionRemoved (user : JsString) (r : DmReaction) (messages : Messages) :
    (reactionRemoved user r messages).map Message.stamp = messages.map Message.stamp := by
  unfold reactionRemoved
  split
  · rfl
  · split
    · rfl
    · exact stamps_withReactions _ _ _

/-- Order and uniqueness are about the stamps only. -/
theorem orderly_iff : messages.Orderly ↔ ((messages.map Message.stamp).map Prod.fst).Nodup ∧
    (messages.map Message.stamp).Pairwise fun first second => first.2 ≤ second.2 := by
  rw [List.map_map, List.pairwise_map]
  exact ⟨fun orderly => ⟨orderly.unique, orderly.sorted⟩, fun both => ⟨both.1, both.2⟩⟩

theorem Orderly.of_stamps {other : Messages} (orderly : messages.Orderly)
    (same : other.map Message.stamp = messages.map Message.stamp) : other.Orderly := by
  rw [orderly_iff] at *
  rwa [same]

end Messages

end Vortex.Web
