import Mathlib.Data.List.Nodup
import Vortex.Foundation.JsText
import Vortex.Foundation.System
import Vortex.Foundation.Timers

/-!
# Who is typing

`useGatewayTyping` keeps the users that type in a channel, each with a timer that strikes them off.
When the hook is bound anew (its arguments change, or the gateway it is handed) the timers go and
the list stays, so what a list says is sound only while it is empty whenever that happens. The
clock does not pass the deadline of a timer before the timer has gone off.
-/

namespace Vortex.Web.TypingList

open Foundation

def TYPING_TIMEOUT_MS : Nat := 3000

/-- How long an id stays in the list. -/
def EXPIRY_MS : Nat := TYPING_TIMEOUT_MS + 500

/-- A `gateway:typing` event on the bound channel. -/
structure Heard where
  userId : JsString
  isTyping : Bool
  time : Nat
  deriving DecidableEq

/-- A mounted hook: the arguments it is bound with, the list and the timers behind it, the timer
after which its own user has stopped, what it has sent, and the clock. `heard` is what it was
handed since it was bound, newest first; no step reads it. -/
structure Hook where
  channelId : JsString
  currentUserId : JsString
  typingUserIds : List JsString
  typingTimeouts : TimerTable JsString Unit Nat
  isTyping : Bool
  stopTyping : Option Nat
  sent : List (JsString × Bool)
  now : Nat
  heard : List Heard

namespace Hook

def mounted (channelId currentUserId : JsString) : Hook :=
  ⟨channelId, currentUserId, [], .empty, false, none, [], 0, []⟩

def remove (userId : JsString) (hook : Hook) : Hook :=
  { hook with typingUserIds := hook.typingUserIds.filter (· ≠ userId) }

/-- The listener of the bound channel. -/
def listen (userId : JsString) (isTyping : Bool) (hook : Hook) : Hook :=
  let heard := { hook with heard := ⟨userId, isTyping, hook.now⟩ :: hook.heard }
  if userId = hook.currentUserId then heard
  else if isTyping then
    { heard with
      typingUserIds :=
        if hook.typingUserIds.contains userId then hook.typingUserIds
        else hook.typingUserIds ++ [userId]
      typingTimeouts := hook.typingTimeouts.arm userId () (hook.now + EXPIRY_MS) }
  else { heard with typingTimeouts := hook.typingTimeouts.clear userId }.remove userId

/-- The callback of the timer of a user. -/
def expire (timer : Nat) (userId : JsString) (hook : Hook) : Hook :=
  { hook with typingTimeouts := hook.typingTimeouts.expire timer userId }.remove userId

/-- The clean-up of the effect, and the effect with other arguments. -/
def rebind (channelId currentUserId : JsString) (hook : Hook) : Hook :=
  { hook with
    channelId := channelId
    currentUserId := currentUserId
    typingTimeouts := hook.typingTimeouts.clearAll
    isTyping := false
    stopTyping := none
    heard := [] }

def sendTyping (isTyping : Bool) (hook : Hook) : Hook :=
  { hook with isTyping := isTyping, sent := (hook.channelId, isTyping) :: hook.sent }

def onKeystroke (hook : Hook) : Hook :=
  let announced := if hook.isTyping then hook else hook.sendTyping true
  { announced with stopTyping := some (hook.now + TYPING_TIMEOUT_MS) }

def onSent (hook : Hook) : Hook :=
  let stopped := { hook with stopTyping := none }
  if hook.isTyping then stopped.sendTyping false else stopped

/-- The callback of the timer after which the user has stopped. -/
def stop (hook : Hook) : Hook := { hook with stopTyping := none }.sendTyping false

/-- Whether no timer goes off before a time. -/
def quietUntil (time : Nat) (hook : Hook) : Bool :=
  ((List.range hook.typingTimeouts.next).all fun timer =>
      (hook.typingTimeouts.timers timer).all fun (_, deadline) => time ≤ deadline) &&
    hook.stopTyping.all fun deadline => time ≤ deadline

end Hook

inductive Step
  | typing (channelId userId : JsString) (isTyping : Bool)
  | expire (timer : Nat)
  | rebind (channelId currentUserId : JsString)
  | keystroke
  | sent
  | stop
  | pass (milliseconds : Nat)

def next (hook : Hook) : Step → Option Hook
  | .typing channelId userId isTyping =>
      some (if channelId = hook.channelId then hook.listen userId isTyping else hook)
  | .expire timer =>
      match hook.typingTimeouts.timers timer with
      | some (userId, deadline) =>
          if deadline ≤ hook.now then some (hook.expire timer userId) else none
      | none => none
  | .rebind channelId currentUserId => some (hook.rebind channelId currentUserId)
  | .keystroke => some hook.onKeystroke
  | .sent => some hook.onSent
  | .stop => (hook.stopTyping.filter (· ≤ hook.now)).map fun _ => hook.stop
  | .pass milliseconds =>
      if hook.quietUntil (hook.now + milliseconds) then
        some { hook with now := hook.now + milliseconds }
      else none

def typingSystem : System Hook Step :=
  System.ofNext
    (fun hook => ∃ channelId currentUserId, hook = .mounted channelId currentUserId) next

/-- Whether nothing is in the list when the hook is bound anew. -/
def steady (hook : Hook) : Step → Bool
  | .rebind _ _ => hook.typingUserIds.isEmpty
  | _ => true

def Steady (hook : Hook) (step : Step) : Prop := steady hook step = true

/-- What the list says of a user: they typed in the bound channel not longer ago than an id stays,
and have not stopped; it is not the current user, and there is one timer to strike them off. -/
structure Sound (hook : Hook) (id : JsString) : Prop where
  typed : ∃ later time earlier, hook.heard = later ++ ⟨id, true, time⟩ :: earlier ∧
    hook.now ≤ time + EXPIRY_MS ∧ ∀ event ∈ later, event.userId = id → event.isTyping = true
  other : id ≠ hook.currentUserId
  once : hook.typingUserIds.count id = 1
  timer : ∃! timer, ∃ deadline, hook.typingTimeouts.timers timer = some (id, deadline)

/-! ## What is kept -/

/-- A user was heard to type at a time, and not to have stopped since. -/
def TypedAt (hook : Hook) (id : JsString) (time : Nat) : Prop :=
  ∃ later earlier, hook.heard = later ++ ⟨id, true, time⟩ :: earlier ∧
    ∀ event ∈ later, event.userId = id → event.isTyping = true

/-- The list and the timers name the same users, and each timer goes off when what was heard of its
user is too old. -/
structure Kept (hook : Hook) : Prop where
  paired : hook.typingTimeouts.Paired
  distinct : hook.typingUserIds.Nodup
  listed : ∀ id, id ∈ hook.typingUserIds ↔
    ∃ timer deadline, hook.typingTimeouts.timers timer = some (id, deadline)
  other : ∀ timer id deadline, hook.typingTimeouts.timers timer = some (id, deadline) →
    id ≠ hook.currentUserId
  typed : ∀ timer id deadline, hook.typingTimeouts.timers timer = some (id, deadline) →
    hook.now ≤ deadline ∧ ∃ time, deadline = time + EXPIRY_MS ∧ TypedAt hook id time

section Kept

variable {hook after : Hook} {step : Step} {channelId userId currentUserId : JsString}
  {isTyping : Bool}

theorem Kept.sound (kept : Kept hook) {id : JsString} (member : id ∈ hook.typingUserIds) :
    Sound hook id := by
  obtain ⟨timer, deadline, live⟩ := (kept.listed id).mp member
  obtain ⟨fits, time, rfl, later, earlier, heard, silent⟩ := kept.typed timer id deadline live
  refine ⟨⟨later, time, earlier, heard, fits, silent⟩, kept.other timer id _ live,
    List.count_eq_one_of_mem kept.distinct member, timer, ⟨_, live⟩, ?_⟩
  intro second ⟨deadline, also⟩
  exact kept.paired.eq_of_live also live

theorem kept_mounted (channelId currentUserId : JsString) :
    Kept (.mounted channelId currentUserId) where
  paired := TimerTable.paired_empty
  distinct := List.nodup_nil
  listed _ := iff_of_false List.not_mem_nil fun ⟨_, _, live⟩ => nomatch live
  other _ _ _ live := nomatch live
  typed _ _ _ live := nomatch live

/-- An event that is not the end of a user's typing does not make what was heard of them old. -/
theorem TypedAt.cons {id : JsString} {time : Nat} {event : Heard} (typed : TypedAt hook id time)
    (fits : event.userId = id → event.isTyping = true)
    (grown : after.heard = event :: hook.heard) : TypedAt after id time := by
  obtain ⟨later, earlier, heard, silent⟩ := typed
  refine ⟨event :: later, earlier, by rw [grown, heard, List.cons_append], ?_⟩
  exact List.forall_mem_cons.mpr ⟨fits, silent⟩

section

variable (kept : Kept hook)

include kept

/-- Striking a user off leaves what is kept of the others. -/
theorem Kept.strike
    (table : after.typingTimeouts = hook.typingTimeouts.clear userId)
    (list : after.typingUserIds = hook.typingUserIds.filter (· ≠ userId))
    (current : after.currentUserId = hook.currentUserId) (clock : after.now = hook.now)
    (heard : after.heard = hook.heard ∨
      ∃ event : Heard, event.userId = userId ∧ after.heard = event :: hook.heard) :
    Kept after where
  paired := table ▸ kept.paired.clear userId
  distinct := list ▸ kept.distinct.filter _
  listed id := by
    rw [list, table, List.mem_filter, decide_eq_true_eq, kept.listed]
    constructor
    · intro ⟨⟨timer, deadline, live⟩, different⟩
      exact ⟨timer, deadline, kept.paired.timers_cancel.mpr ⟨live, different⟩⟩
    · intro ⟨timer, deadline, left⟩
      obtain ⟨live, different⟩ := kept.paired.timers_cancel.mp left
      exact ⟨⟨timer, deadline, live⟩, different⟩
  other timer id deadline left := by
    rw [table] at left
    rw [current]
    exact kept.other timer id deadline (kept.paired.live_of_clear left)
  typed timer id deadline left := by
    rw [table] at left
    obtain ⟨live, different⟩ := kept.paired.timers_cancel.mp left
    obtain ⟨fits, time, same, typed⟩ := kept.typed timer id deadline live
    refine ⟨clock ▸ fits, time, same, ?_⟩
    rcases heard with unchanged | ⟨event, named, grown⟩
    · rwa [TypedAt, unchanged]
    · exact typed.cons (fun own => absurd (own.symm.trans named) different) grown

/-- A user that types is in the list, with a new timer. -/
theorem Kept.type (foreign : userId ≠ hook.currentUserId) : Kept (hook.listen userId true) := by
  have listens : hook.listen userId true =
      { hook with
        heard := ⟨userId, true, hook.now⟩ :: hook.heard
        typingUserIds :=
          if hook.typingUserIds.contains userId then hook.typingUserIds
          else hook.typingUserIds ++ [userId]
        typingTimeouts := hook.typingTimeouts.arm userId () (hook.now + EXPIRY_MS) } := by
    rw [Hook.listen, if_neg foreign, if_pos rfl]
  rw [listens]
  have armed := kept.paired.arm userId () (hook.now + EXPIRY_MS)
  refine ⟨armed, ?_, fun id => ?_, fun timer id deadline live => ?_,
    fun timer id deadline live => ?_⟩
  · dsimp only
    split
    · exact kept.distinct
    · rename_i absent
      rw [List.contains_iff_mem] at absent
      exact List.nodup_append.mpr ⟨kept.distinct, List.nodup_singleton userId,
        fun id member other single same => absent (by rwa [← List.mem_singleton.mp single, ← same])⟩
  · have present : id ∈ (if hook.typingUserIds.contains userId then hook.typingUserIds
        else hook.typingUserIds ++ [userId]) ↔ id ∈ hook.typingUserIds ∨ id = userId := by
      split
      · rename_i inside
        rw [List.contains_iff_mem] at inside
        exact ⟨.inl, fun either => either.elim (fun member => member) fun same => same ▸ inside⟩
      · rw [List.mem_append, List.mem_singleton]
    dsimp only
    rw [present, kept.listed]
    constructor
    · intro either
      by_cases same : id = userId
      · subst same
        obtain ⟨deadline, live⟩ := armed.live id () hook.typingTimeouts.next (by
          rw [TimerTable.entries_arm, Function.update_self])
        exact ⟨_, deadline, live⟩
      · obtain ⟨timer, deadline, live⟩ := either.resolve_right same
        obtain ⟨value, there⟩ := kept.paired.owned timer id deadline live
        obtain ⟨deadline, live⟩ := armed.live id value timer (by
          rw [TimerTable.entries_arm, Function.update_of_ne same, there])
        exact ⟨timer, deadline, live⟩
    · intro ⟨timer, deadline, live⟩
      rcases kept.paired.live_of_arm live with ⟨same, -⟩ | before
      · exact .inr same
      · exact .inl ⟨timer, deadline, before⟩
  · rcases kept.paired.live_of_arm live with ⟨same, -⟩ | before
    · rwa [same]
    · exact kept.other timer id deadline before
  · rcases kept.paired.live_of_arm live with ⟨rfl, rfl⟩ | before
    · exact ⟨Nat.le_add_right _ _, hook.now, rfl, [], hook.heard, rfl, List.forall_mem_nil _⟩
    · obtain ⟨fits, time, same, typed⟩ := kept.typed timer id deadline before
      exact ⟨fits, time, same, typed.cons (fun _ => rfl) rfl⟩

theorem Kept.listen (userId : JsString) (isTyping : Bool) : Kept (hook.listen userId isTyping) := by
  by_cases own : userId = hook.currentUserId
  · rw [Hook.listen, if_pos own]
    refine ⟨kept.paired, kept.distinct, kept.listed, kept.other, fun timer id deadline live => ?_⟩
    obtain ⟨fits, time, same, typed⟩ := kept.typed timer id deadline live
    refine ⟨fits, time, same, typed.cons (fun named => ?_) rfl⟩
    exact absurd (named.symm.trans own) (kept.other timer id deadline live)
  · cases isTyping with
    | true => exact kept.type own
    | false =>
      rw [Hook.listen, if_neg own]
      exact kept.strike rfl rfl rfl rfl (.inr ⟨_, rfl, rfl⟩)

/-- With an empty list there is no timer to lose. -/
theorem Kept.rebind (empty : hook.typingUserIds = [])
    (channelId currentUserId : JsString) : Kept (hook.rebind channelId currentUserId) where
  paired := kept.paired.clearAll
  distinct := kept.distinct
  listed id := by
    simp only [Hook.rebind, empty, List.not_mem_nil, kept.paired.timers_clearAll, reduceCtorEq,
      exists_false]
  other timer id deadline live := by
    simp only [Hook.rebind, kept.paired.timers_clearAll, reduceCtorEq] at live
  typed timer id deadline live := by
    simp only [Hook.rebind, kept.paired.timers_clearAll, reduceCtorEq] at live

/-- What concerns the user's own typing leaves the list alone. -/
theorem Kept.congr (list : after.typingUserIds = hook.typingUserIds)
    (table : after.typingTimeouts = hook.typingTimeouts)
    (current : after.currentUserId = hook.currentUserId) (clock : after.now = hook.now)
    (heard : after.heard = hook.heard) : Kept after where
  paired := table ▸ kept.paired
  distinct := list ▸ kept.distinct
  listed := by
    rw [list, table]
    exact kept.listed
  other := by
    rw [table, current]
    exact kept.other
  typed := by
    simp only [TypedAt, table, clock, heard]
    exact kept.typed

theorem Kept.pass {milliseconds : Nat} (quiet : hook.quietUntil (hook.now + milliseconds) = true) :
    Kept { hook with now := hook.now + milliseconds } := by
  refine ⟨kept.paired, kept.distinct, kept.listed, kept.other, fun timer id deadline live => ?_⟩
  obtain ⟨-, time, same, typed⟩ := kept.typed timer id deadline live
  refine ⟨?_, time, same, typed⟩
  have set : timer < hook.typingTimeouts.next := by
    by_contra late
    rw [kept.paired.fresh timer (Nat.le_of_not_lt late)] at live
    cases live
  have waits := List.all_eq_true.mp (Bool.and_eq_true_iff.mp quiet).1 timer (List.mem_range.mpr set)
  rw [live] at waits
  exact of_decide_eq_true waits

/-- A step that binds the hook anew only with an empty list keeps what is kept. -/
theorem Kept.next (admitted : Steady hook step)
    (moved : next hook step = some after) : Kept after := by
  cases step with
  | typing channelId userId isTyping =>
    cases moved
    split
    · exact kept.listen userId isTyping
    · exact kept
  | expire timer =>
    unfold TypingList.next at moved
    dsimp only at moved
    split at moved
    · rename_i userId deadline live
      split at moved
      · cases moved
        exact kept.strike (kept.paired.expire_eq live) rfl rfl rfl (.inl rfl)
      · cases moved
    · cases moved
  | rebind channelId currentUserId =>
    cases moved
    exact kept.rebind (List.isEmpty_iff.mp admitted) channelId currentUserId
  | keystroke =>
    cases moved
    unfold Hook.onKeystroke
    split
    · exact kept.congr rfl rfl rfl rfl rfl
    · exact kept.congr rfl rfl rfl rfl rfl
  | sent =>
    cases moved
    unfold Hook.onSent
    split
    · exact kept.congr rfl rfl rfl rfl rfl
    · exact kept.congr rfl rfl rfl rfl rfl
  | stop =>
    obtain ⟨deadline, -, rfl⟩ := Option.map_eq_some_iff.mp moved
    exact kept.congr rfl rfl rfl rfl rfl
  | pass milliseconds =>
    unfold TypingList.next at moved
    dsimp only at moved
    split at moved
    · rename_i quiet
      cases moved
      exact kept.pass quiet
    · cases moved

end

theorem hook_of_reachable (reached : typingSystem.Reachable Steady hook) : Kept hook := by
  refine reached.invariant (fun hook ⟨channelId, currentUserId, start⟩ => ?_)
    fun before step after _ kept admitted moved => kept.next admitted moved
  rw [start]
  exact kept_mounted channelId currentUserId

/-- A user that is in the list when the hook is bound anew was not heard on the new channel. -/
theorem not_sound_rebind {id : JsString} (hook : Hook) (channelId currentUserId : JsString) :
    ¬ Sound (hook.rebind channelId currentUserId) id := by
  intro sound
  obtain ⟨later, time, earlier, heard, -⟩ := sound.typed
  have empty : later ++ ⟨id, true, time⟩ :: earlier = ([] : List Heard) := heard.symm
  exact List.append_ne_nil_of_right_ne_nil later (List.cons_ne_nil _ _) empty

end Kept

/-- In a run in which the hook is bound anew only while the list is empty, everyone in the list is
typing as far as was heard, and the list is sound after the hook is bound anew once more if and only
if it is empty then. -/
theorem sound_of_reachable {hook : Hook} (reached : typingSystem.Reachable Steady hook) :
    (∀ id ∈ hook.typingUserIds, Sound hook id) ∧
      ∀ channelId currentUserId,
        (∀ id ∈ (hook.rebind channelId currentUserId).typingUserIds,
            Sound (hook.rebind channelId currentUserId) id) ↔ hook.typingUserIds = [] := by
  refine ⟨fun id => (hook_of_reachable reached).sound, fun channelId currentUserId => ?_⟩
  constructor
  · intro every
    rw [List.eq_nil_iff_forall_not_mem]
    exact fun id member => not_sound_rebind hook channelId currentUserId (every id member)
  · intro empty id member
    have none : (hook.rebind channelId currentUserId).typingUserIds = [] := empty
    rw [none] at member
    cases member

namespace Sample

def ann : JsString := js "ann"

def bob : JsString := js "bob"

/-- Two users type, one of them stops, the hook is bound to another channel when the other one's
timer has gone off, and a user types there. -/
def quiet : List Step :=
  [.typing (js "c1") bob true, .pass 1000, .typing (js "c1") (js "cy") true,
    .typing (js "c1") bob false, .pass 3500, .expire 1, .rebind (js "c2") ann, .pass 200,
    .typing (js "c1") (js "cy") true, .typing (js "c2") bob true]

/-- The hook is bound to another channel while a user types. -/
def hasty : List Step := [.typing (js "c1") bob true, .rebind (js "c2") ann]

end Sample

theorem bob_is_typing :
    ∃ hook, typingSystem.Reachable Steady hook ∧ hook.typingUserIds = [Sample.bob] ∧
      ∀ id ∈ hook.typingUserIds, Sound hook id := by
  have run : (System.follow steady next (.mounted (js "c1") Sample.ann) Sample.quiet).isSome =
      true := by decide
  have reached : typingSystem.Reachable Steady _ :=
    System.reachable_of_follow (fun _ _ admitted => admitted) ⟨js "c1", Sample.ann, rfl⟩ run
  exact ⟨_, reached, rfl, (sound_of_reachable reached).1⟩

/-- A user stays in the list of a channel they never typed in, without a timer. -/
theorem bob_stays_in_the_list :
    ¬ ∀ hook, typingSystem.Reachable System.unguarded hook →
      ∀ id ∈ hook.typingUserIds, Sound hook id := by
  intro every
  have run : (System.follow System.unchecked next (.mounted (js "c1") Sample.ann)
      Sample.hasty).isSome = true := by decide
  have reached : typingSystem.Reachable System.unguarded _ :=
    System.reachable_of_follow System.unchecked_sound ⟨js "c1", Sample.ann, rfl⟩ run
  have sound := every _ reached Sample.bob List.mem_cons_self
  exact not_sound_rebind _ (js "c2") Sample.ann sound

end Vortex.Web.TypingList
