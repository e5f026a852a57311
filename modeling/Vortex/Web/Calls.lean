import Vortex.Foundation.JsText
import Vortex.Foundation.Links
import Vortex.Foundation.System

/-!
# Calls between two users

`useDMCall` on both sides of a 1:1 conversation: one side invites and rings, the other
accepts or declines, and the signals between them arrive in the order of their sender. A
side that accepts is in the call at once, its partner only when the signal arrives, so
they agree as long as nothing ends the ring in between.
-/

namespace Vortex.Web.Calls

open Foundation

/-- The two members of the conversation. -/
inductive Member
  | first
  | second
  deriving DecidableEq

def Member.other : Member → Member
  | .first => .second
  | .second => .first

structure IncomingCall where
  callerId : Member
  callerName : JsString
  callerAvatar : Option JsString
  withVideo : Bool
  deriving DecidableEq

/-- What a call signal carries besides the conversation. -/
inductive CallSignal
  | invite (withVideo : Bool) (callerName : JsString) (callerAvatar : Option JsString)
  | cancel
  | accept (withVideo : Bool)
  | decline
  deriving DecidableEq

def CallSignal.isAccept : CallSignal → Bool
  | .accept _ => true
  | _ => false

def CallSignal.isDecline : CallSignal → Bool
  | .decline => true
  | _ => false

/-- The states of the hook: of an active call and of a ring, whether it is with video. -/
structure CallState where
  incomingCall : Option IncomingCall
  activeCall : Option Bool
  ringing : Option Bool
  deriving DecidableEq

/-- The hook of one member: its states, and what they were when it was last rendered,
which is what the member sees and what its refs hold. A timer keeps running when its ref
is overwritten. -/
structure Hook where
  state : CallState
  rendered : CallState
  ringTimers : List Nat
  ringTimeout : Option Nat
  incomingTimers : List Nat
  incomingTimeout : Option Nat
  declined : List Member
  timers : Nat
  deriving DecidableEq

/-- How many other members a 1:1 conversation has. -/
def otherMemberCount : Nat := 1

namespace Hook

def mounted : Hook := ⟨⟨none, none, none⟩, ⟨none, none, none⟩, [], none, [], none, [], 0⟩

def clearIncoming (hook : Hook) : Hook :=
  { hook with
    incomingTimers := hook.incomingTimers.filter fun timer => some timer ≠ hook.incomingTimeout
    incomingTimeout := none
    state := { hook.state with incomingCall := none } }

def stopRinging (hook : Hook) : Hook :=
  { hook with
    ringTimers := hook.ringTimers.filter fun timer => some timer ≠ hook.ringTimeout
    ringTimeout := none
    declined := []
    state := { hook.state with ringing := none } }

/-- The listener of the hook. -/
def receive (currentUserId userId : Member) (signal : CallSignal) (hook : Hook) : Hook :=
  if userId = currentUserId then hook
  else
    match signal with
    | .invite withVideo callerName callerAvatar =>
        { hook with
          state := { hook.state with
            incomingCall := some ⟨userId, callerName, callerAvatar, withVideo⟩ }
          incomingTimers :=
            (hook.incomingTimers.filter fun timer => some timer ≠ hook.incomingTimeout) ++
              [hook.timers]
          incomingTimeout := some hook.timers
          timers := hook.timers + 1 }
    | .cancel =>
        if hook.rendered.incomingCall.map IncomingCall.callerId = some userId then
          hook.clearIncoming
        else hook
    | .accept withVideo =>
        if hook.rendered.ringing.isNone then hook
        else
          let stopped := hook.stopRinging
          { stopped with state := { stopped.state with activeCall := some withVideo } }
    | .decline =>
        if hook.rendered.ringing.isNone then hook
        else
          let declined := if hook.declined.contains userId then hook.declined
            else hook.declined ++ [userId]
          if otherMemberCount ≤ declined.length then { hook with declined }.stopRinging
          else { hook with declined }

def startCall (withVideo : Bool) (callerName : JsString) (callerAvatar : Option JsString)
    (hook : Hook) : Hook × List CallSignal :=
  ({ hook with
      declined := []
      state := { hook.state with ringing := some withVideo }
      ringTimers := hook.ringTimers ++ [hook.timers]
      ringTimeout := some hook.timers
      timers := hook.timers + 1 },
    [.invite withVideo callerName callerAvatar])

def cancelCall (hook : Hook) : Hook × List CallSignal := (hook.stopRinging, [.cancel])

def acceptCall (withVideo : Bool) (hook : Hook) : Hook × List CallSignal :=
  let cleared := hook.clearIncoming
  ({ cleared with state := { cleared.state with activeCall := some withVideo } },
    [.accept withVideo])

def declineCall (hook : Hook) : Hook × List CallSignal := (hook.clearIncoming, [.decline])

/-- The callback of a ring timer. -/
def ringExpires (timer : Nat) (hook : Hook) : Hook × List CallSignal :=
  ({ hook with
      ringTimers := hook.ringTimers.filter (· ≠ timer)
      ringTimeout := none
      declined := []
      state := { hook.state with ringing := none } },
    [.cancel])

/-- The callback of an incoming-call timer. -/
def incomingExpires (timer : Nat) (hook : Hook) : Hook :=
  { hook with
    incomingTimers := hook.incomingTimers.filter (· ≠ timer)
    incomingTimeout := none
    state := { hook.state with incomingCall := none } }

end Hook

/-- What can happen at a member: a click, a timer, a signal from the other one, or the
rendering of the states that were set. -/
inductive CallEvent
  | startCall (withVideo : Bool) (callerAvatar : Option JsString)
  | cancelCall
  | acceptCall (withVideo : Bool)
  | declineCall
  | ringExpires (timer : Nat)
  | incomingExpires (timer : Nat)
  | deliver
  | render
  deriving DecidableEq

/-- Both hooks, and the signals between them. -/
structure Conversation where
  hooks : Member → Hook
  links : Links Member CallSignal

namespace Conversation

/-- A member's hook after an event, with the signals it sends to the other one. -/
def commit (conversation : Conversation) (member : Member) (change : Hook × List CallSignal) :
    Conversation where
  hooks := Function.update conversation.hooks member change.1
  links := conversation.links.post member [member.other] change.2

/-- The next state. The buttons are those of the last rendering: a call can be started
without one, a ring cancelled until there is a call, and the toast answered likewise. -/
def next (names : Member → JsString) (conversation : Conversation) :
    Member × CallEvent → Option Conversation
  | (member, event) =>
      let hook := conversation.hooks member
      let seen := hook.rendered
      match event with
      | .startCall withVideo callerAvatar =>
          if seen.activeCall.isNone && seen.ringing.isNone then
            some (conversation.commit member
              (hook.startCall withVideo (names member) callerAvatar))
          else none
      | .cancelCall =>
          if seen.activeCall.isNone && seen.ringing.isSome then
            some (conversation.commit member hook.cancelCall)
          else none
      | .acceptCall withVideo =>
          if seen.activeCall.isNone && seen.incomingCall.isSome then
            some (conversation.commit member (hook.acceptCall withVideo))
          else none
      | .declineCall =>
          if seen.activeCall.isNone && seen.incomingCall.isSome then
            some (conversation.commit member hook.declineCall)
          else none
      | .ringExpires timer =>
          if hook.ringTimers.contains timer then
            some (conversation.commit member (hook.ringExpires timer))
          else none
      | .incomingExpires timer =>
          if hook.incomingTimers.contains timer then
            some (conversation.commit member (hook.incomingExpires timer, []))
          else none
      | .deliver =>
          match conversation.links.take? member.other member with
          | some (signal, links) =>
              some ({ conversation with links }.commit member
                (hook.receive member member.other signal, []))
          | none => none
      | .render => some (conversation.commit member ({ hook with rendered := hook.state }, []))

def mounted : Conversation := ⟨fun _ => Hook.mounted, Links.idle⟩

/-- Both hooks have just been mounted. -/
def Initial (conversation : Conversation) : Prop := conversation = mounted

theorem initial_mounted : mounted.Initial := rfl

/-- No signal is in flight, no timer is pending, and both sides are rendered. -/
structure Quiescent (conversation : Conversation) : Prop where
  quiet : conversation.links.Quiet
  settled : ∀ member, (conversation.hooks member).ringTimers = [] ∧
    (conversation.hooks member).incomingTimers = [] ∧
    (conversation.hooks member).rendered = (conversation.hooks member).state

/-- Both are in an active call or neither is, once nothing is left to happen; and no side
ever rings and is in an active call at the same time. -/
structure Agrees (conversation : Conversation) : Prop where
  together : conversation.Quiescent → ((conversation.hooks .first).state.activeCall.isSome ↔
    (conversation.hooks .second).state.activeCall.isSome)
  exclusive : ∀ member, (conversation.hooks member).state.ringing.isSome →
    (conversation.hooks member).state.activeCall = none

end Conversation

/-- All runs of two members. -/
def callSystem (names : Member → JsString) : System Conversation (Member × CallEvent) :=
  .ofNext Conversation.Initial (Conversation.next names)

/-- The condition on a step. A hook is rendered before anything else happens to it; a call
is accepted by a member who does not ring, while the other one does and no decline is on
its way there; and a ring does not end by itself while its accept is on the way. -/
def orderly (conversation : Conversation) : Member × CallEvent → Prop
  | (member, event) =>
      (event ≠ .render →
        (conversation.hooks member).rendered = (conversation.hooks member).state) ∧
      match event with
      | .acceptCall _ =>
          (conversation.hooks member).state.ringing = none ∧
            (conversation.hooks member.other).state.ringing.isSome ∧
            ∀ signal ∈ conversation.links.queue member member.other, signal.isDecline = false
      | .cancelCall | .ringExpires _ =>
          ∀ signal ∈ conversation.links.queue member.other member, signal.isAccept = false
      | _ => True

/-! ## The line between the two -/

/-- What matters for the agreement: who is in a call, who rings, and what is on its way
from each member to the other one. -/
structure Line where
  active : Member → Bool
  ringing : Member → Bool
  sent : Member → List CallSignal

def Conversation.line (conversation : Conversation) : Line where
  active member := (conversation.hooks member).state.activeCall.isSome
  ringing member := (conversation.hooks member).state.ringing.isSome
  sent member := conversation.links.queue member member.other

namespace Line

/-- What an orderly step at a member can do to the line. -/
inductive Move (member : Member) (line : Line) : Line → Prop
  | starts (withVideo : Bool) (callerName : JsString) (callerAvatar : Option JsString)
      (idle : line.active member = false) :
      Move member line ⟨line.active, Function.update line.ringing member true,
        Function.update line.sent member
          (line.sent member ++ [.invite withVideo callerName callerAvatar])⟩
  | stops (unanswered : ∀ signal ∈ line.sent member.other, signal.isAccept = false) :
      Move member line ⟨line.active, Function.update line.ringing member false,
        Function.update line.sent member (line.sent member ++ [.cancel])⟩
  | accepts (withVideo : Bool) (idle : line.active member = false)
      (silent : line.ringing member = false) (awaited : line.ringing member.other = true)
      (undeclined : ∀ signal ∈ line.sent member, signal.isDecline = false) :
      Move member line ⟨Function.update line.active member true, line.ringing,
        Function.update line.sent member (line.sent member ++ [.accept withVideo])⟩
  | declines (idle : line.active member = false) :
      Move member line ⟨line.active, line.ringing,
        Function.update line.sent member (line.sent member ++ [.decline])⟩
  | hears (signal : CallSignal) (rest : List CallSignal)
      (oldest : line.sent member.other = signal :: rest) :
      Move member line ⟨
        Function.update line.active member
          (line.active member || line.ringing member && signal.isAccept),
        Function.update line.ringing member
          (line.ringing member && !signal.isAccept && !signal.isDecline),
        Function.update line.sent member.other rest⟩
  | rests : Move member line line

/-- The members agree up to an accept on its way: whoever has accepted is in the call, the
other one still rings, and nothing that could end the ring is ahead of the accept. -/
structure Coherent (line : Line) : Prop where
  exclusive : ∀ member, line.ringing member = true → line.active member = false
  answered : ∀ member, line.active member = true →
    line.active member.other = true ∨ ∃ signal ∈ line.sent member, signal.isAccept = true
  underway : ∀ member, (∃ signal ∈ line.sent member, signal.isAccept = true) →
    line.active member = true ∧ line.active member.other = false ∧
      line.ringing member.other = true ∧ ∀ signal ∈ line.sent member, signal.isDecline = false
  single : ∀ member, (line.sent member).countP CallSignal.isAccept ≤ 1

@[simp] theorem other_other (member : Member) : member.other.other = member := by
  cases member <;> rfl

theorem other_ne (member : Member) : member.other ≠ member := by
  cases member <;> simp [Member.other]

theorem eq_or_other (member someone : Member) : someone = member ∨ someone = member.other := by
  cases member <;> cases someone <;> simp [Member.other]

theorem Coherent.step {member : Member} {before after : Line} (coherent : before.Coherent)
    (moved : Move member before after) : after.Coherent := by
  have different := other_ne member
  have back := other_other member
  have which := eq_or_other member
  obtain ⟨exclusive, answered, underway, single⟩ := coherent
  -- no step needs linear arithmetic, and its instances are costly to look for at every goal
  cases moved with
  | rests => exact ⟨exclusive, answered, underway, single⟩
  | starts withVideo callerName callerAvatar idle =>
    constructor
    · grind -linarith
    · grind -linarith
    · grind -linarith [CallSignal.isAccept, CallSignal.isDecline]
    · grind -linarith [CallSignal.isAccept]
  | stops unanswered =>
    constructor
    · grind -linarith
    · grind -linarith
    · intro someone accepted
      obtain rfl | rfl := which someone
      · have earlier := underway someone (by grind -linarith [CallSignal.isAccept])
        grind -linarith [CallSignal.isDecline]
      · grind -linarith
    · grind -linarith [CallSignal.isAccept]
  | accepts withVideo idle silent awaited undeclined =>
    have unanswered : ∀ signal ∈ before.sent member, signal.isAccept = false := by grind -linarith
    have alone : before.active member.other = false := exclusive _ awaited
    constructor
    · grind -linarith
    · intro someone active
      obtain rfl | rfl := which someone
      · exact .inr ⟨.accept withVideo, by simp, rfl⟩
      · grind -linarith
    · intro someone accepted
      obtain rfl | rfl := which someone
      · refine ⟨by simp, by grind -linarith, by grind, ?_⟩
        grind -linarith [CallSignal.isDecline]
      · grind -linarith
    · intro someone
      obtain rfl | rfl := which someone
      · have none : (before.sent someone).countP CallSignal.isAccept = 0 :=
          List.countP_eq_zero.mpr (by simpa using unanswered)
        simp [none, CallSignal.isAccept]
      · grind -linarith
  | declines idle =>
    constructor
    · grind -linarith
    · grind -linarith
    · grind -linarith [CallSignal.isAccept, CallSignal.isDecline]
    · grind -linarith [CallSignal.isAccept]
  | hears signal rest oldest =>
    have last (accepted : signal.isAccept = true) : ∀ later ∈ rest, later.isAccept = false := by
      have one := single member.other
      rw [oldest, List.countP_cons_of_pos accepted] at one
      have none : rest.countP CallSignal.isAccept = 0 := by omega
      simpa using List.countP_eq_zero.mp none
    constructor
    · grind -linarith
    · grind -linarith
    · rintro someone ⟨accept, sent, accepted⟩
      obtain rfl | rfl := which someone
      · grind -linarith
      · have sent : accept ∈ rest := by simpa using sent
        obtain ⟨active, idle, rings, undeclined⟩ :=
          underway member.other ⟨accept, oldest ▸ List.mem_cons_of_mem _ sent, accepted⟩
        have plain : signal.isAccept = false := by grind -linarith
        have undeclined : ∀ later ∈ signal :: rest, later.isDecline = false := oldest ▸ undeclined
        grind -linarith
    · grind -linarith

end Line

namespace Conversation

variable {names : Member → JsString} {before after : Conversation} {member : Member}

theorem line_commit (conversation : Conversation) (member : Member)
    (change : Hook × List CallSignal) :
    (conversation.commit member change).line =
      ⟨Function.update conversation.line.active member change.1.state.activeCall.isSome,
        Function.update conversation.line.ringing member change.1.state.ringing.isSome,
        Function.update conversation.line.sent member
          (conversation.line.sent member ++ change.2)⟩ := by
  have active : (conversation.commit member change).line.active =
      Function.update conversation.line.active member change.1.state.activeCall.isSome := by
    funext someone
    by_cases same : someone = member <;> simp [line, commit, same]
  have ringing : (conversation.commit member change).line.ringing =
      Function.update conversation.line.ringing member change.1.state.ringing.isSome := by
    funext someone
    by_cases same : someone = member <;> simp [line, commit, same]
  have sent : (conversation.commit member change).line.sent =
      Function.update conversation.line.sent member
        (conversation.line.sent member ++ change.2) := by
    funext someone
    simp only [line, commit]
    rw [Links.queue_post _ _ _ _ _ (by simp)]
    by_cases same : someone = member <;> simp [same]
  rw [← active, ← ringing, ← sent]

/-- What is sent is read off the line, also by a hook that has taken a signal. -/
theorem line_take {links : Links Member CallSignal} {signal : CallSignal}
    (taken : before.links.take? member.other member = some (signal, links)) :
    before.line.sent member.other = signal :: links.queue member.other member ∧
      ({ before with links } : Conversation).line = ⟨before.line.active, before.line.ringing,
        Function.update before.line.sent member.other (links.queue member.other member)⟩ := by
  obtain ⟨oldest, others⟩ := Links.take?_eq_some taken
  constructor
  · simpa only [line, Line.other_other] using oldest
  · have sent : (fun someone => links.queue someone someone.other) =
        Function.update before.line.sent member.other (links.queue member.other member) := by
      funext someone
      by_cases same : someone = member.other
      · subst same
        rw [Function.update_self, Line.other_other]
      · rw [Function.update_of_ne same]
        exact others _ _ (.inl same)
    simp only [line] at sent ⊢
    rw [sent]

/-- A hook that takes a signal hears it. -/
theorem line_receive (hook : Hook) (rendered : hook.rendered = hook.state) {signal : CallSignal} :
    (hook.receive member member.other signal).state.activeCall.isSome =
        (hook.state.activeCall.isSome || hook.state.ringing.isSome && signal.isAccept) ∧
      (hook.receive member member.other signal).state.ringing.isSome =
        (hook.state.ringing.isSome && !signal.isAccept && !signal.isDecline) := by
  have different := Line.other_ne member
  unfold Hook.receive
  rw [if_neg different, rendered]
  cases signal with
  | invite withVideo callerName callerAvatar => simp [CallSignal.isAccept, CallSignal.isDecline]
  | cancel =>
    dsimp only
    split <;> simp [CallSignal.isAccept, CallSignal.isDecline, Hook.clearIncoming]
  | accept withVideo =>
    cases rings : hook.state.ringing with
    | none => simp [rings]
    | some video => simp [CallSignal.isAccept, Hook.stopRinging]
  | decline =>
    cases rings : hook.state.ringing with
    | none => simp [rings, CallSignal.isAccept]
    | some video =>
      have full (declined : List Member) : otherMemberCount ≤
          (if declined.contains member.other then declined
            else declined ++ [member.other]).length := by
        split
        · rename_i known
          exact List.length_pos_of_mem (List.contains_iff_mem.mp known)
        · simp [otherMemberCount]
      dsimp only
      rw [if_neg (by simp), if_pos (full hook.declined)]
      simp [CallSignal.isAccept, CallSignal.isDecline, Hook.stopRinging]

/-- An orderly step moves the line. -/
theorem move_of_step {event : CallEvent} (admitted : orderly before (member, event))
    (moved : before.next names (member, event) = some after) :
    Line.Move member before.line after.line := by
  obtain ⟨rendered, condition⟩ := admitted
  have sameActive := Function.update_eq_self member before.line.active
  have sameRinging := Function.update_eq_self member before.line.ringing
  have sameSent := Function.update_eq_self member before.line.sent
  cases event with
  | startCall withVideo callerAvatar =>
    have rendered := rendered (by simp)
    simp only [next, rendered, Option.ite_none_right_eq_some, Option.some.injEq,
      Bool.and_eq_true, Option.isNone_iff_eq_none] at moved
    obtain ⟨⟨idle, -⟩, rfl⟩ := moved
    rw [line_commit]
    change Line.Move member before.line
      ⟨Function.update before.line.active member (before.line.active member), _, _⟩
    rw [sameActive]
    exact .starts withVideo _ callerAvatar (by simp [line, idle])
  | cancelCall =>
    simp only [next, Option.ite_none_right_eq_some, Option.some.injEq] at moved
    obtain ⟨-, rfl⟩ := moved
    rw [line_commit]
    change Line.Move member before.line
      ⟨Function.update before.line.active member (before.line.active member), _, _⟩
    rw [sameActive]
    exact .stops (by simpa only [line, Line.other_other] using condition)
  | acceptCall withVideo =>
    have rendered := rendered (by simp)
    obtain ⟨silent, awaited, undeclined⟩ := condition
    simp only [next, rendered, Option.ite_none_right_eq_some, Option.some.injEq,
      Bool.and_eq_true, Option.isNone_iff_eq_none] at moved
    obtain ⟨⟨idle, -⟩, rfl⟩ := moved
    rw [line_commit]
    change Line.Move member before.line
      ⟨_, Function.update before.line.ringing member (before.line.ringing member), _⟩
    rw [sameRinging]
    exact .accepts withVideo (by simp [line, idle]) (by simp [line, silent]) awaited undeclined
  | declineCall =>
    have rendered := rendered (by simp)
    simp only [next, rendered, Option.ite_none_right_eq_some, Option.some.injEq,
      Bool.and_eq_true, Option.isNone_iff_eq_none] at moved
    obtain ⟨⟨idle, -⟩, rfl⟩ := moved
    rw [line_commit]
    change Line.Move member before.line
      ⟨Function.update before.line.active member (before.line.active member),
        Function.update before.line.ringing member (before.line.ringing member), _⟩
    rw [sameActive, sameRinging]
    exact .declines (by simp [line, idle])
  | ringExpires timer =>
    simp only [next, Option.ite_none_right_eq_some, Option.some.injEq] at moved
    obtain ⟨-, rfl⟩ := moved
    rw [line_commit]
    change Line.Move member before.line
      ⟨Function.update before.line.active member (before.line.active member), _, _⟩
    rw [sameActive]
    exact .stops (by simpa only [line, Line.other_other] using condition)
  | incomingExpires timer =>
    simp only [next, Option.ite_none_right_eq_some, Option.some.injEq] at moved
    obtain ⟨-, rfl⟩ := moved
    rw [line_commit]
    change Line.Move member before.line
      ⟨Function.update before.line.active member (before.line.active member),
        Function.update before.line.ringing member (before.line.ringing member), _⟩
    rw [sameActive, sameRinging, List.append_nil, sameSent]
    exact .rests
  | deliver =>
    have rendered := rendered (by simp)
    simp only [next] at moved
    split at moved
    · rename_i signal links taken
      cases moved
      obtain ⟨oldest, left⟩ := line_take taken
      obtain ⟨active, ringing⟩ := @line_receive member _ rendered signal
      rw [line_commit, left, active, ringing, List.append_nil, Function.update_eq_self]
      exact .hears signal _ oldest
    · cases moved
  | render =>
    cases moved
    rw [line_commit]
    change Line.Move member before.line
      ⟨Function.update before.line.active member (before.line.active member),
        Function.update before.line.ringing member (before.line.ringing member), _⟩
    rw [sameActive, sameRinging, List.append_nil, sameSent]
    exact .rests

theorem coherent_of_reachable {conversation : Conversation}
    (reached : (callSystem names).Reachable orderly conversation) : conversation.line.Coherent := by
  refine reached.invariant (P := fun conversation => conversation.line.Coherent) ?_ ?_
  · rintro _ rfl
    constructor
    · intro someone rings
      cases rings
    · intro someone active
      cases active
    · rintro someone ⟨signal, sent, -⟩
      cases sent
    · intro someone
      exact Nat.zero_le 1
  · rintro before ⟨member, event⟩ after - coherent admitted moved
    exact coherent.step (move_of_step admitted moved)

/-- In a quiescent state of an orderly run both members are in the call or neither is, and
nobody ever rings in a call. -/
theorem sides_agree_of_reachable {conversation : Conversation}
    (reached : (callSystem names).Reachable orderly conversation) : conversation.Agrees := by
  have coherent := coherent_of_reachable reached
  constructor
  · intro quiescent
    have together (member : Member) (active : conversation.line.active member = true) :
        conversation.line.active member.other = true := by
      rcases coherent.answered member active with both | ⟨signal, sent, -⟩
      · exact both
      · simp [line, quiescent.quiet.queue] at sent
    exact ⟨together .first, together .second⟩
  · intro member rings
    simpa [line] using coherent.exclusive member rings

end Conversation

/-! ## Runs -/

instance : ∀ (conversation : Conversation) (label : Member × CallEvent),
    Decidable (orderly conversation label)
  | _, (_, .startCall _ _) | _, (_, .declineCall) | _, (_, .incomingExpires _)
  | _, (_, .deliver) | _, (_, .render) => inferInstanceAs (Decidable ((_ → _ = _) ∧ True))
  | _, (_, .cancelCall) | _, (_, .ringExpires _) =>
      inferInstanceAs (Decidable ((_ → _ = _) ∧ ∀ _ ∈ _, _ = _))
  | _, (_, .acceptCall _) =>
      inferInstanceAs (Decidable ((_ → _ = _) ∧ _ = _ ∧ _ = true ∧ ∀ _ ∈ _, _ = _))

theorem orderly_sound (conversation : Conversation) (label : Member × CallEvent)
    (checked : decide (orderly conversation label) = true) : orderly conversation label :=
  of_decide_eq_true checked

namespace Sample

def names : Member → JsString
  | .first => js "Ada"
  | .second => js "Ben"

/-- The first member rings, and the second one sees it. -/
def rung : List (Member × CallEvent) :=
  [(.first, .startCall false none), (.first, .render), (.second, .deliver), (.second, .render)]

/-- The call is accepted. -/
def answered : Conversation :=
  (System.follow (fun conversation label => decide (orderly conversation label))
    (Conversation.next names) .mounted (rung ++ [(.second, .acceptCall false), (.second, .render),
      (.first, .deliver), (.first, .render)])).get (by decide)

/-- The call is accepted while it is cancelled. -/
def crossed : Conversation :=
  (System.follow System.unchecked (Conversation.next names) .mounted (rung ++
    [(.second, .acceptCall false), (.second, .render), (.first, .cancelCall), (.first, .render),
      (.first, .deliver), (.second, .deliver), (.first, .render), (.second, .render)])).get
    (by decide)

end Sample

theorem answered_agrees : Sample.answered.Agrees ∧
    ∀ member, (Sample.answered.hooks member).state.activeCall = some false :=
  ⟨Conversation.sides_agree_of_reachable (System.reachable_of_follow orderly_sound Conversation.initial_mounted _), by
    intro member
    cases member <;> decide⟩

/-- When a cancel crosses the accept, the member who accepted is in the call alone. -/
theorem crossed_disagrees : (callSystem Sample.names).Reachable System.unguarded Sample.crossed ∧
    ¬ Sample.crossed.Agrees := by
  refine ⟨System.reachable_of_follow System.unchecked_sound Conversation.initial_mounted _,
    fun agrees => ?_⟩
  have quiescent : Sample.crossed.Quiescent := by
    constructor
    · exact List.isEmpty_iff.mp (by decide)
    · intro member
      cases member <;> decide
  have alone : ¬ ((Sample.crossed.hooks .first).state.activeCall.isSome ↔
      (Sample.crossed.hooks .second).state.activeCall.isSome) := by decide
  exact alone (agrees.together quiescent)

end Vortex.Web.Calls
