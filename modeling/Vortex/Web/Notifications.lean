import Mathlib.Data.List.Sort
import Vortex.Foundation.Json
import Vortex.Foundation.System
import Vortex.Foundation.WriteLog

/-!
# The unread notification counter

The notifications of one user on the server, with the events about them, and one client:
the hook that keeps `notificationUnreadCount`, and the bell, where it is mounted. The hook
counts up and down with each event, whatever it is about; the bell has a list of the newest
notifications and a count of its own, acts on the notifications, and writes its count over
that of the hook.
-/

namespace Vortex.Web

open Foundation

/-! ## The server -/

structure Notification where
  id : JsString
  read : Bool
  createdAt : Int
  deriving DecidableEq

/-- An event on the channel of the user. -/
inductive NotificationEvent
  | created (n : Notification)
  | updated (n : Notification)
  | deleted (id : JsString) (read : Bool)
  deriving DecidableEq

namespace NotificationEvent

def id : NotificationEvent → JsString
  | .created n => n.id
  | .updated n => n.id
  | .deleted id _ => id

/-- Whether there was an unread notification before the write. -/
def before : NotificationEvent → Bool
  | .created _ => false
  | .updated _ => true
  | .deleted _ read => !read

/-- Whether there is one after it. -/
def after : NotificationEvent → Bool
  | .created n => !n.read
  | .updated n => !n.read
  | .deleted _ _ => false

/-- What the write does to the unread notifications. -/
def write (event : NotificationEvent) : Write JsString := ⟨event.id, event.after⟩

end NotificationEvent

/-- `orderBy(desc(notifications.createdAt))`, with the engine's choice among equal times. -/
structure NotificationOrder where
  newest : List Notification → List Notification
  perm : ∀ rows, (newest rows).Perm rows
  sorted : ∀ rows, (newest rows).Pairwise fun first second => second.createdAt ≤ first.createdAt

def unreadOf (notifications : List Notification) : List Notification :=
  notifications.filter fun n => !n.read

/-! ## The client -/

/-- A request made on mount: on its way, answered after so many writes, or over. -/
inductive Asked (α : Type)
  | waiting
  | answered (seen : Nat) (value : α)
  | done (loaded : Bool)

/-- What the user does in the bell. -/
inductive Gesture
  | markRead (id : JsString)
  | markAllRead
  | dismiss (id : JsString)
  | dismissAll

/-- What the bell asks the server to do, with what it needs to take it back. -/
inductive Action
  | markRead (id : JsString)
  | markAllRead
  | dismiss (id : JsString) (target : Option Notification)
  | dismissAll (ids : List JsString) (prev : List Notification) (prevUnread : Nat)

structure ActionRequest where
  action : Action
  carriedOut : Bool

/-- `NotificationBell`: its list and its count, what is still to be done to the count when the
list is computed, the list and the count as they were last rendered, the list it asked for,
whether it is to be rendered again, the count its effect is to store, and its requests. -/
structure Bell where
  notifications : List Notification
  unreadCount : Nat
  late : Nat → Nat
  rendered : List Notification
  renderedCount : Nat
  load : Asked (List Notification)
  pending : Bool
  effect : Option Nat
  requests : List ActionRequest

namespace Bell

/-- The bell on mount. -/
def mounted : Bell := ⟨[], 0, id, [], 0, .waiting, false, some 0, []⟩

/-- A change of its state. -/
def change (bell : Bell) (notifications : List Notification) (unreadCount : Nat) : Bell :=
  { bell with notifications, unreadCount, pending := true }

/-- A change of its list by an updater that sets the count: it runs at once if nothing waits to
be rendered, and else when that is rendered, after what has been done to the count until then. -/
def update (bell : Bell) (notifications : List Notification) (count : Nat → Nat) : Bell :=
  if bell.pending then { bell with notifications, late := count ∘ bell.late }
  else bell.change notifications (count bell.unreadCount)

def render (bell : Bell) : Bell :=
  let unreadCount := bell.late bell.unreadCount
  { bell with
    unreadCount
    late := id
    rendered := bell.notifications
    renderedCount := unreadCount
    effect := some unreadCount
    pending := false }

/-- The gateway listener of the bell. -/
def hear (bell : Bell) : NotificationEvent → Bell
  | .created n =>
      if bell.rendered.any fun existing => existing.id = n.id then bell
      else bell.change (n :: bell.notifications.take 29) (bell.unreadCount + 1)
  | .updated n =>
      let next := bell.notifications.map fun other => if other.id = n.id then n else other
      bell.update next fun _ => (unreadOf next).length
  | .deleted id read =>
      bell.change (bell.notifications.filter fun other => other.id ≠ id)
        (if read = false then bell.unreadCount - 1 else bell.unreadCount)

/-- `loadNotifications` with its answer, or without one. -/
def loaded (bell : Bell) (data : List Notification) (ok : Bool) : Bell :=
  { bell.change data (unreadOf data).length with load := .done ok }

def ask (bell : Bell) (action : Action) : Bell :=
  { bell with requests := bell.requests ++ [⟨action, false⟩] }

/-- `dismiss(id)`, up to its request. -/
def dismiss (bell : Bell) (id : JsString) : Bell :=
  let target := bell.rendered.find? fun n => n.id = id
  let unread := target.any fun n => !n.read
  (bell.change (bell.notifications.filter fun n => n.id ≠ id)
    (if unread then bell.unreadCount - 1 else bell.unreadCount)).ask (.dismiss id target)

/-- `dismissAll()`, up to its request. -/
def dismissAll (bell : Bell) : Bell :=
  if bell.rendered.isEmpty then bell
  else (bell.change [] 0).ask
    (.dismissAll (bell.rendered.map (·.id)) bell.rendered bell.renderedCount)

/-- What the bell does at once. -/
def act (bell : Bell) : Gesture → Bell
  | .markRead id => bell.ask (.markRead id)
  | .markAllRead => bell.ask .markAllRead
  | .dismiss id => bell.dismiss id
  | .dismissAll => bell.dismissAll

/-- What an action does once the server has answered that it is done. -/
def succeed (bell : Bell) : Action → Bell
  | .markRead id =>
      bell.update (bell.notifications.map fun n => if n.id = id then { n with read := true } else n)
        fun unreadCount =>
          if bell.notifications.any fun n => n.id = id && !n.read then unreadCount - 1
          else unreadCount
  | .markAllRead => bell.change (bell.notifications.map fun n => { n with read := true }) 0
  | .dismiss _ _ | .dismissAll _ _ _ => bell

/-- What an action does when it fails. -/
def fail (bell : Bell) : Action → Bell
  | .markRead _ | .markAllRead => bell
  | .dismiss _ none => bell
  | .dismiss _ (some target) =>
      bell.change ((bell.notifications ++ [target]).insertionSort
          fun first second => second.createdAt ≤ first.createdAt)
        (if target.read then bell.unreadCount else bell.unreadCount + 1)
  | .dismissAll _ prev prevUnread => bell.change prev prevUnread

end Bell

/-! ## The system -/

/-- The server, the count of the store with the hook that keeps it, and the bell. -/
structure Notices where
  rows : List Notification
  used : List JsString
  log : List NotificationEvent
  passed : List Nat
  notificationUnreadCount : Nat
  seeded : Bool
  count : Asked Nat
  bell : Option Bell

/-- What can happen: writes, by this client's requests or by others, deliveries, the answers
to the two requests of the mount, and what the bell does. -/
inductive NoticesEvent
  | creates (id : JsString) (createdAt : Int)
  | marksRead (id : Option JsString)
  | deletes (ids : List JsString)
  | delivers (number : Nat)
  | countsUnread
  | countArrives
  | countFails
  | selects
  | listArrives
  | listFails
  | renders
  | syncs
  | acts (gesture : Gesture)
  | carriesOut (number : Nat)
  | succeeds (number : Nat)
  | fails (number : Nat)

namespace Notices

def create (notices : Notices) (n : Notification) : Notices :=
  { notices with
    rows := notices.rows ++ [n]
    used := n.id :: notices.used
    log := notices.log ++ [.created n] }

/-- `PATCH`: mark one unread notification as read, or all. -/
def markRead (notices : Notices) (id : Option JsString) : Notices :=
  let chosen (n : Notification) : Bool := !n.read && id.all fun id => n.id = id
  { notices with
    rows := notices.rows.map fun n => if chosen n then { n with read := true } else n
    log := notices.log ++
      (notices.rows.filter chosen).map fun n => .updated { n with read := true } }

/-- `DELETE`. -/
def delete (notices : Notices) (ids : List JsString) : Notices :=
  { notices with
    rows := notices.rows.filter fun n => !ids.contains n.id
    log := notices.log ++
      (notices.rows.filter fun n => ids.contains n.id).map fun n => .deleted n.id n.read }

/-- The gateway listener of the hook. -/
def hear (notices : Notices) : NotificationEvent → Notices
  | .created n =>
      if n.read then notices
      else { notices with
        seeded := true
        notificationUnreadCount := notices.notificationUnreadCount + 1 }
  | .updated _ =>
      { notices with notificationUnreadCount := notices.notificationUnreadCount - 1 }
  | .deleted _ read =>
      if read = false then
        { notices with notificationUnreadCount := notices.notificationUnreadCount - 1 }
      else notices

/-- An event reaches the hook and the bell. -/
def deliver (notices : Notices) (number : Nat) (event : NotificationEvent) : Notices :=
  { notices.hear event with
    passed := number :: notices.passed
    bell := notices.bell.map fun bell => bell.hear event }

def carryOut (notices : Notices) : Action → Notices
  | .markRead id => notices.markRead (some id)
  | .markAllRead => notices.markRead none
  | .dismiss id _ => notices.delete [id]
  | .dismissAll ids _ _ => notices.delete ids

def next (order : NotificationOrder) (notices : Notices) : NoticesEvent → Option Notices
  | .creates id createdAt =>
      if notices.used.contains id then none else some (notices.create ⟨id, false, createdAt⟩)
  | .marksRead id => some (notices.markRead id)
  | .deletes ids => some (notices.delete ids)
  | .delivers number => notices.log[number]?.map (notices.deliver number)
  | .countsUnread =>
      match notices.count with
      | .waiting => some { notices with
          count := .answered notices.log.length (unreadOf notices.rows).length }
      | _ => none
  | .countArrives =>
      match notices.count with
      | .answered _ value =>
          if notices.seeded then some { notices with count := .done true }
          else some { notices with
            count := .done true, seeded := true, notificationUnreadCount := value }
      | _ => none
  | .countFails =>
      match notices.count with
      | .done _ => none
      | _ => some { notices with count := .done false }
  | .selects => notices.bell.bind fun bell =>
      match bell.load with
      | .waiting => some { notices with bell := some { bell with
          load := .answered notices.log.length ((order.newest notices.rows).take 30) } }
      | _ => none
  | .listArrives => notices.bell.bind fun bell =>
      match bell.load with
      | .answered _ data => some { notices with bell := some (bell.loaded data true) }
      | _ => none
  | .listFails => notices.bell.bind fun bell =>
      match bell.load with
      | .done _ => none
      | _ => some { notices with bell := some (bell.loaded [] false) }
  | .renders => notices.bell.bind fun bell =>
      if bell.pending then some { notices with bell := some bell.render } else none
  | .syncs => notices.bell.bind fun bell =>
      bell.effect.map fun unreadCount => { notices with
        notificationUnreadCount := unreadCount, bell := some { bell with effect := none } }
  | .acts gesture => notices.bell.map fun bell => { notices with bell := some (bell.act gesture) }
  | .carriesOut number => notices.bell.bind fun bell =>
      match bell.requests[number]? with
      | some ⟨action, false⟩ => some { notices.carryOut action with
          bell := some { bell with requests := bell.requests.set number ⟨action, true⟩ } }
      | _ => none
  | .succeeds number => notices.bell.bind fun bell =>
      match bell.requests[number]? with
      | some ⟨action, true⟩ => some { notices with
          bell := some { bell.succeed action with requests := bell.requests.eraseIdx number } }
      | _ => none
  | .fails number => notices.bell.bind fun bell =>
      bell.requests[number]?.map fun request => { notices with
        bell := some { bell.fail request.action with requests := bell.requests.eraseIdx number } }

/-- The client has just been opened, with the bell or without it. -/
structure Initial (notices : Notices) : Prop where
  unique : (notices.rows.map Notification.id).Nodup
  used : ∀ n ∈ notices.rows, n.id ∈ notices.used
  log : notices.log = []
  passed : notices.passed = []
  seeded : notices.seeded = false
  count : notices.count = .waiting
  bell : notices.bell = none ∨ notices.bell = some Bell.mounted

/-- Nothing is in flight: every event has been delivered, the requests of the mount are
over, and the bell has nothing to do. -/
structure Quiet (notices : Notices) : Prop where
  delivered : ∀ number < notices.log.length, number ∈ notices.passed
  counted : ∃ ok, notices.count = .done ok
  bell : ∀ bell, notices.bell = some bell →
    (∃ ok, bell.load = .done ok) ∧ bell.pending = false ∧ bell.effect = none ∧ bell.requests = []

/-- The count is that of the unread rows. -/
def Counted (notices : Notices) : Prop :=
  notices.notificationUnreadCount = (unreadOf notices.rows).length

end Notices

def noticesSystem (order : NotificationOrder) : System Notices NoticesEvent :=
  .ofNext Notices.Initial (Notices.next order)

end Vortex.Web
