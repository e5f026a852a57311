import Vortex.Web.Notifications

/-!
# When the unread counter converges

The hook counts every event, so its count is right if it starts from a count that matches
the events it has heard and then hears each event once and in order. The bell overwrites
that count by its own, which is right if its list has every unread notification and every
event finds the list as the server left it.
-/

namespace Vortex.Web

open Foundation List

/-! ## The log of writes -/

/-- The ids of the unread notifications. -/
def unreadIds (notifications : List Notification) : List JsString :=
  (unreadOf notifications).map Notification.id

def flags (log : List NotificationEvent) : List (Write JsString) :=
  log.map NotificationEvent.write

/-- The log agrees with what is unread: the last event about a notification says whether it
is, and each event starts from where the one before it ended. -/
structure Told (log : List NotificationEvent) (unread : JsString → Prop) : Prop where
  stored : Write.Stored (flags log) unread
  chained : ∀ (number : Nat) (event : NotificationEvent), log[number]? = some event →
    ∀ earlier < number, ∀ other : NotificationEvent, log[earlier]? = some other →
      other.id = event.id →
        (∀ (between : Nat) (found : NotificationEvent), earlier < between → between < number →
          log[between]? = some found → found.id ≠ event.id) → event.before = other.after
  created : ∀ n, .created n ∈ log → n.read = false
  updated : ∀ n, .updated n ∈ log → n.read = true

/-- A set of ids is what those who have passed some events, in order, hold for unread. -/
structure Tracks (log : List NotificationEvent) (unread : JsString → Prop) (passed : Nat → Prop)
    (view : List JsString) : Prop where
  first : ∀ (number : Nat) (event : NotificationEvent), log[number]? = some event → ¬passed number →
    (∀ earlier < number, ∀ other : NotificationEvent, log[earlier]? = some other →
      other.id = event.id → passed earlier) → (event.before = true ↔ event.id ∈ view)
  last : ∀ id, (∀ (number : Nat) (event : NotificationEvent), log[number]? = some event →
    event.id = id → passed number) → (id ∈ view ↔ unread id)

/-- One more event, from one state of its notification to the next. -/
structure Extends (event : NotificationEvent) (unread later : JsString → Prop) : Prop where
  before : event.before = true ↔ unread event.id
  after : event.after = true ↔ later event.id
  others : ∀ id, id ≠ event.id → (later id ↔ unread id)
  created : ∀ n, event = .created n → n.read = false
  updated : ∀ n, event = .updated n → n.read = true

section Log

variable {log : List NotificationEvent} {unread later : JsString → Prop}
  {event : NotificationEvent}

theorem flags_append (log : List NotificationEvent) (event : NotificationEvent) :
    flags (log ++ [event]) = flags log ++ [event.write] := by
  simp [flags]

theorem getElem?_flags {number : Nat} (here : log[number]? = some event) :
    (flags log)[number]? = some event.write := by
  rw [flags, getElem?_map, here]
  rfl

theorem length_flags : (flags log).length = log.length := length_map _

theorem exists_of_flags {number : Nat} {write : Write JsString}
    (here : (flags log)[number]? = some write) :
    ∃ event, log[number]? = some event ∧ event.write = write := by
  rw [flags, getElem?_map] at here
  exact Option.map_eq_some_iff.mp here

theorem getElem?_append_event {number : Nat} {found : NotificationEvent}
    (here : (log ++ [event])[number]? = some found) :
    log[number]? = some found ∨ number = log.length ∧ found = event := by
  rcases Nat.lt_trichotomy number log.length with inside | rfl | outside
  · left
    rwa [getElem?_append_left inside] at here
  · right
    rw [getElem?_concat_length] at here
    exact ⟨rfl, (Option.some.inj here).symm⟩
  · rw [getElem?_eq_none (by simp; omega)] at here
    cases here

theorem getElem?_append_of_event {number : Nat} {found : NotificationEvent}
    (here : log[number]? = some found) : (log ++ [event])[number]? = some found := by
  rw [getElem?_append_left (List.getElem?_eq_some_iff.mp here).1, here]

theorem Told.append (told : Told log unread) (extended : Extends event unread later) :
    Told (log ++ [event]) later where
  stored := by
    rw [flags_append]
    exact Write.stored_concat told.stored extended.after.symm extended.others
  chained number found here earlier before other there same apart := by
    have inside : earlier < log.length := by
      have bound := (List.getElem?_eq_some_iff.mp here).1
      rw [length_append, length_singleton] at bound
      omega
    rw [getElem?_append_left inside] at there
    rcases getElem?_append_event here with old | ⟨rfl, rfl⟩
    · apply told.chained number found old earlier before other there same
      intro between held above below listed
      exact apart between held above below (getElem?_append_of_event listed)
    · -- No event about it follows the other one.
      have alone : Write.Untouched (flags log) (earlier + 1) other.id := by
        intro between write listed above equal
        obtain ⟨held, inside, rfl⟩ := exists_of_flags listed
        have below := (List.getElem?_eq_some_iff.mp inside).1
        exact apart between held above below (getElem?_append_of_event inside) (equal.trans same)
      have final := told.stored earlier other.write (getElem?_flags there) alone
      have state := extended.before
      rw [← same] at state
      rw [Bool.eq_iff_iff, state]
      exact final
  created n member := by
    rcases mem_append.mp member with old | new
    · exact told.created n old
    · exact extended.created n (mem_singleton.mp new).symm
  updated n member := by
    rcases mem_append.mp member with old | new
    · exact told.updated n old
    · exact extended.updated n (mem_singleton.mp new).symm

theorem Tracks.append {passed : Nat → Prop} {view : List JsString}
    (tracks : Tracks log unread passed view)
    (bounded : ∀ number, passed number → number < log.length)
    (extended : Extends event unread later) : Tracks (log ++ [event]) later passed view where
  first number found here unpassed earlier := by
    have kept : ∀ before < number, ∀ other : NotificationEvent, log[before]? = some other →
        other.id = found.id → passed before := fun before below other there same =>
      earlier before below other (getElem?_append_of_event there) same
    rcases getElem?_append_event here with old | ⟨rfl, rfl⟩
    · exact tracks.first number found old unpassed kept
    · rw [extended.before]
      refine (tracks.last found.id ?_).symm
      intro before other there same
      exact kept before (List.getElem?_eq_some_iff.mp there).1 other there same
  last id settled := by
    have different : id ≠ event.id := by
      rintro rfl
      exact absurd (bounded _ (settled log.length event getElem?_concat_length rfl)) (lt_irrefl _)
    rw [extended.others id different]
    exact tracks.last id fun number found here same =>
      settled number found (getElem?_append_of_event here) same

/-- What holds of the log however long it gets holds when one statement writes many rows. -/
theorem append_many {P : List NotificationEvent → (JsString → Prop) → Prop}
    (one : ∀ log unread event later, P log unread → Extends event unread later →
      P (log ++ [event]) later)
    {events : List NotificationEvent} (unique : (events.map NotificationEvent.id).Nodup)
    (each : ∀ event ∈ events, (event.before = true ↔ unread event.id) ∧
      (event.after = true ↔ later event.id) ∧ (∀ n, event = .created n → n.read = false) ∧
        ∀ n, event = .updated n → n.read = true)
    (others : ∀ id, id ∉ events.map NotificationEvent.id → (later id ↔ unread id))
    (holds : P log unread) : P (log ++ events) later := by
  induction events generalizing log unread with
  | nil =>
    have same : later = unread := funext fun id => propext (others id (by simp))
    rw [append_nil, same]
    exact holds
  | cons event rest ih =>
    rw [map_cons, nodup_cons] at unique
    rw [forall_mem_cons] at each
    obtain ⟨⟨before, after, created, updated⟩, each⟩ := each
    have extended : Extends event unread fun id => if id = event.id then event.after = true
        else unread id :=
      ⟨before, by simp, fun id different => by simp [different], created, updated⟩
    have next := ih unique.2 ?_ ?_ (one _ _ _ _ holds extended)
    · rwa [append_assoc, singleton_append] at next
    · intro other member
      obtain ⟨start, rest⟩ := each other member
      have different : other.id ≠ event.id := fun same =>
        unique.1 (same ▸ mem_map_of_mem member)
      rw [if_neg different]
      exact ⟨start, rest⟩
    · intro id absent
      split
      · rename_i same
        rw [same, after]
      · rename_i different
        exact others id (by simp [different, absent])

end Log

/-! ## The condition -/

/-- The list is as the event expects it: a new notification is not in it and pushes no unread
one out, and one that is deleted is in it as unread if it was unread, unless nothing is
counted. -/
def Bell.ready (bell : Bell) : NotificationEvent → Prop
  | .created n => n.id ∉ bell.notifications.map Notification.id ∧
      n.id ∉ bell.rendered.map Notification.id ∧ unreadOf (bell.notifications.drop 29) = []
  | .updated _ => True
  | .deleted id read =>
      if read = false then id ∈ unreadIds bell.notifications ∨ bell.unreadCount = 0
      else id ∉ unreadIds bell.notifications

/-- What a request marks as read has been read by the server. -/
def Notices.marked (notices : Notices) (bell : Bell) : Action → Prop
  | .markRead id => bell.pending = false ∧ id ∉ unreadIds notices.rows
  | .markAllRead => ∀ id ∈ unreadIds bell.notifications, id ∉ unreadIds notices.rows
  | .dismiss _ _ | .dismissAll _ _ _ => True

def Action.reads : Action → Prop
  | .markRead _ | .markAllRead => True
  | .dismiss _ _ | .dismissAll _ _ _ => False

/-- The condition on a step. Each event is delivered once, those about one notification in
order; without the bell, no new notification is announced before the count arrives, and the
count arrives when exactly the events it has counted have been delivered; with the bell, a
count that arrives after the list is the one it shows, the list has every unread
notification when it is read and arrives before any later event, the events find it as
`Bell.ready` says, the user dismisses on the current rendering, what is marked as read is no
longer unread for the server when its answer arrives, and no dismissal fails. The requests
of the mount do not fail. -/
def Notices.tracked (order : NotificationOrder) (notices : Notices) : NoticesEvent → Prop
  | .delivers number => number ∉ notices.passed ∧
      ∀ event, notices.log[number]? = some event →
        (∀ earlier < number, ∀ other : NotificationEvent, notices.log[earlier]? = some other →
          other.id = event.id → earlier ∈ notices.passed) ∧
        (notices.bell = none → (∃ n, event = .created n) → notices.seeded = true) ∧
        ∀ bell, notices.bell = some bell →
          ((∃ n, event = .updated n) → bell.pending = false) ∧
            ((∃ ok, bell.load = .done ok) → bell.ready event)
  | .countArrives => ∀ seen value, notices.count = .answered seen value →
      (notices.bell = none → ∀ number < notices.log.length, number ∈ notices.passed ↔ number < seen) ∧
      ∀ bell, notices.bell = some bell → (∃ ok, bell.load = .done ok) →
        notices.seeded = true ∨ value = bell.unreadCount
  | .countFails => notices.bell ≠ none
  | .selects => ∀ n ∈ unreadOf notices.rows, n ∈ (order.newest notices.rows).take 30
  | .listArrives => ∀ bell, notices.bell = some bell → ∀ seen data,
      bell.load = .answered seen data → ∀ number ∈ notices.passed, number < seen
  | .listFails => False
  | .acts (.dismiss _) | .acts .dismissAll => ∀ bell, notices.bell = some bell →
      bell.rendered = bell.notifications
  | .succeeds number => ∀ bell request, notices.bell = some bell →
      bell.requests[number]? = some request → notices.marked bell request.action
  | .fails number => ∀ bell request, notices.bell = some bell →
      bell.requests[number]? = some request → request.action.reads
  | _ => True

/-! ## The invariant -/

/-- Whether a request still waits to delete a notification. -/
def ActionRequest.removes (request : ActionRequest) (id : JsString) : Prop :=
  request.carriedOut = false ∧ match request.action with
    | .dismiss other _ => other = id
    | .dismissAll ids _ _ => id ∈ ids
    | .markRead _ | .markAllRead => False

/-- What holds of a bell that has its list. -/
structure Bell.Shows (log : List NotificationEvent) (unread : JsString → Prop) (passed : List Nat)
    (store : Nat) (bell : Bell) : Prop where
  unique : (bell.notifications.map Notification.id).Nodup
  count : bell.unreadCount = (unreadOf bell.notifications).length
  sound : ∀ id, Write.Settled (flags log) passed id → id ∈ unreadIds bell.notifications → unread id
  complete : ∀ id, Write.Settled (flags log) passed id → unread id →
    (∀ request ∈ bell.requests, ¬request.removes id) → id ∈ unreadIds bell.notifications
  effect : bell.pending = false → ∀ value, bell.effect = some value → value = bell.unreadCount
  stored : bell.pending = false → bell.effect = none → store = bell.unreadCount

/-- What holds of a bell. -/
structure Bell.Sound (log : List NotificationEvent) (unread : JsString → Prop) (passed : List Nat)
    (store : Nat) (bell : Bell) : Prop where
  late : bell.late = id
  load : ∀ seen data, bell.load = .answered seen data → seen ≤ log.length ∧
    (data.map Notification.id).Nodup ∧
      ∀ id, Write.Untouched (flags log) seen id → (id ∈ unreadIds data ↔ unread id)
  shows : ∀ ok, bell.load = .done ok → bell.Shows log unread passed store

/-- What holds of the client when these events have happened and this is unread. -/
structure Notices.Follows (notices : Notices) (log : List NotificationEvent)
    (unread : JsString → Prop) : Prop where
  told : Told log unread
  bounded : ∀ number ∈ notices.passed, number < log.length
  ordered : Write.InOrder (flags log) notices.passed
  count : ∀ seen value, notices.count = .answered seen value → seen ≤ log.length ∧
    ∃ view : List JsString, view.Nodup ∧ view.length = value ∧ Tracks log unread (· < seen) view
  hook : notices.bell = none → notices.seeded = true → ∃ view : List JsString, view.Nodup ∧
    view.length = notices.notificationUnreadCount ∧ Tracks log unread (· ∈ notices.passed) view
  counted : notices.bell = none → ∀ ok, notices.count = .done ok → notices.seeded = true
  bell : ∀ bell, notices.bell = some bell →
    bell.Sound log unread notices.passed notices.notificationUnreadCount

structure Notices.Sound (notices : Notices) : Prop where
  unique : (notices.rows.map Notification.id).Nodup
  used : ∀ n ∈ notices.rows, n.id ∈ notices.used
  follows : notices.Follows notices.log (· ∈ unreadIds notices.rows)

/-! ## Writes -/

section Writes

variable {log : List NotificationEvent} {unread later : JsString → Prop}
  {event : NotificationEvent} {notices : Notices}

theorem mem_unreadIds {notifications : List Notification} {id : JsString} :
    id ∈ unreadIds notifications ↔ ∃ n ∈ notifications, n.id = id ∧ n.read = false := by
  simp only [unreadIds, unreadOf, mem_map, mem_filter, Bool.not_eq_true']
  exact exists_congr fun n => by rw [and_assoc, and_comm (a := n.read = false)]

/-- A notification is found by its id. -/
theorem read_of_mem {notifications : List Notification}
    (unique : (notifications.map Notification.id).Nodup) {n : Notification}
    (member : n ∈ notifications) : n.id ∈ unreadIds notifications ↔ n.read = false := by
  rw [mem_unreadIds]
  constructor
  · rintro ⟨other, held, same, unread⟩
    rwa [← inj_on_of_nodup_map unique held member same]
  · exact fun unread => ⟨n, member, rfl, unread⟩

theorem settled_of_append {passed : List Nat} {id : JsString}
    (bounded : ∀ number ∈ passed, number < log.length)
    (settled : Write.Settled (flags (log ++ [event])) passed id) :
    event.id ≠ id ∧ Write.Settled (flags log) passed id := by
  rw [flags_append] at settled
  refine ⟨Write.ne_of_settled_concat ?_ settled, Write.settled_concat settled⟩
  intro member
  rw [length_flags] at member
  exact absurd (bounded _ member) (lt_irrefl _)

theorem Bell.Shows.append {passed : List Nat} {store : Nat} {bell : Bell}
    (shows : bell.Shows log unread passed store)
    (bounded : ∀ number ∈ passed, number < log.length) (extended : Extends event unread later) :
    bell.Shows (log ++ [event]) later passed store where
  unique := shows.unique
  count := shows.count
  sound id settled listed := by
    obtain ⟨different, settled⟩ := settled_of_append bounded settled
    exact (extended.others id different.symm).mpr (shows.sound id settled listed)
  complete id settled held waits := by
    obtain ⟨different, settled⟩ := settled_of_append bounded settled
    exact shows.complete id settled ((extended.others id different.symm).mp held) waits
  effect := shows.effect
  stored := shows.stored

theorem Bell.Sound.append {passed : List Nat} {store : Nat} {bell : Bell}
    (sound : bell.Sound log unread passed store)
    (bounded : ∀ number ∈ passed, number < log.length) (extended : Extends event unread later) :
    bell.Sound (log ++ [event]) later passed store where
  late := sound.late
  load seen data asked := by
    obtain ⟨past, unique, current⟩ := sound.load seen data asked
    refine ⟨by rw [length_append]; omega, unique, ?_⟩
    intro id untouched
    rw [flags_append] at untouched
    have different := Write.ne_of_untouched_concat (by rwa [length_flags]) untouched
    rw [extended.others id different.symm]
    exact current id (Write.untouched_concat untouched)
  shows ok loaded := (sound.shows ok loaded).append bounded extended

section

variable (follows : notices.Follows log unread)

include follows

theorem Notices.Follows.append
    (extended : Extends event unread later) : notices.Follows (log ++ [event]) later where
  told := follows.told.append extended
  bounded number member := by
    have inside := follows.bounded number member
    rw [length_append]
    omega
  ordered := by
    rw [flags_append]
    exact Write.inOrder_concat (by rw [length_flags]; exact follows.bounded) follows.ordered
  count seen value asked := by
    obtain ⟨past, view, unique, length, tracks⟩ := follows.count seen value asked
    refine ⟨by rw [length_append]; omega, view, unique, length, tracks.append ?_ extended⟩
    intro number below
    omega
  hook bare seeded := by
    obtain ⟨view, unique, length, tracks⟩ := follows.hook bare seeded
    exact ⟨view, unique, length, tracks.append follows.bounded extended⟩
  counted := follows.counted
  bell bell mounted := (follows.bell bell mounted).append follows.bounded extended

theorem Notices.Follows.append_many
    {events : List NotificationEvent} (unique : (events.map NotificationEvent.id).Nodup)
    (each : ∀ event ∈ events, (event.before = true ↔ unread event.id) ∧
      (event.after = true ↔ later event.id) ∧ (∀ n, event = .created n → n.read = false) ∧
        ∀ n, event = .updated n → n.read = true)
    (others : ∀ id, id ∉ events.map NotificationEvent.id → (later id ↔ unread id)) :
    notices.Follows (log ++ events) later :=
  @Web.append_many log unread later notices.Follows
    (fun _ _ _ _ holds extended => Notices.Follows.append holds extended) events unique each others
    follows

/-- The rows and the log are not the client's. -/
theorem Notices.Follows.store (rows : List Notification)
    (used : List JsString) (written : List NotificationEvent) :
    ({ notices with rows, used, log := written } : Notices).Follows log unread :=
  ⟨follows.told, follows.bounded, follows.ordered, follows.count, follows.hook, follows.counted,
    follows.bell⟩

end

/-- What is unread when some notifications have been marked as read. -/
theorem mem_unreadIds_mark {notifications : List Notification} (chosen : Notification → Prop)
    [DecidablePred chosen] {id : JsString} :
    id ∈ unreadIds (notifications.map fun n => if chosen n then { n with read := true } else n) ↔
      ∃ n ∈ notifications, n.id = id ∧ n.read = false ∧ ¬chosen n := by
  rw [mem_unreadIds]
  constructor
  · rintro ⟨marked, member, same, unread⟩
    obtain ⟨n, held, rfl⟩ := mem_map.mp member
    by_cases covered : chosen n
    · rw [if_pos covered] at unread
      cases unread
    · rw [if_neg covered] at same unread
      exact ⟨n, held, same, unread, covered⟩
  · rintro ⟨n, held, same, unread, uncovered⟩
    exact ⟨n, mem_map.mpr ⟨n, held, if_neg uncovered⟩, same, unread⟩

theorem map_id_mark {notifications : List Notification} (chosen : Notification → Prop)
    [DecidablePred chosen] :
    (notifications.map fun n => if chosen n then { n with read := true } else n).map
      Notification.id = notifications.map Notification.id := by
  rw [map_map]
  refine map_congr_left fun n _ => ?_
  rw [Function.comp_apply, apply_ite Notification.id, ite_self]

theorem mem_unreadIds_filter {notifications : List Notification} (kept : JsString → Bool)
    {id : JsString} : id ∈ unreadIds (notifications.filter fun n => kept n.id) ↔
      id ∈ unreadIds notifications ∧ kept id = true := by
  rw [mem_unreadIds, mem_unreadIds]
  constructor
  · rintro ⟨n, member, rfl, unread⟩
    rw [mem_filter] at member
    exact ⟨⟨n, member.1, rfl, unread⟩, member.2⟩
  · rintro ⟨⟨n, held, rfl, unread⟩, keeps⟩
    exact ⟨n, mem_filter.mpr ⟨held, keeps⟩, rfl, unread⟩

theorem Notices.Sound.create (sound : notices.Sound) {n : Notification} (unread : n.read = false)
    (fresh : n.id ∉ notices.used) : (notices.create n).Sound := by
  have new : ∀ other ∈ notices.rows, other.id ≠ n.id := fun other member same =>
    fresh (same ▸ sound.used other member)
  refine ⟨?_, ?_, ?_⟩
  · show ((notices.rows ++ [n]).map Notification.id).Nodup
    rw [map_append, map_singleton, ← concat_eq_append, nodup_concat]
    refine ⟨fun member => ?_, sound.unique⟩
    obtain ⟨other, held, same⟩ := mem_map.mp member
    exact new other held same
  · intro other member
    rcases mem_append.mp member with old | last
    · exact mem_cons_of_mem _ (sound.used other old)
    · rw [mem_singleton.mp last]
      exact mem_cons_self
  · have extended : Extends (.created n) (· ∈ unreadIds notices.rows)
        (· ∈ unreadIds (notices.rows ++ [n])) := by
      refine ⟨?_, ?_, ?_, ?_, nofun⟩
      · refine iff_of_false nofun fun member => ?_
        obtain ⟨other, held, same, -⟩ := mem_unreadIds.mp member
        exact new other held same
      · refine iff_of_true (by simp [NotificationEvent.after, unread]) ?_
        exact mem_unreadIds.mpr ⟨n, mem_append_right _ mem_cons_self, rfl, unread⟩
      · intro id different
        have apart : n.id ≠ id := different.symm
        simp [mem_unreadIds, apart]
      · rintro _ ⟨rfl⟩
        exact unread
    exact (sound.follows.append extended).store _ _ _

theorem Notices.Sound.markRead (sound : notices.Sound) (id : Option JsString) :
    (notices.markRead id).Sound := by
  let chosen (n : Notification) : Bool := !n.read && id.all fun id => n.id = id
  have unread : ∀ n, chosen n = true → n.read = false := fun n covered => by
    simpa using (Bool.and_eq_true_iff.mp covered).1
  let marked := notices.rows.map fun n => if chosen n then { n with read := true } else n
  let events := (notices.rows.filter chosen).map fun n =>
    NotificationEvent.updated { n with read := true }
  have ids : events.map NotificationEvent.id = (notices.rows.filter chosen).map Notification.id :=
    map_map
  have later : ∀ other, other ∈ unreadIds marked ↔
      ∃ n ∈ notices.rows, n.id = other ∧ n.read = false ∧ ¬chosen n = true := fun other =>
    mem_unreadIds_mark fun n => chosen n = true
  have same : marked.map Notification.id = notices.rows.map Notification.id :=
    map_id_mark fun n => chosen n = true
  have followed : notices.Follows (notices.log ++ events) (· ∈ unreadIds marked) := by
    apply sound.follows.append_many
    · rw [ids]
      exact sound.unique.sublist (filter_sublist.map _)
    · intro event member
      obtain ⟨n, found, rfl⟩ := mem_map.mp member
      obtain ⟨held, covered⟩ := mem_filter.mp found
      refine ⟨iff_of_true rfl ?_, iff_of_false nofun ?_, nofun, ?_⟩
      · exact (read_of_mem sound.unique held).mpr (unread n covered)
      · intro still
        obtain ⟨other, there, equal, -, uncovered⟩ := (later n.id).mp still
        exact uncovered (inj_on_of_nodup_map sound.unique there held equal ▸ covered)
      · rintro _ ⟨rfl⟩
        rfl
    · intro other absent
      rw [ids] at absent
      rw [later, mem_unreadIds]
      refine exists_congr fun n => and_congr_right fun held => and_congr_right fun equal => ?_
      refine and_iff_left fun covered => absent ?_
      exact equal ▸ mem_map_of_mem (mem_filter.mpr ⟨held, covered⟩)
  refine ⟨?_, ?_, followed.store marked notices.used _⟩
  · show (marked.map Notification.id).Nodup
    rw [same]
    exact sound.unique
  · intro n member
    have listed : n.id ∈ marked.map Notification.id := mem_map_of_mem member
    rw [same] at listed
    obtain ⟨other, held, equal⟩ := mem_map.mp listed
    exact equal ▸ sound.used other held

theorem Notices.Sound.delete (sound : notices.Sound) (ids : List JsString) :
    (notices.delete ids).Sound := by
  let kept := notices.rows.filter fun n => !ids.contains n.id
  let removed := notices.rows.filter fun n => ids.contains n.id
  let events := removed.map fun n => NotificationEvent.deleted n.id n.read
  have named : events.map NotificationEvent.id = removed.map Notification.id := map_map
  have later : ∀ id, id ∈ unreadIds kept ↔
      id ∈ unreadIds notices.rows ∧ (!ids.contains id) = true :=
    fun id => mem_unreadIds_filter fun id => !ids.contains id
  have followed : notices.Follows (notices.log ++ events) (· ∈ unreadIds kept) := by
    apply sound.follows.append_many
    · rw [named]
      exact sound.unique.sublist (filter_sublist.map _)
    · intro event member
      obtain ⟨n, found, rfl⟩ := mem_map.mp member
      obtain ⟨held, covered⟩ := mem_filter.mp found
      refine ⟨?_, iff_of_false nofun ?_, nofun, nofun⟩
      · exact (by simp [NotificationEvent.before] : _ ↔ n.read = false).trans
          (read_of_mem sound.unique held).symm
      · intro still
        have outside := ((later n.id).mp still).2
        rw [covered] at outside
        cases outside
    · intro id absent
      rw [named] at absent
      rw [later]
      refine and_iff_left_of_imp fun unread => ?_
      obtain ⟨n, held, rfl, -⟩ := mem_unreadIds.mp unread
      rw [Bool.not_eq_true']
      by_contra covered
      exact absent (mem_map_of_mem (mem_filter.mpr ⟨held, (Bool.not_eq_false _).mp covered⟩))
  refine ⟨sound.unique.sublist (filter_sublist.map _), ?_, followed.store kept notices.used _⟩
  intro n member
  exact sound.used n (mem_filter.mp member).1

end Writes

/-! ## Deliveries -/

section Deliveries

variable {log : List NotificationEvent} {unread : JsString → Prop} {event : NotificationEvent}
  {passed : List Nat} {number : Nat}

theorem settled_iff {id : JsString} : Write.Settled (flags log) passed id ↔
    ∀ (number : Nat) (event : NotificationEvent), log[number]? = some event → event.id = id →
      number ∈ passed := by
  constructor
  · exact fun settled number event here same => settled number _ (getElem?_flags here) same
  · intro settled number write here same
    obtain ⟨event, there, rfl⟩ := exists_of_flags here
    exact settled number event there same

/-- Who hears an event next has settled what it is about, or what they had settled before. -/
theorem Told.settled (told : Told log unread) (ordered : Write.InOrder (flags log) passed)
    (here : log[number]? = some event) (fresh : number ∉ passed) {id : JsString}
    (settled : Write.Settled (flags log) (number :: passed) id) :
    id = event.id ∧ (unread id ↔ event.after = true) ∨
      id ≠ event.id ∧ Write.Settled (flags log) passed id := by
  by_cases about : id = event.id
  · subst about
    exact .inl ⟨rfl, told.stored number event.write (getElem?_flags here)
      (Write.untouched_of_settled_cons (getElem?_flags here) fresh ordered settled)⟩
  · exact .inr ⟨about, Write.settled_of_settled_cons (getElem?_flags here) (Ne.symm about) settled⟩

/-- An event heard in turn changes a view that tracks the log as it says. -/
theorem Tracks.hear {view heard : List JsString} (tracks : Tracks log unread (· ∈ passed) view)
    (told : Told log unread) (ordered : Write.InOrder (flags log) passed)
    (here : log[number]? = some event) (fresh : number ∉ passed)
    (turn : ∀ earlier < number, ∀ other : NotificationEvent, log[earlier]? = some other →
      other.id = event.id → earlier ∈ passed)
    (changed : ∀ id, id ∈ heard ↔ if id = event.id then event.after = true else id ∈ view) :
    Tracks log unread (· ∈ number :: passed) heard where
  first later found there unheard earlier := by
    rw [mem_cons, not_or] at unheard
    rw [changed]
    by_cases about : found.id = event.id
    · rw [if_pos about]
      have above : number < later := by
        refine lt_of_le_of_ne ?_ (Ne.symm unheard.1)
        by_contra below
        exact unheard.2 (turn later (Nat.lt_of_not_le below) found there about)
      -- No event about it lies between the two.
      rw [told.chained later found there number above event here about.symm]
      intro between other after before middle same
      rcases mem_cons.mp (earlier between before other middle same) with equal | heard
      · omega
      · exact fresh (ordered between heard _ (getElem?_flags middle) number after _
          (getElem?_flags here) (about.symm.trans same.symm))
    · rw [if_neg about]
      refine tracks.first later found there unheard.2 fun before below other middle same => ?_
      rcases mem_cons.mp (earlier before below other middle same) with rfl | heard
      · rw [here] at middle
        exact absurd (Option.some.inj middle ▸ same.symm) about
      · exact heard
  last id settled := by
    rw [changed]
    rcases told.settled ordered here fresh (settled_iff.mpr settled) with ⟨about, ends⟩ | ⟨apart, old⟩
    · rw [if_pos about, ends]
    · rw [if_neg apart]
      exact tracks.last id (settled_iff.mp old)

/-- Without the bell, the count follows a view from event to event. -/
theorem Notices.view_of_hear {notices : Notices} {view : List JsString} (unique : view.Nodup)
    (length : view.length = notices.notificationUnreadCount)
    (before : event.before = true ↔ event.id ∈ view)
    (created : ∀ n, event = .created n → n.read = false)
    (updated : ∀ n, event = .updated n → n.read = true) :
    ∃ heard : List JsString, heard.Nodup ∧
      heard.length = (notices.hear event).notificationUnreadCount ∧
      ∀ id, id ∈ heard ↔ if id = event.id then event.after = true else id ∈ view := by
  have erased : event.after = false → ∀ id, id ∈ view.erase event.id ↔
      if id = event.id then event.after = true else id ∈ view := by
    intro gone id
    rw [unique.mem_erase_iff]
    by_cases about : id = event.id
    · simp [about, gone]
    · simp [about]
  cases event with
  | created n =>
    have unread := created n rfl
    have absent : n.id ∉ view := fun member => Bool.noConfusion (before.mpr member)
    refine ⟨n.id :: view, nodup_cons.mpr ⟨absent, unique⟩, ?_, ?_⟩
    · simp [Notices.hear, unread, length]
    · intro id
      by_cases about : id = n.id <;>
        simp [NotificationEvent.id, NotificationEvent.after, about, unread]
  | updated n =>
    have read := updated n rfl
    have present : n.id ∈ view := before.mp rfl
    refine ⟨view.erase n.id, unique.erase _, ?_, erased (by simp [NotificationEvent.after, read])⟩
    rw [length_erase_of_mem present, length]
    rfl
  | deleted id read =>
    refine ⟨view.erase id, unique.erase _, ?_, erased rfl⟩
    cases read with
    | false =>
      have present : id ∈ view := before.mp rfl
      rw [length_erase_of_mem present, length]
      rfl
    | true =>
      have absent : id ∉ view := fun member => Bool.noConfusion (before.mpr member)
      rw [erase_of_not_mem absent, length]
      rfl

end Deliveries

/-! ## The list of the bell -/

section List

variable {notifications later : List Notification} {event : NotificationEvent} {bell : Bell}

theorem length_unreadIds : (unreadIds notifications).length = (unreadOf notifications).length :=
  length_map _

section

variable (unique : (notifications.map Notification.id).Nodup)

include unique

theorem nodup_unreadIds : (unreadIds notifications).Nodup :=
  unique.sublist (filter_sublist.map _)

/-- Lists with the same unread notifications have the same number of them. -/
theorem length_unreadOf_eq (kept : (later.map Notification.id).Nodup)
    (same : ∀ id, id ∈ unreadIds later ↔ id ∈ unreadIds notifications) :
    (unreadOf later).length = (unreadOf notifications).length := by
  have permuted := (perm_ext_iff_of_nodup (nodup_unreadIds kept) (nodup_unreadIds unique)).mpr same
  rw [← length_unreadIds, ← length_unreadIds, permuted.length_eq]

/-- The number of unread notifications without one. -/
theorem length_unreadOf_erase {id : JsString}
    (kept : (later.map Notification.id).Nodup)
    (others : ∀ other, other ∈ unreadIds later ↔ other ∈ unreadIds notifications ∧ other ≠ id) :
    (unreadOf later).length = if id ∈ unreadIds notifications then
      (unreadOf notifications).length - 1 else (unreadOf notifications).length := by
  have once := nodup_unreadIds unique
  have permuted : (unreadIds later).Perm ((unreadIds notifications).erase id) := by
    refine (perm_ext_iff_of_nodup (nodup_unreadIds kept) (once.erase id)).mpr fun other => ?_
    rw [others, once.mem_erase_iff, and_comm]
  rw [← length_unreadIds, ← length_unreadIds, permuted.length_eq]
  split
  · rename_i present
    exact length_erase_of_mem present
  · rename_i absent
    rw [erase_of_not_mem absent]

end

theorem nodup_filter (kept : Notification → Bool)
    (unique : (notifications.map Notification.id).Nodup) :
    ((notifications.filter kept).map Notification.id).Nodup :=
  unique.sublist (filter_sublist.map _)

theorem mem_unreadIds_without {id other : JsString} :
    other ∈ unreadIds (notifications.filter fun n => n.id ≠ id) ↔
      other ∈ unreadIds notifications ∧ other ≠ id := by
  rw [mem_unreadIds_filter fun other => decide (other ≠ id), decide_eq_true_eq]

theorem unreadIds_take {size : Nat} (read : unreadOf (notifications.drop size) = []) :
    unreadIds (notifications.take size) = unreadIds notifications := by
  have parts : unreadOf notifications =
      unreadOf (notifications.take size) ++ unreadOf (notifications.drop size) := by
    rw [unreadOf, unreadOf, unreadOf, ← filter_append, take_append_drop]
  rw [unreadIds, unreadIds, parts, read, append_nil]

/-- An event the bell is ready for changes its list as it says. -/
theorem Bell.hear_of_ready (unique : (bell.notifications.map Notification.id).Nodup)
    (count : bell.unreadCount = (unreadOf bell.notifications).length)
    (created : ∀ n, event = .created n → n.read = false)
    (updated : ∀ n, event = .updated n → n.read = true)
    (still : (∃ n, event = .updated n) → bell.pending = false) (ready : bell.ready event) :
    ∃ list, bell.hear event = bell.change list (unreadOf list).length ∧
      (list.map Notification.id).Nodup ∧ ∀ id, id ∈ unreadIds list ↔
        if id = event.id then event.after = true else id ∈ unreadIds bell.notifications := by
  cases event with
  | created n =>
    obtain ⟨absent, unseen, room⟩ := ready
    have unread := created n rfl
    have new : ¬(bell.rendered.any fun existing => existing.id = n.id) = true := by
      simpa [any_eq_true] using unseen
    have counted : (unreadOf (n :: bell.notifications.take 29)).length = bell.unreadCount + 1 := by
      rw [← length_unreadIds, count, ← length_unreadIds, ← unreadIds_take room]
      simp [unreadIds, unreadOf, unread]
    refine ⟨n :: bell.notifications.take 29, ?_, ?_, ?_⟩
    · rw [counted]
      exact if_neg new
    · rw [map_cons, nodup_cons]
      refine ⟨fun member => absent ?_, unique.sublist ((take_sublist _ _).map _)⟩
      exact ((take_sublist 29 bell.notifications).map Notification.id).subset member
    · intro id
      have parts : unreadIds (n :: bell.notifications.take 29) =
          n.id :: unreadIds bell.notifications := by
        rw [← unreadIds_take room]
        simp [unreadIds, unreadOf, unread]
      rw [parts, mem_cons]
      by_cases about : id = n.id <;>
        simp [NotificationEvent.id, NotificationEvent.after, about, unread]
  | updated n =>
    have read := updated n rfl
    refine ⟨bell.notifications.map fun other => if other.id = n.id then n else other, ?_, ?_, ?_⟩
    · simp only [Bell.hear, Bell.update, still ⟨n, rfl⟩]
      rfl
    · rw [map_map]
      refine (congrArg List.Nodup (map_congr_left fun other _ => ?_)).mpr unique
      rw [Function.comp_apply]
      split
      · rename_i same
        exact same.symm
      · rfl
    · intro id
      rw [mem_unreadIds]
      constructor
      · rintro ⟨shown, member, rfl, unread⟩
        obtain ⟨other, held, rfl⟩ := mem_map.mp member
        split at unread
        · rw [read] at unread
          cases unread
        · rename_i different
          rw [if_neg different, NotificationEvent.id, if_neg different]
          exact mem_unreadIds.mpr ⟨other, held, rfl, unread⟩
      · intro told
        split at told
        · simp [NotificationEvent.after, read] at told
        · rename_i different
          obtain ⟨other, held, rfl, unread⟩ := mem_unreadIds.mp told
          exact ⟨other, mem_map.mpr ⟨other, held, if_neg different⟩, rfl, unread⟩
  | deleted id read =>
    have kept := nodup_filter (fun other => decide (other.id ≠ id)) unique
    have counted := length_unreadOf_erase unique kept fun other => mem_unreadIds_without
    refine ⟨bell.notifications.filter fun other => other.id ≠ id, ?_, kept, ?_⟩
    · have equal : (unreadOf (bell.notifications.filter fun other => other.id ≠ id)).length =
          if read = false then bell.unreadCount - 1 else bell.unreadCount := by
        rw [counted, count]
        cases read with
        | false =>
          rcases ready with present | zero
          · rw [if_pos present, if_pos rfl]
          · rw [← count, zero]
            simp
        | true => rw [if_neg ready, if_neg Bool.noConfusion]
      rw [equal]
      rfl
    · intro other
      rw [mem_unreadIds_without]
      by_cases about : other = id <;> simp [NotificationEvent.id, NotificationEvent.after, about]

end List

/-! ## Steps -/

section Steps

variable {log : List NotificationEvent} {unread : JsString → Prop} {event : NotificationEvent}
  {passed : List Nat} {number store value : Nat} {bell : Bell} {notices : Notices}

theorem Told.created_of (told : Told log unread) (here : log[number]? = some event) :
    ∀ n, event = .created n → n.read = false := by
  rintro n rfl
  exact told.created n (mem_of_getElem? here)

theorem Told.updated_of (told : Told log unread) (here : log[number]? = some event) :
    ∀ n, event = .updated n → n.read = true := by
  rintro n rfl
  exact told.updated n (mem_of_getElem? here)

theorem Bell.Shows.hear (shows : bell.Shows log unread passed store) (told : Told log unread)
    (ordered : Write.InOrder (flags log) passed) (here : log[number]? = some event)
    (fresh : number ∉ passed) (still : (∃ n, event = .updated n) → bell.pending = false)
    (ready : bell.ready event) : (bell.hear event).Shows log unread (number :: passed) value := by
  obtain ⟨list, changed, unique, members⟩ := Bell.hear_of_ready shows.unique shows.count
    (told.created_of here) (told.updated_of here) still ready
  rw [changed]
  refine ⟨unique, rfl, ?_, ?_, nofun, nofun⟩
  · intro id settled listed
    have state := (members id).mp listed
    rcases told.settled ordered here fresh settled with ⟨about, ends⟩ | ⟨apart, before⟩
    · rw [if_pos about] at state
      exact ends.mpr state
    · rw [if_neg apart] at state
      exact shows.sound id before state
  · intro id settled held waits
    refine (members id).mpr ?_
    rcases told.settled ordered here fresh settled with ⟨about, ends⟩ | ⟨apart, before⟩
    · rw [if_pos about]
      exact ends.mp held
    · rw [if_neg apart]
      exact shows.complete id before held waits

/-- An event changes neither what the bell has asked for nor what is late. -/
theorem Bell.hear_frame (still : (∃ n, event = .updated n) → bell.pending = false) :
    (bell.hear event).late = bell.late ∧ (bell.hear event).load = bell.load := by
  cases event with
  | created n =>
    rw [Bell.hear]
    split <;> exact ⟨rfl, rfl⟩
  | updated n => simp [Bell.hear, Bell.update, still ⟨n, rfl⟩, Bell.change]
  | deleted id read => exact ⟨rfl, rfl⟩

theorem Bell.Sound.hear (sound : bell.Sound log unread passed store) (told : Told log unread)
    (ordered : Write.InOrder (flags log) passed) (here : log[number]? = some event)
    (fresh : number ∉ passed) (still : (∃ n, event = .updated n) → bell.pending = false)
    (ready : (∃ ok, bell.load = .done ok) → bell.ready event) :
    (bell.hear event).Sound log unread (number :: passed) value := by
  obtain ⟨late, load⟩ := Bell.hear_frame still
  refine ⟨late.trans sound.late, ?_, ?_⟩
  · rw [load]
    exact sound.load
  · intro ok loaded
    rw [load] at loaded
    exact (sound.shows ok loaded).hear told ordered here fresh still (ready ⟨ok, loaded⟩)

/-- The hook changes nothing but the count and, with the first new notification, whether the
count has been set. -/
theorem Notices.hear_frame (notices : Notices) (event : NotificationEvent) :
    (notices.hear event).rows = notices.rows ∧ (notices.hear event).used = notices.used ∧
      (notices.hear event).log = notices.log ∧ (notices.hear event).count = notices.count := by
  cases event with
  | created n =>
    rw [Notices.hear]
    split <;> exact ⟨rfl, rfl, rfl, rfl⟩
  | updated n => exact ⟨rfl, rfl, rfl, rfl⟩
  | deleted id read =>
    rw [Notices.hear]
    split <;> exact ⟨rfl, rfl, rfl, rfl⟩

theorem Notices.hear_seeded (seeded : (∃ n, event = .created n) → notices.seeded = true) :
    (notices.hear event).seeded = notices.seeded := by
  cases event with
  | created n =>
    rw [Notices.hear]
    split
    · rfl
    · exact (seeded ⟨n, rfl⟩).symm
  | updated n => rfl
  | deleted id read =>
    rw [Notices.hear]
    split <;> rfl

theorem Notices.Follows.deliver {order : NotificationOrder} (follows : notices.Follows log unread)
    (same : notices.log = log) (tracked : notices.tracked order (.delivers number))
    (here : log[number]? = some event) : (notices.deliver number event).Follows log unread := by
  subst same
  obtain ⟨fresh, told⟩ := tracked
  obtain ⟨turn, seeded, hears⟩ := told event here
  refine ⟨follows.told, ?_, ?_, ?_, ?_, ?_, ?_⟩
  · intro other member
    rcases mem_cons.mp member with rfl | member
    · exact (List.getElem?_eq_some_iff.mp here).1
    · exact follows.bounded other member
  · refine Write.inOrder_cons (getElem?_flags here) ?_ follows.ordered
    intro earlier before write there about
    obtain ⟨other, found, rfl⟩ := exists_of_flags there
    exact turn earlier before other found about
  · intro seen value asked
    apply follows.count seen value
    rw [← (notices.hear_frame event).2.2.2]
    exact asked
  · intro bare set
    have bare := Option.map_eq_none_iff.mp bare
    have set : notices.seeded = true := (Notices.hear_seeded (seeded bare)) ▸ set
    obtain ⟨view, unique, length, tracks⟩ := follows.hook bare set
    obtain ⟨heard, once, count, changed⟩ := Notices.view_of_hear unique length
      (tracks.first number event here fresh turn) (follows.told.created_of here)
      (follows.told.updated_of here)
    exact ⟨heard, once, count, tracks.hear follows.told follows.ordered here fresh turn changed⟩
  · intro bare ok asked
    have bare := Option.map_eq_none_iff.mp bare
    refine (Notices.hear_seeded (seeded bare)).trans (follows.counted bare ok ?_)
    rw [← (notices.hear_frame event).2.2.2]
    exact asked
  · intro shown mounted
    obtain ⟨bell, before, rfl⟩ := Option.map_eq_some_iff.mp mounted
    obtain ⟨still, ready⟩ := hears bell before
    exact (follows.bell bell before).hear follows.told follows.ordered here fresh still ready

theorem Notices.Sound.deliver {order : NotificationOrder} (sound : notices.Sound)
    (tracked : notices.tracked order (.delivers number))
    (here : notices.log[number]? = some event) : (notices.deliver number event).Sound := by
  obtain ⟨rows, used, log, -⟩ := notices.hear_frame event
  have follows := sound.follows.deliver rfl tracked here
  refine ⟨?_, ?_, ?_⟩
  · show ((notices.hear event).rows.map Notification.id).Nodup
    rw [rows]
    exact sound.unique
  · show ∀ n ∈ (notices.hear event).rows, n.id ∈ (notices.hear event).used
    rw [rows, used]
    exact sound.used
  · show (notices.deliver number event).Follows (notices.hear event).log
      (· ∈ unreadIds (notices.hear event).rows)
    rw [rows, log]
    exact follows

/-- A change of the bell, and of the count if the bell stores its own. -/
theorem Notices.Sound.show (sound : notices.Sound) {bell : Bell} (store : Nat)
    (shown : bell.Sound notices.log (· ∈ unreadIds notices.rows) notices.passed store) :
    ({ notices with bell := some bell, notificationUnreadCount := store } : Notices).Sound where
  unique := sound.unique
  used := sound.used
  follows := ⟨sound.follows.told, sound.follows.bounded, sound.follows.ordered, sound.follows.count,
    nofun, nofun, fun _ mounted => Option.some.inj mounted ▸ shown⟩

/-- An answer that lets the count of the bell be. -/
theorem Notices.Sound.answer (sound : notices.Sound) (count : Asked Nat)
    (asked : ∀ seen value, count = .answered seen value → seen ≤ notices.log.length ∧
      ∃ view : List JsString, view.Nodup ∧ view.length = value ∧
        Tracks notices.log (· ∈ unreadIds notices.rows) (· < seen) view)
    (counted : notices.bell = none → ∀ ok, count = .done ok → notices.seeded = true) :
    ({ notices with count } : Notices).Sound where
  unique := sound.unique
  used := sound.used
  follows := ⟨sound.follows.told, sound.follows.bounded, sound.follows.ordered, asked,
    sound.follows.hook, counted, sound.follows.bell⟩

/-- The unread rows are what has been written so far. -/
theorem Notices.Sound.countsUnread (sound : notices.Sound) : ({ notices with
    count := .answered notices.log.length (unreadOf notices.rows).length } : Notices).Sound := by
  refine sound.answer _ ?_ nofun
  rintro _ _ ⟨⟩
  refine ⟨le_rfl, unreadIds notices.rows, nodup_unreadIds sound.unique, length_unreadIds, ?_, ?_⟩
  · intro number event here outside
    exact absurd (List.getElem?_eq_some_iff.mp here).1 outside
  · exact fun id _ => Iff.rfl

/-- The tracked events need to agree only as far as the log goes. -/
theorem Tracks.congr {first second : Nat → Prop} {view : List JsString}
    (tracks : Tracks log unread first view)
    (same : ∀ number < log.length, second number ↔ first number) : Tracks log unread second view where
  first number event here unpassed earlier := by
    have inside := (List.getElem?_eq_some_iff.mp here).1
    refine tracks.first number event here (fun held => unpassed ((same number inside).mpr held)) ?_
    intro before below other there about
    exact (same before (below.trans inside)).mp (earlier before below other there about)
  last id settled := tracks.last id fun number event here about =>
    (same number (List.getElem?_eq_some_iff.mp here).1).mp (settled number event here about)

theorem Notices.Sound.countArrives {order : NotificationOrder} {seen : Nat} (sound : notices.Sound)
    (tracked : notices.tracked order .countArrives) (asked : notices.count = .answered seen value)
    (unseeded : notices.seeded = false) : ({ notices with
      count := .done true, seeded := true, notificationUnreadCount := value } : Notices).Sound := by
  obtain ⟨exact, shown⟩ := tracked seen value asked
  refine ⟨sound.unique, sound.used, ⟨sound.follows.told, sound.follows.bounded,
    sound.follows.ordered, nofun, ?_, fun _ _ _ => rfl, ?_⟩⟩
  · intro bare _
    obtain ⟨-, view, unique, length, tracks⟩ := sound.follows.count seen value asked
    exact ⟨view, unique, length, tracks.congr (exact bare)⟩
  · intro bell mounted
    have kept := sound.follows.bell bell mounted
    refine ⟨kept.late, kept.load, fun ok loaded => ?_⟩
    have shows := kept.shows ok loaded
    rcases shown bell mounted ⟨ok, loaded⟩ with set | equal
    · rw [unseeded] at set
      cases set
    · exact ⟨shows.unique, shows.count, shows.sound, shows.complete, shows.effect, fun _ _ => equal⟩

theorem Notices.Sound.selects {order : NotificationOrder} (sound : notices.Sound)
    (tracked : notices.tracked order .selects) (mounted : notices.bell = some bell) :
    ({ notices with bell := some { bell with
      load := .answered notices.log.length ((order.newest notices.rows).take 30) } } :
        Notices).Sound := by
  have page : ((order.newest notices.rows).take 30).Sublist (order.newest notices.rows) :=
    take_sublist _ _
  have unique : ((order.newest notices.rows).map Notification.id).Nodup :=
    ((order.perm notices.rows).map _).nodup_iff.mpr sound.unique
  refine sound.show _ ⟨(sound.follows.bell bell mounted).late, ?_, nofun⟩
  rintro _ _ ⟨⟩
  refine ⟨le_rfl, unique.sublist (page.map _), fun id _ => ?_⟩
  rw [mem_unreadIds, mem_unreadIds]
  constructor
  · rintro ⟨n, member, same, unread⟩
    exact ⟨n, (order.perm notices.rows).subset (page.subset member), same, unread⟩
  · rintro ⟨n, held, same, unread⟩
    exact ⟨n, tracked n (mem_filter.mpr ⟨held, by simp [unread]⟩), same, unread⟩

section

variable (sound : bell.Sound log unread passed store)

include sound

theorem Bell.Sound.loaded {seen : Nat} {data : List Notification}
    (asked : bell.load = .answered seen data) (recent : ∀ number ∈ passed, number < seen) :
    (bell.loaded data true).Sound log unread passed store := by
  obtain ⟨-, unique, current⟩ := sound.load seen data asked
  have untouched : ∀ id, Write.Settled (flags log) passed id →
      Write.Untouched (flags log) seen id := by
    intro id settled number write here above about
    have below := recent number (settled number write here about)
    omega
  refine ⟨sound.late, nofun, fun _ _ => ⟨unique, rfl, ?_, ?_, nofun, nofun⟩⟩
  · exact fun id settled => (current id (untouched id settled)).mp
  · exact fun id settled held _ => (current id (untouched id settled)).mpr held

theorem Bell.Sound.render : bell.render.Sound log unread passed store := by
  have same : bell.late bell.unreadCount = bell.unreadCount := by rw [sound.late, id]
  refine ⟨rfl, sound.load, fun ok loaded => ?_⟩
  have shows := sound.shows ok loaded
  refine ⟨shows.unique, same.trans shows.count, shows.sound, shows.complete, ?_, nofun⟩
  rintro - value ⟨⟩
  rfl

theorem Bell.Sound.sync (effect : bell.effect = some value) :
    ({ bell with effect := none } : Bell).Sound log unread passed value := by
  refine ⟨sound.late, sound.load, fun ok loaded => ?_⟩
  have shows := sound.shows ok loaded
  exact ⟨shows.unique, shows.count, shows.sound, shows.complete, nofun,
    fun still _ => shows.effect still value effect⟩

end

/-- A notification that is dismissed counts if it is shown as unread. -/
theorem find_unread {notifications : List Notification} {id : JsString}
    (unique : (notifications.map Notification.id).Nodup) :
    ((notifications.find? fun n => n.id = id).any fun n => !n.read) = true ↔
      id ∈ unreadIds notifications := by
  rw [Option.any_eq_true, mem_unreadIds]
  constructor
  · rintro ⟨n, found, unread⟩
    have named := find?_some found
    exact ⟨n, mem_of_find?_eq_some found, by simpa using named, by simpa using unread⟩
  · rintro ⟨n, held, rfl, unread⟩
    obtain ⟨other, found⟩ : ∃ other, notifications.find? (fun m => m.id = n.id) = some other := by
      rw [← Option.isSome_iff_exists, find?_isSome]
      exact ⟨n, held, decide_eq_true rfl⟩
    have named : other.id = n.id := by simpa using find?_some found
    have same := inj_on_of_nodup_map unique (mem_of_find?_eq_some found) held named
    exact ⟨other, found, by rw [same, unread]; rfl⟩

theorem Bell.Shows.act (shows : bell.Shows log unread passed store) (gesture : Gesture)
    (current : (∃ id, gesture = .dismiss id) ∨ gesture = .dismissAll →
      bell.rendered = bell.notifications) : (bell.act gesture).Shows log unread passed store := by
  cases gesture with
  | markRead id | markAllRead =>
    refine ⟨shows.unique, shows.count, shows.sound, ?_, shows.effect, shows.stored⟩
    exact fun id settled held waits => shows.complete id settled held fun request member =>
      waits request (mem_append_left _ member)
  | dismiss id =>
    have kept := nodup_filter (fun n => decide (n.id ≠ id)) shows.unique
    have counted := length_unreadOf_erase shows.unique kept fun other => mem_unreadIds_without
    refine ⟨kept, ?_, ?_, ?_, nofun, nofun⟩
    · show (if ((bell.rendered.find? fun n => n.id = id).any fun n => !n.read) = true
        then bell.unreadCount - 1 else bell.unreadCount) =
          (unreadOf (bell.notifications.filter fun n => n.id ≠ id)).length
      rw [current (.inl ⟨id, rfl⟩), counted, shows.count]
      exact if_congr (find_unread shows.unique) rfl rfl
    · exact fun other settled listed =>
        shows.sound other settled (mem_unreadIds_without.mp listed).1
    · intro other settled held waits
      refine mem_unreadIds_without.mpr ⟨?_, ?_⟩
      · exact shows.complete other settled held fun request member =>
          waits request (mem_append_left _ member)
      · rintro rfl
        exact waits _ (mem_append_right _ mem_cons_self) ⟨rfl, rfl⟩
  | dismissAll =>
    rw [Bell.act, Bell.dismissAll]
    split
    · exact shows
    · refine ⟨nodup_nil, rfl, nofun, ?_, nofun, nofun⟩
      intro id settled held waits
      have listed := shows.complete id settled held fun request member =>
        waits request (mem_append_left _ member)
      obtain ⟨n, member, rfl, -⟩ := mem_unreadIds.mp listed
      refine absurd ?_ (waits _ (mem_append_right _ mem_cons_self))
      refine ⟨rfl, ?_⟩
      show n.id ∈ bell.rendered.map Notification.id
      rw [current (.inr rfl)]
      exact mem_map_of_mem member

theorem Bell.act_frame (bell : Bell) (gesture : Gesture) :
    (bell.act gesture).late = bell.late ∧ (bell.act gesture).load = bell.load := by
  cases gesture with
  | markRead id | markAllRead | dismiss id => exact ⟨rfl, rfl⟩
  | dismissAll =>
    rw [Bell.act, Bell.dismissAll]
    split <;> exact ⟨rfl, rfl⟩

theorem Bell.Sound.act (sound : bell.Sound log unread passed store) (gesture : Gesture)
    (current : (∃ id, gesture = .dismiss id) ∨ gesture = .dismissAll →
      bell.rendered = bell.notifications) : (bell.act gesture).Sound log unread passed store := by
  obtain ⟨late, load⟩ := bell.act_frame gesture
  refine ⟨late.trans sound.late, ?_, ?_⟩
  · rw [load]
    exact sound.load
  · rw [load]
    exact fun ok loaded => (sound.shows ok loaded).act gesture current

/-- A request that removes nothing, or has removed what it removes, may be another. -/
theorem Bell.Shows.replace (shows : bell.Shows log unread passed store)
    (requests : List ActionRequest)
    (idle : ∀ id, unread id → (∀ request ∈ requests, ¬request.removes id) →
      ∀ request ∈ bell.requests, ¬request.removes id) :
    ({ bell with requests } : Bell).Shows log unread passed store where
  unique := shows.unique
  count := shows.count
  sound := shows.sound
  complete id settled held waits := shows.complete id settled held (idle id held waits)
  effect := shows.effect
  stored := shows.stored

theorem Bell.Sound.replace (sound : bell.Sound log unread passed store)
    (requests : List ActionRequest)
    (idle : ∀ id, unread id → (∀ request ∈ requests, ¬request.removes id) →
      ∀ request ∈ bell.requests, ¬request.removes id) :
    ({ bell with requests } : Bell).Sound log unread passed store :=
  ⟨sound.late, sound.load, fun ok loaded => (sound.shows ok loaded).replace requests idle⟩

/-- A request that is over is not missed. -/
theorem Bell.Sound.finish {request : ActionRequest} (sound : bell.Sound log unread passed store)
    (here : bell.requests[number]? = some request) (inert : ∀ id, ¬request.removes id) :
    ({ bell with requests := bell.requests.eraseIdx number } : Bell).Sound log unread passed store := by
  refine sound.replace _ fun id _ waits other member => ?_
  obtain ⟨index, found⟩ := mem_iff_getElem?.mp member
  by_cases same : index = number
  · subst same
    obtain rfl := Option.some.inj (here.symm.trans found)
    exact inert id
  · exact waits other (mem_eraseIdx_iff_getElem?.mpr ⟨index, same, found⟩)

/-- A request is carried out by a write of the server. -/
theorem Notices.Sound.carryOut (sound : notices.Sound) (action : Action) :
    (notices.carryOut action).Sound := by
  cases action with
  | markRead id => exact sound.markRead (some id)
  | markAllRead => exact sound.markRead none
  | dismiss id target => exact sound.delete [id]
  | dismissAll ids prev prevUnread => exact sound.delete ids

theorem Notices.carryOut_frame (notices : Notices) (action : Action) :
    (notices.carryOut action).bell = notices.bell ∧
      (notices.carryOut action).notificationUnreadCount = notices.notificationUnreadCount := by
  cases action <;> exact ⟨rfl, rfl⟩

/-- What a request removes is gone once it has been carried out. -/
theorem Notices.removed_of_carryOut {action : Action} {id : JsString}
    (removes : (⟨action, false⟩ : ActionRequest).removes id) :
    id ∉ unreadIds (notices.carryOut action).rows := by
  have gone : ∀ ids : List JsString, id ∈ ids → id ∉ unreadIds (notices.delete ids).rows := by
    intro ids listed unread
    have kept := ((mem_unreadIds_filter fun id => !ids.contains id).mp unread).2
    have outside : id ∉ ids := by simpa using kept
    exact outside listed
  obtain ⟨-, named⟩ := removes
  cases action with
  | markRead other => exact named.elim
  | markAllRead => exact named.elim
  | dismiss other target => exact gone [other] (mem_singleton.mpr named.symm)
  | dismissAll ids prev prevUnread => exact gone ids named

theorem Notices.Sound.carriesOut {action : Action} (sound : notices.Sound)
    (mounted : notices.bell = some bell) (here : bell.requests[number]? = some ⟨action, false⟩) :
    ({ notices.carryOut action with
      bell := some { bell with requests := bell.requests.set number ⟨action, true⟩ } } :
        Notices).Sound := by
  have written := sound.carryOut action
  have kept : (notices.carryOut action).bell = some bell :=
    (notices.carryOut_frame action).1.trans mounted
  refine written.show _ ((written.follows.bell bell kept).replace _ ?_)
  intro id held waits other member removes
  obtain ⟨index, found⟩ := mem_iff_getElem?.mp member
  by_cases same : number = index
  · subst same
    obtain rfl := Option.some.inj (here.symm.trans found)
    exact Notices.removed_of_carryOut removes held
  · refine waits other (mem_iff_getElem?.mpr ⟨index, ?_⟩) removes
    rw [getElem?_set_ne same, found]

/-- What the bell does with an answer, when the server has done what was asked for. -/
theorem Bell.Sound.succeed {action : Action}
    (sound : bell.Sound notices.log (· ∈ unreadIds notices.rows) passed store)
    (marked : notices.marked bell action) :
    (bell.succeed action).Sound notices.log (· ∈ unreadIds notices.rows) passed store := by
  cases action with
  | dismiss id target => exact sound
  | dismissAll ids prev prevUnread => exact sound
  | markAllRead =>
    refine ⟨sound.late, sound.load, fun ok loaded => ?_⟩
    have shows := sound.shows ok loaded
    have none : unreadIds (bell.notifications.map fun n => { n with read := true }) = [] := by
      simp [unreadIds, unreadOf, filter_map, Function.comp_def]
    refine ⟨?_, ?_, ?_, ?_, nofun, nofun⟩
    · show ((bell.notifications.map fun n => { n with read := true }).map Notification.id).Nodup
      rw [map_map]
      exact shows.unique
    · show 0 = (unreadOf (bell.notifications.map fun n => { n with read := true })).length
      rw [← length_unreadIds, none]
      rfl
    · intro id settled listed
      have listed : id ∈ unreadIds (bell.notifications.map fun n => { n with read := true }) :=
        listed
      rw [none] at listed
      cases listed
    · intro id settled held waits
      exact absurd held (marked id (shows.complete id settled held waits))
  | markRead id =>
    obtain ⟨still, read⟩ := marked
    have rendered : bell.succeed (.markRead id) = bell.change
        (bell.notifications.map fun n => if n.id = id then { n with read := true } else n)
        (if bell.notifications.any fun n => n.id = id && !n.read then bell.unreadCount - 1
          else bell.unreadCount) := by
      rw [Bell.succeed, Bell.update, still]
      rfl
    rw [rendered]
    refine ⟨sound.late, sound.load, fun ok loaded => ?_⟩
    have shows := sound.shows ok loaded
    have unique : ((bell.notifications.map fun n =>
        if n.id = id then { n with read := true } else n).map Notification.id).Nodup := by
      rw [map_id_mark]
      exact shows.unique
    have others : ∀ other, other ∈ unreadIds (bell.notifications.map fun n =>
        if n.id = id then { n with read := true } else n) ↔
          other ∈ unreadIds bell.notifications ∧ other ≠ id := by
      intro other
      rw [mem_unreadIds_mark, mem_unreadIds]
      constructor
      · rintro ⟨n, held, rfl, unread, different⟩
        exact ⟨⟨n, held, rfl, unread⟩, different⟩
      · rintro ⟨⟨n, held, rfl, unread⟩, different⟩
        exact ⟨n, held, rfl, unread, different⟩
    refine ⟨unique, ?_, ?_, ?_, nofun, nofun⟩
    · show (if (bell.notifications.any fun n => n.id = id && !n.read) = true
        then bell.unreadCount - 1 else bell.unreadCount) = (unreadOf (bell.notifications.map
          fun n => if n.id = id then { n with read := true } else n)).length
      rw [length_unreadOf_erase shows.unique unique others, shows.count]
      refine if_congr ?_ rfl rfl
      simp [mem_unreadIds]
    · exact fun other settled listed => shows.sound other settled ((others other).mp listed).1
    · intro other settled held waits
      refine (others other).mpr ⟨shows.complete other settled held waits, ?_⟩
      rintro rfl
      exact read held

theorem Bell.succeed_requests (bell : Bell) (action : Action) :
    (bell.succeed action).requests = bell.requests := by
  cases action with
  | markRead id =>
    rw [Bell.succeed, Bell.update]
    split <;> rfl
  | markAllRead | dismiss id target | dismissAll ids prev prevUnread => rfl

theorem Notices.Sound.next {order : NotificationOrder} {after : Notices} {step : NoticesEvent}
    (sound : notices.Sound) (tracked : notices.tracked order step)
    (moved : notices.next order step = some after) : after.Sound := by
  cases step with
  | creates id createdAt =>
    rw [Notices.next] at moved
    split at moved
    · cases moved
    · rename_i fresh
      cases moved
      exact sound.create rfl (by simpa using fresh)
  | marksRead id =>
    cases moved
    exact sound.markRead id
  | deletes ids =>
    cases moved
    exact sound.delete ids
  | delivers number =>
    obtain ⟨event, here, rfl⟩ := Option.map_eq_some_iff.mp moved
    exact sound.deliver tracked here
  | countsUnread =>
    rw [Notices.next] at moved
    split at moved
    · cases moved
      exact sound.countsUnread
    · cases moved
  | countArrives =>
    rw [Notices.next] at moved
    split at moved
    · rename_i seen value asked
      split at moved
      · rename_i seeded
        cases moved
        exact sound.answer _ nofun fun _ _ _ => seeded
      · rename_i unseeded
        cases moved
        exact sound.countArrives tracked asked (Bool.not_eq_true _ ▸ unseeded)
    · cases moved
  | countFails =>
    rw [Notices.next] at moved
    split at moved
    · cases moved
    · cases moved
      exact sound.answer _ nofun fun bare _ _ => absurd bare tracked
  | selects =>
    obtain ⟨bell, mounted, moved⟩ := Option.bind_eq_some_iff.mp moved
    split at moved
    · cases moved
      exact sound.selects tracked mounted
    · cases moved
  | listArrives =>
    obtain ⟨bell, mounted, moved⟩ := Option.bind_eq_some_iff.mp moved
    split at moved
    · rename_i seen data asked
      cases moved
      exact sound.show _ ((sound.follows.bell bell mounted).loaded asked
        (tracked bell mounted seen data asked))
    · cases moved
  | listFails => exact tracked.elim
  | renders =>
    obtain ⟨bell, mounted, moved⟩ := Option.bind_eq_some_iff.mp moved
    split at moved
    · cases moved
      exact sound.show _ (sound.follows.bell bell mounted).render
    · cases moved
  | syncs =>
    obtain ⟨bell, mounted, moved⟩ := Option.bind_eq_some_iff.mp moved
    obtain ⟨value, effect, rfl⟩ := Option.map_eq_some_iff.mp moved
    exact sound.show value ((sound.follows.bell bell mounted).sync effect)
  | acts gesture =>
    obtain ⟨bell, mounted, rfl⟩ := Option.map_eq_some_iff.mp moved
    refine sound.show _ ((sound.follows.bell bell mounted).act gesture ?_)
    rintro (⟨id, rfl⟩ | rfl)
    · exact tracked bell mounted
    · exact tracked bell mounted
  | carriesOut number =>
    obtain ⟨bell, mounted, moved⟩ := Option.bind_eq_some_iff.mp moved
    split at moved
    · rename_i action here
      cases moved
      exact sound.carriesOut mounted here
    · cases moved
  | succeeds number =>
    obtain ⟨bell, mounted, moved⟩ := Option.bind_eq_some_iff.mp moved
    split at moved
    · rename_i action here
      cases moved
      have answered := (sound.follows.bell bell mounted).succeed (tracked bell _ mounted here)
      have kept := bell.succeed_requests action
      rw [← kept] at here ⊢
      exact sound.show _ (answered.finish here fun id removes => Bool.noConfusion removes.1)
    · cases moved
  | fails number =>
    obtain ⟨bell, mounted, moved⟩ := Option.bind_eq_some_iff.mp moved
    obtain ⟨request, here, rfl⟩ := Option.map_eq_some_iff.mp moved
    obtain ⟨action, carried⟩ := request
    have reads : action.reads := tracked bell _ mounted here
    have finished := (sound.follows.bell bell mounted).finish here
    cases action with
    | markRead id => exact sound.show _ (finished fun _ removes => removes.2)
    | markAllRead => exact sound.show _ (finished fun _ removes => removes.2)
    | dismiss id target => exact reads.elim
    | dismissAll ids prev prevUnread => exact reads.elim

/-- A client that has just been opened knows nothing yet. -/
theorem Notices.Initial.sound (initial : notices.Initial) : notices.Sound := by
  obtain ⟨unique, used, nothing, unheard, unseeded, waiting, bell⟩ := initial
  refine ⟨unique, used, ?_⟩
  rw [nothing]
  refine ⟨⟨nofun, nofun, nofun, nofun⟩, ?_, ?_, ?_, ?_, ?_, ?_⟩
  · rw [unheard]
    exact nofun
  · rw [unheard]
    exact nofun
  · rw [waiting]
    exact nofun
  · rw [unseeded]
    exact nofun
  · rw [waiting]
    exact nofun
  · intro mounted shown
    rcases bell with bare | fresh
    · rw [bare] at shown
      cases shown
    · obtain rfl := Option.some.inj (fresh.symm.trans shown)
      exact ⟨rfl, nofun, nofun⟩

/-- When nothing is in flight, the count is that of the unread rows. -/
theorem Notices.Sound.counted (sound : notices.Sound) (quiet : notices.Quiet) :
    notices.Counted := by
  have follows := sound.follows
  have settled : ∀ id (number : Nat) (event : NotificationEvent),
      notices.log[number]? = some event → event.id = id → number ∈ notices.passed :=
    fun id number event here _ => quiet.delivered number (List.getElem?_eq_some_iff.mp here).1
  rw [Notices.Counted]
  cases mounted : notices.bell with
  | none =>
    obtain ⟨ok, asked⟩ := quiet.counted
    obtain ⟨view, unique, length, tracks⟩ :=
      follows.hook mounted (follows.counted mounted ok asked)
    have permuted := (perm_ext_iff_of_nodup unique (nodup_unreadIds sound.unique)).mpr
      fun id => tracks.last id (settled id)
    rw [← length, permuted.length_eq, length_unreadIds]
  | some bell =>
    obtain ⟨⟨ok, loaded⟩, still, synced, idle⟩ := quiet.bell bell mounted
    have shows := (follows.bell bell mounted).shows ok loaded
    rw [shows.stored still synced, shows.count]
    refine length_unreadOf_eq sound.unique shows.unique fun id => ?_
    have heard := settled_iff.mpr (settled id)
    constructor
    · exact shows.sound id heard
    · intro unread
      refine shows.complete id heard unread ?_
      rw [idle]
      exact nofun

end Steps

/-- Whatever is created, read and dismissed: once nothing is in flight, the count of a client
is that of the unread rows, with the bell or without it. -/
theorem Notices.unread_of_reachable (order : NotificationOrder) {notices : Notices}
    (reached : (noticesSystem order).Reachable (Notices.tracked order) notices)
    (quiet : notices.Quiet) : notices.Counted := by
  have sound : notices.Sound := by
    refine reached.invariant ?_ ?_
    · intro start initial
      exact Notices.Initial.sound initial
    · intro before step after _ sound tracked moved
      exact sound.next tracked moved
  exact sound.counted quiet

/-! ## Two clients -/

section Computed

variable (notices : Notices)

def Notices.isTurn (number : Nat) (event : NotificationEvent) : Bool :=
  (List.range number).all fun earlier =>
    match notices.log[earlier]? with
    | none => true
    | some other => other.id ≠ event.id || notices.passed.contains earlier

theorem Notices.turn_of_isTurn {notices : Notices} {number : Nat} {event : NotificationEvent}
    (checked : notices.isTurn number event = true) : ∀ earlier < number,
      ∀ other : NotificationEvent, notices.log[earlier]? = some other → other.id = event.id →
        earlier ∈ notices.passed := by
  intro earlier before other there same
  have kept := all_eq_true.mp checked earlier (mem_range.mpr before)
  simp only [there] at kept
  simpa [same] using kept

def Bell.isReady (bell : Bell) : NotificationEvent → Bool
  | .created n => !(bell.notifications.map Notification.id).contains n.id &&
      !(bell.rendered.map Notification.id).contains n.id &&
        (unreadOf (bell.notifications.drop 29)).isEmpty
  | .updated _ => !bell.pending
  | .deleted id read =>
      if read = false then (unreadIds bell.notifications).contains id || bell.unreadCount = 0
      else !(unreadIds bell.notifications).contains id

theorem Bell.ready_of_isReady {bell : Bell} {event : NotificationEvent}
    (checked : bell.isReady event = true) :
    ((∃ n, event = .updated n) → bell.pending = false) ∧ bell.ready event := by
  cases event with
  | created n =>
    simp only [Bell.isReady, Bool.and_eq_true, Bool.not_eq_true', List.isEmpty_iff] at checked
    obtain ⟨⟨absent, unseen⟩, room⟩ := checked
    exact ⟨nofun, by simpa using absent, by simpa using unseen, room⟩
  | updated n =>
    refine ⟨fun _ => ?_, trivial⟩
    simpa [Bell.isReady] using checked
  | deleted id read =>
    refine ⟨nofun, ?_⟩
    cases read <;> simpa [Bell.isReady, Bell.ready] using checked

/-- The condition on a step, computed for a client with a bell and for the answers it gets. -/
def Notices.isTracked (order : NotificationOrder) : NoticesEvent → Bool
  | .delivers number => !notices.passed.contains number &&
      match notices.bell, notices.log[number]? with
      | some bell, some event => notices.isTurn number event && bell.isReady event
      | _, _ => false
  | .countArrives =>
      match notices.bell with
      | some ⟨_, _, _, _, _, .waiting, _, _, _⟩ => true
      | _ => false
  | .selects => (unreadOf notices.rows).all ((order.newest notices.rows).take 30).contains
  | .listArrives => notices.passed.isEmpty
  | .acts (.dismiss _) | .acts .dismissAll =>
      notices.bell.all fun bell => bell.rendered = bell.notifications
  | .succeeds number =>
      match notices.bell with
      | some bell =>
          match bell.requests[number]? with
          | some ⟨.markRead id, _⟩ => !bell.pending && !(unreadIds notices.rows).contains id
          | some ⟨.dismiss _ _, _⟩ | some ⟨.dismissAll _ _ _, _⟩ => true
          | _ => false
      | none => false
  | .countFails | .listFails | .fails _ => false
  | _ => true

theorem Notices.isTracked_sound (order : NotificationOrder) (step : NoticesEvent)
    (checked : notices.isTracked order step = true) : notices.tracked order step := by
  cases step with
  | delivers number =>
    rw [Notices.isTracked, Bool.and_eq_true, Bool.not_eq_true'] at checked
    obtain ⟨fresh, checked⟩ := checked
    refine ⟨by simpa using fresh, fun event here => ?_⟩
    split at checked
    · rename_i bell found mounted there
      obtain rfl := Option.some.inj (here.symm.trans there)
      rw [Bool.and_eq_true] at checked
      obtain ⟨still, ready⟩ := Bell.ready_of_isReady checked.2
      refine ⟨Notices.turn_of_isTurn checked.1, ?_, ?_⟩
      · intro bare
        rw [mounted] at bare
        cases bare
      · intro shown same
        obtain rfl := Option.some.inj (mounted.symm.trans same)
        exact ⟨still, fun _ => ready⟩
    · cases checked
  | countArrives =>
    intro seen value asked
    rw [Notices.isTracked] at checked
    split at checked
    · rename_i mounted
      refine ⟨fun bare => ?_, fun bell same loaded => ?_⟩
      · rw [mounted] at bare
        cases bare
      · obtain rfl := Option.some.inj (mounted.symm.trans same)
        obtain ⟨ok, loaded⟩ := loaded
        cases loaded
    · cases checked
  | selects =>
    intro n unread
    have kept := all_eq_true.mp checked n unread
    simpa using kept
  | listArrives =>
    intro bell _ seen data _ number member
    rw [Notices.isTracked, List.isEmpty_iff] at checked
    rw [checked] at member
    cases member
  | acts gesture =>
    cases gesture with
    | dismiss id | dismissAll =>
      intro bell mounted
      simpa [Notices.isTracked, mounted] using checked
    | markRead id | markAllRead => trivial
  | succeeds number =>
    intro bell request mounted here
    simp only [Notices.isTracked, mounted, here] at checked
    obtain ⟨action, carried⟩ := request
    cases action with
    | markRead id => simpa [Notices.marked] using checked
    | markAllRead => cases checked
    | dismiss id target | dismissAll ids prev prevUnread => trivial
  | countFails | listFails | fails number => cases checked
  | _ => trivial

def Notices.isQuiet : Bool :=
  (List.range notices.log.length).all notices.passed.contains &&
    (match notices.count with | .done _ => true | _ => false) &&
      notices.bell.all fun bell => (match bell.load with | .done _ => true | _ => false) &&
        !bell.pending && bell.effect.isNone && bell.requests.isEmpty

theorem Notices.quiet_of_isQuiet {notices : Notices} (checked : notices.isQuiet = true) :
    notices.Quiet := by
  rw [Notices.isQuiet, Bool.and_eq_true, Bool.and_eq_true] at checked
  obtain ⟨⟨delivered, counted⟩, shown⟩ := checked
  refine ⟨?_, ?_, ?_⟩
  · intro number inside
    simpa using all_eq_true.mp delivered number (mem_range.mpr inside)
  · split at counted
    · rename_i ok asked
      exact ⟨ok, asked⟩
    · cases counted
  · intro bell mounted
    simp only [mounted, Option.all_some, Bool.and_eq_true, Bool.not_eq_true',
      Option.isNone_iff_eq_none, List.isEmpty_iff] at shown
    obtain ⟨⟨⟨loaded, still⟩, synced⟩, idle⟩ := shown
    refine ⟨?_, still, synced, idle⟩
    split at loaded
    · rename_i ok asked
      exact ⟨ok, asked⟩
    · cases loaded

end Computed

namespace Sample

def byTime : NotificationOrder where
  newest rows := rows.insertionSort fun first second => second.createdAt ≤ first.createdAt
  perm rows := List.perm_insertionSort _ rows
  sorted rows := by
    have : Std.Total fun first second : Notification => second.createdAt ≤ first.createdAt :=
      ⟨fun first second => le_total second.createdAt first.createdAt⟩
    have : IsTrans Notification fun first second => second.createdAt ≤ first.createdAt :=
      ⟨fun _ _ _ above below => le_trans below above⟩
    exact List.pairwise_insertionSort _ rows

def opened (bell : Option Bell) : Notices := ⟨[], [], [], [], 0, false, .waiting, bell⟩

theorem initial_opened (bell : Option Bell) (mount : bell = none ∨ bell = some Bell.mounted) :
    (opened bell).Initial :=
  ⟨nodup_nil, nofun, rfl, rfl, rfl, rfl, mount⟩

/-- The bell is mounted and the requests of the mount are answered. -/
def mounting : List NoticesEvent :=
  [.countsUnread, .countArrives, .syncs, .selects, .listArrives, .renders, .syncs]

/-- Two notifications are created, and the first one is read in the bell. -/
def readInBell : Notices :=
  (System.follow (fun notices => notices.isTracked byTime) (Notices.next byTime)
    (opened (some Bell.mounted)) (mounting ++
      [.creates (js "a") 1, .creates (js "b") 2, .delivers 0, .renders, .delivers 1, .renders,
        .syncs, .acts (.markRead (js "a")), .carriesOut 0, .delivers 2, .renders, .succeeds 0,
        .renders, .syncs])).get (by decide)

/-- Without the bell, a notification is announced twice. -/
def announcedTwice : Notices :=
  (System.follow System.unchecked (Notices.next byTime) (opened none)
    [.countsUnread, .countArrives, .creates (js "a") 1, .delivers 0, .delivers 0]).get
    (by decide)

/-- One of two notifications is dismissed in the bell, which hears of it afterwards. -/
def dismissedInBell : Notices :=
  (System.follow System.unchecked (Notices.next byTime) (opened (some Bell.mounted)) (mounting ++
    [.creates (js "a") 1, .creates (js "b") 2, .delivers 0, .renders, .delivers 1, .renders,
      .syncs, .acts (.dismiss (js "a")), .renders, .syncs, .carriesOut 0, .delivers 2, .succeeds 0,
      .renders, .syncs])).get (by decide)

end Sample

theorem readInBell_counted : Sample.readInBell.Counted ∧
    Sample.readInBell.notificationUnreadCount = 1 :=
  ⟨Notices.unread_of_reachable Sample.byTime
    (System.reachable_of_follow (fun notices => notices.isTracked_sound Sample.byTime)
      (Sample.initial_opened _ (.inr rfl)) _)
    (Notices.quiet_of_isQuiet (by decide)), by decide⟩

/-- The hook counts an event again when it is announced again, and the bell counts what the
user has dismissed again when it is told of it. -/
theorem recounted_uncounted :
    ((noticesSystem Sample.byTime).Reachable System.unguarded Sample.announcedTwice ∧
      Sample.announcedTwice.Quiet ∧ ¬Sample.announcedTwice.Counted) ∧
    (noticesSystem Sample.byTime).Reachable System.unguarded Sample.dismissedInBell ∧
      Sample.dismissedInBell.Quiet ∧ ¬Sample.dismissedInBell.Counted := by
  refine ⟨⟨?_, Notices.quiet_of_isQuiet (by decide), ?_⟩, ?_,
    Notices.quiet_of_isQuiet (by decide), ?_⟩
  · exact System.reachable_of_follow System.unchecked_sound (Sample.initial_opened _ (.inl rfl)) _
  · intro counted
    exact absurd (show (2 : Nat) = 1 from counted) (by decide)
  · exact System.reachable_of_follow System.unchecked_sound (Sample.initial_opened _ (.inr rfl)) _
  · intro counted
    exact absurd (show (0 : Nat) = 1 from counted) (by decide)

end Vortex.Web
