import Mathlib.Data.List.Sort
import Vortex.Foundation.System
import Vortex.Gateway.Streams

/-!
# The list of conversations

`DMList` fetches the list when it is mounted, when one of its channels gets a message and
when its user joins or leaves one. A refresh that is asked for while a fetch is under way
waits for that fetch, and the browser may answer a fetch from its cache for as long as the
route's `Cache-Control` allows. The list shown is compared here with what the server
answers after the last change it has announced.
-/

namespace Vortex.Web

open Foundation
open Vortex.Gateway (VortexEvent)

/-- A row of the list: the id, the mark, and the columns that are only displayed. -/
structure DMChannel where
  id : JsString
  is_unread : Bool
  columns : Json

/-- A 200 of the route, with the number of changes the server had seen when it computed the
list, and the time. -/
structure Served where
  channels : List DMChannel
  version : Nat
  time : Nat

/-- `max-age=5`. -/
def MAX_AGE_MS : Nat := 5000

/-- The browser may still use a response. A user without channels gets one without
`Cache-Control`. -/
def Served.isFresh (served : Served) (now : Nat) : Bool :=
  !served.channels.isEmpty && now < served.time + MAX_AGE_MS

inductive Flight
  | asked
  | answered (channels : List DMChannel)

/-- The server, the events on their way to the browser, and the component. -/
structure DmList where
  now : Nat
  server : List DMChannel
  /-- How many changes there were. -/
  version : Nat
  /-- The version after the last change that was announced. -/
  announced : Nat
  pending : List VortexEvent
  delivered : List VortexEvent
  answers : List Served
  channels : List DMChannel
  dmUnreadCount : Nat
  loading : Bool
  /-- The user and the channels for which listeners are attached. -/
  listening : Option (JsString × List JsString)
  inFlightRefresh : Option Flight

/-- What happens. `visit` is a fetch of the same route by another component, `attach` the
effect that attaches the listeners. -/
inductive DmListStep
  | tick (elapsed : Nat)
  | change (server : List DMChannel) (event : Option VortexEvent)
  | deliver (index : Nat)
  | redeliver (index : Nat)
  | attach (currentUserId : Option JsString)
  | refresh
  | visit
  | serve
  | reuse (index : Nat)
  | settle
  | fail

/-- `channels.map((channel) => channel.id).sort().join(",")`. -/
def channelIdsStr (channels : List DMChannel) : JsString :=
  List.intercalate [44] ((channels.map DMChannel.id).insertionSort (· ≤ ·))

/-- `channelIdsStr ? channelIdsStr.split(",") : []`. -/
def channelIds (channelIdsStr : JsString) : List JsString :=
  if channelIdsStr.isEmpty then [] else channelIdsStr.splitOn 44

namespace DmList

def refreshChannels (list : DmList) : DmList :=
  match list.inFlightRefresh with
  | some _ => list
  | none => { list with inFlightRefresh := some .asked }

/-- A listener for the event is attached that refreshes the list. -/
def hears (list : DmList) (event : VortexEvent) : Bool :=
  match list.listening with
  | none => false
  | some (currentUserId, ids) =>
      (ids.contains event.channelId && event.type = js "message.created") ||
        (event.channelId = js "user:" ++ currentUserId &&
          (event.type = js "member.joined" || event.type = js "member.left"))

def hear (list : DmList) (event : VortexEvent) : DmList :=
  if list.hears event then list.refreshChannels else list

/-- A pending event reaches the browser. -/
def receive (list : DmList) (index : Nat) (event : VortexEvent) : DmList :=
  { list with
    pending := list.pending.eraseIdx index
    delivered := list.delivered ++ [event] }

/-- The server computes a list. -/
def compute (list : DmList) : DmList :=
  { list with answers := list.answers ++ [⟨list.server, list.version, list.now⟩] }

/-- The component with the server's data of the moment. -/
def mounted (now : Nat) (server : List DMChannel) : DmList :=
  refreshChannels ⟨now, server, 0, 0, [], [], [], [], 0, true, none, none⟩

def next (list : DmList) : DmListStep → Option DmList
  | .tick elapsed => some { list with now := list.now + elapsed }
  | .change server none => some { list with server := server, version := list.version + 1 }
  | .change server (some event) =>
      some { list with
        server := server
        version := list.version + 1
        announced := list.version + 1
        pending := list.pending ++ [event] }
  | .deliver index => do
      let event ← list.pending[index]?
      some ((list.receive index event).hear event)
  | .redeliver index => do
      let event ← list.delivered[index]?
      some (list.hear event)
  | .attach currentUserId =>
      some { list with
        listening := currentUserId.map fun id => (id, channelIds (channelIdsStr list.channels)) }
  | .refresh => some list.refreshChannels
  | .visit => some list.compute
  | .serve =>
      match list.inFlightRefresh with
      | some .asked => some { list.compute with inFlightRefresh := some (.answered list.server) }
      | _ => none
  | .reuse index =>
      match list.inFlightRefresh, list.answers[index]? with
      | some .asked, some served =>
          if served.isFresh list.now then
            some { list with inFlightRefresh := some (.answered served.channels) }
          else none
      | _, _ => none
  | .settle =>
      match list.inFlightRefresh with
      | some (.answered channels) =>
          some { list with
            channels := channels
            dmUnreadCount := (channels.filter DMChannel.is_unread).length
            loading := false
            inFlightRefresh := none }
      | _ => none
  | .fail =>
      match list.inFlightRefresh with
      | some _ => some { list with loading := false, inFlightRefresh := none }
      | none => none

/-- A list that the server has answered after the last change it has announced. -/
def UpToDate (list : DmList) (channels : List DMChannel) : Prop :=
  ∃ served ∈ list.answers, channels = served.channels ∧ list.announced ≤ served.version

/-- With no event undelivered and no fetch in flight, the list shown is up to date. -/
def Converged (list : DmList) : Prop :=
  list.pending = [] → list.inFlightRefresh = none → list.UpToDate list.channels

end DmList

def dmList : System DmList DmListStep :=
  System.ofNext (fun list => ∃ now server, list = DmList.mounted now server) DmList.next

/-- The steps that leave the list to converge. When the last undelivered event arrives, a
fetch that has its answer has one that is up to date, and without a fetch the event is heard
unless the list already is; and with no event undelivered, the browser uses an old response
only if it is up to date, and a fetch fails only if the list shown is. -/
def Converges (list : DmList) : DmListStep → Prop
  | .deliver index => ∀ event, list.pending[index]? = some event →
      list.pending.eraseIdx index = [] →
        match list.inFlightRefresh with
        | none => list.hears event = true ∨ list.UpToDate list.channels
        | some .asked => True
        | some (.answered channels) => list.UpToDate channels
  | .reuse index => list.pending = [] → ∀ served, list.answers[index]? = some served →
      list.UpToDate served.channels
  | .fail => list.pending = [] → list.UpToDate list.channels
  | _ => True

namespace DmList

/-- What the fetch under way will show, or without one what is shown, is up to date. -/
def OnCourse (list : DmList) : Prop :=
  match list.inFlightRefresh with
  | none => list.UpToDate list.channels
  | some .asked => True
  | some (.answered channels) => list.UpToDate channels

/-- With every event delivered, the list is on course. -/
structure Sound (list : DmList) : Prop where
  announced : list.announced ≤ list.version
  onCourse : list.pending = [] → list.OnCourse

theorem Sound.converged {list : DmList} (sound : list.Sound) : list.Converged := by
  intro quiet idle
  have onCourse := sound.onCourse quiet
  rwa [OnCourse, idle] at onCourse

theorem onCourse_refresh {list : DmList} (onCourse : list.OnCourse ∨ list.inFlightRefresh = none) :
    list.refreshChannels.OnCourse := by
  unfold refreshChannels
  split
  · rename_i flight under
    refine onCourse.resolve_right ?_
    rw [under]
    exact Option.some_ne_none flight
  · trivial

theorem onCourse_hear {list : DmList} {event : VortexEvent}
    (onCourse : list.OnCourse ∨ list.hears event = true ∧ list.inFlightRefresh = none) :
    (list.hear event).OnCourse := by
  unfold hear
  split
  · exact onCourse_refresh (onCourse.imp_right And.right)
  · rename_i unheard
    exact onCourse.resolve_right fun heard => unheard heard.1

theorem refreshChannels_announced (list : DmList) :
    list.refreshChannels.announced = list.announced ∧ list.refreshChannels.version = list.version ∧
      list.refreshChannels.pending = list.pending := by
  unfold refreshChannels
  split <;> exact ⟨rfl, rfl, rfl⟩

theorem hear_announced (list : DmList) (event : VortexEvent) :
    (list.hear event).announced = list.announced ∧ (list.hear event).version = list.version ∧
      (list.hear event).pending = list.pending := by
  unfold hear
  split
  · exact list.refreshChannels_announced
  · exact ⟨rfl, rfl, rfl⟩

theorem UpToDate.compute {list : DmList} {channels : List DMChannel}
    (current : list.UpToDate channels) : list.compute.UpToDate channels := by
  obtain ⟨served, answered, same, later⟩ := current
  exact ⟨served, List.mem_append_left _ answered, same, later⟩

/-- What the server computes is up to date. -/
theorem Sound.upToDate_compute {list : DmList} (sound : list.Sound) :
    list.compute.UpToDate list.server :=
  ⟨⟨list.server, list.version, list.now⟩, List.mem_append_right _ (List.mem_singleton_self _), rfl,
    sound.announced⟩

theorem OnCourse.compute {list : DmList} (onCourse : list.OnCourse) : list.compute.OnCourse := by
  show match list.inFlightRefresh with
    | none => list.compute.UpToDate list.channels
    | some .asked => True
    | some (.answered channels) => list.compute.UpToDate channels
  unfold OnCourse at onCourse
  split at onCourse
  · exact onCourse.compute
  · trivial
  · exact onCourse.compute

theorem Sound.next {before after : DmList} {step : DmListStep} (sound : before.Sound)
    (converges : Converges before step) (moved : before.next step = some after) : after.Sound := by
  cases step with
  | tick elapsed =>
    cases moved
    exact ⟨sound.announced, sound.onCourse⟩
  | change server event =>
    cases event with
    | none =>
      cases moved
      exact ⟨Nat.le_succ_of_le sound.announced, sound.onCourse⟩
    | some event =>
      cases moved
      refine ⟨le_refl _, fun quiet => ?_⟩
      exact absurd quiet (List.append_ne_nil_of_right_ne_nil _ (List.cons_ne_nil _ _))
  | deliver index =>
    obtain ⟨event, waiting, moved⟩ := Option.bind_eq_some_iff.mp moved
    cases moved
    obtain ⟨announced, version, pending⟩ := (before.receive index event).hear_announced event
    refine ⟨?_, fun quiet => onCourse_hear ?_⟩
    · rw [announced, version]
      exact sound.announced
    · rw [pending] at quiet
      have course := converges event waiting quiet
      show (match before.inFlightRefresh with
        | none => before.UpToDate before.channels
        | some .asked => True
        | some (.answered channels) => before.UpToDate channels) ∨
          before.hears event = true ∧ before.inFlightRefresh = none
      split at course
      · rename_i idle
        rw [idle]
        exact course.symm.imp_right fun heard => ⟨heard, rfl⟩
      · rename_i asked
        rw [asked]
        exact .inl trivial
      · rename_i channels answered
        rw [answered]
        exact .inl course
  | redeliver index =>
    obtain ⟨event, -, moved⟩ := Option.bind_eq_some_iff.mp moved
    cases moved
    obtain ⟨announced, version, pending⟩ := before.hear_announced event
    refine ⟨?_, fun quiet => onCourse_hear (.inl (sound.onCourse ?_))⟩
    · rw [announced, version]
      exact sound.announced
    · rwa [pending] at quiet
  | attach currentUserId =>
    cases moved
    exact ⟨sound.announced, sound.onCourse⟩
  | refresh =>
    cases moved
    obtain ⟨announced, version, pending⟩ := before.refreshChannels_announced
    refine ⟨?_, fun quiet => onCourse_refresh (.inl (sound.onCourse ?_))⟩
    · rw [announced, version]
      exact sound.announced
    · rwa [pending] at quiet
  | visit =>
    cases moved
    exact ⟨sound.announced, fun quiet => (sound.onCourse quiet).compute⟩
  | serve =>
    simp only [DmList.next] at moved
    split at moved
    · cases moved
      exact ⟨sound.announced, fun _ => sound.upToDate_compute⟩
    · cases moved
  | reuse index =>
    simp only [DmList.next] at moved
    split at moved
    · rename_i served _ listed
      split at moved
      · cases moved
        exact ⟨sound.announced, fun quiet => converges quiet served listed⟩
      · cases moved
    · cases moved
  | settle =>
    simp only [DmList.next] at moved
    split at moved
    · rename_i channels answered
      cases moved
      refine ⟨sound.announced, fun quiet => ?_⟩
      have onCourse := sound.onCourse quiet
      rwa [OnCourse, answered] at onCourse
    · cases moved
  | fail =>
    simp only [DmList.next] at moved
    split at moved
    · cases moved
      exact ⟨sound.announced, converges⟩
    · cases moved

end DmList

/-- In every run whose steps leave the list to converge, it does. -/
theorem listConverged_of_reachable {list : DmList} (reached : dmList.Reachable Converges list) :
    list.Converged := by
  refine DmList.Sound.converged (reached.invariant ?_ ?_)
  · rintro _ ⟨now, server, rfl⟩
    exact ⟨le_refl _, fun _ => trivial⟩
  · intro before step after _ sound converges moved
    exact sound.next converges moved

namespace DmList

/-- A run that goes on from here ends with a list that is out of date. -/
def LeadsAstray (list : DmList) : Prop :=
  ∃ later, dmList.Steps System.unguarded list later ∧ ¬later.Converged

theorem leadsAstray_of_idle {list : DmList} (quiet : list.pending = [])
    (idle : list.inFlightRefresh = none) (stale : ¬list.UpToDate list.channels) :
    list.LeadsAstray :=
  ⟨list, .refl, fun converged => stale (converged quiet idle)⟩

theorem leadsAstray_of_answered {list : DmList} {channels : List DMChannel}
    (quiet : list.pending = []) (answered : list.inFlightRefresh = some (.answered channels))
    (stale : ¬list.UpToDate channels) : list.LeadsAstray := by
  have moved : list.next .settle = some { list with
      channels := channels
      dmUnreadCount := (channels.filter DMChannel.is_unread).length
      loading := false
      inFlightRefresh := none } := by
    simp only [DmList.next, answered]
  exact ⟨_, .single trivial moved, fun converged => stale (converged quiet rfl)⟩

theorem hear_of_unheard {list : DmList} {event : VortexEvent}
    (unheard : ¬list.hears event = true) : list.hear event = list := if_neg unheard

theorem hear_of_underway {list : DmList} {flight : Flight}
    (underway : list.inFlightRefresh = some flight) (event : VortexEvent) :
    list.hear event = list := by
  unfold hear refreshChannels
  rw [underway]
  split <;> rfl

end DmList

/-- The condition leaves out only steps after which the list can end up out of date. -/
theorem leadsAstray_of_not_converges {before after : DmList} {step : DmListStep}
    (moved : before.next step = some after) (diverges : ¬Converges before step) :
    after.LeadsAstray := by
  cases step with
  | deliver index =>
    simp only [Converges, not_forall] at diverges
    obtain ⟨event, waiting, quiet, diverges⟩ := diverges
    simp only [DmList.next, waiting, Option.bind_eq_bind, Option.bind_some,
      Option.some.injEq] at moved
    subst moved
    split at diverges
    · rename_i idle
      obtain ⟨unheard, stale⟩ := not_or.mp diverges
      have same : (before.receive index event).hear event = before.receive index event :=
        DmList.hear_of_unheard unheard
      rw [same]
      exact DmList.leadsAstray_of_idle quiet idle stale
    · exact absurd trivial diverges
    · rename_i channels answered
      have underway : (before.receive index event).inFlightRefresh = some (.answered channels) :=
        answered
      have same := DmList.hear_of_underway underway event
      rw [same]
      exact DmList.leadsAstray_of_answered quiet answered diverges
  | reuse index =>
    simp only [Converges, not_forall] at diverges
    obtain ⟨quiet, served, listed, stale⟩ := diverges
    simp only [DmList.next, listed] at moved
    split at moved
    · rename_i found
      cases found
      split at moved
      · cases moved
        exact DmList.leadsAstray_of_answered quiet rfl stale
      · cases moved
    · cases moved
  | fail =>
    simp only [Converges, not_forall] at diverges
    obtain ⟨quiet, stale⟩ := diverges
    simp only [DmList.next] at moved
    split at moved
    · cases moved
      exact DmList.leadsAstray_of_idle quiet rfl stale
    · cases moved
  | tick | change | redeliver | attach | refresh | visit | serve | settle =>
    exact absurd trivial diverges

namespace DmListSample

/-- Ana's first channel. -/
def chat : DMChannel := ⟨js "chat", false, .null⟩

def joined : VortexEvent :=
  ⟨js "event", js "member.joined", js "user:ana", none, js "bob", 0, .null⟩

def start : DmList := .mounted 0 []

/-- The list is loaded and listens. -/
def loaded : DmList := { start with
  answers := [⟨[], 0, 0⟩]
  loading := false
  listening := some (js "ana", [])
  inFlightRefresh := none }

/-- Ana is added to the channel, and the list is told. -/
def told : DmList := { loaded with
  server := [chat]
  version := 1
  announced := 1
  delivered := [joined]
  inFlightRefresh := some .asked }

/-- The list has fetched again. -/
def refreshed : DmList := { told with
  answers := [⟨[], 0, 0⟩, ⟨[chat], 1, 0⟩]
  channels := [chat]
  inFlightRefresh := none }

/-- The same, with the event arriving between the server's read and the end of the fetch. -/
def coalesced : DmList := { told with inFlightRefresh := none }

theorem reach {guard : DmList → DmListStep → Prop} {before after : DmList} (step : DmListStep)
    (reached : dmList.Reachable guard before) (admitted : guard before step)
    (moved : before.next step = some after) : dmList.Reachable guard after :=
  .step reached admitted moved

theorem loaded_reachable : dmList.Reachable Converges loaded := by
  have first : dmList.Reachable Converges start := .initial ⟨0, [], rfl⟩
  have second := reach .serve first trivial rfl
  have third := reach .settle second trivial rfl
  exact reach (.attach (some (js "ana"))) third trivial rfl

theorem refreshed_reachable : dmList.Reachable Converges refreshed := by
  have first := reach (.change [chat] (some joined)) loaded_reachable trivial rfl
  have second : dmList.Reachable Converges told := by
    refine reach (.deliver 0) first ?_ rfl
    intro event waiting _
    cases Option.some.inj waiting
    exact .inl (by decide)
  have third := reach .serve second trivial rfl
  exact reach .settle third trivial rfl

theorem coalesced_reachable : dmList.Reachable System.unguarded coalesced := by
  have first : dmList.Reachable System.unguarded start := .initial ⟨0, [], rfl⟩
  have second := reach .serve first trivial rfl
  have third := reach (.attach (some (js "ana"))) second trivial rfl
  have fourth := reach (.change [chat] (some joined)) third trivial rfl
  have fifth := reach (.deliver 0) fourth trivial rfl
  exact reach .settle fifth trivial rfl

end DmListSample

/-- A list that is told of a change between fetches shows it. -/
theorem refreshed_converged : DmListSample.refreshed.Converged ∧
    DmListSample.refreshed.pending = [] ∧ DmListSample.refreshed.inFlightRefresh.isNone :=
  ⟨listConverged_of_reachable DmListSample.refreshed_reachable, rfl, rfl⟩

/-- A list that is told of a change during a fetch goes on without it. -/
theorem coalesced_stale : dmList.Reachable System.unguarded DmListSample.coalesced ∧
    ¬DmListSample.coalesced.Converged := by
  refine ⟨DmListSample.coalesced_reachable, fun converged => ?_⟩
  obtain ⟨served, answered, -, later⟩ := converged rfl rfl
  cases List.mem_singleton.mp answered
  exact absurd later (by decide)

/-- A fetch that has missed the event leads astray when it ends. -/
theorem coalesced_leadsAstray : DmListSample.coalesced.LeadsAstray := by
  have moved : DmListSample.told.next .fail = some DmListSample.coalesced := rfl
  refine leadsAstray_of_not_converges moved fun converges => ?_
  obtain ⟨served, answered, -, later⟩ := converges rfl
  cases List.mem_singleton.mp answered
  exact absurd later (by decide)

end Vortex.Web
