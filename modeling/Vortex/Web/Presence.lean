import Vortex.Gateway.World

/-!
# The presence of a tab

`useGatewayPresence` keeps the status of a tab: the one its user has chosen when that is
`dnd` or `invisible`, and otherwise `online` or `idle` by what happens in the tab. Tabs
tell each other their statuses over a broadcast channel, and each one sends the aggregate
to the gateway when it changes. A tab whose user has chosen to be invisible never sends
anything else (`Tab.react_hidden`).
-/

namespace Vortex.Web

open Vortex.Gateway (UserStatus)

def IDLE_TIMEOUT_MS : Nat := 10 * 60 * 1000

def ACTIVITY_THROTTLE_MS : Nat := 3000

def STATUS_PRECEDENCE : List UserStatus := [.online, .dnd, .idle, .offline]

/-- The visible status of highest precedence, or `invisible` when there is one. -/
def aggregateStatus (statuses : List UserStatus) : UserStatus :=
  if statuses.isEmpty then .offline
  else if statuses.contains .invisible then .invisible
  else
    statuses.foldl (fun best status =>
      if STATUS_PRECEDENCE.idxOf status < STATUS_PRECEDENCE.idxOf best then status else best) .offline

/-- The name of a tab. -/
abbrev TabId : Type := Nat

inductive PresenceBroadcastMessage
  | statusUpdate (status : UserStatus) (tabId : TabId)
  | tabClosing (tabId : TabId)
  deriving DecidableEq

def resolveInitialStatus (status : UserStatus) : UserStatus :=
  if status = .dnd ∨ status = .invisible then status else .online

def explicitStatus (status : UserStatus) : Option UserStatus :=
  if status = .dnd ∨ status = .invisible then some status else none

/-- The refs of the hook in one tab, what its effect has sent last, and whether that has
its listeners attached. -/
structure Tab where
  tabStatus : UserStatus
  explicitStatus : Option UserStatus
  autoIdle : Bool
  lastActivity : Nat
  lastActivityEventTime : Nat
  otherTabStatuses : List (TabId × UserStatus)
  prevBroadcastedStatus : Option UserStatus
  listening : Bool

/-- A tab that has just been loaded. -/
def Tab.load (status : UserStatus) (now : Nat) : Tab where
  tabStatus := resolveInitialStatus status
  explicitStatus := Web.explicitStatus status
  autoIdle := false
  lastActivity := now
  lastActivityEventTime := 0
  otherTabStatuses := []
  prevBroadcastedStatus := none
  listening := false

/-- What can happen in a tab. The effect is set up and torn down by React whenever what it
depends on has changed. -/
inductive TabEvent
  | effect
  | cleanup
  | message (message : PresenceBroadcastMessage)
  | checkIdle
  | activity
  | visibilityChange (hidden : Bool)
  | beforeUnload

/-- A tab after an event, with what it posts to the other tabs and the statuses it sends
to the gateway. -/
structure Reaction where
  tab : Tab
  posts : List PresenceBroadcastMessage
  sends : List UserStatus

namespace Tab

def computeAggregated (tab : Tab) : UserStatus :=
  aggregateStatus (tab.tabStatus :: tab.otherTabStatuses.map Prod.snd)

/-- Send the aggregate unless it was sent last. -/
def sendAggregated (posts : List PresenceBroadcastMessage) (tab : Tab) : Reaction :=
  let aggregated := tab.computeAggregated
  if tab.prevBroadcastedStatus = some aggregated then ⟨tab, posts, []⟩
  else ⟨{ tab with prevBroadcastedStatus := some aggregated }, posts, [aggregated]⟩

def setTabStatus (tabId : TabId) (nextStatus : UserStatus) (isAutoIdle : Bool) (tab : Tab) :
    Reaction :=
  { tab with
    tabStatus := nextStatus
    autoIdle := isAutoIdle && nextStatus = UserStatus.idle }.sendAggregated [.statusUpdate nextStatus tabId]

/-- `Map.set` -/
def setOther (tabId : TabId) (status : UserStatus) (tab : Tab) : Tab :=
  { tab with
    otherTabStatuses :=
      if tab.otherTabStatuses.any fun other => other.1 = tabId then
        tab.otherTabStatuses.map fun other => if other.1 = tabId then (tabId, status) else other
      else tab.otherTabStatuses ++ [(tabId, status)] }

/-- Another tab has told its status, or that it closes. -/
def receive (tabId : TabId) (message : PresenceBroadcastMessage) (tab : Tab) : Reaction :=
  match message with
  | .statusUpdate status other =>
      if other = tabId then ⟨tab, [], []⟩
      else
        let isNewPeer := !tab.otherTabStatuses.any fun known => known.1 = other
        (tab.setOther other status).sendAggregated
          (if isNewPeer then [.statusUpdate tab.tabStatus tabId] else [])
  | .tabClosing other =>
      if other = tabId then ⟨tab, [], []⟩
      else
        { tab with
          otherTabStatuses := tab.otherTabStatuses.filter fun known => known.1 ≠ other }.sendAggregated []

/-- The effects of the hook: the chosen status is taken over, the status is told to the
other tabs, and the initial one is set. -/
def effect (status : UserStatus) (tabId : TabId) (tab : Tab) : Reaction :=
  let chosen := Web.explicitStatus status
  let tab :=
    { tab with
      explicitStatus := chosen
      tabStatus := chosen.getD tab.tabStatus
      prevBroadcastedStatus := none
      lastActivityEventTime := 0
      listening := true }
  let reaction := tab.setTabStatus tabId (resolveInitialStatus status) false
  { reaction with posts := .statusUpdate tab.tabStatus tabId :: reaction.posts }

def visible (tabId : TabId) (tab : Tab) : Reaction :=
  match tab.explicitStatus with
  | some chosen =>
      if tab.tabStatus ≠ chosen then tab.setTabStatus tabId chosen false else ⟨tab, [], []⟩
  | none =>
      if tab.tabStatus ≠ .online then tab.setTabStatus tabId .online false else ⟨tab, [], []⟩

/-- What a tab of a user with a chosen status does on an event. -/
def react (status : UserStatus) (tabId : TabId) (now : Nat) (event : TabEvent) (tab : Tab) :
    Reaction :=
  match event with
  | .effect => tab.effect status tabId
  | .cleanup => ⟨{ tab with otherTabStatuses := [], listening := false }, [], []⟩
  | .message message => if tab.listening then tab.receive tabId message else ⟨tab, [], []⟩
  | .checkIdle =>
      if tab.listening && tab.explicitStatus.isNone && IDLE_TIMEOUT_MS ≤ now - tab.lastActivity &&
          tab.tabStatus ≠ .idle then
        tab.setTabStatus tabId .idle true
      else ⟨tab, [], []⟩
  | .activity =>
      if tab.listening && ACTIVITY_THROTTLE_MS ≤ now - tab.lastActivityEventTime then
        let tab := { tab with lastActivityEventTime := now, lastActivity := now }
        if tab.autoIdle && tab.tabStatus = .idle then tab.setTabStatus tabId .online false
        else ⟨tab, [], []⟩
      else ⟨tab, [], []⟩
  | .visibilityChange hidden =>
      if !tab.listening then ⟨tab, [], []⟩
      else if hidden then
        if tab.tabStatus = .online then tab.setTabStatus tabId .idle true else ⟨tab, [], []⟩
      else { tab with lastActivity := now }.visible tabId
  | .beforeUnload => ⟨tab, if tab.listening then [.tabClosing tabId] else [], []⟩

/-- The user has chosen to be invisible, and the tab is. -/
structure Hidden (tab : Tab) : Prop where
  status : tab.tabStatus = .invisible
  chosen : tab.explicitStatus = some .invisible

end Tab

theorem aggregateStatus_invisible {statuses : List UserStatus} (member : .invisible ∈ statuses) :
    aggregateStatus statuses = .invisible := by
  unfold aggregateStatus
  rw [if_neg, if_pos]
  · exact List.contains_iff_mem.mpr member
  · rw [List.isEmpty_iff]
    exact List.ne_nil_of_mem member

namespace Tab

variable {tab : Tab} {tabId : TabId}

/-- The tab stays hidden, and nothing but `invisible` is sent. -/
structure KeepsHidden (reaction : Reaction) : Prop where
  hidden : reaction.tab.Hidden
  sends : ∀ status ∈ reaction.sends, status = .invisible

theorem keepsHidden_silent (hidden : tab.Hidden) (posts : List PresenceBroadcastMessage) :
    KeepsHidden ⟨tab, posts, []⟩ := ⟨hidden, nofun⟩

/-- Whatever the other tabs have told, the aggregate of a hidden tab is `invisible`. -/
theorem keepsHidden_sendAggregated (hidden : tab.Hidden) (posts : List PresenceBroadcastMessage) :
    KeepsHidden (tab.sendAggregated posts) := by
  have aggregated : tab.computeAggregated = .invisible := by
    apply aggregateStatus_invisible
    rw [hidden.status]
    exact List.mem_cons_self
  unfold sendAggregated
  dsimp only
  rw [aggregated]
  split
  · exact keepsHidden_silent hidden posts
  · exact ⟨⟨hidden.status, hidden.chosen⟩, fun status sent => List.mem_singleton.mp sent⟩

theorem keepsHidden_setTabStatus (hidden : tab.Hidden) (isAutoIdle : Bool) :
    KeepsHidden (tab.setTabStatus tabId .invisible isAutoIdle) := by
  apply keepsHidden_sendAggregated
  exact ⟨rfl, hidden.chosen⟩

theorem keepsHidden_receive (hidden : tab.Hidden) (message : PresenceBroadcastMessage) :
    KeepsHidden (tab.receive tabId message) := by
  unfold receive
  cases message with
  | statusUpdate status other =>
    dsimp only
    split
    · exact keepsHidden_silent hidden []
    · apply keepsHidden_sendAggregated
      exact ⟨hidden.status, hidden.chosen⟩
  | tabClosing other =>
    dsimp only
    split
    · exact keepsHidden_silent hidden []
    · apply keepsHidden_sendAggregated
      exact ⟨hidden.status, hidden.chosen⟩

theorem keepsHidden_effect (tab : Tab) : KeepsHidden (tab.effect .invisible tabId) := by
  have set : KeepsHidden (Tab.setTabStatus tabId .invisible false
      { tab with
        explicitStatus := some .invisible
        tabStatus := .invisible
        prevBroadcastedStatus := none
        lastActivityEventTime := 0
        listening := true }) := keepsHidden_setTabStatus ⟨rfl, rfl⟩ false
  exact ⟨set.hidden, set.sends⟩

theorem keepsHidden_visible (hidden : tab.Hidden) : KeepsHidden (tab.visible tabId) := by
  unfold visible
  rw [hidden.chosen, hidden.status]
  exact keepsHidden_silent hidden []

theorem hidden_load (now : Nat) : (load .invisible now).Hidden := ⟨rfl, rfl⟩

/-- Whatever happens in a tab whose user has chosen to be invisible, it stays so and sends
no other status. -/
theorem react_hidden (hidden : tab.Hidden) (now : Nat) (event : TabEvent) :
    KeepsHidden (tab.react .invisible tabId now event) := by
  cases event with
  | effect => exact keepsHidden_effect tab
  | cleanup =>
    apply keepsHidden_silent
    exact ⟨hidden.status, hidden.chosen⟩
  | message message =>
    dsimp only [react]
    split
    · exact keepsHidden_receive hidden message
    · exact keepsHidden_silent hidden []
  | checkIdle => simpa [react, hidden.chosen] using keepsHidden_silent hidden []
  | activity =>
    dsimp only [react]
    split
    · have active : Hidden { tab with lastActivityEventTime := now, lastActivity := now } :=
        ⟨hidden.status, hidden.chosen⟩
      simpa [hidden.status] using keepsHidden_silent active []
    · exact keepsHidden_silent hidden []
  | visibilityChange gone =>
    dsimp only [react]
    split
    · exact keepsHidden_silent hidden []
    · split
      · simpa [hidden.status] using keepsHidden_silent hidden []
      · apply keepsHidden_visible
        exact ⟨hidden.status, hidden.chosen⟩
  | beforeUnload => exact keepsHidden_silent hidden _

end Tab

end Vortex.Web
