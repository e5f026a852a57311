import Vortex.Foundation.Links
import Vortex.Foundation.System
import Vortex.Web.Presence

/-!
# The tabs of one user

The tabs of a browser profile tell each other their statuses over a broadcast channel, and
a tab answers only the first message of a tab it does not know. A tab that sets up its
effect anew forgets the others and opens a new channel: those who still know it do not
answer, so it learns their statuses only when they change. Where no tab that is known to
another one does this, every tab knows all the others as soon as nothing is in flight.
-/

namespace Vortex.Web

open Foundation List
open Vortex.Gateway (UserStatus)

/-- An open tab, with the status its user has chosen as the tab has it. -/
structure OpenTab where
  status : UserStatus
  tab : Tab

/-- The tabs of one user, named in the order in which they were opened, and what they have
posted to each other. -/
structure Profile where
  tabs : TabId → Option OpenTab
  opened : Nat
  links : Links TabId PresenceBroadcastMessage

/-- What can happen in a profile. Explicit status changes set up the effect anew, and so
does a new gateway or user with the status left as it was. -/
inductive ProfileEvent
  | opens (status : UserStatus) (now : Nat)
  | closes (id : TabId) (now : Nat)
  | chooses (id : TabId) (status : UserStatus) (now : Nat)
  | checksIdle (id : TabId) (now : Nat)
  | active (id : TabId) (now : Nat)
  | visibilityChanges (id : TabId) (hidden : Bool) (now : Nat)
  | delivers (sender receiver : TabId) (now : Nat)
  deriving DecidableEq

namespace Profile

/-- No tab is open. -/
def empty : Profile := ⟨fun _ => none, 0, Links.idle⟩

/-- The other open tabs, each with a channel that is open. -/
def peers (profile : Profile) (id : TabId) : List TabId :=
  (List.range profile.opened).filter fun other => other ≠ id && (profile.tabs other).isSome

/-- A tab after a reaction, with what it has posted on its way to the others. -/
def commit (profile : Profile) (id : TabId) (status : UserStatus) (reaction : Reaction) :
    Profile where
  tabs := Function.update profile.tabs id (some ⟨status, reaction.tab⟩)
  opened := profile.opened
  links := profile.links.post id (profile.peers id) reaction.posts

/-- A tab reacts to an event of its own. -/
def react (profile : Profile) (id : TabId) (now : Nat) (event : TabEvent) : Option Profile :=
  (profile.tabs id).map fun held =>
    profile.commit id held.status (held.tab.react held.status id now event)

/-- The channel of a tab is closed: what is on its way to it is lost. -/
def closeChannel (profile : Profile) (id : TabId) : Profile :=
  { profile with links := profile.links.silence id }

/-- A tab is gone. -/
def close (profile : Profile) (id : TabId) : Profile where
  tabs := Function.update profile.tabs id none
  opened := profile.opened
  links := profile.links.silence id

def next (profile : Profile) : ProfileEvent → Option Profile
  | .opens status now =>
      let id := profile.opened
      some ({ profile with opened := id + 1 }.commit id status
        ((Tab.load status now).react status id now .effect))
  | .closes id now =>
      (profile.react id now .beforeUnload).map fun told => told.close id
  | .chooses id status now =>
      (profile.tabs id).map fun held =>
        let cleaned := (held.tab.react held.status id now .cleanup).tab
        (profile.closeChannel id).commit id status
          (cleaned.react status id now .effect)
  | .checksIdle id now => profile.react id now .checkIdle
  | .active id now => profile.react id now .activity
  | .visibilityChanges id hidden now => profile.react id now (.visibilityChange hidden)
  | .delivers sender receiver now =>
      (profile.links.take? sender receiver).bind fun (message, links) =>
        { profile with links }.react receiver now (.message message)

/-- Nothing has happened yet. -/
def Initial (profile : Profile) : Prop := profile = empty

theorem initial_empty : empty.Initial := rfl

/-- Every open tab has the statuses of exactly the other open tabs, and all of them compute
the same aggregate. -/
structure Agrees (profile : Profile) : Prop where
  others : ∀ id held, profile.tabs id = some held →
    (held.tab.otherTabStatuses.map Prod.fst).Nodup ∧
      ∀ other status, (other, status) ∈ held.tab.otherTabStatuses ↔
        other ≠ id ∧ ∃ known, profile.tabs other = some known ∧ known.tab.tabStatus = status
  aggregated : ∀ first second one two, profile.tabs first = some one →
    profile.tabs second = some two → one.tab.computeAggregated = two.tab.computeAggregated

/-- The condition on a step: a tab sets up its effect anew only while no other open tab
has it among the tabs it knows. -/
def unknownWhenReset (profile : Profile) : ProfileEvent → Prop
  | .chooses id _ _ => ∀ other ∈ profile.peers id, ∀ held, profile.tabs other = some held →
      ∀ entry ∈ held.tab.otherTabStatuses, entry.1 ≠ id
  | _ => True

end Profile

/-- All runs of the tabs of one user. -/
def profileSystem : System Profile ProfileEvent := .ofNext Profile.Initial Profile.next

/-! ## What a tab knows of another one -/

namespace Tab

/-- The status a tab has of another one. -/
def known (tab : Tab) (other : TabId) : Option UserStatus :=
  (tab.otherTabStatuses.find? fun entry => entry.1 = other).map Prod.snd

/-- The tabs a tab knows, each of them once. -/
def Distinct (tab : Tab) : Prop := (tab.otherTabStatuses.map Prod.fst).Nodup

theorem known_eq_some {tab : Tab} (distinct : tab.Distinct) {other : TabId} {status : UserStatus} :
    tab.known other = some status ↔ (other, status) ∈ tab.otherTabStatuses := by
  unfold known Distinct at *
  generalize tab.otherTabStatuses = entries at *
  induction entries with
  | nil => simp
  | cons entry rest ih =>
    obtain ⟨fresh, distinct⟩ := nodup_cons.mp distinct
    by_cases same : entry.1 = other
    · subst same
      have absent : (entry.1, status) ∉ rest := fun member =>
        fresh (mem_map.mpr ⟨_, member, rfl⟩)
      rw [find?_cons_of_pos (by simp)]
      simp only [Option.map_some, Option.some.injEq, mem_cons, absent, or_false]
      constructor
      · rintro rfl
        rfl
      · intro equal
        rw [← equal]
    · rw [find?_cons_of_neg (by simpa using same), ih distinct, mem_cons]
      constructor
      · exact Or.inr
      · rintro (rfl | member)
        · exact absurd rfl same
        · exact member

theorem known_eq_none {tab : Tab} {other : TabId} :
    tab.known other = none ↔ ∀ entry ∈ tab.otherTabStatuses, entry.1 ≠ other := by
  simp [known]

theorem any_eq_known (tab : Tab) (other : TabId) :
    (tab.otherTabStatuses.any fun entry => entry.1 = other) = (tab.known other).isSome := by
  rw [known, Option.isSome_map, Bool.eq_iff_iff, any_eq_true, find?_isSome]

/-- Replacing an entry changes what is known of its tab only. -/
theorem find?_replaced (entries : List (TabId × UserStatus)) (told other : TabId)
    (status : UserStatus) :
    ((entries.map fun entry => if entry.1 = told then (told, status) else entry).find?
        fun entry => entry.1 = other).map Prod.snd =
      ((entries.find? fun entry => entry.1 = other).map Prod.snd).map fun held =>
        if other = told then status else held := by
  induction entries with
  | nil => rfl
  | cons entry rest ih =>
    rw [map_cons]
    by_cases here : entry.1 = other
    · subst here
      rw [find?_cons_of_pos (by split <;> simp [*]), find?_cons_of_pos (by simp)]
      split <;> simp [*]
    · have same : (if entry.1 = told then (told, status) else entry).1 = entry.1 := by
        split <;> simp [*]
      rw [find?_cons_of_neg (by simpa [same] using here),
        find?_cons_of_neg (by simpa using here), ih]

theorem known_setOther (tab : Tab) (told other : TabId) (status : UserStatus) :
    (tab.setOther told status).known other = if other = told then some status
      else tab.known other := by
  have holds := tab.any_eq_known told
  unfold setOther known at *
  dsimp only
  split
  · rename_i present
    rw [find?_replaced]
    rw [present] at holds
    by_cases same : other = told
    · subst same
      obtain ⟨held, found⟩ := Option.isSome_iff_exists.mp holds.symm
      simp [found]
    · simp [same, Function.comp_def]
  · rename_i absent
    rw [find?_append, Option.map_or]
    by_cases same : other = told
    · subst same
      rw [Bool.not_eq_true] at absent
      rw [absent] at holds
      have unknown := Option.isNone_iff_eq_none.mp (Option.isSome_eq_false_iff.mp holds.symm)
      rw [unknown]
      simp
    · simp [same, Ne.symm same]

theorem distinct_setOther {tab : Tab} (distinct : tab.Distinct) (told : TabId)
    (status : UserStatus) : (tab.setOther told status).Distinct := by
  unfold Distinct setOther at *
  dsimp only
  split
  · have names : (tab.otherTabStatuses.map fun entry =>
        if entry.1 = told then (told, status) else entry).map Prod.fst =
        tab.otherTabStatuses.map Prod.fst := by
      rw [map_map]
      apply map_congr_left
      intro entry _
      simp only [Function.comp_apply]
      split <;> simp [*]
    rwa [names]
  · rename_i absent
    rw [map_append, nodup_append]
    refine ⟨distinct, by simp, ?_⟩
    simp only [any_eq_true, decide_eq_true_eq, not_exists, not_and] at absent
    simp only [mem_map, map_cons, map_nil, mem_singleton]
    rintro _ ⟨entry, member, rfl⟩ _ rfl
    exact absent entry member

theorem known_filter (entries : List (TabId × UserStatus)) (gone other : TabId) :
    ((entries.filter fun entry => entry.1 ≠ gone).find? fun entry => entry.1 = other).map Prod.snd =
      if other = gone then none else (entries.find? fun entry => entry.1 = other).map Prod.snd := by
  induction entries with
  | nil => simp
  | cons entry rest ih =>
    by_cases left : entry.1 = gone
    · rw [filter_cons_of_neg (by simpa using left), ih]
      by_cases same : other = gone
      · simp [same]
      · rw [if_neg same, if_neg same, find?_cons_of_neg]
        simp only [decide_eq_true_eq]
        rintro rfl
        exact same left
    · rw [filter_cons_of_pos (by simpa using left)]
      by_cases here : entry.1 = other
      · subst here
        simp [left]
      · rw [find?_cons_of_neg (by simpa using here), ih, find?_cons_of_neg (by simpa using here)]

/-! ## What a tab tells -/

/-- What a tab that listens tells the others by a reaction: nothing, with its status as it
was, or some statuses of its own, the last of them the one it has now. -/
structure Announces (id : TabId) (before : Tab) (reaction : Reaction) : Prop where
  named : ∀ post ∈ reaction.posts, ∃ status, post = .statusUpdate status id
  last : reaction.posts = [] ∧ reaction.tab.tabStatus = before.tabStatus ∨
    ∃ earlier, reaction.posts = earlier ++ [.statusUpdate reaction.tab.tabStatus id]

/-- A reaction of a listening tab that leaves the tabs it knows as they are. -/
structure Local (id : TabId) (before : Tab) (reaction : Reaction) : Prop
    extends Announces id before reaction where
  others : reaction.tab.otherTabStatuses = before.otherTabStatuses
  listening : reaction.tab.listening = before.listening

theorem local_silent (id : TabId) {before after : Tab} (status : after.tabStatus = before.tabStatus)
    (others : after.otherTabStatuses = before.otherTabStatuses)
    (listening : after.listening = before.listening) : Local id before ⟨after, [], []⟩ where
  named := nofun
  last := .inl ⟨rfl, status⟩
  others := others
  listening := listening

theorem sendAggregated_posts (posts : List PresenceBroadcastMessage) (tab : Tab) :
    (tab.sendAggregated posts).posts = posts := by
  unfold sendAggregated
  dsimp only
  split <;> rfl

/-- Sending the aggregate changes nothing but what was sent last. -/
theorem sendAggregated_tab (posts : List PresenceBroadcastMessage) (tab : Tab) :
    (tab.sendAggregated posts).tab =
      { tab with prevBroadcastedStatus := some tab.computeAggregated } := by
  unfold sendAggregated
  dsimp only
  split
  · rename_i same
    rw [← same]
  · rfl

theorem local_setTabStatus (id : TabId) (status : UserStatus) (isAutoIdle : Bool) {before tab : Tab}
    (others : tab.otherTabStatuses = before.otherTabStatuses)
    (listening : tab.listening = before.listening) :
    Local id before (tab.setTabStatus id status isAutoIdle) where
  named := by
    intro post posted
    rw [setTabStatus, sendAggregated_posts] at posted
    exact ⟨status, mem_singleton.mp posted⟩
  last := by
    right
    refine ⟨[], ?_⟩
    rw [setTabStatus, sendAggregated_posts, sendAggregated_tab]
    rfl
  others := by
    rw [setTabStatus, sendAggregated_tab]
    exact others
  listening := by
    rw [setTabStatus, sendAggregated_tab]
    exact listening

theorem local_checkIdle (status : UserStatus) (id : TabId) (now : Nat) (tab : Tab) :
    Local id tab (tab.react status id now .checkIdle) := by
  dsimp only [react]
  split
  · exact local_setTabStatus id _ _ rfl rfl
  · exact local_silent id rfl rfl rfl

theorem local_activity (status : UserStatus) (id : TabId) (now : Nat) (tab : Tab) :
    Local id tab (tab.react status id now .activity) := by
  dsimp only [react]
  split
  · split
    · exact local_setTabStatus id _ _ rfl rfl
    · exact local_silent id rfl rfl rfl
  · exact local_silent id rfl rfl rfl

theorem local_visibilityChange (status : UserStatus) (id : TabId) (hidden : Bool) (now : Nat)
    (tab : Tab) : Local id tab (tab.react status id now (.visibilityChange hidden)) := by
  dsimp only [react]
  split
  · exact local_silent id rfl rfl rfl
  · split
    · split
      · exact local_setTabStatus id _ _ rfl rfl
      · exact local_silent id rfl rfl rfl
    · unfold visible
      split
      · split
        · exact local_setTabStatus id _ _ rfl rfl
        · exact local_silent id rfl rfl rfl
      · split
        · exact local_setTabStatus id _ _ rfl rfl
        · exact local_silent id rfl rfl rfl

/-- The effect tells the status of the tab before and after it is set. -/
theorem effect_announces (status : UserStatus) (id : TabId) (tab : Tab) :
    (tab.effect status id).tab.otherTabStatuses = tab.otherTabStatuses ∧
      (tab.effect status id).tab.listening = true ∧ ∃ first,
        (tab.effect status id).posts = [.statusUpdate first id,
          .statusUpdate (tab.effect status id).tab.tabStatus id] := by
  unfold effect
  dsimp only
  rw [setTabStatus, sendAggregated_posts, sendAggregated_tab]
  exact ⟨rfl, rfl, _, rfl⟩

/-- A tab that is told the status of another one answers when it did not know it. -/
theorem receive_statusUpdate {id other : TabId} (different : other ≠ id) (status : UserStatus)
    (tab : Tab) :
    (tab.receive id (.statusUpdate status other)).posts =
        (if (tab.known other).isSome then [] else [.statusUpdate tab.tabStatus id]) ∧
      (tab.receive id (.statusUpdate status other)).tab = { tab.setOther other status with
          prevBroadcastedStatus := some (tab.setOther other status).computeAggregated } := by
  unfold receive
  dsimp only
  rw [if_neg different, sendAggregated_posts, sendAggregated_tab, any_eq_known]
  cases (tab.known other).isSome <;> exact ⟨rfl, rfl⟩

theorem receive_tabClosing {id other : TabId} (different : other ≠ id) (tab : Tab) :
    (tab.receive id (.tabClosing other)).posts = [] ∧
      (tab.receive id (.tabClosing other)).tab.tabStatus = tab.tabStatus ∧
      (tab.receive id (.tabClosing other)).tab.listening = tab.listening ∧
      (tab.receive id (.tabClosing other)).tab.otherTabStatuses =
        tab.otherTabStatuses.filter fun entry => entry.1 ≠ other := by
  unfold receive
  dsimp only
  rw [if_neg different, sendAggregated_posts, sendAggregated_tab]
  exact ⟨rfl, rfl, rfl, rfl⟩

end Tab

/-! ## The aggregate -/

/-- The aggregate of visible statuses is `offline` or one of them, and none of them has
precedence over it. -/
theorem best_of_foldl (statuses : List UserStatus) (start : UserStatus) :
    let best := statuses.foldl (fun best status =>
      if STATUS_PRECEDENCE.idxOf status < STATUS_PRECEDENCE.idxOf best then status else best) start
    (best = start ∨ best ∈ statuses) ∧
      STATUS_PRECEDENCE.idxOf best ≤ STATUS_PRECEDENCE.idxOf start ∧
      ∀ status ∈ statuses, STATUS_PRECEDENCE.idxOf best ≤ STATUS_PRECEDENCE.idxOf status := by
  induction statuses generalizing start with
  | nil => simp
  | cons status rest ih =>
    rw [foldl_cons]
    split
    · rename_i above
      obtain ⟨member, below, least⟩ := ih status
      refine ⟨.inr ?_, by omega, ?_⟩
      · rcases member with same | later
        · rw [same]
          exact mem_cons_self
        · exact mem_cons_of_mem _ later
      · intro other member
        rcases mem_cons.mp member with rfl | later
        · exact below
        · exact least other later
    · rename_i under
      obtain ⟨member, below, least⟩ := ih start
      refine ⟨member.imp_right (mem_cons_of_mem _), below, ?_⟩
      intro other member
      rcases mem_cons.mp member with rfl | later
      · omega
      · exact least other later

theorem idxOf_injective : ∀ first second : UserStatus,
    STATUS_PRECEDENCE.idxOf first = STATUS_PRECEDENCE.idxOf second → first = second := by
  intro first second
  cases first <;> cases second <;> decide

/-- The aggregate depends on which statuses there are, not on their order or number. -/
theorem aggregateStatus_congr {first second : List UserStatus}
    (same : ∀ status, status ∈ first ↔ status ∈ second) :
    aggregateStatus first = aggregateStatus second := by
  have empty : first.isEmpty = second.isEmpty := by
    rw [Bool.eq_iff_iff, List.isEmpty_iff, List.isEmpty_iff, eq_nil_iff_forall_not_mem,
      eq_nil_iff_forall_not_mem]
    simp only [same]
  have hidden : first.contains .invisible = second.contains .invisible := by
    rw [Bool.eq_iff_iff, contains_iff_mem, contains_iff_mem]
    exact same _
  unfold aggregateStatus
  rw [empty, hidden]
  congr 2
  obtain ⟨here, offline, least⟩ := best_of_foldl first .offline
  obtain ⟨there, offline', least'⟩ := best_of_foldl second .offline
  apply idxOf_injective
  apply Nat.le_antisymm
  · rcases there with default | member
    · rw [default]
      exact offline
    · exact least _ ((same _).mpr member)
  · rcases here with default | member
    · rw [default]
      exact offline'
    · exact least' _ ((same _).mp member)

/-! ## What is on the way -/

/-- What a tab will know of another one when it has received what is on its way. -/
def outlook (known : Option UserStatus) (messages : List PresenceBroadcastMessage) :
    Option UserStatus :=
  messages.foldl (fun _ message => match message with
    | .statusUpdate status _ => some status
    | .tabClosing _ => none) known

theorem outlook_append (known : Option UserStatus) (earlier later : List PresenceBroadcastMessage) :
    outlook known (earlier ++ later) = outlook (outlook known earlier) later :=
  foldl_append

namespace Profile

/-- A tab will know another one as it is, or it has told it its status on a channel on
which the other one, not knowing it, will answer; and a closed one it will not know. -/
def Sees (profile : Profile) (id other : TabId) : Prop :=
  ∀ held, profile.tabs id = some held →
    match profile.tabs other with
    | none => outlook (held.tab.known other) (profile.links.queue other id) = none
    | some known =>
        outlook (held.tab.known other) (profile.links.queue other id) = some known.tab.tabStatus ∨
          known.tab.known id = none ∧
            ∃ status, .statusUpdate status id ∈ profile.links.queue id other

/-- What holds of the tabs and the messages of a profile, apart from those of one tab. -/
structure SoundBut (profile : Profile) (apart : TabId → Prop) : Prop where
  bounded : ∀ id held, ¬ apart id → profile.tabs id = some held → id < profile.opened
  listening : ∀ id held, ¬ apart id → profile.tabs id = some held → held.tab.listening = true
  distinct : ∀ id held, ¬ apart id → profile.tabs id = some held → held.tab.Distinct
  own : ∀ id held, ¬ apart id → profile.tabs id = some held → held.tab.known id = none
  lonely : ∀ id, profile.links.queue id id = []
  closed : ∀ sender id, ¬ apart id → profile.tabs id = none → profile.links.queue sender id = []
  unopened : ∀ id receiver, profile.opened ≤ id → profile.links.queue id receiver = []
  named : ∀ sender receiver, ∀ message ∈ profile.links.queue sender receiver,
    (∃ status, message = .statusUpdate status sender) ∨ message = .tabClosing sender
  sees : ∀ id other, ¬ apart id → ¬ apart other → other ≠ id → profile.Sees id other

/-- The invariant of the tabs. -/
abbrev Sound (profile : Profile) : Prop := profile.SoundBut fun _ => False

theorem SoundBut.mono {profile : Profile} {apart wider : TabId → Prop}
    (sound : profile.SoundBut apart) (wide : ∀ id, apart id → wider id) :
    profile.SoundBut wider where
  bounded id held outside := sound.bounded id held fun inside => outside (wide id inside)
  listening id held outside := sound.listening id held fun inside => outside (wide id inside)
  distinct id held outside := sound.distinct id held fun inside => outside (wide id inside)
  own id held outside := sound.own id held fun inside => outside (wide id inside)
  lonely := sound.lonely
  closed sender id outside := sound.closed sender id fun inside => outside (wide id inside)
  unopened := sound.unopened
  named := sound.named
  sees id other outside outsider :=
    sound.sees id other (fun inside => outside (wide id inside))
      fun inside => outsider (wide other inside)

section Commit

variable {profile : Profile} {id : TabId} {status : UserStatus} {reaction : Reaction}

theorem nodup_peers (profile : Profile) (id : TabId) : (profile.peers id).Nodup :=
  nodup_range.filter _

theorem mem_peers (sound : profile.SoundBut (· = id)) {other : TabId} :
    other ∈ profile.peers id ↔ other ≠ id ∧ (profile.tabs other).isSome = true := by
  simp only [peers, mem_filter, mem_range, Bool.and_eq_true, decide_eq_true_eq]
  constructor
  · exact And.right
  · intro present
    obtain ⟨held, found⟩ := Option.isSome_iff_exists.mp present.2
    exact ⟨sound.bounded other held present.1 found, present⟩

theorem queue_commit (sound : profile.SoundBut (· = id)) (sender receiver : TabId) :
    (profile.commit id status reaction).links.queue sender receiver =
      profile.links.queue sender receiver ++
        if sender = id ∧ receiver ≠ id ∧ (profile.tabs receiver).isSome = true then reaction.posts
        else [] := by
  rw [commit, Links.queue_post _ _ _ _ _ (nodup_peers profile id)]
  simp only [mem_peers sound]

theorem tabs_commit_self :
    (profile.commit id status reaction).tabs id = some ⟨status, reaction.tab⟩ :=
  Function.update_self _ _ _

theorem tabs_close_self : (profile.close id).tabs id = none := Function.update_self _ _ _

theorem tabs_close_of_ne {other : TabId} (different : other ≠ id) :
    (profile.close id).tabs other = profile.tabs other :=
  Function.update_of_ne different _ _

theorem tabs_commit_of_ne {other : TabId} (different : other ≠ id) :
    (profile.commit id status reaction).tabs other = profile.tabs other :=
  Function.update_of_ne different _ _

/-- The tabs are sound after a reaction that keeps to what tabs post, if its tab and the
others will know each other. -/
theorem SoundBut.commit (sound : profile.SoundBut (· = id)) (bounded : id < profile.opened)
    (listening : reaction.tab.listening = true) (distinct : reaction.tab.Distinct)
    (own : reaction.tab.known id = none)
    (named : ∀ post ∈ reaction.posts, ∃ status, post = .statusUpdate status id)
    (mine : ∀ other ≠ id, (profile.commit id status reaction).Sees id other)
    (theirs : ∀ other ≠ id, (profile.commit id status reaction).Sees other id) :
    (profile.commit id status reaction).Sound where
  bounded other held _ found := by
    by_cases same : other = id
    · subst same
      exact bounded
    · rw [tabs_commit_of_ne same] at found
      exact sound.bounded other held same found
  listening other held _ found := by
    by_cases same : other = id
    · subst same
      rw [tabs_commit_self] at found
      cases found
      exact listening
    · rw [tabs_commit_of_ne same] at found
      exact sound.listening other held same found
  distinct other held _ found := by
    by_cases same : other = id
    · subst same
      rw [tabs_commit_self] at found
      cases found
      exact distinct
    · rw [tabs_commit_of_ne same] at found
      exact sound.distinct other held same found
  own other held _ found := by
    by_cases same : other = id
    · subst same
      rw [tabs_commit_self] at found
      cases found
      exact own
    · rw [tabs_commit_of_ne same] at found
      exact sound.own other held same found
  lonely other := by
    rw [queue_commit sound, sound.lonely, if_neg]
    · rfl
    · rintro ⟨rfl, different, -⟩
      exact different rfl
  closed sender other _ gone := by
    by_cases same : other = id
    · subst same
      rw [tabs_commit_self] at gone
      cases gone
    · rw [tabs_commit_of_ne same] at gone
      rw [queue_commit sound, sound.closed sender other same gone, gone]
      simp
  unopened sender receiver late := by
    rw [queue_commit sound, sound.unopened sender receiver late, if_neg]
    · rfl
    · rintro ⟨rfl, -⟩
      exact absurd bounded (Nat.not_lt.mpr late)
  named sender receiver message posted := by
    rw [queue_commit sound, mem_append] at posted
    rcases posted with earlier | posted
    · exact sound.named sender receiver message earlier
    · split at posted
      · rename_i mine
        obtain ⟨status, same⟩ := named message posted
        exact .inl ⟨status, mine.1 ▸ same⟩
      · cases posted
  sees first second _ _ different := by
    by_cases here : first = id
    · subst here
      exact mine second different
    · by_cases there : second = id
      · subst there
        exact theirs first here
      · intro held found
        have before := sound.sees first second here there different
        rw [tabs_commit_of_ne here] at found
        rw [tabs_commit_of_ne there, queue_commit sound, queue_commit sound,
          if_neg (fun posts => there posts.1), if_neg (fun posts => here posts.1),
          append_nil, append_nil]
        exact before held found

/-- The others will know a tab that has just told its status. -/
theorem sees_told (sound : profile.SoundBut (· = id)) (earlier : List PresenceBroadcastMessage)
    (told : reaction.posts = earlier ++ [.statusUpdate reaction.tab.tabStatus id]) :
    ∀ other ≠ id, (profile.commit id status reaction).Sees other id := by
  intro other different held found
  rw [tabs_commit_of_ne different] at found
  rw [tabs_commit_self]
  left
  rw [queue_commit sound, if_pos ⟨rfl, different, by rw [found]; rfl⟩, told, ← append_assoc,
    outlook_append]
  rfl

/-- A reaction that leaves what the tab knows as it is keeps the tabs sound. -/
theorem Sound.commit_local (sound : profile.Sound) {held : OpenTab}
    (found : profile.tabs id = some held) (kept : Tab.Local id held.tab reaction) :
    (profile.commit id held.status reaction).Sound := by
  have apart : profile.SoundBut (· = id) := sound.mono fun _ => False.elim
  have known (other : TabId) : reaction.tab.known other = held.tab.known other := by
    rw [Tab.known, kept.others, ← Tab.known]
  apply apart.commit (sound.bounded id held not_false found)
  · rw [kept.listening]
    exact sound.listening id held not_false found
  · rw [Tab.Distinct, kept.others]
    exact sound.distinct id held not_false found
  · rw [known]
    exact sound.own id held not_false found
  · exact kept.named
  · intro other different updated same
    rw [tabs_commit_self] at same
    cases same
    have before := sound.sees id other not_false not_false different held found
    rw [tabs_commit_of_ne different, known, queue_commit apart,
      if_neg (fun posts => different posts.1),
      append_nil]
    cases there : profile.tabs other with
    | none =>
      rw [there] at before
      exact before
    | some peer =>
      rw [there] at before
      rcases before with sees | ⟨unknown, status, told⟩
      · exact .inl sees
      · right
        rw [queue_commit apart]
        exact ⟨unknown, status, mem_append_left _ told⟩
  · rcases kept.last with ⟨silent, unchanged⟩ | ⟨earlier, told⟩
    · intro other different seeing there
      rw [tabs_commit_of_ne different] at there
      have before := sound.sees other id not_false not_false (Ne.symm different) seeing there
      rw [found] at before
      rw [tabs_commit_self]
      have same (receiver : TabId) :
          (profile.commit id held.status reaction).links.queue id receiver =
          profile.links.queue id receiver := by
        rw [queue_commit apart, silent]
        simp
      have back : (profile.commit id held.status reaction).links.queue other id =
          profile.links.queue other id := by
        rw [queue_commit apart, if_neg (fun posts => different posts.1), append_nil]
      dsimp only at before ⊢
      rw [same, back, known, unchanged]
      exact before
    · exact sees_told apart _ told

end Commit

section Steps

variable {profile : Profile} {id : TabId}

/-- A tab that nobody knows sets up its effect: it tells its status to all others. -/
theorem SoundBut.effect (apart : profile.SoundBut (· = id)) (bounded : id < profile.opened)
    {tab : Tab} (forgotten : tab.otherTabStatuses = [])
    (silent : ∀ sender, profile.links.queue sender id = [])
    (unknown : ∀ other ≠ id, ∀ held, profile.tabs other = some held → held.tab.known id = none)
    (status : UserStatus) : (profile.commit id status (tab.effect status id)).Sound := by
  obtain ⟨others, listening, first, posts⟩ := Tab.effect_announces status id tab
  rw [forgotten] at others
  have nobody (other : TabId) : (tab.effect status id).tab.known other = none := by
    rw [Tab.known, others]
    rfl
  apply apart.commit bounded listening
  · rw [Tab.Distinct, others]
    exact nodup_nil
  · exact nobody id
  · intro post posted
    rw [posts] at posted
    rcases mem_cons.mp posted with same | later
    · exact ⟨_, same⟩
    · exact ⟨_, mem_singleton.mp later⟩
  · intro other different held found
    rw [tabs_commit_self] at found
    cases found
    rw [tabs_commit_of_ne different, nobody]
    cases there : profile.tabs other with
    | none =>
      dsimp only
      rw [queue_commit apart, silent, if_neg (fun posts => different posts.1)]
      rfl
    | some peer =>
      right
      refine ⟨unknown other different peer there, first, ?_⟩
      rw [queue_commit apart, if_pos ⟨rfl, different, by rw [there]; rfl⟩, posts]
      exact mem_append_right _ mem_cons_self
  · exact sees_told apart [.statusUpdate first id] posts

section

variable (sound : profile.Sound)

include sound

theorem Sound.opens (status : UserStatus) (now : Nat) :
    (({ profile with opened := profile.opened + 1 } : Profile).commit profile.opened status
      ((Tab.load status now).react status profile.opened now .effect)).Sound := by
  have fresh : profile.tabs profile.opened = none := by
    cases found : profile.tabs profile.opened with
    | none => rfl
    | some held => exact absurd (sound.bounded _ held not_false found) (Nat.lt_irrefl _)
  have apart : ({ profile with opened := profile.opened + 1 } : Profile).SoundBut
      (· = profile.opened) :=
    { sound.mono fun _ => False.elim with
      bounded := fun id held _ found => Nat.lt_succ_of_lt (sound.bounded id held not_false found)
      unopened := fun id receiver late => sound.unopened id receiver (Nat.le_of_succ_le late) }
  refine apart.effect (Nat.lt_succ_self _) rfl ?_ ?_ status
  · intro sender
    exact sound.closed sender _ not_false fresh
  · intro other different held found
    have before :=
      sound.sees other profile.opened not_false not_false (Ne.symm different) held found
    rw [fresh, sound.unopened _ _ (Nat.le_refl _)] at before
    exact before

/-- A tab that nobody knows may set up its effect anew. -/
theorem Sound.chooses {held : OpenTab} (found : profile.tabs id = some held)
    (unknown : ∀ other ≠ id, ∀ held, profile.tabs other = some held → held.tab.known id = none)
    (status : UserStatus) (now : Nat) :
    ((profile.closeChannel id).commit id status
      ((held.tab.react held.status id now .cleanup).tab.react status id now .effect)).Sound := by
  have kept (sender : TabId) {receiver : TabId} (different : receiver ≠ id) :
      (profile.closeChannel id).links.queue sender receiver = profile.links.queue sender receiver :=
    profile.links.queue_silence_of_ne sender different
  have lost (sender : TabId) : (profile.closeChannel id).links.queue sender id = [] :=
    profile.links.queue_silence_self sender id
  have apart : (profile.closeChannel id).SoundBut (· = id) :=
    { sound.mono fun _ => False.elim with
      lonely := by
        intro other
        by_cases same : other = id
        · rw [same, lost]
        · rw [kept other same, sound.lonely]
      closed := by
        intro sender other outside gone
        rw [kept sender outside]
        exact sound.closed sender other not_false gone
      unopened := by
        intro sender receiver late
        by_cases same : receiver = id
        · rw [same, lost]
        · rw [kept sender same]
          exact sound.unopened sender receiver late
      named := by
        intro sender receiver message posted
        by_cases same : receiver = id
        · rw [same, lost] at posted
          cases posted
        · rw [kept sender same] at posted
          exact sound.named sender receiver message posted
      sees := by
        intro first second here there different held found
        have before := sound.sees first second not_false not_false different held found
        rw [kept second here, kept first there]
        exact before }
  exact apart.effect (sound.bounded id held not_false found) rfl lost unknown status

/-- A tab closes: it tells the others, and what is on its way to it is lost. -/
theorem Sound.closes {held : OpenTab} (found : profile.tabs id = some held) (now : Nat) :
    ((profile.commit id held.status
      (held.tab.react held.status id now .beforeUnload)).close id).Sound := by
  have apart : profile.SoundBut (· = id) := sound.mono fun _ => False.elim
  have posts : (held.tab.react held.status id now .beforeUnload).posts = [.tabClosing id] := by
    simp [Tab.react, sound.listening id held not_false found]
  generalize held.tab.react held.status id now .beforeUnload = reaction at posts
  have tabs {other : TabId} (different : other ≠ id) :
      ((profile.commit id held.status reaction).close id).tabs other = profile.tabs other := by
    rw [tabs_close_of_ne different, tabs_commit_of_ne different]
  have lost (sender : TabId) :
      ((profile.commit id held.status reaction).close id).links.queue sender id = [] :=
    Links.queue_silence_self _ sender id
  have kept {sender receiver : TabId} (there : receiver ≠ id) (here : sender ≠ id) :
      ((profile.commit id held.status reaction).close id).links.queue sender receiver =
        profile.links.queue sender receiver := by
    rw [close, Links.queue_silence_of_ne _ sender there, queue_commit apart,
      if_neg fun sent => here sent.1,
      append_nil]
  have told {receiver : TabId} (there : receiver ≠ id) :
      ((profile.commit id held.status reaction).close id).links.queue id receiver =
        profile.links.queue id receiver ++
          if (profile.tabs receiver).isSome = true then [.tabClosing id] else [] := by
    rw [close, Links.queue_silence_of_ne _ id there, queue_commit apart, posts]
    simp [there]
  have others {other : TabId} {peer : OpenTab}
      (there : ((profile.commit id held.status reaction).close id).tabs other = some peer) :
      other ≠ id ∧ profile.tabs other = some peer := by
    have different : other ≠ id := by
      rintro rfl
      rw [tabs_close_self] at there
      cases there
    exact ⟨different, tabs different ▸ there⟩
  constructor
  · intro other peer _ there
    exact sound.bounded other peer not_false (others there).2
  · intro other peer _ there
    exact sound.listening other peer not_false (others there).2
  · intro other peer _ there
    exact sound.distinct other peer not_false (others there).2
  · intro other peer _ there
    exact sound.own other peer not_false (others there).2
  · intro other
    by_cases same : other = id
    · rw [same]
      exact lost id
    · exact (kept same same).trans (sound.lonely other)
  · intro sender other _ gone
    by_cases same : other = id
    · rw [same]
      exact lost sender
    · rw [tabs same] at gone
      by_cases mine : sender = id
      · subst mine
        rw [told same, sound.closed sender other not_false gone, gone]
        rfl
      · rw [kept same mine]
        exact sound.closed sender other not_false gone
  · intro sender receiver late
    by_cases same : receiver = id
    · rw [same]
      exact lost sender
    · have mine : sender ≠ id := by
        rintro rfl
        exact absurd (sound.bounded sender held not_false found) (Nat.not_lt.mpr late)
      rw [kept same mine]
      exact sound.unopened sender receiver late
  · intro sender receiver message posted
    by_cases same : receiver = id
    · rw [same, lost] at posted
      cases posted
    · by_cases mine : sender = id
      · subst mine
        rw [told same, mem_append] at posted
        rcases posted with earlier | closing
        · exact sound.named sender receiver message earlier
        · split at closing
          · exact .inr (mem_singleton.mp closing)
          · cases closing
      · rw [kept same mine] at posted
        exact sound.named sender receiver message posted
  · intro first second _ _ different seeing there
    obtain ⟨here, stays⟩ := others there
    have before := sound.sees first second not_false not_false different seeing stays
    by_cases gone : second = id
    · subst gone
      rw [tabs_close_self]
      change outlook _ (((profile.commit second held.status reaction).close second).links.queue
        second first) = none
      rw [told here, stays, outlook_append]
      rfl
    · rw [tabs gone, kept here gone, kept gone here]
      exact before

/-- Taking a message leaves the tabs apart from its receiver sound. -/
theorem Sound.take {sender : TabId} {message : PresenceBroadcastMessage}
    {links : Links TabId PresenceBroadcastMessage}
    (taken : profile.links.take? sender id = some (message, links)) :
    ({ profile with links } : Profile).SoundBut (· = id) := by
  obtain ⟨oldest, others⟩ := Links.take?_eq_some taken
  have fewer (source target : TabId) : ∀ later ∈ links.queue source target,
      later ∈ profile.links.queue source target := by
    intro later waits
    by_cases same : source = sender ∧ target = id
    · obtain ⟨rfl, rfl⟩ := same
      rw [oldest]
      exact mem_cons_of_mem _ waits
    · rwa [others source target (by tauto)] at waits
  have empty {source target : TabId} (silent : profile.links.queue source target = []) :
      links.queue source target = [] :=
    eq_nil_iff_forall_not_mem.mpr fun later waits => by
      have before := fewer source target later waits
      rw [silent] at before
      cases before
  exact
    { sound.mono fun _ => False.elim with
      lonely := fun other => empty (sound.lonely other)
      closed := fun source other _ gone => empty (sound.closed source other not_false gone)
      unopened := fun source target late => empty (sound.unopened source target late)
      named := fun source target later waits =>
        sound.named source target later (fewer source target later waits)
      sees := by
        intro first second here there different held found
        have before := sound.sees first second not_false not_false different held found
        dsimp only at before ⊢
        rw [others second first (.inr here), others first second (.inr there)]
        exact before }

/-- A message reaches a tab. -/
theorem Sound.delivers {held : OpenTab} {sender : TabId}
    {message : PresenceBroadcastMessage} {links : Links TabId PresenceBroadcastMessage}
    (taken : profile.links.take? sender id = some (message, links))
    (found : profile.tabs id = some held) (now : Nat) :
    (({ profile with links } : Profile).commit id held.status
      (held.tab.react held.status id now (.message message))).Sound := by
  have apart := sound.take taken
  obtain ⟨oldest, others⟩ := Links.take?_eq_some taken
  have different : sender ≠ id := by
    rintro rfl
    rw [sound.lonely] at oldest
    cases oldest
  have distinct := sound.distinct id held not_false found
  have own := sound.own id held not_false found
  have listens := sound.listening id held not_false found
  have heard : held.tab.react held.status id now (.message message) =
      held.tab.receive id message := by
    simp only [Tab.react, listens, ↓reduceIte]
  rw [heard]
  -- What the receiver and the others will know, if it comes to know the sender by the message.
  have mine {reaction : Reaction}
      (learns : ∀ other, outlook (reaction.tab.known other) (links.queue other id) =
        outlook (held.tab.known other) (profile.links.queue other id)) :
      ∀ other ≠ id, (({ profile with links } : Profile).commit id held.status reaction).Sees id
        other := by
    intro other apartOther updated same
    rw [tabs_commit_self] at same
    cases same
    have before := sound.sees id other not_false not_false apartOther held found
    rw [tabs_commit_of_ne apartOther, queue_commit apart, queue_commit apart,
      if_neg (fun posts => apartOther posts.1), append_nil]
    dsimp only at before ⊢
    rw [learns, others id other (.inl (Ne.symm different))]
    cases there : profile.tabs other with
    | none =>
      rw [there] at before
      exact before
    | some peer =>
      rw [there] at before
      rcases before with sees | ⟨unknown, status, told⟩
      · exact .inl sees
      · exact .inr ⟨unknown, status, mem_append_left _ told⟩
  have theirs {reaction : Reaction} (silent : reaction.posts = [])
      (unchanged : reaction.tab.tabStatus = held.tab.tabStatus)
      (unknown : ∀ other, held.tab.known other = none →
        (∃ status, .statusUpdate status other ∈ profile.links.queue other id) →
        reaction.tab.known other = none ∧
          ∃ status, .statusUpdate status other ∈ links.queue other id) :
      ∀ other ≠ id, (({ profile with links } : Profile).commit id held.status reaction).Sees other
        id := by
    intro other apartOther seeing there
    rw [tabs_commit_of_ne apartOther] at there
    have before := sound.sees other id not_false not_false (Ne.symm apartOther) seeing there
    rw [found] at before
    rw [tabs_commit_self]
    dsimp only at before ⊢
    rw [queue_commit apart, queue_commit apart, silent, unchanged]
    simp only [ite_self, append_nil]
    rw [others id other (.inl (Ne.symm different))]
    exact before.imp_right fun right => unknown other right.1 right.2
  rcases sound.named sender id message (oldest ▸ mem_cons_self) with ⟨status, rfl⟩ | rfl
  · obtain ⟨posts, after⟩ := Tab.receive_statusUpdate different status held.tab
    have knows (other : TabId) :
        (held.tab.receive id (.statusUpdate status sender)).tab.known other =
        if other = sender then some status else held.tab.known other := by
      rw [after, ← Tab.known_setOther]
      rfl
    apply apart.commit (sound.bounded id held not_false found)
    · rw [after]
      exact listens
    · rw [after]
      exact Tab.distinct_setOther distinct sender status
    · rw [knows, if_neg (Ne.symm different), own]
    · intro post posted
      rw [posts] at posted
      split at posted
      · cases posted
      · exact ⟨_, mem_singleton.mp posted⟩
    · apply mine
      intro other
      rw [knows]
      by_cases same : other = sender
      · rw [if_pos same, same, oldest]
        rfl
      · rw [if_neg same, others other id (.inl same)]
    · cases known : held.tab.known sender with
      | none =>
        rw [known] at posts
        refine sees_told apart [] ?_
        rw [posts, after]
        rfl
      | some _ =>
        rw [known] at posts
        refine theirs posts (by rw [after]; rfl) ?_
        intro other unknown told
        have apartSender : other ≠ sender := by
          rintro rfl
          rw [known] at unknown
          cases unknown
        rw [knows, if_neg apartSender, others other id (.inl apartSender)]
        exact ⟨unknown, told⟩
  · obtain ⟨posts, status, listening, entries⟩ := Tab.receive_tabClosing different held.tab
    have knows (other : TabId) : (held.tab.receive id (.tabClosing sender)).tab.known other =
        if other = sender then none else held.tab.known other := by
      rw [Tab.known, entries, Tab.known_filter]
      rfl
    apply apart.commit (sound.bounded id held not_false found)
    · rw [listening]
      exact listens
    · rw [Tab.Distinct, entries]
      exact distinct.sublist (filter_sublist.map _)
    · rw [knows, if_neg (Ne.symm different), own]
    · rw [posts]
      rintro _ ⟨⟩
    · apply mine
      intro other
      rw [knows]
      by_cases same : other = sender
      · rw [if_pos same, same, oldest]
        rfl
      · rw [if_neg same, others other id (.inl same)]
    · refine theirs posts status ?_
      rintro other unknown ⟨told, waits⟩
      rw [knows]
      by_cases same : other = sender
      · subst same
        rw [oldest, mem_cons] at waits
        exact ⟨if_pos rfl, told, waits.resolve_left (by rintro ⟨⟩)⟩
      · rw [if_neg same, others other id (.inl same)]
        exact ⟨unknown, told, waits⟩

end

end Steps

/-! ## Runs -/

theorem sound_empty : empty.Sound where
  bounded _ _ _ found := by cases found
  listening _ _ _ found := by cases found
  distinct _ _ _ found := by cases found
  own _ _ _ found := by cases found
  lonely _ := rfl
  closed _ _ _ _ := rfl
  unopened _ _ _ := rfl
  named _ _ _ member := absurd member not_mem_nil
  sees _ _ _ _ _ _ found := by cases found

theorem react_eq_some {profile after : Profile} {id : TabId} {now : Nat} {event : TabEvent}
    (reacted : profile.react id now event = some after) :
    ∃ held, profile.tabs id = some held ∧
      after = profile.commit id held.status (held.tab.react held.status id now event) := by
  obtain ⟨held, found, rfl⟩ := Option.map_eq_some_iff.mp reacted
  exact ⟨held, found, rfl⟩

/-- Every step that meets the condition keeps the tabs sound. -/
theorem Sound.step {before after : Profile} {event : ProfileEvent} (sound : before.Sound)
    (admitted : before.unknownWhenReset event) (moved : before.next event = some after) :
    after.Sound := by
  cases event with
  | opens status now =>
    cases moved
    exact sound.opens status now
  | closes id now =>
    obtain ⟨told, reacted, rfl⟩ := Option.map_eq_some_iff.mp moved
    obtain ⟨held, found, rfl⟩ := react_eq_some reacted
    exact sound.closes found now
  | chooses id status now =>
    obtain ⟨held, found, rfl⟩ := Option.map_eq_some_iff.mp moved
    refine sound.chooses found (fun other different seeing there => ?_) status now
    have apart : before.SoundBut (· = id) := sound.mono fun _ => False.elim
    exact Tab.known_eq_none.mpr (admitted other
      ((mem_peers apart).mpr ⟨different, by rw [there]; rfl⟩) seeing there)
  | checksIdle id now =>
    obtain ⟨held, found, rfl⟩ := react_eq_some moved
    exact sound.commit_local found (Tab.local_checkIdle held.status id now held.tab)
  | active id now =>
    obtain ⟨held, found, rfl⟩ := react_eq_some moved
    exact sound.commit_local found (Tab.local_activity held.status id now held.tab)
  | visibilityChanges id hidden now =>
    obtain ⟨held, found, rfl⟩ := react_eq_some moved
    exact sound.commit_local found (Tab.local_visibilityChange held.status id hidden now held.tab)
  | delivers sender receiver now =>
    obtain ⟨⟨message, links⟩, taken, reacted⟩ := Option.bind_eq_some_iff.mp moved
    obtain ⟨held, found, rfl⟩ := react_eq_some reacted
    exact sound.delivers taken found now

theorem tabs_of_reachable {profile : Profile}
    (reached : profileSystem.Reachable unknownWhenReset profile) : profile.Sound := by
  refine reached.invariant (P := fun profile => profile.Sound) ?_ ?_
  · rintro _ rfl
    exact sound_empty
  · intro before event after _ sound admitted moved
    exact sound.step admitted moved

/-- With nothing in flight, sound tabs know each other. -/
theorem Sound.agrees {profile : Profile} (sound : profile.Sound) (quiet : profile.links.Quiet) :
    profile.Agrees := by
  have entries (id : TabId) (held : OpenTab) (found : profile.tabs id = some held)
      (other : TabId) (status : UserStatus) : (other, status) ∈ held.tab.otherTabStatuses ↔
        other ≠ id ∧ ∃ known, profile.tabs other = some known ∧ known.tab.tabStatus = status := by
    rw [← Tab.known_eq_some (sound.distinct id held not_false found)]
    by_cases same : other = id
    · subst same
      rw [sound.own other held not_false found]
      simp
    · have sees := sound.sees id other not_false not_false same held found
      rw [quiet.queue, quiet.queue] at sees
      cases there : profile.tabs other with
      | none =>
        rw [there] at sees
        simp [show held.tab.known other = none from sees]
      | some peer =>
        rw [there] at sees
        rcases sees with known | ⟨-, _, waits⟩
        · simp [show held.tab.known other = some _ from known, same]
        · cases waits
  have members (id : TabId) (held : OpenTab) (found : profile.tabs id = some held)
      (status : UserStatus) : status ∈ held.tab.tabStatus :: held.tab.otherTabStatuses.map Prod.snd ↔
        ∃ other known, profile.tabs other = some known ∧ known.tab.tabStatus = status := by
    rw [mem_cons, mem_map]
    constructor
    · rintro (rfl | ⟨⟨other, _⟩, member, rfl⟩)
      · exact ⟨id, held, found, rfl⟩
      · exact ⟨other, ((entries id held found other _).mp member).2⟩
    · rintro ⟨other, known, there, rfl⟩
      by_cases same : other = id
      · subst same
        rw [found] at there
        cases there
        exact .inl rfl
      · exact .inr ⟨_, (entries id held found other _).mpr ⟨same, known, there, rfl⟩, rfl⟩
  constructor
  · intro id held found
    exact ⟨sound.distinct id held not_false found, entries id held found⟩
  · intro first second one two here there
    apply aggregateStatus_congr
    intro status
    rw [members first one here, members second two there]

/-- In every run in which a tab sets up its effect anew only while nobody knows it, the tabs
agree whenever nothing is in flight. -/
theorem tabs_agree_of_reachable {profile : Profile}
    (reached : profileSystem.Reachable unknownWhenReset profile) (quiet : profile.links.Quiet) :
    profile.Agrees :=
  (tabs_of_reachable reached).agrees quiet

/-- The condition, computed. -/
def resetsUnknown (profile : Profile) : ProfileEvent → Bool
  | .chooses id _ _ => (profile.peers id).all fun other =>
      match profile.tabs other with
      | none => true
      | some held => held.tab.otherTabStatuses.all fun entry => entry.1 ≠ id
  | _ => true

theorem resetsUnknown_sound (profile : Profile) (event : ProfileEvent)
    (checked : profile.resetsUnknown event = true) : profile.unknownWhenReset event := by
  cases event with
  | chooses id status now =>
    intro other member held found entry known
    have checked := all_eq_true.mp checked other member
    rw [found] at checked
    simpa using all_eq_true.mp checked entry known
  | _ => trivial

namespace Sample

/-- Two tabs that have told each other their statuses; the first one has changed its own
while it was alone. -/
def acquainted : List ProfileEvent :=
  [.opens .online 0, .chooses 0 .dnd 1, .opens .online 2, .delivers 1 0 3, .delivers 1 0 4,
    .delivers 0 1 5, .delivers 1 0 6]

def agreeing : Profile :=
  (System.follow resetsUnknown next empty acquainted).get (by decide)

/-- The first tab changes its status again, and the second one does not answer. -/
def forgotten : Profile :=
  (System.follow System.unchecked next empty
    (acquainted ++ [.chooses 0 .invisible 7, .delivers 0 1 8, .delivers 0 1 9])).get
    (by decide)

end Sample

theorem agreeing_agrees : Sample.agreeing.Agrees ∧
    (Sample.agreeing.tabs 0).map (fun held => held.tab.otherTabStatuses) = some [(1, .online)] :=
  ⟨tabs_agree_of_reachable (System.reachable_of_follow resetsUnknown_sound initial_empty _)
    (List.isEmpty_iff.mp (by decide)), by decide⟩

/-- After an explicit status change a tab knows nothing of a tab that knows it. -/
theorem forgotten_disagrees : profileSystem.Reachable System.unguarded Sample.forgotten ∧
    Sample.forgotten.links.Quiet ∧ ¬ Sample.forgotten.Agrees := by
  refine ⟨System.reachable_of_follow System.unchecked_sound initial_empty _,
    List.isEmpty_iff.mp (by decide), fun agrees => ?_⟩
  have first : (Sample.forgotten.tabs 0).map (fun held => held.tab.otherTabStatuses) = some [] := by
    decide
  have second : (Sample.forgotten.tabs 1).isSome = true := by decide
  obtain ⟨held, found, nobody⟩ := Option.map_eq_some_iff.mp first
  obtain ⟨peer, there⟩ := Option.isSome_iff_exists.mp second
  have entry := ((agrees.others 0 held found).2 1 peer.tab.tabStatus).mpr
    ⟨by decide, peer, there, rfl⟩
  rw [nobody] at entry
  cases entry

end Profile

end Vortex.Web
