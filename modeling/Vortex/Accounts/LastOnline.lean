import Vortex.Accounts.PresenceUpdates
import Vortex.Foundation.Monitor

/-!
# The last time online of an invisible user

A user who is invisible leaves no trace in `last_online_at`, also when the tabs close and
the stored status becomes `offline`. The beacon of a tab reads the status and decides by
it; once the first beacon has stored `offline`, the next one no longer finds a user who
was invisible. Where no beacon reads the status in between, and no update decided before
comes after, the last time online stays as it was.
-/

namespace Vortex.Accounts.Presence

open Foundation
open Vortex.Gateway (UserStatus)

/-! ## The law -/

/-- No hidden user's last time online has changed, and the cron job has changed the status
of nobody who was invisible. -/
structure World.Traceless (world : World) : Prop where
  unchanged : ∀ row ∈ world.users.rows, ∀ stored, world.hidden row.id = some stored →
    row.lastOnlineAt = stored
  unexposed : world.exposed = []

/-- Nobody has been exposed, and the hidden users are those who are invisible. -/
def World.Begun (world : World) : Prop :=
  world.exposed = [] ∧
    (∀ row ∈ world.users.rows,
      world.hidden row.id = if row.status = .invisible then some row.lastOnlineAt else none)

/-- An update that stores `invisible` comes after every offline write that was decided
while the user was visible, and its heartbeat is not stale for a cron job that has already
selected. -/
def InvisibleInTime (pool : PresencePool) (userId : JsString) (now : Nat) : Prop :=
  ∀ thread ∈ pool.threads, match thread.rest with
    | .await (.update other .offline _ true) _ => other ≠ userId
    | .await (.markOffline _ selected) _ => selected ≤ now + PRESENCE_STALE_THRESHOLD_MS
    | _ => True

/-- The condition on a step: a beacon does not read the status of a hidden user that is no
longer stored as invisible, and `invisible` is stored in time. -/
def Discreet (pool : PresencePool) : Turn PresenceCall → Prop
  | .start _ => True
  | .advance index =>
      match pool.threads[index]? with
      | some ⟨_, .await (.selectStatus userId) _⟩ => (pool.shared.hidden userId).isSome = true →
          (pool.shared.users.find? userId).map UserRow.status = some .invisible
      | some ⟨_, .await (.update userId .invisible now _) _⟩ => InvisibleInTime pool userId now
      | _ => True

/-! ## How far a call has come -/

/-- What a call has done: nothing, it has read the clock, it has decided whether an offline
write sets the last time online, it has selected stale users; or it is past that. -/
inductive Phase
  | fresh
  | timed (now : Nat)
  | decided (now : Nat) (setLastOnlineAt : Bool)
  | selected (now : Nat) (ids : List JsString)
  | ended

def Phase.next : Phase → Proc.Exchange presence → Phase
  | .fresh, ⟨.now, now⟩ => .timed now
  | .timed now, ⟨.selectStatus _, .ok current⟩ => .decided now (recordsLastOnline current)
  | .timed now, ⟨.selectStale _, .ok ids⟩ => .selected now ids
  | .selected now ids, ⟨.markOffline _ _, _⟩ => .selected now ids
  | _, _ => .ended

/-- What a call asks for in a phase. -/
def Allowed : PresenceCall → Phase → PresenceStatement → Prop
  | .post _, _, .now => True
  | .post request, _, .selectStatus userId => request.user = some userId
  | .post request, phase, .update userId status now setLastOnlineAt =>
      request.user = some userId ∧
        (phase = .timed now ∧ status ≠ .offline ∧ setLastOnlineAt = false ∨
          phase = .decided now setLastOnlineAt ∧ status = .offline)
  | .cleanup _, _, .now => True
  | .cleanup _, phase, .selectStale now => phase = .timed now
  | .cleanup _, phase, .markOffline batch now =>
      ∃ ids, phase = .selected now ids ∧ ∀ id ∈ batch, id ∈ ids
  | .elapse _, _, .elapse _ => True
  | _, _, _ => False

def phases (call : PresenceCall) : Monitor presence Phase := ⟨Allowed call, Phase.next⟩

abbrev InPhase (call : PresenceCall) (process : PresenceProc) (phase : Phase) : Prop :=
  process.Obeys (phases call) (fun _ _ => True) phase

theorem inPhase_storeStatus (request : PresenceRequest) {phase : Phase} (userId : JsString)
    {status : UserStatus} {now : Nat} {setLastOnlineAt : Bool}
    (allowed : Allowed (.post request) phase (.update userId status now setLastOnlineAt)) :
    InPhase (.post request) (storeStatus userId status now setLastOnlineAt) phase := by
  refine ⟨allowed, fun answer => ?_⟩
  rcases answer with error | none | found
  · trivial
  · trivial
  · trivial

theorem inPhase_presencePOST (request : PresenceRequest) :
    InPhase (.post request) (presencePOST request) .fresh := by
  unfold presencePOST
  split
  · trivial
  · rename_i userId carried
    split
    · trivial
    · split
      · split
        · trivial
        · rename_i status parsed
          refine ⟨trivial, fun now => ?_⟩
          change InPhase _ (if status = .offline then _ else _) (.timed now)
          split
          · rename_i offline
            refine ⟨carried, fun answer => ?_⟩
            cases answer with
            | error error => trivial
            | ok current => exact inPhase_storeStatus request userId ⟨carried, .inr ⟨rfl, offline⟩⟩
          · rename_i visible
            exact inPhase_storeStatus request userId ⟨carried, .inl ⟨rfl, visible, rfl⟩⟩
      · trivial

theorem inPhase_markBatches (request : CleanupRequest) (now : Nat) (ids : List JsString)
    (batches : List (List JsString)) (count : Nat)
    (within : ∀ batch ∈ batches, ∀ id ∈ batch, id ∈ ids) :
    InPhase (.cleanup request) (markBatches now batches count) (.selected now ids) := by
  induction batches generalizing count with
  | nil => trivial
  | cons batch rest ih =>
    have later := fun count => ih count fun other member =>
      within other (List.mem_cons_of_mem _ member)
    refine ⟨⟨ids, rfl, within batch List.mem_cons_self⟩, fun answer => ?_⟩
    cases answer with
    | error error => exact later count
    | ok rows => exact later _

theorem mem_of_mem_batchesOf {ids batch : List JsString} {id : JsString}
    (member : batch ∈ batchesOf ids) (inside : id ∈ batch) : id ∈ ids := by
  obtain ⟨index, -, rfl⟩ := List.mem_map.mp member
  exact List.mem_of_mem_drop (List.mem_of_mem_take inside)

theorem inPhase_presenceCleanup (request : CleanupRequest) :
    InPhase (.cleanup request) (presenceCleanup request) .fresh := by
  unfold presenceCleanup
  split
  · trivial
  · split
    · trivial
    · refine ⟨trivial, fun now => ⟨rfl, fun answer => ?_⟩⟩
      cases answer with
      | error error => trivial
      | ok staleIds =>
        exact inPhase_markBatches request now staleIds _ 0 fun _ member _ inside =>
          mem_of_mem_batchesOf member inside

theorem inPhase_presenceProgram (call : PresenceCall) :
    InPhase call (presenceProgram call) .fresh := by
  cases call with
  | post request => exact inPhase_presencePOST request
  | cleanup request => exact inPhase_presenceCleanup request
  | elapse ms => exact ⟨trivial, fun _ => trivial⟩

/-- The phase a started call is in. -/
def phaseOf (history : List (Event presence PresenceCall)) (index : Nat) : Phase :=
  (Pool.exchanges history index).foldl Phase.next .fresh

theorem allowed_of_pending {initial : World → Prop}
    {guard : PresencePool → Turn PresenceCall → Prop}
    {pool : PresencePool} (reached : (presenceSystem initial).Reachable guard pool) {index : Nat}
    {call : PresenceCall} {statement : PresenceStatement}
    {next : presence.Answer statement → PresenceProc}
    (pending : pool.threads[index]? = some ⟨call, .await statement next⟩) :
    Allowed call (phaseOf pool.history index) statement :=
  (Pool.obeys_of_reachable reached pending (inPhase_presenceProgram call)).1

theorem phase_decided {phase : Phase} {statement : PresenceStatement}
    {answer : presence.Answer statement} {now : Nat} {setLastOnlineAt : Bool}
    (decided : phase.next ⟨statement, answer⟩ = .decided now setLastOnlineAt) :
    ∃ userId current, (⟨statement, answer⟩ : Proc.Exchange presence) =
      ⟨.selectStatus userId, .ok current⟩ ∧ setLastOnlineAt = recordsLastOnline current := by
  unfold Phase.next at decided
  split at decided <;> cases decided
  rename_i exchange userId current same
  exact ⟨userId, current, same, rfl⟩

theorem phase_selected {phase : Phase} {statement : PresenceStatement}
    {answer : presence.Answer statement} {now : Nat} {ids : List JsString}
    (selected : phase.next ⟨statement, answer⟩ = .selected now ids) :
    (∃ moment, (⟨statement, answer⟩ : Proc.Exchange presence) = ⟨.selectStale moment, .ok ids⟩) ∨
      phase = .selected now ids ∧ ∃ batch moment, statement = .markOffline batch moment := by
  unfold Phase.next at selected
  split at selected <;> cases selected
  · rename_i same
    exact .inl ⟨_, same⟩
  · rename_i exchange batch moment answer same
    exact .inr ⟨rfl, batch, moment, congrArg Sigma.fst same⟩

/-! ## The invariant -/

/-- A hidden user is stored as invisible or offline with the last time online it had; every
invisible user is hidden; no offline write of a hidden user sets the last time online; and
a hidden user whom a cron job has selected is not stale for it. -/
structure Covered (pool : PresencePool) : Prop where
  masked : ∀ row ∈ pool.shared.users.rows, ∀ stored, pool.shared.hidden row.id = some stored →
    (row.status = .invisible ∨ row.status = .offline) ∧ row.lastOnlineAt = stored
  shown : ∀ row ∈ pool.shared.users.rows, row.status = .invisible →
    (pool.shared.hidden row.id).isSome = true
  unexposed : pool.shared.exposed = []
  undecided : ∀ userId, (pool.shared.hidden userId).isSome = true →
    ∀ (index : Nat) (call : PresenceCall) (now : Nat)
      (next : presence.Answer (.update userId .offline now true) → PresenceProc),
      pool.threads[index]? ≠ some ⟨call, .await (.update userId .offline now true) next⟩
  beating : ∀ (index : Nat) (call : PresenceCall) (batch : List JsString) (now : Nat)
    (ids : List JsString) (next : presence.Answer (.markOffline batch now) → PresenceProc),
    pool.threads[index]? = some ⟨call, .await (.markOffline batch now) next⟩ →
    phaseOf pool.history index = .selected now ids →
    ∀ row ∈ pool.shared.users.rows, row.id ∈ ids → (pool.shared.hidden row.id).isSome = true →
      row.isStale now = false

section Steps

variable {initial : World → Prop} {before after : PresencePool} {index : Nat} {call : PresenceCall}
  {statement : PresenceStatement} {next : presence.Answer statement → PresenceProc}
  {answer : presence.Answer statement}

/-- A process that comes to wait for an offline write that sets the last time online has just
read a status that is not `invisible`, or waited for it already. -/
theorem decided_of_step (reached : (presenceSystem initial).Reachable Discreet after)
    (earlier : (presenceSystem initial).Reachable Discreet before) {label : Turn PresenceCall}
    (moved : (presenceSystem initial).step before label after) {userId : JsString} {now : Nat}
    {next : presence.Answer (.update userId .offline now true) → PresenceProc}
    (waits : after.threads[index]? = some ⟨call, .await (.update userId .offline now true) next⟩) :
    before.threads[index]? = some ⟨call, .await (.update userId .offline now true) next⟩ ∨
      ∃ current rest, label = .advance index ∧
        before.threads[index]? = some ⟨call, .await (.selectStatus userId) rest⟩ ∧
        presenceHandle call (.selectStatus userId) before.shared = some (.ok current, after.shared) ∧
        recordsLastOnline current = true := by
  obtain ⟨carried, decided⟩ : (∃ request, call = .post request ∧ request.user = some userId) ∧
      phaseOf after.history index = .decided now true := by
    have allowed := allowed_of_pending reached waits
    cases call with
    | post request =>
      exact ⟨⟨request, rfl, allowed.1⟩, (allowed.2.resolve_left fun visible => visible.2.1 rfl).1⟩
    | cleanup request => exact allowed.elim
    | elapse ms => exact allowed.elim
  rcases Pool.waited_of_step moved waits with waited | ⟨absent, same⟩ | ⟨statement, answer, rest,
    advanced, waited, answered, exchanged⟩
  · exact .inl waited
  · rw [phaseOf, same, Pool.exchanges_eq_nil earlier absent] at decided
    cases decided
  · right
    rw [phaseOf, exchanged, List.foldl_append] at decided
    obtain ⟨read, current, same, records⟩ := phase_decided decided
    cases same
    obtain ⟨request, rfl, mine⟩ := carried
    have asked : request.user = some read := allowed_of_pending earlier waited
    obtain rfl : read = userId := Option.some.inj (asked.symm.trans mine)
    exact ⟨current, rest, advanced, waited, answered, records.symm⟩

/-- A cron job that waits for an update has just selected what it updates, or it had
before. -/
theorem selected_of_step
    (earlier : (presenceSystem initial).Reachable Discreet before) {label : Turn PresenceCall}
    (moved : (presenceSystem initial).step before label after) {batch ids : List JsString}
    {now : Nat} {next : presence.Answer (.markOffline batch now) → PresenceProc}
    (waits : after.threads[index]? = some ⟨call, .await (.markOffline batch now) next⟩)
    (selected : phaseOf after.history index = .selected now ids) :
    (∃ former rest, before.threads[index]? = some ⟨call, .await (.markOffline former now) rest⟩ ∧
        phaseOf before.history index = .selected now ids) ∨ ∃ moment rest, label = .advance index ∧
        before.threads[index]? = some ⟨call, .await (.selectStale moment) rest⟩ ∧
        presenceHandle call (.selectStale moment) before.shared = some (.ok ids, after.shared) := by
  obtain ⟨started, -, rfl⟩ | ⟨moving, caller, statement, rest, answer, world, rfl, found, answered,
    rfl⟩ := Pool.step_cases moved
  · rcases Pool.getElem?_append_cases waits with ⟨rfl, -⟩ | waited
    · have silent := Pool.exchanges_eq_nil earlier
        (List.getElem?_eq_none (Nat.le_refl before.threads.length))
      have same : phaseOf before.history before.threads.length = .selected now ids := selected
      rw [phaseOf, silent] at same
      cases same
    · exact .inl ⟨batch, next, waited, selected⟩
  · by_cases mine : index = moving
    · subst mine
      obtain rfl : call = caller := by
        rcases Pool.getElem?_set_cases waits with ⟨-, same⟩ | ⟨different, -⟩
        · exact congrArg Thread.call same
        · exact absurd rfl different
      have phase : phaseOf (⟨index, call, statement, answer⟩ :: before.history) index =
          (phaseOf before.history index).next ⟨statement, answer⟩ :=
        Pool.memory_cons_self (phases call) .fresh before.history index call statement answer
      rw [phase] at selected
      rcases phase_selected selected with ⟨moment, same⟩ | ⟨still, former, moment, rfl⟩
      · cases same
        exact .inr ⟨moment, rest, rfl, found, answered⟩
      · have allowed := allowed_of_pending earlier found
        cases call with
        | cleanup request =>
          obtain ⟨held, same, -⟩ := allowed
          obtain ⟨rfl, -⟩ := Phase.selected.inj (still.symm.trans same)
          exact .inl ⟨former, rest, found, still⟩
        | post request => exact allowed.elim
        | elapse ms => exact allowed.elim
    · left
      rcases Pool.getElem?_set_cases waits with ⟨same, -⟩ | ⟨-, waited⟩
      · exact absurd same mine
      · have phase : phaseOf (⟨moving, caller, statement, answer⟩ :: before.history) index =
            phaseOf before.history index :=
          Pool.memory_cons_other (phases caller) .fresh before.history mine
        exact ⟨batch, next, waited, phase ▸ selected⟩

/-- A statement that leaves the users and the record as they are. -/
theorem Covered.reads (covered : Covered before)
    (earlier : (presenceSystem initial).Reachable Discreet before)
    (reached : (presenceSystem initial).Reachable Discreet after) {label : Turn PresenceCall}
    (admitted : Discreet before label) (moved : (presenceSystem initial).step before label after)
    (users : after.shared.users = before.shared.users)
    (hidden : after.shared.hidden = before.shared.hidden)
    (exposed : after.shared.exposed = before.shared.exposed) : Covered after where
  masked := by
    rw [users, hidden]
    exact covered.masked
  shown := by
    rw [users, hidden]
    exact covered.shown
  unexposed := exposed.trans covered.unexposed
  undecided := by
    intro userId covers index call now next waits
    rw [hidden] at covers
    rcases decided_of_step reached earlier moved waits with waited | ⟨current, rest, rfl, asked,
      answered, records⟩
    · exact covered.undecided userId covers index call now next waited
    · simp only [Discreet, asked] at admitted
      simp only [presenceHandle] at answered
      split at answered
      · cases (Prod.mk.inj (Option.some.inj answered)).1
      · cases (Prod.mk.inj (Option.some.inj answered)).1
        rw [admitted covers] at records
        cases records
  beating := by
    intro index call batch now ids next waits selected row stored member covers
    rw [users] at stored
    rw [hidden] at covers
    rcases selected_of_step earlier moved waits selected with ⟨former, rest, waited, known⟩ |
      ⟨moment, rest, rfl, asked, answered⟩
    · exact covered.beating index call former now ids rest waited known row stored member covers
    · exfalso
      simp only [presenceHandle] at answered
      split at answered
      · cases (Prod.mk.inj (Option.some.inj answered)).1
      · cases (Prod.mk.inj (Option.some.inj answered)).1
        obtain ⟨other, chosen, same⟩ := List.mem_map.mp member
        obtain ⟨present, visible⟩ := List.mem_filter.mp (List.mem_of_mem_take chosen)
        obtain rfl := before.shared.users.eq_of_key_eq present stored same
        obtain ⟨value, hides⟩ := Option.isSome_iff_exists.mp covers
        rcases (covered.masked other present value hides).1 with status | status
        · simp [status] at visible
        · simp [status] at visible

/-- The row of a user after an update. -/
theorem mem_update {world : World} {stored row : UserRow} (found : stored ∈ world.users.rows)
    {status : UserStatus} {now : Nat} {setLastOnlineAt : Bool}
    (member : row ∈ (world.update stored status now setLastOnlineAt).users.rows) :
    row = World.written status now setLastOnlineAt stored ∨
      row.id ≠ stored.id ∧ row ∈ world.users.rows := by
  obtain ⟨other, present, rfl⟩ := List.mem_map.mp member
  by_cases same : other.id = stored.id
  · obtain rfl := world.users.eq_of_key_eq present found same
    exact .inl (by simp)
  · exact .inr (by simp [same, present])

/-- The record of a user other than the one that is stored. -/
theorem hide_of_ne (world : World) {stored : UserRow} {userId : JsString}
    (different : userId ≠ stored.id) (status : UserStatus) :
    world.hide stored status userId = world.hidden userId := by
  cases status with
  | offline => rfl
  | _ => exact Function.update_of_ne different _ _

/-- Who is hidden after an update was hidden before, or is stored as invisible. -/
theorem hidden_of_hide {world : World} {stored : UserRow} {status : UserStatus} {userId : JsString}
    (covers : (world.hide stored status userId).isSome = true) :
    (world.hidden userId).isSome = true ∨ userId = stored.id ∧ status = .invisible := by
  by_cases same : userId = stored.id
  · subst same
    cases status with
    | invisible => exact .inr ⟨rfl, rfl⟩
    | offline => exact .inl covers
    | _ => simp [World.hide] at covers
  · rw [hide_of_ne world same] at covers
    exact .inl covers

section Updates

variable {userId : JsString} {status : UserStatus} {now : Nat} {setLastOnlineAt : Bool}
    {row : UserRow}

/-- What a user is stored with after an update is masked, and shown where it is invisible. -/
theorem Covered.written (covered : Covered before) (now : Nat)
    (stored : row ∈ before.shared.users.rows)
    (allowed : status ≠ .offline ∧ setLastOnlineAt = false ∨ status = .offline)
    (seen : setLastOnlineAt = true → before.shared.hidden row.id = none) :
    (∀ value, before.shared.hide row status row.id = some value →
        (status = .invisible ∨ status = .offline) ∧
          (World.written status now setLastOnlineAt row).lastOnlineAt = value) ∧
      (status = .invisible → (before.shared.hide row status row.id).isSome = true) := by
  cases status with
  | online => simp [World.hide]
  | idle => simp [World.hide]
  | dnd => simp [World.hide]
  | invisible =>
    obtain ⟨-, rfl⟩ : _ ∧ setLastOnlineAt = false := allowed.resolve_right (nomatch ·)
    constructor
    · intro value hides
      rw [World.hide, Function.update_self] at hides
      cases hides
      refine ⟨.inl rfl, ?_⟩
      cases earlier : before.shared.hidden row.id with
      | none => rfl
      | some value => exact (covered.masked row stored value earlier).2
    · intro _
      rw [World.hide, Function.update_self]
      rfl
  | offline =>
    refine ⟨fun value hides => ⟨.inr rfl, ?_⟩, nofun⟩
    have hides : before.shared.hidden row.id = some value := hides
    cases setLastOnlineAt with
    | false => exact (covered.masked row stored value hides).2
    | true =>
      rw [seen rfl] at hides
      cases hides

/-- An update of a user's status. -/
theorem Covered.updates (covered : Covered before)
    (earlier : (presenceSystem initial).Reachable Discreet before)
    (reached : (presenceSystem initial).Reachable Discreet after)
    (admitted : Discreet before (.advance index))
    (moved : (presenceSystem initial).step before (.advance index) after)
    {next : presence.Answer (.update userId status now setLastOnlineAt) → PresenceProc}
    (pending : before.threads[index]? =
      some ⟨call, .await (.update userId status now setLastOnlineAt) next⟩)
    (found : before.shared.users.find? userId = some row)
    (updated : after.shared = before.shared.update row status now setLastOnlineAt) :
    Covered after := by
  obtain ⟨stored, rfl⟩ := Table.find?_eq_some.mp found
  have allowed : status ≠ .offline ∧ setLastOnlineAt = false ∨ status = .offline := by
    have allowed := allowed_of_pending earlier pending
    cases call with
    | post request => exact allowed.2.imp (fun visible => visible.2) fun offline => offline.2
    | cleanup request => exact allowed.elim
    | elapse ms => exact allowed.elim
  have visible (sets : setLastOnlineAt = true) : before.shared.hidden row.id = none := by
    subst sets
    obtain rfl : status = .offline := allowed.resolve_left fun kept => nomatch kept.2
    by_contra covers
    exact covered.undecided row.id (Option.isSome_iff_ne_none.mpr covers) index call now next pending
  have inTime (hides : status = .invisible) : InvisibleInTime before row.id now := by
    subst hides
    simpa only [Discreet, pending] using admitted
  obtain ⟨masked, shown⟩ := covered.written now stored allowed visible
  have rows {changed : UserRow} (member : changed ∈ after.shared.users.rows) :
      changed = World.written status now setLastOnlineAt row ∨
        changed.id ≠ row.id ∧ changed ∈ before.shared.users.rows :=
    mem_update stored (updated ▸ member)
  have hidden : after.shared.hidden = before.shared.hide row status := by rw [updated]; rfl
  constructor
  · intro changed member value hides
    rw [hidden] at hides
    rcases rows member with rfl | ⟨different, present⟩
    · exact masked value hides
    · rw [hide_of_ne _ different] at hides
      exact covered.masked changed present value hides
  · intro changed member invisible
    rw [hidden]
    rcases rows member with rfl | ⟨different, present⟩
    · exact shown invisible
    · rw [hide_of_ne _ different]
      exact covered.shown changed present invisible
  · rw [updated]
    exact covered.unexposed
  · intro userId covers other caller moment rest waits
    rw [hidden] at covers
    rcases decided_of_step reached earlier moved waits with waited | ⟨current, rest, same, asked, -⟩
    · rcases hidden_of_hide covers with hides | ⟨rfl, rfl⟩
      · exact covered.undecided userId hides other caller moment rest waited
      · have ahead := inTime rfl _ (List.mem_of_getElem? waited)
        exact ahead rfl
    · cases same
      rw [pending] at asked
      cases asked
  · intro other caller batch moment ids rest waits selected changed member inside covers
    rw [hidden] at covers
    rcases selected_of_step earlier moved waits selected with ⟨former, rest, waited, known⟩ |
      ⟨_, rest, same, asked, -⟩
    · rcases rows member with rfl | ⟨different, present⟩
      · cases status with
        | offline =>
          exact covered.beating other caller former moment ids rest waited known row stored inside
            covers
        | invisible =>
          have recent : moment ≤ now + PRESENCE_STALE_THRESHOLD_MS :=
            inTime rfl _ (List.mem_of_getElem? waited)
          simpa [UserRow.isStale, World.written] using recent
        | _ => simp [World.hide, World.written] at covers
      · rw [hide_of_ne _ different] at covers
        exact covered.beating other caller former moment ids rest waited known changed present
          inside covers
    · cases same
      rw [pending] at asked
      cases asked

/-- The cron job marks a batch offline: no hidden user is still stale. -/
theorem Covered.marks (covered : Covered before)
    (earlier : (presenceSystem initial).Reachable Discreet before)
    (reached : (presenceSystem initial).Reachable Discreet after)
    (moved : (presenceSystem initial).step before (.advance index) after) {batch : List JsString}
    {next : presence.Answer (.markOffline batch now) → PresenceProc}
    (pending : before.threads[index]? = some ⟨call, .await (.markOffline batch now) next⟩)
    (marked : after.shared = before.shared.markOffline batch now) : Covered after := by
  obtain ⟨ids, known, within⟩ : ∃ ids, phaseOf before.history index = .selected now ids ∧
      ∀ id ∈ batch, id ∈ ids := by
    have allowed := allowed_of_pending earlier pending
    cases call with
    | cleanup request => exact allowed
    | post request => exact allowed.elim
    | elapse ms => exact allowed.elim
  have spared {row : UserRow} (stored : row ∈ before.shared.users.rows)
      (hides : (before.shared.hidden row.id).isSome = true) :
      World.stillStale batch now row = false := by
    rw [World.stillStale, Bool.and_eq_false_iff]
    by_cases chosen : row.id ∈ batch
    · exact .inr (covered.beating index call batch now ids next pending known row stored
        (within row.id chosen) hides)
    · exact .inl (by simpa using chosen)
  have hidden : after.shared.hidden = before.shared.hidden := by rw [marked]; rfl
  have kept {row : UserRow} (member : row ∈ after.shared.users.rows)
      (hides : (after.shared.hidden row.id).isSome = true) : row ∈ before.shared.users.rows := by
    rw [marked] at member
    obtain ⟨stored, present, rfl⟩ := List.mem_map.mp member
    have same : (if World.stillStale batch now stored = true then
        { stored with status := UserStatus.offline, updatedAt := now, lastOnlineAt := some now }
        else stored).id = stored.id := by split <;> rfl
    rw [hidden, same] at hides
    rwa [spared present hides]
  constructor
  · intro row member value hides
    have present := kept member (Option.isSome_iff_exists.mpr ⟨value, hides⟩)
    rw [hidden] at hides
    exact covered.masked row present value hides
  · intro row member invisible
    rw [marked] at member
    obtain ⟨stored, present, rfl⟩ := List.mem_map.mp member
    rw [hidden]
    split at invisible
    · cases invisible
    · rename_i untouched
      rw [if_neg untouched]
      exact covered.shown stored present invisible
  · rw [marked]
    change before.shared.exposed ++ _ = []
    rw [covered.unexposed, List.nil_append, List.map_eq_nil_iff, List.filter_eq_nil_iff]
    intro row present both
    obtain ⟨stale, invisible⟩ := Bool.and_eq_true_iff.mp both
    rw [spared present (covered.shown row present (of_decide_eq_true invisible))] at stale
    cases stale
  · intro userId covers other caller moment rest waits
    rw [hidden] at covers
    rcases decided_of_step reached earlier moved waits with waited | ⟨current, rest, same, asked, -⟩
    · exact covered.undecided userId covers other caller moment rest waited
    · cases same
      rw [pending] at asked
      cases asked
  · intro other caller former moment chosen rest waits selected row member inside covers
    have present := kept member covers
    rw [hidden] at covers
    rcases selected_of_step earlier moved waits selected with ⟨first, rest, waited, before⟩ |
      ⟨_, rest, same, asked, -⟩
    · exact covered.beating other caller first moment chosen rest waited before row present inside
        covers
    · cases same
      rw [pending] at asked
      cases asked

end Updates

theorem Covered.step (covered : Covered before)
    (earlier : (presenceSystem initial).Reachable Discreet before) {label : Turn PresenceCall}
    (admitted : Discreet before label)
    (moved : (presenceSystem initial).step before label after) : Covered after := by
  have reached : (presenceSystem initial).Reachable Discreet after :=
    .step earlier admitted moved
  obtain ⟨started, rfl, rfl⟩ | ⟨index, call, statement, next, answer, world, rfl, pending, answered,
    same⟩ := Pool.step_cases moved
  · exact covered.reads earlier reached admitted moved rfl rfl rfl
  · have shared : after.shared = world := by rw [same]
    have quiet (untouched : world = before.shared) : Covered after := by
      rw [untouched] at shared
      exact covered.reads earlier reached admitted moved (by rw [shared]) (by rw [shared])
        (by rw [shared])
    cases statement with
    | now =>
      cases answered
      exact quiet rfl
    | selectStatus userId =>
      simp only [presenceHandle] at answered
      split at answered
      · cases answered
        exact quiet rfl
      · cases answered
        exact quiet rfl
    | update userId status now setLastOnlineAt =>
      simp only [presenceHandle] at answered
      split at answered
      · cases answered
        exact quiet rfl
      · split at answered
        · cases answered
          exact quiet rfl
        · rename_i row found
          cases answered
          exact covered.updates earlier reached admitted moved pending found shared
    | selectStale now =>
      simp only [presenceHandle] at answered
      split at answered
      · cases answered
        exact quiet rfl
      · cases answered
        exact quiet rfl
    | markOffline batch now =>
      simp only [presenceHandle] at answered
      split at answered
      · cases answered
        exact quiet rfl
      · cases answered
        exact covered.marks earlier reached moved pending shared
    | elapse ms =>
      cases answered
      exact covered.reads earlier reached admitted moved (by rw [shared]; rfl)
        (by rw [shared]; rfl) (by rw [shared]; rfl)

end Steps

/-! ## Runs -/

theorem covered_fresh {world : World} (begun : world.Begun) : Covered (Pool.fresh world) where
  masked := by
    intro row stored value hides
    have hides : world.hidden row.id = some value := hides
    rw [begun.2 row stored] at hides
    split at hides
    · rename_i invisible
      exact ⟨.inl invisible, Option.some.inj hides⟩
    · cases hides
  shown := by
    intro row stored invisible
    change (world.hidden row.id).isSome = true
    rw [begun.2 row stored, if_pos invisible]
    rfl
  unexposed := begun.1
  undecided := by
    intro userId _ index call now next waits
    cases waits
  beating := by
    intro index call batch now ids next waits
    cases waits

theorem covered_of_reachable {pool : PresencePool}
    (reached : (presenceSystem World.Begun).Reachable Discreet pool) : Covered pool := by
  refine reached.invariant ?_ ?_
  · rintro _ ⟨world, begun, rfl⟩
    exact covered_fresh begun
  · intro before label after earlier covered admitted moved
    exact covered.step earlier admitted moved

/-- In every run whose steps meet the condition, the last time online of a user stays as it
was when it became invisible until it is stored as visible, and the cron job changes the
status of nobody who is invisible. -/
theorem traceless_of_reachable {pool : PresencePool}
    (reached : (presenceSystem World.Begun).Reachable Discreet pool) : pool.shared.Traceless := by
  have covered := covered_of_reachable reached
  constructor
  · intro row stored value hides
    exact (covered.masked row stored value hides).2
  · exact covered.unexposed

/-- The condition, computed. -/
def discreet (pool : PresencePool) : Turn PresenceCall → Bool
  | .start _ => true
  | .advance index =>
      match pool.threads[index]? with
      | some ⟨_, .await (.selectStatus userId) _⟩ => !(pool.shared.hidden userId).isSome ||
          (pool.shared.users.find? userId).map UserRow.status = some .invisible
      | some ⟨_, .await (.update userId .invisible now _) _⟩ => pool.threads.all fun thread =>
          match thread.rest with
          | .await (.update other .offline _ true) _ => other ≠ userId
          | .await (.markOffline _ selected) _ => selected ≤ now + PRESENCE_STALE_THRESHOLD_MS
          | _ => true
      | _ => true

theorem discreet_sound (pool : PresencePool) (turn : Turn PresenceCall)
    (checked : discreet pool turn = true) : Discreet pool turn := by
  cases turn with
  | start call => trivial
  | advance index =>
    unfold discreet at checked
    unfold Discreet
    dsimp only at checked ⊢
    split
    · rename_i found
      rw [found] at checked
      intro covers
      simpa [covers] using checked
    · rename_i found
      rw [found] at checked
      intro thread member
      have checked := List.all_eq_true.mp checked thread member
      split
      · simpa [*] using checked
      · simpa [*] using checked
      · trivial
    · trivial

namespace Sample

def alice : JsString := js "alice"

def users : Table UserRow JsString UserRow.id :=
  ⟨[⟨alice, .online, 0, some 0, none⟩], List.nodup_singleton _⟩

def visible : World := ⟨1, users, fun _ => none, []⟩

/-- A request of a tab of Alice's that stores a status. -/
def stores (status : JsString) : PresenceCall :=
  .post ⟨some alice, false, some (.obj [(js "status", .str status)]), fun _ => false⟩

/-- Alice becomes invisible and closes a tab; then the cron job runs. -/
def closing : List (Turn PresenceCall) :=
  [.start (stores (js "invisible")), .advance 0, .advance 0,
    .start (stores (js "offline")), .advance 1, .advance 1, .advance 1]

def closed : PresencePool :=
  (System.follow discreet (Pool.turn presenceProgram fun _ => presenceHandle) (Pool.fresh visible)
    (closing ++ [.start (.elapse 100000), .advance 2, .start (.cleanup ⟨true, true, fun _ => false⟩),
      .advance 3, .advance 3])).get (by decide)

/-- Another tab is closed. -/
def closedTwice : PresencePool :=
  (System.follow System.unchecked (Pool.turn presenceProgram fun _ => presenceHandle)
    (Pool.fresh visible) (closing ++
      [.start (stores (js "offline")), .advance 2, .advance 2, .advance 2])).get (by decide)

theorem visible_begun : visible.Begun := by
  refine ⟨rfl, fun row stored => ?_⟩
  obtain rfl := List.mem_singleton.mp stored
  rfl

end Sample

theorem closed_traceless : Sample.closed.shared.Traceless ∧
    Sample.closed.shared.hidden Sample.alice = some none :=
  ⟨traceless_of_reachable
    (System.reachable_of_follow discreet_sound ⟨Sample.visible, Sample.visible_begun, rfl⟩ _),
    by decide⟩

/-- The second tab that is closed finds the user offline, and sets the last time online. -/
theorem closedTwice_traced :
    (presenceSystem World.Begun).Reachable System.unguarded Sample.closedTwice ∧
      ¬ Sample.closedTwice.shared.Traceless := by
  refine ⟨System.reachable_of_follow System.unchecked_sound
    ⟨Sample.visible, Sample.visible_begun, rfl⟩ _, fun traceless => ?_⟩
  have online : ∃ row ∈ Sample.closedTwice.shared.users.rows,
      Sample.closedTwice.shared.hidden row.id = some none ∧ row.lastOnlineAt = some 1 := by
    decide
  obtain ⟨row, stored, hides, set⟩ := online
  rw [traceless.unchanged row stored none hides] at set
  cases set

end Vortex.Accounts.Presence
