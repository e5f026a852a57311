import Mathlib.Data.List.Perm.Subperm
import Vortex.Gateway.Validation

/-!
# What a resume reports

A resume lists every channel it has replayed as complete, and a replay never throws:
a failed read counts as no events, and for a cursor that is not found the stream is read
from its start. `resume_honest_iff` says for which streams and which outcomes of the
reads the report is right.
-/

namespace Vortex.Gateway

open Foundation List

/-! ## Streams -/

/-- The events of some entries. -/
def eventsOf (entries : List StreamEntry) : List VortexEvent := entries.filterMap StreamEntry.event

/-- As Redis and the publishers leave a stream: the ids of the entries grow, and no two
events have the same id. -/
structure Stream.WellFormed (stream : Stream) : Prop where
  ordered : stream.entries.Pairwise fun earlier later => later.id.le earlier.id = false
  distinct : ((eventsOf stream.entries).map VortexEvent.id).Nodup

namespace StreamId

theorem le_refl (id : StreamId) : id.le id = true := by
  simp [le]

theorem le_of_not_le {first second : StreamId} (above : first.le second = false) :
    second.le first = true := by
  simp only [le, Bool.or_eq_false_iff, Bool.and_eq_false_iff, decide_eq_false_iff_not,
    Bool.or_eq_true, Bool.and_eq_true, decide_eq_true_eq] at above ⊢
  omega

end StreamId

/-- Reading on from an entry. -/
theorem Stream.WellFormed.xrange {stream : Stream} (wellFormed : stream.WellFormed)
    {earlier later : List StreamEntry} {entry : StreamEntry}
    (split : stream.entries = earlier ++ entry :: later) (count : Nat) :
    stream.xrange (some entry.id) count = later.take count := by
  have ordered := wellFormed.ordered
  rw [split] at ordered
  obtain ⟨-, rest, before⟩ := pairwise_append.mp ordered
  have below : earlier.filter (fun other => !other.id.le entry.id) = [] := by
    apply filter_eq_nil_iff.mpr
    intro other member
    rw [StreamId.le_of_not_le (before other member entry mem_cons_self)]
    decide
  have above : later.filter (fun other => !other.id.le entry.id) = later := by
    apply filter_eq_self.mpr
    intro other member
    rw [rel_of_pairwise_cons rest member]
    rfl
  simp only [Stream.xrange, Option.all_some, split, filter_append, filter_cons,
    StreamId.le_refl, Bool.not_true, Bool.false_eq_true, ↓reduceIte, below, above,
    nil_append]

theorem eventsOf_append (first second : List StreamEntry) :
    eventsOf (first ++ second) = eventsOf first ++ eventsOf second :=
  filterMap_append

theorem event_of_holds {eventId : JsString} {entry : StreamEntry}
    (holds : entry.holds eventId = true) :
    ∃ event, entry.event = some event ∧ event.id = eventId := by
  obtain ⟨event, found, same⟩ := Option.any_eq_true .. |>.mp holds
  exact ⟨event, found, of_decide_eq_true same⟩

theorem eventsOf_cons_of_some {entry : StreamEntry} {event : VortexEvent}
    (readable : entry.event = some event) (later : List StreamEntry) :
    eventsOf (entry :: later) = event :: eventsOf later :=
  filterMap_cons_some readable

theorem mem_eventsOf {entries : List StreamEntry} {event : VortexEvent} :
    event ∈ eventsOf entries ↔ ∃ entry ∈ entries, entry.event = some event :=
  mem_filterMap

/-- An event is in no other place of a stream. -/
theorem Stream.WellFormed.alone {stream : Stream} (wellFormed : stream.WellFormed)
    {eventId : JsString} {earlier later : List StreamEntry} {entry : StreamEntry}
    (split : stream.entries = earlier ++ entry :: later) (holds : entry.holds eventId = true) :
    ∀ other, other.holds eventId = true → other ∉ earlier ∧ other ∉ later := by
  have distinct := wellFormed.distinct
  obtain ⟨event, readable, rfl⟩ := event_of_holds holds
  rw [split, eventsOf_append, eventsOf_cons_of_some readable, map_append, map_cons] at distinct
  obtain ⟨-, tail, apart⟩ := nodup_append.mp distinct
  intro other again
  obtain ⟨copy, read, same⟩ := event_of_holds again
  constructor
  · intro member
    exact apart copy.id (mem_map_of_mem (mem_eventsOf.mpr ⟨other, member, read⟩)) event.id
      mem_cons_self same
  · intro member
    apply (nodup_cons.mp tail).1
    rw [← same]
    exact mem_map_of_mem (mem_eventsOf.mpr ⟨other, member, read⟩)

theorem Stream.WellFormed.split_unique {stream : Stream} (wellFormed : stream.WellFormed)
    {eventId : JsString} {earlier later earlier' later' : List StreamEntry}
    {entry entry' : StreamEntry} (split : stream.entries = earlier ++ entry :: later)
    (holds : entry.holds eventId = true) (split' : stream.entries = earlier' ++ entry' :: later')
    (holds' : entry'.holds eventId = true) :
    earlier = earlier' ∧ entry = entry' ∧ later = later' := by
  have same := split.symm.trans split'
  rcases append_eq_append_iff.mp same with ⟨extra, longer, rest⟩ | ⟨extra, longer, rest⟩
  · cases extra with
    | nil =>
      rw [append_nil] at longer
      obtain ⟨first, last⟩ := cons.inj rest
      exact ⟨longer.symm, first, last⟩
    | cons head extra =>
      obtain ⟨rfl, tail⟩ := cons.inj rest
      refine absurd ?_ (wellFormed.alone split holds entry' holds').2
      rw [tail]
      exact mem_append_right _ mem_cons_self
  · cases extra with
    | nil =>
      rw [append_nil] at longer
      obtain ⟨first, last⟩ := cons.inj rest
      exact ⟨longer, first.symm, last.symm⟩
    | cons head extra =>
      obtain ⟨rfl, tail⟩ := cons.inj rest
      refine absurd ?_ (wellFormed.alone split' holds' entry holds).2
      rw [tail]
      exact mem_append_right _ mem_cons_self

/-! ## Which events a replay covers -/

/-- The first events after a cursor are among the events of a replay. -/
def Covers (events : List VortexEvent) (later : List StreamEntry) (limit : Nat) : Prop :=
  ∀ event ∈ (eventsOf later).take limit, event ∈ events

theorem length_eventsOf_of_readable {entries : List StreamEntry}
    (readable : ∀ entry ∈ entries, entry.event.isSome = true) :
    (eventsOf entries).length = entries.length :=
  filterMap_length_eq_length.mpr readable

theorem length_eventsOf_le (entries : List StreamEntry) :
    (eventsOf entries).length ≤ entries.length :=
  length_filterMap_le _ _

theorem eventsOf_take_drop (later : List StreamEntry) (count : Nat) :
    eventsOf later = eventsOf (later.take count) ++ eventsOf (later.drop count) := by
  rw [← eventsOf_append, take_append_drop]

/-- The first event left out is among the first events, where few were covered. -/
theorem mem_take_of_first {later : List StreamEntry} {count limit : Nat} {event : VortexEvent}
    {rest : List VortexEvent} (first : eventsOf (later.drop count) = event :: rest)
    (few : (eventsOf (later.take count)).length < limit) : event ∈ (eventsOf later).take limit := by
  rw [eventsOf_take_drop later count, first, take_append]
  apply mem_append_right
  obtain ⟨more, same⟩ : ∃ more, limit - (eventsOf (later.take count)).length = more + 1 :=
    ⟨limit - (eventsOf (later.take count)).length - 1, by omega⟩
  rw [same, take_succ_cons]
  exact mem_cons_self

/-- Reading the first entries after a cursor covers the first events exactly when all of
them are readable or nothing readable is left. -/
theorem covers_take_iff {later : List StreamEntry} {limit : Nat}
    (distinct : (eventsOf later).Nodup) :
    Covers (eventsOf (later.take limit)) later limit ↔
      (∀ entry ∈ later.take limit, entry.event.isSome = true) ∨
        eventsOf (later.drop limit) = [] := by
  constructor
  · intro covers
    by_cases readable : ∀ entry ∈ later.take limit, entry.event.isSome = true
    · exact .inl readable
    · right
      have few : (eventsOf (later.take limit)).length < limit := by
        apply Nat.lt_of_le_of_ne
        · exact Nat.le_trans (length_eventsOf_le _) (length_take_le _ _)
        · intro full
          apply readable
          apply filterMap_length_eq_length.mp
          apply Nat.le_antisymm (length_eventsOf_le _)
          exact Nat.le_trans (length_take_le _ _) (Nat.le_of_eq full.symm)
      cases first : eventsOf (later.drop limit) with
      | nil => rfl
      | cons event rest =>
        have member := covers event (mem_take_of_first first few)
        rw [eventsOf_take_drop later limit, first] at distinct
        exact absurd rfl ((nodup_append.mp distinct).2.2 event member event mem_cons_self)
  · rintro (readable | nothing) event member
    · rw [eventsOf_take_drop later limit, take_append] at member
      rcases mem_append.mp member with early | late
      · exact mem_of_mem_take early
      · rw [length_eventsOf_of_readable readable] at late
        by_cases short : later.length ≤ limit
        · rw [drop_eq_nil_of_le short, eventsOf, filterMap_nil, take_nil] at late
          cases late
        · rw [length_take, Nat.min_eq_left (by omega), Nat.sub_self, take_zero] at late
          cases late
    · rw [eventsOf_take_drop later limit, nothing, append_nil] at member
      exact mem_of_mem_take member

/-- Reading a stream from its start covers the first events after a cursor exactly when
every event after the cursor lies among the entries read. -/
theorem covers_start_iff {earlier later : List StreamEntry} {entry : StreamEntry} {limit : Nat}
    (distinct : (eventsOf (earlier ++ entry :: later)).Nodup) (some : 0 < limit) :
    Covers (eventsOf ((earlier ++ entry :: later).take limit)) later limit ↔
      eventsOf (later.drop (limit - (earlier.length + 1))) = [] := by
  have longer : earlier ++ entry :: later = (earlier ++ [entry]) ++ later := by
    rw [append_assoc, singleton_append]
  have size : (earlier ++ [entry]).length = earlier.length + 1 := length_append
  have few : limit - (earlier.length + 1) < limit := by omega
  rw [longer] at distinct ⊢
  rw [take_append, size, eventsOf_append]
  constructor
  · intro covers
    cases first : eventsOf (later.drop (limit - (earlier.length + 1))) with
    | nil => rfl
    | cons event rest =>
      have member := covers event (mem_take_of_first first (Nat.lt_of_le_of_lt
        (Nat.le_trans (length_eventsOf_le _) (length_take_le _ _)) few))
      rw [eventsOf_append, eventsOf_take_drop later (limit - (earlier.length + 1)), first]
        at distinct
      obtain ⟨-, tail, apart⟩ := nodup_append.mp distinct
      rcases mem_append.mp member with before | within
      · obtain ⟨holder, known, read⟩ := mem_eventsOf.mp before
        exact absurd rfl (apart event (mem_eventsOf.mpr ⟨holder, mem_of_mem_take known, read⟩)
          event (mem_append_right _ mem_cons_self))
      · exact absurd rfl ((nodup_append.mp tail).2.2 event within event mem_cons_self)
  · intro nothing event member
    rw [eventsOf_take_drop later (limit - (earlier.length + 1)), nothing, append_nil] at member
    exact mem_append_right _ (mem_of_mem_take member)

/-! ## What a replay reads -/

/-- What the scan for an event finds in a stream, and in how many batches. -/
def scan (stream : Stream) (eventId : JsString) :
    (attempts : Nat) → (endId : Option StreamId) → Option StreamId × Nat
  | 0, _ => (none, 0)
  | attempts + 1, endId =>
      match (stream.xrevrange endId EventBus.BATCH_SIZE).getLast? with
      | none => (none, 1)
      | some oldest =>
          match (stream.xrevrange endId EventBus.BATCH_SIZE).find? (·.holds eventId) with
          | some entry => (some entry.id, 1)
          | none =>
              ((scan stream eventId attempts (some oldest.id.previous)).1,
                1 + (scan stream eventId attempts (some oldest.id.previous)).2)

section

variable {stream : Stream} {eventId : JsString} {attempts : Nat} {endId : Option StreamId}

theorem scan_of_empty (last : (stream.xrevrange endId EventBus.BATCH_SIZE).getLast? = none) :
    scan stream eventId (attempts + 1) endId = (none, 1) := by
  rw [scan, last]

theorem scan_of_found {oldest entry : StreamEntry}
    (last : (stream.xrevrange endId EventBus.BATCH_SIZE).getLast? = some oldest)
    (found : (stream.xrevrange endId EventBus.BATCH_SIZE).find? (·.holds eventId) = some entry) :
    scan stream eventId (attempts + 1) endId = (some entry.id, 1) := by
  rw [scan, last]
  dsimp only
  rw [found]

theorem scan_of_missing {oldest : StreamEntry}
    (last : (stream.xrevrange endId EventBus.BATCH_SIZE).getLast? = some oldest)
    (missing : (stream.xrevrange endId EventBus.BATCH_SIZE).find? (·.holds eventId) = none) :
    scan stream eventId (attempts + 1) endId =
      ((scan stream eventId attempts (some oldest.id.previous)).1,
        1 + (scan stream eventId attempts (some oldest.id.previous)).2) := by
  rw [scan, last]
  dsimp only
  rw [missing]

theorem scan_reads (stream : Stream) (eventId : JsString) (attempts : Nat)
    (endId : Option StreamId) :
    ∃ more, (scan stream eventId (attempts + 1) endId).2 = 1 + more := by
  cases last : (stream.xrevrange endId EventBus.BATCH_SIZE).getLast? with
  | none => exact ⟨0, congrArg Prod.snd (scan_of_empty last)⟩
  | some oldest =>
    cases found : (stream.xrevrange endId EventBus.BATCH_SIZE).find? (·.holds eventId) with
    | none => exact ⟨_, congrArg Prod.snd (scan_of_missing last found)⟩
    | some entry => exact ⟨0, congrArg Prod.snd (scan_of_found last found)⟩

end

/-- The batches of entries in which a stream is read from its end. -/
def Stream.batches (stream : Stream) :
    (attempts : Nat) → (endId : Option StreamId) → List (List StreamEntry)
  | 0, _ => []
  | attempts + 1, endId =>
      match (stream.xrevrange endId EventBus.BATCH_SIZE).getLast? with
      | none => []
      | some oldest =>
          stream.xrevrange endId EventBus.BATCH_SIZE ::
            stream.batches attempts (some oldest.id.previous)

/-- The first of these batches that has an event. -/
def Stream.batchOf (stream : Stream) (eventId : JsString) (attempts : Nat)
    (endId : Option StreamId) : Option Nat :=
  (stream.batches attempts endId).findIdx? fun batch => batch.any (·.holds eventId)

theorem mem_entries_of_xrevrange {stream : Stream} {endId : Option StreamId} {count : Nat}
    {entry : StreamEntry} (member : entry ∈ stream.xrevrange endId count) :
    entry ∈ stream.entries :=
  mem_reverse.mp (mem_filter.mp (mem_of_mem_take member)).1

/-- The scan finds the event in the first batch that has it, and else reads on until a
batch is empty or all attempts are made. -/
theorem scan_eq (stream : Stream) (eventId : JsString) (attempts : Nat)
    (endId : Option StreamId) :
    match stream.batchOf eventId attempts endId with
    | some index => ∃ entry ∈ stream.entries, entry.holds eventId = true ∧
        scan stream eventId attempts endId = (some entry.id, index + 1)
    | none => scan stream eventId attempts endId =
        (none, min ((stream.batches attempts endId).length + 1) attempts) := by
  induction attempts generalizing endId with
  | zero => rfl
  | succ attempts ih =>
    unfold Stream.batchOf Stream.batches
    cases last : (stream.xrevrange endId EventBus.BATCH_SIZE).getLast? with
    | none =>
      dsimp only [findIdx?_nil]
      rw [scan_of_empty last, length_nil, Nat.min_eq_left (by omega)]
    | some oldest =>
      dsimp only
      rw [findIdx?_cons]
      cases found : (stream.xrevrange endId EventBus.BATCH_SIZE).find? (·.holds eventId) with
      | some entry =>
        have present : (stream.xrevrange endId EventBus.BATCH_SIZE).any (·.holds eventId) = true :=
          any_eq_true.mpr ⟨entry, mem_of_find?_eq_some found, find?_some found⟩
        rw [if_pos present]
        exact ⟨entry, mem_entries_of_xrevrange (mem_of_find?_eq_some found),
          find?_some found, scan_of_found last found⟩
      | none =>
        have absent : ¬ (stream.xrevrange endId EventBus.BATCH_SIZE).any
            (·.holds eventId) = true := by
          intro present
          obtain ⟨entry, member, holds⟩ := any_eq_true.mp present
          exact find?_eq_none.mp found entry member holds
        have rest := ih (some oldest.id.previous)
        rw [if_neg absent, scan_of_missing last found]
        unfold Stream.batchOf at rest
        cases later : (stream.batches attempts (some oldest.id.previous)).findIdx?
            fun batch => batch.any (·.holds eventId) with
        | none =>
          rw [later] at rest
          dsimp only at rest
          dsimp only [Option.map_none]
          rw [rest, length_cons]
          dsimp only
          congr 1
          omega
        | some index =>
          rw [later] at rest
          obtain ⟨entry, member, holds, same⟩ := rest
          dsimp only [Option.map_some]
          refine ⟨entry, member, holds, ?_⟩
          rw [same]
          dsimp only
          congr 1
          omega

/-- Where a replay starts to read: after the entry that the scan has found. -/
def startOf (stream : Stream) (eventId : JsString) : Option StreamId :=
  (scan stream eventId 5 none).1

/-- How many reads a replay needs. -/
def readsOf (stream : Stream) (eventId : JsString) : Nat := (scan stream eventId 5 none).2 + 1

/-- So many next commands succeed. -/
def Succeed (outcomes : List Bool) (count : Nat) : Prop := false ∉ outcomes.take count

instance (outcomes : List Bool) (count : Nat) : Decidable (Succeed outcomes count) :=
  inferInstanceAs (Decidable (false ∉ outcomes.take count))

/-- The events a replay returns. -/
def replayed (destroyed : Bool) (stream : Stream) (outcomes : List Bool) (eventId : JsString) :
    List VortexEvent :=
  if destroyed = false ∧ Succeed outcomes (readsOf stream eventId) then
    eventsOf (stream.xrange (startOf stream eventId) MAX_REPLAY_EVENTS)
  else []

namespace World

/-- So many commands on a stream have been made. -/
def afterCommands (key : Option JsString) (count : Nat) (world : World) : World :=
  { world with
    redisOutcomes :=
      Function.update world.redisOutcomes key ((world.redisOutcomes key).drop count) }

theorem afterCommands_add (key : Option JsString) (first second : Nat) (world : World) :
    (world.afterCommands key first).afterCommands key second =
      world.afterCommands key (first + second) := by
  simp only [afterCommands, Function.update_self, Function.update_idem, drop_drop]

theorem nextOutcome_eq (key : Option JsString) (world : World) :
    world.nextOutcome key = world.afterCommands key 1 := by
  rw [afterCommands, drop_one]
  rfl

theorem streams_afterCommands (key : Option JsString) (count : Nat) (world : World) :
    (world.afterCommands key count).streams = world.streams := rfl

theorem outcomes_afterCommands (key : Option JsString) (count : Nat) (world : World) :
    (world.afterCommands key count).redisOutcomes key = (world.redisOutcomes key).drop count :=
  Function.update_self ..

end World

theorem succeed_add {outcomes : List Bool} {first second : Nat} :
    Succeed outcomes (first + second) ↔
      Succeed outcomes first ∧ Succeed (outcomes.drop first) second := by
  rw [Succeed, take_add, mem_append, not_or]
  rfl

theorem succeed_one {outcomes : List Bool} : Succeed outcomes 1 ↔ outcomes.headD true = true := by
  rcases outcomes with _ | ⟨_ | _, rest⟩ <;> simp [Succeed]

/-- A command that changes nothing succeeds or fails. -/
theorem command_read {α : Type} (key : Option JsString) (value : α) (world : World) :
    (world.command key fun world => (value, world)) =
      (if Succeed (world.redisOutcomes key) 1 then .ok value else .error (),
        world.afterCommands key 1) := by
  unfold World.command
  rw [← World.nextOutcome_eq]
  by_cases succeeds : (world.redisOutcomes key).headD true = true
  · rw [if_pos succeeds, if_pos (succeed_one.mpr succeeds)]
  · rw [if_neg succeeds, if_neg fun one => succeeds (succeed_one.mp one)]

section Runs

variable (deployment : Deployment)

theorem run_xrevrange (channelId : JsString) (endId : Option StreamId) (count : Nat)
    (world : World) :
    (command (ask (.xrevrange channelId endId count))).run (handle deployment) world =
      some (if Succeed (world.redisOutcomes (some channelId)) 1 then
          .ok ((world.streams channelId).xrevrange endId count) else .error (),
        world.afterCommands (some channelId) 1) := by
  apply run_command
  have answered :=
    command_read (some channelId) ((world.streams channelId).xrevrange endId count) world
  exact congrArg (fun pair => some (Except.ok pair.1, pair.2)) answered

theorem run_xrange (channelId : JsString) (start : Option StreamId) (count : Nat) (world : World) :
    (command (ask (.xrange channelId start count))).run (handle deployment) world =
      some (if Succeed (world.redisOutcomes (some channelId)) 1 then
          .ok ((world.streams channelId).xrange start count) else .error (),
        world.afterCommands (some channelId) 1) := by
  apply run_command
  have answered :=
    command_read (some channelId) ((world.streams channelId).xrange start count) world
  exact congrArg (fun pair => some (Except.ok pair.1, pair.2)) answered

/-- The scan finds what is in the stream, unless one of its reads fails. -/
theorem run_findStreamEntryId (channelId eventId : JsString) (attempts : Nat)
    (endId : Option StreamId) (world : World) :
    ∃ count, (EventBus.findStreamEntryId channelId eventId attempts endId).run (handle deployment)
        world = some (if Succeed (world.redisOutcomes (some channelId))
          (scan (world.streams channelId) eventId attempts endId).2 then
          .ok (scan (world.streams channelId) eventId attempts endId).1 else .error (),
        world.afterCommands (some channelId) count) ∧
      (Succeed (world.redisOutcomes (some channelId))
          (scan (world.streams channelId) eventId attempts endId).2 →
        count = (scan (world.streams channelId) eventId attempts endId).2) := by
  induction attempts generalizing endId world with
  | zero =>
    refine ⟨0, ?_, fun _ => rfl⟩
    have nothing : world.afterCommands (some channelId) 0 = world := by
      simp only [World.afterCommands, drop_zero, Function.update_eq_self]
    rw [nothing]
    rfl
  | succ attempts ih =>
    have read : (command (ask (.xrevrange channelId endId EventBus.BATCH_SIZE))).run
        (handle deployment) world = _ :=
      run_xrevrange deployment channelId endId EventBus.BATCH_SIZE world
    by_cases first : Succeed (world.redisOutcomes (some channelId)) 1
    · rw [if_pos first] at read
      unfold EventBus.findStreamEntryId
      rw [Proc.run_bind_ok (handle deployment) read]
      cases last : ((world.streams channelId).xrevrange endId EventBus.BATCH_SIZE).getLast? with
      | none =>
        rw [scan_of_empty last]
        refine ⟨1, ?_, fun _ => rfl⟩
        simp only [first, ↓reduceIte]
        rfl
      | some oldest =>
        cases found : ((world.streams channelId).xrevrange endId EventBus.BATCH_SIZE).find?
            (·.holds eventId) with
        | some entry =>
          rw [scan_of_found last found]
          refine ⟨1, ?_, fun _ => rfl⟩
          simp only [first, ↓reduceIte]
          rfl
        | none =>
          obtain ⟨count, ran, reads⟩ := ih (some oldest.id.previous)
            (world.afterCommands (some channelId) 1)
          rw [World.outcomes_afterCommands, World.streams_afterCommands] at ran reads
          rw [World.afterCommands_add] at ran
          rw [scan_of_missing last found]
          have total : Succeed (world.redisOutcomes (some channelId)) (1 + (scan
              (world.streams channelId) eventId attempts (some oldest.id.previous)).2) ↔ _ :=
            succeed_add.trans (and_iff_right first)
          refine ⟨1 + count, ?_, fun succeeds => ?_⟩
          · simp only [total]
            exact ran
          · rw [reads (total.mp succeeds)]
    · rw [if_neg first] at read
      have failed : ¬ Succeed (world.redisOutcomes (some channelId))
          (scan (world.streams channelId) eventId (attempts + 1) endId).2 := by
        intro succeeds
        obtain ⟨more, same⟩ := scan_reads (world.streams channelId) eventId attempts endId
        rw [same] at succeeds
        exact first (succeed_add.mp succeeds).1
      refine ⟨1, ?_, fun succeeds => absurd succeeds failed⟩
      rw [if_neg failed]
      exact Proc.run_bind_error (handle deployment) read

theorem run_readAfter (channelId eventId : JsString) (limit : Nat) (world : World) :
    ∃ count, (EventBus.readAfter channelId eventId limit).run (handle deployment) world =
      some (if Succeed (world.redisOutcomes (some channelId))
          (readsOf (world.streams channelId) eventId) then
          .ok (eventsOf ((world.streams channelId).xrange
            (startOf (world.streams channelId) eventId) limit)) else .error (),
        world.afterCommands (some channelId) count) := by
  obtain ⟨count, ran, reads⟩ :=
    run_findStreamEntryId deployment channelId eventId 5 none world
  have total : Succeed (world.redisOutcomes (some channelId))
      (readsOf (world.streams channelId) eventId) ↔ _ := succeed_add
  by_cases found : Succeed (world.redisOutcomes (some channelId))
      (scan (world.streams channelId) eventId 5 none).2
  · rw [if_pos found] at ran
    have read := run_xrange deployment channelId
      (startOf (world.streams channelId) eventId) limit (world.afterCommands (some channelId) count)
    rw [World.outcomes_afterCommands, World.streams_afterCommands, World.afterCommands_add] at read
    refine ⟨count + 1, ?_⟩
    rw [EventBus.readAfter, Proc.run_bind_ok (handle deployment) ran]
    rw [reads found] at read ⊢
    by_cases last : Succeed ((world.redisOutcomes (some channelId)).drop
        (scan (world.streams channelId) eventId 5 none).2) 1
    · rw [if_pos last] at read
      rw [if_pos (total.mpr ⟨found, last⟩)]
      exact Proc.run_bind_ok (handle deployment) read
    · rw [if_neg last] at read
      rw [if_neg fun succeeds => last (total.mp succeeds).2]
      exact Proc.run_bind_error (handle deployment) read
  · rw [if_neg found] at ran
    refine ⟨count, ?_⟩
    rw [if_neg fun succeeds => found (total.mp succeeds).1]
    exact Proc.run_bind_error (handle deployment) ran

/-- A replay returns events, whatever its reads come to. -/
theorem run_replay (channelId eventId : JsString) (world : World) :
    ∃ count, (EventBus.replay channelId eventId MAX_REPLAY_EVENTS).run (handle deployment) world =
      some (.ok (replayed world.busDestroyed (world.streams channelId)
          (world.redisOutcomes (some channelId)) eventId),
        world.afterCommands (some channelId) count) := by
  have asked : (EventBus.replay channelId eventId MAX_REPLAY_EVENTS).run (handle deployment) world =
      (if world.busDestroyed then pure [] else
        tryCatch (EventBus.readAfter channelId eventId MAX_REPLAY_EVENTS)
          fun _ => pure [] : Proc gateway Unit (List VortexEvent)).run (handle deployment) world := rfl
  rw [asked]
  by_cases destroyed : world.busDestroyed = true
  · refine ⟨0, ?_⟩
    have nothing : world.afterCommands (some channelId) 0 = world := by
      simp only [World.afterCommands, drop_zero, Function.update_eq_self]
    rw [if_pos destroyed, nothing, replayed, if_neg fun both => by simp [destroyed] at both]
    rfl
  · rw [if_neg destroyed]
    rw [Bool.not_eq_true] at destroyed
    obtain ⟨count, ran⟩ :=
      run_readAfter deployment channelId eventId MAX_REPLAY_EVENTS world
    refine ⟨count, ?_⟩
    by_cases succeeds : Succeed (world.redisOutcomes (some channelId))
        (readsOf (world.streams channelId) eventId)
    · rw [if_pos succeeds] at ran
      rw [replayed, if_pos ⟨destroyed, succeeds⟩]
      exact Proc.run_tryCatch_ok (handle deployment) ran
    · rw [if_neg succeeds] at ran
      rw [replayed, if_neg fun both => succeeds both.2]
      exact Proc.run_tryCatch_error (handle deployment) ran

end Runs

/-! ## A whole resume -/

/-- What is sent for the events of a replay. -/
def replayMessages (channelId : JsString) (events : List VortexEvent) : List ServerMessage :=
  if events.isEmpty then []
  else [.replay channelId events (MAX_REPLAY_EVENTS ≤ events.length)]

/-- What a resume sends for a cursor. -/
def messagesFor (world : World) (cursor : JsString × JsString) : List ServerMessage :=
  replayMessages cursor.1 (replayed world.busDestroyed (world.streams cursor.1)
    (world.redisOutcomes (some cursor.1)) cursor.2)

/-- The cursors of the channels that the membership check grants. -/
def grantedCursors (world : World) (userId : JsString) (cursors : List (JsString × JsString)) :
    List (JsString × JsString) :=
  cursors.filter fun cursor =>
    (world.checkChannelAccess userId (cursors.map Prod.fst)).contains cursor.1

/-- A stretch of a resume that deals with one channel: messages are sent to the socket,
and no other channel is touched. -/
structure Carries (socket : SocketId) (channelId : JsString) (messages : List ServerMessage)
    (before after : World) : Prop where
  connected : (after.sockets socket).connected = (before.sockets socket).connected
  inbox : (after.sockets socket).inbox = (before.sockets socket).inbox ++ messages
  streams : after.streams = before.streams
  destroyed : after.busDestroyed = before.busDestroyed
  outcomes : ∀ other, other ≠ channelId →
    after.redisOutcomes (some other) = before.redisOutcomes (some other)

section

variable {socket : SocketId} {channelId : JsString} {first second : List ServerMessage}
  {before middle after world : World} {ref : StateRef}

theorem Carries.trans (left : Carries socket channelId first before middle)
    (right : Carries socket channelId second middle after) :
    Carries socket channelId (first ++ second) before after where
  connected := right.connected.trans left.connected
  inbox := by rw [right.inbox, left.inbox, append_assoc]
  streams := right.streams.trans left.streams
  destroyed := right.destroyed.trans left.destroyed
  outcomes other different := (right.outcomes other different).trans (left.outcomes other different)

theorem carries_afterCommands (count : Nat) (world : World) :
    Carries socket channelId [] world (world.afterCommands (some channelId) count) where
  connected := rfl
  inbox := (append_nil _).symm
  streams := rfl
  destroyed := rfl
  outcomes _ different := Function.update_of_ne (fun same => different (Option.some.inj same)) ..

theorem carries_emit (connected : (world.sockets socket).connected = true)
    (message : ServerMessage) :
    Carries socket channelId [message] world (world.emit socket message) := by
  unfold World.emit
  rw [if_pos connected]
  refine ⟨?_, ?_, rfl, rfl, fun _ _ => rfl⟩
  · rw [sockets_setSocket_self]
  · rw [sockets_setSocket_self]

theorem carries_setSocket {record : SocketRecord}
    (connected : record.connected = (world.sockets socket).connected)
    (inbox : record.inbox = (world.sockets socket).inbox) :
    Carries socket channelId [] world (world.setSocket socket record) := by
  refine ⟨?_, ?_, rfl, rfl, fun _ _ => rfl⟩
  · rw [sockets_setSocket_self, connected]
  · rw [sockets_setSocket_self, inbox, append_nil]

/-- A step that leaves the sockets, the streams and their commands alone. -/
theorem carries_of_eq (sockets : after.sockets = world.sockets)
    (streams : after.streams = world.streams) (destroyed : after.busDestroyed = world.busDestroyed)
    (outcomes : after.redisOutcomes = world.redisOutcomes) :
    Carries socket channelId [] world after :=
  ⟨by rw [sockets], by rw [sockets, append_nil], streams, destroyed, fun _ _ => by rw [outcomes]⟩

theorem carries_rejoin (world : World) :
    Carries ref.socket channelId [] world (world.rejoin ref channelId).2 := by
  have joined : Carries ref.socket channelId [] world (world.join ref.socket channelId) := by
    unfold World.join
    dsimp only
    split
    · exact carries_setSocket rfl rfl
    · exact carries_of_eq rfl rfl rfl rfl
  exact joined.trans (carries_of_eq rfl rfl rfl rfl)

theorem redisOutcomes_rejoin (world : World) :
    (world.rejoin ref channelId).2.redisOutcomes = world.redisOutcomes := by
  unfold World.rejoin World.join
  dsimp only
  split <;> rfl

theorem carries_createState (userId : JsString) (world : World) :
    Carries ref.socket channelId [] world (world.createState ref userId) := by
  have counted : Carries ref.socket channelId [] world
      ({ world with allocated := world.allocated + 1 }.setState ref ⟨userId, [], .online, false⟩) :=
    carries_of_eq rfl rfl rfl rfl
  exact counted.trans (carries_setSocket rfl rfl)

theorem carries_establish (userId : JsString) (world : World) :
    Carries socket channelId [] world (world.establish socket userId) := by
  have state : Carries socket channelId [] world (world.getOrCreateState socket userId) := by
    unfold World.getOrCreateState
    dsimp only
    split
    · exact carries_of_eq rfl rfl rfl rfl
    · have created : Carries (world.stateRef socket).socket channelId [] world
          (world.createState (world.stateRef socket) userId) := carries_createState userId world
      exact created
  exact state.trans (carries_setSocket rfl rfl)

theorem carries_broadcastPresence (channels : List JsString) (world : World) :
    Carries socket channelId [] world (world.broadcastPresenceToChannels ref channels) := by
  unfold World.broadcastPresenceToChannels
  dsimp only
  split
  · exact carries_of_eq rfl rfl rfl rfl
  · exact carries_of_eq rfl rfl rfl rfl

theorem run_replayChannel (deployment : Deployment) (eventId : JsString)
    (connected : (world.sockets socket).connected = true) :
    ∃ after, (replayChannel socket channelId eventId).run (handle deployment) world =
        some (.ok true, after) ∧
      Carries socket channelId (messagesFor world (channelId, eventId)) world after := by
  obtain ⟨count, ran⟩ := run_replay deployment channelId eventId world
  have commands : Carries socket channelId [] world
      (world.afterCommands (some channelId) count) := carries_afterCommands count world
  unfold messagesFor replayMessages
  dsimp only
  generalize replayed world.busDestroyed (world.streams channelId)
    (world.redisOutcomes (some channelId)) eventId = events at ran ⊢
  by_cases nothing : events.isEmpty = true
  · refine ⟨world.afterCommands (some channelId) count,
      Proc.run_tryCatch_ok (handle deployment) ?_, ?_⟩
    · rw [Proc.run_bind_ok (handle deployment) ran, if_pos nothing]
      rfl
    · rw [if_pos nothing]
      exact commands
  · have emitted : Carries socket channelId
        [.replay channelId events (MAX_REPLAY_EVENTS ≤ events.length)]
        (world.afterCommands (some channelId) count)
        ((world.afterCommands (some channelId) count).emit socket
          (.replay channelId events (MAX_REPLAY_EVENTS ≤ events.length))) :=
      carries_emit (by exact connected) _
    refine ⟨(world.afterCommands (some channelId) count).emit socket
      (.replay channelId events (MAX_REPLAY_EVENTS ≤ events.length)),
      Proc.run_tryCatch_ok (handle deployment) ?_, ?_⟩
    · rw [Proc.run_bind_ok (handle deployment) ran, if_neg nothing]
      rfl
    · rw [if_neg nothing]
      exact commands.trans emitted

/-- What is sent for the other channels stays as it is. -/
theorem Carries.messagesFor (carries : Carries socket channelId first before after)
    {cursor : JsString × JsString} (different : cursor.1 ≠ channelId) :
    messagesFor after cursor = messagesFor before cursor := by
  unfold Gateway.messagesFor
  rw [carries.streams, carries.destroyed, carries.outcomes _ different]

/-- The resume goes through its channels one after the other. -/
theorem run_replayChannels (deployment : Deployment) (ref : StateRef)
    {cursors : List (JsString × JsString)} (distinct : (cursors.map Prod.fst).Nodup)
    (report : ResumeReport) {world : World}
    (connected : (world.sockets ref.socket).connected = true) :
    ∃ final after, (replayChannels ref cursors report).run (handle deployment) world =
        some (.ok final, after) ∧ final.channels = report.channels ++ cursors.map Prod.fst ∧
      final.gapTooLarge = report.gapTooLarge ∧ (after.sockets ref.socket).connected = true ∧
      (after.sockets ref.socket).inbox =
        (world.sockets ref.socket).inbox ++ cursors.flatMap (messagesFor world) := by
  induction cursors generalizing report world with
  | nil => exact ⟨report, world, rfl, (append_nil _).symm, rfl, connected, (append_nil _).symm⟩
  | cons cursor cursors ih =>
    obtain ⟨channelId, eventId⟩ := cursor
    obtain ⟨absent, distinct⟩ := nodup_cons.mp distinct
    have rejoined : Carries ref.socket channelId [] world (world.rejoin ref channelId).2 :=
      carries_rejoin world
    have still : ((world.rejoin ref channelId).2.sockets ref.socket).connected = true :=
      rejoined.connected.trans connected
    obtain ⟨middle, ran, carried⟩ := run_replayChannel deployment eventId still
    have both := rejoined.trans carried
    obtain ⟨final, after, rest, channels, gaps, alive, inbox⟩ :=
      ih distinct (report.add channelId (world.rejoin ref channelId).1 true)
        (both.connected.trans connected)
    refine ⟨final, after, ?_, ?_, gaps, alive, ?_⟩
    · refine Eq.trans ?_ rest
      exact Proc.run_bind_ok (handle deployment) ran
    · rw [channels]
      exact append_assoc ..
    · have same : messagesFor (world.rejoin ref channelId).2 (channelId, eventId) =
          messagesFor world (channelId, eventId) := by
        unfold messagesFor
        rw [rejoined.streams, rejoined.destroyed, redisOutcomes_rejoin]
      have others : cursors.flatMap (messagesFor middle) = cursors.flatMap (messagesFor world) := by
        apply flatMap_congr
        intro other member
        apply both.messagesFor
        rintro rfl
        exact absent (mem_map.mpr ⟨other, member, rfl⟩)
      rw [inbox, both.inbox, nil_append, same, others, append_assoc]
      rfl

/-- Alone, a resume replays the granted channels and then reports them all as complete. -/
theorem run_resumeChannels (deployment : Deployment) (userId : JsString)
    {cursors : List (JsString × JsString)} (distinct : (cursors.map Prod.fst).Nodup) {world : World}
    (connected : (world.sockets socket).connected = true) :
    ∃ after, (resumeChannels socket userId cursors).run (handle deployment) world =
        some (.ok (), after) ∧ (after.sockets socket).inbox = (world.sockets socket).inbox ++
        (grantedCursors world userId cursors).flatMap (messagesFor world) ++
        [.resumeComplete ((grantedCursors world userId cursors).map Prod.fst) []] := by
  have established : ∀ channelId, Carries socket channelId [] world (world.establish socket userId) :=
    fun channelId => carries_establish userId world
  have distinct' : ((grantedCursors world userId cursors).map Prod.fst).Nodup :=
    distinct.sublist (filter_sublist.map Prod.fst)
  have same : (grantedCursors world userId cursors).flatMap
      (messagesFor (world.establish socket userId)) =
      (grantedCursors world userId cursors).flatMap (messagesFor world) := by
    apply flatMap_congr
    intro cursor _
    exact (established (0 :: cursor.1)).messagesFor (ne_cons_self)
  obtain ⟨final, after, ran, channels, gaps, alive, inbox⟩ :=
    run_replayChannels deployment (world.stateRef socket) distinct' ⟨[], [], []⟩
      ((established []).connected.trans connected)
  have announced : Carries socket [] [] after
      (after.broadcastPresenceToChannels (world.stateRef socket) final.rejoined) :=
    carries_broadcastPresence final.rejoined after
  have completed : Carries socket [] [.resumeComplete final.channels final.gapTooLarge]
      (after.broadcastPresenceToChannels (world.stateRef socket) final.rejoined) _ :=
    carries_emit (announced.connected.trans alive) _
  refine ⟨(after.broadcastPresenceToChannels (world.stateRef socket) final.rejoined).emit socket
    (.resumeComplete final.channels final.gapTooLarge), ?_, ?_⟩
  · exact Proc.run_bind_ok (handle deployment) ran
  · have start := (established []).inbox
    have finish := (announced.trans completed).inbox
    rw [append_nil] at start
    rw [nil_append] at finish
    have sent : (after.sockets socket).inbox = (world.sockets socket).inbox ++
        (grantedCursors world userId cursors).flatMap (messagesFor world) := by
      rw [← same, ← start]
      exact inbox
    rw [finish, sent, channels, gaps]
    rfl

end

/-! ## Honesty -/

/-- The client's cursor is in the stream, and the events after it were sent: up to the
limit, and with `hasMore` when there are more. -/
def CaughtUp (stream : Stream) (channelId eventId : JsString) (sent : List ServerMessage) : Prop :=
  ∃ earlier entry later, stream.entries = earlier ++ entry :: later ∧
    entry.holds eventId = true ∧
    (eventsOf later = [] ∨ ∃ events hasMore, .replay channelId events hasMore ∈ sent ∧
      Covers events later MAX_REPLAY_EVENTS ∧
      (MAX_REPLAY_EVENTS < (eventsOf later).length → hasMore = true))

/-- A resume lists a channel as complete only when the client is caught up on it, and as
one to reload whenever it is not. -/
def Honest (stream : Stream) (channelId eventId : JsString) (sent : List ServerMessage)
    (channels gapTooLarge : List JsString) : Prop :=
  (channelId ∈ channels → CaughtUp stream channelId eventId sent) ∧
    (¬ CaughtUp stream channelId eventId sent → channelId ∈ gapTooLarge)

/-- The reads of a replay succeed and reach every event that is to be sent. The cursor
is found when its entry is in one of the five newest batches: then the events after it
are read, and none is crowded out by unreadable entries. Else the stream is read from its
start, and that must reach all of them. -/
def Reads (stream : Stream) (outcomes : List Bool) (eventId : JsString)
    (earlier later : List StreamEntry) : Prop :=
  match stream.batchOf eventId 5 none with
  | some index => Succeed outcomes (index + 2) ∧
      ((∀ entry ∈ later.take MAX_REPLAY_EVENTS, entry.event.isSome = true) ∨
        eventsOf (later.drop MAX_REPLAY_EVENTS) = [])
  | none => Succeed outcomes (min ((stream.batches 5 none).length + 1) 5 + 1) ∧
      eventsOf (later.drop (MAX_REPLAY_EVENTS - (earlier.length + 1))) = []

/-- The cursor is in the stream, and nothing has followed it, or the channel is granted
and a replay reads what has. -/
def Resumable (granted destroyed : Bool) (stream : Stream) (outcomes : List Bool)
    (eventId : JsString) : Prop :=
  ∃ earlier entry later, stream.entries = earlier ++ entry :: later ∧
    entry.holds eventId = true ∧
    (eventsOf later = [] ∨
      granted = true ∧ destroyed = false ∧ Reads stream outcomes eventId earlier later)

section

variable {stream : Stream} {eventId channelId : JsString} {earlier later : List StreamEntry}
  {entry : StreamEntry} {outcomes : List Bool} {destroyed : Bool} {world : World}

theorem Stream.WellFormed.nodup (wellFormed : stream.WellFormed) :
    (eventsOf stream.entries).Nodup :=
  List.Nodup.of_map _ wellFormed.distinct

theorem Stream.WellFormed.nodup_later (wellFormed : stream.WellFormed)
    (split : stream.entries = earlier ++ entry :: later) : (eventsOf later).Nodup := by
  have all := wellFormed.nodup
  rw [split, ← singleton_append, ← append_assoc, eventsOf_append] at all
  exact (nodup_append.mp all).2.1

/-- A replay that covers something has read the stream. -/
theorem replayed_of_covers (some : eventsOf later ≠ [])
    (covers : Covers (replayed destroyed stream outcomes eventId) later MAX_REPLAY_EVENTS) :
    destroyed = false ∧ Succeed outcomes (readsOf stream eventId) := by
  by_contra unread
  rw [replayed, if_neg unread] at covers
  obtain ⟨event, rest, same⟩ := exists_cons_of_ne_nil some
  rw [Covers, same] at covers
  exact absurd (covers event mem_cons_self) not_mem_nil

/-- When a replay covers what follows the cursor. -/
theorem covers_replayed_iff (wellFormed : stream.WellFormed)
    (split : stream.entries = earlier ++ entry :: later) (holds : entry.holds eventId = true)
    (some : eventsOf later ≠ []) :
    Covers (replayed destroyed stream outcomes eventId) later MAX_REPLAY_EVENTS ↔
      destroyed = false ∧ Reads stream outcomes eventId earlier later := by
  have read : Covers (replayed destroyed stream outcomes eventId) later MAX_REPLAY_EVENTS ↔
      (destroyed = false ∧ Succeed outcomes (readsOf stream eventId)) ∧
        Covers (eventsOf (stream.xrange (startOf stream eventId) MAX_REPLAY_EVENTS)) later
          MAX_REPLAY_EVENTS := by
    constructor
    · intro covers
      have succeeded := replayed_of_covers some covers
      rw [replayed, if_pos succeeded] at covers
      exact ⟨succeeded, covers⟩
    · rintro ⟨succeeded, covers⟩
      rwa [replayed, if_pos succeeded]
  rw [read, and_assoc]
  apply and_congr_right
  intro _
  have scanned := scan_eq stream eventId 5 none
  unfold Reads readsOf startOf
  cases batch : stream.batchOf eventId 5 none with
  | some index =>
    rw [batch] at scanned
    obtain ⟨found, member, again, same⟩ := scanned
    obtain ⟨before, after, split'⟩ := append_of_mem member
    obtain ⟨rfl, rfl, rfl⟩ := wellFormed.split_unique split holds split' again
    rw [same, wellFormed.xrange split, covers_take_iff (wellFormed.nodup_later split)]
  | none =>
    rw [batch] at scanned
    dsimp only at scanned
    have all := wellFormed.nodup
    rw [split] at all
    have whole : stream.xrange none MAX_REPLAY_EVENTS =
        (earlier ++ entry :: later).take MAX_REPLAY_EVENTS := by
      rw [← split, Stream.xrange]
      simp only [Option.all_none, filter_true]
    rw [scanned, whole, covers_start_iff all (by decide)]

/-- When many events follow the cursor and a replay covers the first of them, it is full. -/
theorem full_of_covers {events : List VortexEvent} {limit : Nat} (distinct : (eventsOf later).Nodup)
    (covers : Covers events later limit) (many : limit < (eventsOf later).length) :
    limit ≤ events.length := by
  have within : ((eventsOf later).take limit).length ≤ events.length :=
    (subperm_of_subset (distinct.sublist (take_sublist ..)) covers).length_le
  rwa [length_take, Nat.min_eq_left (Nat.le_of_lt many)] at within

/-- The events of a channel that a resume sends are those of the replay after its cursor. -/
theorem replay_sent_iff {userId : JsString} {cursors : List (JsString × JsString)}
    (distinct : (cursors.map Prod.fst).Nodup) (requested : (channelId, eventId) ∈ cursors)
    {events : List VortexEvent} {hasMore : Bool} :
    .replay channelId events hasMore ∈
        (grantedCursors world userId cursors).flatMap (messagesFor world) ↔
      (world.checkChannelAccess userId (cursors.map Prod.fst)).contains channelId = true ∧
        ServerMessage.replay channelId events hasMore ∈ messagesFor world (channelId, eventId) := by
  constructor
  · intro sent
    obtain ⟨cursor, member, message⟩ := mem_flatMap.mp sent
    obtain ⟨known, granted⟩ := mem_filter.mp member
    have same : cursor.1 = channelId := by
      unfold messagesFor replayMessages at message
      split at message
      · cases message
      · cases mem_singleton.mp message
        rfl
    have this : cursor = (channelId, eventId) :=
      inj_on_of_nodup_map distinct known requested same
    subst this
    exact ⟨granted, message⟩
  · rintro ⟨granted, message⟩
    exact mem_flatMap.mpr ⟨_, mem_filter.mpr ⟨requested, granted⟩, message⟩

/-- The report of a resume on one of its cursors is right when the cursor is resumable. -/
theorem honest_iff {userId : JsString} {cursors : List (JsString × JsString)}
    (distinct : (cursors.map Prod.fst).Nodup) (requested : (channelId, eventId) ∈ cursors)
    (wellFormed : (world.streams channelId).WellFormed) :
    Honest (world.streams channelId) channelId eventId
        ((grantedCursors world userId cursors).flatMap (messagesFor world))
        ((grantedCursors world userId cursors).map Prod.fst) [] ↔
      Resumable ((world.checkChannelAccess userId (cursors.map Prod.fst)).contains channelId)
        world.busDestroyed (world.streams channelId) (world.redisOutcomes (some channelId))
        eventId := by
  have caught : ∀ stream sent channels, Honest stream channelId eventId sent channels [] ↔
      CaughtUp stream channelId eventId sent := by
    intro stream sent channels
    refine ⟨fun honest => ?_, fun caught => ⟨fun _ => caught, fun behind => absurd caught behind⟩⟩
    by_contra behind
    exact absurd (honest.2 behind) not_mem_nil
  rw [caught]
  unfold CaughtUp Resumable
  refine exists_congr fun earlier => exists_congr fun entry => exists_congr fun later => ?_
  apply and_congr_right
  intro split
  apply and_congr_right
  intro holds
  by_cases nothing : eventsOf later = []
  · exact ⟨fun _ => .inl nothing, fun _ => .inl nothing⟩
  · rw [or_iff_right nothing, or_iff_right nothing,
      ← covers_replayed_iff wellFormed split holds nothing]
    constructor
    · rintro ⟨events, hasMore, sent, covers, -⟩
      obtain ⟨granted, message⟩ := (replay_sent_iff distinct requested).mp sent
      unfold messagesFor replayMessages at message
      split at message
      · cases message
      · cases mem_singleton.mp message
        exact ⟨granted, covers⟩
    · rintro ⟨granted, covers⟩
      refine ⟨_, MAX_REPLAY_EVENTS ≤ (replayed world.busDestroyed (world.streams channelId)
        (world.redisOutcomes (some channelId)) eventId).length,
        (replay_sent_iff distinct requested).mpr ⟨granted, ?_⟩, covers, ?_⟩
      · unfold messagesFor replayMessages
        split
        · rename_i empty
          rw [List.isEmpty_iff.mp empty, Covers] at covers
          obtain ⟨event, rest, same⟩ := exists_cons_of_ne_nil nothing
          rw [same] at covers
          exact absurd (covers event mem_cons_self) not_mem_nil
        · exact mem_singleton_self _
      · intro many
        exact decide_eq_true (full_of_covers (wellFormed.nodup_later split) covers many)

end

/-- The run of a resume handler that was let through, and the report that ends it: it
returns, and what it sends ends with a report that is honest on a cursor. -/
def ReportsHonestly (deployment : Deployment) (socket : SocketId) (data : Option Json)
    (world : World) (channelId eventId : JsString) : Prop :=
  ∃ after sent channels gapTooLarge,
    (resumeAs socket data).run (handle deployment) world = some (.ok (), after) ∧
      (after.sockets socket).inbox =
        (world.sockets socket).inbox ++ sent ++ [.resumeComplete channels gapTooLarge] ∧
      Honest (world.streams channelId) channelId eventId sent channels gapTooLarge

/-- The cursors that a resume asks for. -/
def cursorsIn (data : Option Json) : List (JsString × JsString) :=
  cursorsOf (objectEntries ((property data (js "channels")).getD .null))

/-- A connected socket with a session asks for at most 100 channels. -/
structure Resumes (socket : SocketId) (userId : JsString) (data : Option Json) (world : World) :
    Prop where
  connected : (world.sockets socket).connected = true
  signed : ((world.sockets socket).session.map SessionEntry.userId).filter
    (fun userId => !userId.isEmpty) = some userId
  asked : isObject (property data (js "channels")) = true
  few : (objectEntries ((property data (js "channels")).getD .null)).length ≤ 100

section

variable {deployment : Deployment} {socket : SocketId} {userId : JsString} {data : Option Json}
  {world : World}

theorem run_resumeAs (resumes : Resumes socket userId data world) :
    (resumeAs socket data).run (handle deployment) world =
      (resumeChannels socket userId (cursorsIn data)).run (handle deployment) world := by
  have session : (getSessionUserId socket).run (handle deployment) world =
      some (.ok (some userId), world) := by
    rw [← resumes.signed]
    rfl
  unfold resumeAs
  rw [Proc.run_bind_ok (handle deployment) session]
  dsimp only
  rw [resumes.asked, if_neg (by decide), if_neg (Nat.not_lt.mpr resumes.few)]
  rfl

/-- A resume reports the granted channels as complete, and none as one to reload. -/
theorem reportsHonestly_iff (resumes : Resumes socket userId data world)
    {channelId eventId : JsString} :
    ReportsHonestly deployment socket data world channelId eventId ↔
      Honest (world.streams channelId) channelId eventId
        ((grantedCursors world userId (cursorsIn data)).flatMap (messagesFor world))
        ((grantedCursors world userId (cursorsIn data)).map Prod.fst) [] := by
  have distinct : ((cursorsIn data).map Prod.fst).Nodup :=
    cursorsOf_nodup (objectEntries_nodup _)
  obtain ⟨after, ran, inbox⟩ :=
    run_resumeChannels deployment userId distinct resumes.connected
  rw [← run_resumeAs resumes] at ran
  constructor
  · rintro ⟨final, sent, channels, gapTooLarge, again, received, honest⟩
    rw [ran] at again
    cases again
    rw [inbox, append_assoc, append_assoc] at received
    obtain ⟨rfl, report⟩ := append_inj' (append_cancel_left received) rfl
    cases report
    exact honest
  · exact fun honest => ⟨after, _, _, _, ran, inbox, honest⟩

/-- For every cursor of a resume, every stream and all outcomes of its reads, the report
is honest exactly when the cursor is resumable. -/
theorem resume_honest_iff (resumes : Resumes socket userId data world)
    {channelId eventId : JsString} (requested : (channelId, eventId) ∈ cursorsIn data)
    (wellFormed : (world.streams channelId).WellFormed) :
    ReportsHonestly deployment socket data world channelId eventId ↔
      Resumable ((world.checkChannelAccess userId ((cursorsIn data).map Prod.fst)).contains channelId)
        world.busDestroyed (world.streams channelId) (world.redisOutcomes (some channelId))
        eventId :=
  (reportsHonestly_iff resumes).trans
    (honest_iff (cursorsOf_nodup (objectEntries_nodup _)) requested wellFormed)

end

namespace Sample

/-- An event of the channel. -/
def posted (id : JsString) : VortexEvent :=
  ⟨id, js "message.created", js "dm", none, js "alice", 0, .null⟩

/-- A channel with two events. -/
def stream : Stream :=
  ⟨[⟨⟨1, 0⟩, some (posted (js "first"))⟩, ⟨⟨2, 0⟩, some (posted (js "second"))⟩], 0⟩

/-- A socket of a member of the channel, with the outcomes of its next commands. -/
def resuming (outcomes : List Bool) : World :=
  { World.blank with
    connections := 1
    sockets := fun _ =>
      { SocketRecord.fresh with connected := true, session := some ⟨0, js "alice", 1⟩ }
    members := [(js "dm", js "alice")]
    streams := fun _ => stream
    redisOutcomes := fun _ => outcomes }

/-- A resume after the first event. -/
def resumeData : Option Json :=
  some (.obj [(js "channels", .obj [(js "dm", .str (js "first"))])])

theorem resumes (outcomes : List Bool) :
    Resumes 0 (js "alice") resumeData (resuming outcomes) where
  connected := rfl
  signed := by rfl
  asked := by decide
  few := by decide +kernel

theorem wellFormed : stream.WellFormed where
  ordered := by decide
  distinct := by decide

theorem requested : (js "dm", js "first") ∈ cursorsIn resumeData := by decide +kernel

end Sample

/-- Both events are in the newest batch and both reads succeed. -/
theorem resume_honest_iff_sample :
    ReportsHonestly Sample.deployment 0 Sample.resumeData (Sample.resuming []) (js "dm")
      (js "first") := by
  apply (resume_honest_iff (Sample.resumes []) Sample.requested Sample.wellFormed).mpr
  exact ⟨[], _, _, rfl, by decide, .inr ⟨by decide +kernel, rfl, by decide, .inl (by decide)⟩⟩

/-- When a read fails, the channel is reported as complete and nothing is sent. -/
theorem failed_read_reported_complete :
    ¬ ∀ (deployment : Deployment) (socket : SocketId) (userId : JsString) (data : Option Json)
      (world : World) (channelId eventId : JsString), Resumes socket userId data world →
      (channelId, eventId) ∈ cursorsIn data → (world.streams channelId).WellFormed →
      ReportsHonestly deployment socket data world channelId eventId := by
  intro honest
  have reported := (reportsHonestly_iff (Sample.resumes [false])).mp
    (honest Sample.deployment 0 (js "alice") Sample.resumeData (Sample.resuming [false]) (js "dm")
      (js "first") (Sample.resumes [false]) Sample.requested Sample.wellFormed)
  have nothing : (grantedCursors (Sample.resuming [false]) (js "alice")
      (cursorsIn Sample.resumeData)).flatMap (messagesFor (Sample.resuming [false])) = [] :=
    List.eq_nil_of_length_eq_zero (by decide +kernel)
  rw [nothing] at reported
  obtain ⟨earlier, entry, later, split, holds, rest⟩ := reported.1 (by decide +kernel)
  have first : Sample.stream.entries = [] ++ _ := rfl
  obtain ⟨rfl, rfl, rfl⟩ := Sample.wellFormed.split_unique split holds first (by decide)
  rcases rest with ended | ⟨events, hasMore, sent, -⟩
  · cases ended
  · cases sent

end Vortex.Gateway
