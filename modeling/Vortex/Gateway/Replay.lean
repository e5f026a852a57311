import Vortex.Gateway.Resume

/-!
# What a replay returns

A replay is to return the first events after its cursor, or the newest ones when the cursor
is not in the stream. `replay_exact_iff` says on which streams it does: the cursor must be in
one of the five batches that are scanned for it, unreadable entries must crowd nothing out,
and for a cursor that is not there the stream must fit into one read, which starts at its
oldest entry.
-/

namespace Vortex.Gateway

open Foundation List

/-- The events a replay is to return. -/
structure Stream.Replays (stream : Stream) (afterEventId : JsString) (limit : Nat)
    (events : List VortexEvent) : Prop where
  found : ∀ earlier entry later, stream.entries = earlier ++ entry :: later →
    entry.holds afterEventId = true → events = (eventsOf later).take limit
  missing : (∀ entry ∈ stream.entries, entry.holds afterEventId = false) →
    events = (eventsOf stream.entries).drop ((eventsOf stream.entries).length - limit)

/-- A replay returns what it is to return. -/
def ReplaysExactly (deployment : Deployment) (channelId afterEventId : JsString) (limit : Nat)
    (world : World) : Prop :=
  ∃ events after, (EventBus.replay channelId afterEventId limit).run (handle deployment) world =
      some (.ok events, after) ∧
    (world.streams channelId).Replays afterEventId limit events

/-- The commands of a replay are answered. -/
structure ReplayAnswered (world : World) (channelId afterEventId : JsString) : Prop where
  alive : world.busDestroyed = false
  succeed : Succeed (world.redisOutcomes (some channelId))
    (readsOf (world.streams channelId) afterEventId)

/-- The scan reaches the cursor, and no event is crowded out by unreadable entries. A cursor
that the scan does not reach does no harm if nothing readable is read or wanted, one that is
not in the stream if the whole stream is read. -/
structure Stream.Suits (stream : Stream) (afterEventId : JsString) (limit : Nat) : Prop where
  found : ∀ earlier entry later, stream.entries = earlier ++ entry :: later →
    entry.holds afterEventId = true →
      if (stream.batchOf afterEventId 5 none).isSome then
        (∀ entry ∈ later.take limit, entry.event.isSome = true) ∨ eventsOf (later.drop limit) = []
      else eventsOf ((earlier ++ [entry]).take limit) = [] ∧ eventsOf later = []
  missing : (∀ entry ∈ stream.entries, entry.holds afterEventId = false) →
    eventsOf (stream.entries.drop limit) = []

section

variable {stream : Stream} {afterEventId channelId : JsString} {limit : Nat}
  {earlier later : List StreamEntry} {entry : StreamEntry} {world : World}

theorem run_replay_of_answered (deployment : Deployment)
    (answered : ReplayAnswered world channelId afterEventId) (limit : Nat) :
    ∃ after, (EventBus.replay channelId afterEventId limit).run (handle deployment) world =
      some (.ok (eventsOf ((world.streams channelId).xrange
        (startOf (world.streams channelId) afterEventId) limit)), after) := by
  have asked : (EventBus.replay channelId afterEventId limit).run (handle deployment) world =
      (if world.busDestroyed then pure [] else
        tryCatch (EventBus.readAfter channelId afterEventId limit)
          fun _ => pure [] : Proc gateway Unit (List VortexEvent)).run (handle deployment) world := rfl
  obtain ⟨count, ran⟩ := run_readAfter deployment channelId afterEventId limit world
  rw [if_pos answered.succeed] at ran
  rw [asked, answered.alive]
  exact ⟨_, Proc.run_tryCatch_ok (handle deployment) ran⟩

/-- The first readable entries are the first entries when all of these are readable or no
readable one is left. -/
theorem eventsOf_take_iff (distinct : (eventsOf later).Nodup) :
    eventsOf (later.take limit) = (eventsOf later).take limit ↔
      (∀ entry ∈ later.take limit, entry.event.isSome = true) ∨
        eventsOf (later.drop limit) = [] := by
  constructor
  · intro same
    refine (covers_take_iff distinct).mp fun event member => ?_
    rwa [same]
  · intro readable
    have few : (eventsOf (later.take limit)).length ≤ limit :=
      Nat.le_trans (length_eventsOf_le _) (length_take_le _ _)
    rw [eventsOf_take_drop later limit, take_append, take_of_length_le few]
    refine (append_right_eq_self.mpr ?_).symm
    rcases readable with all | nothing
    · by_cases short : later.length ≤ limit
      · have none : eventsOf (later.drop limit) = [] := by rw [drop_eq_nil_of_le short]; rfl
        rw [none, take_nil]
      · rw [length_eventsOf_of_readable all, length_take, Nat.min_eq_left (by omega),
          Nat.sub_self, take_zero]
    · rw [nothing, take_nil]

/-- The oldest entries hold the newest events when nothing readable is left. -/
theorem eventsOf_oldest_iff {entries : List StreamEntry} (distinct : (eventsOf entries).Nodup)
    (positive : 0 < limit) :
    eventsOf (entries.take limit) = (eventsOf entries).drop ((eventsOf entries).length - limit) ↔
      eventsOf (entries.drop limit) = [] := by
  have parts := eventsOf_take_drop entries limit
  constructor
  · intro same
    cases left : eventsOf (entries.drop limit) with
    | nil => rfl
    | cons first rest =>
      -- The last event is left out and yet among those read.
      rw [left] at parts
      have last : (eventsOf entries).getLast? = (first :: rest).getLast? := by
        rw [parts, getLast?_append_cons]
      have read : (eventsOf (entries.take limit)).getLast? = (first :: rest).getLast? := by
        have more : ¬(eventsOf entries).length ≤ (eventsOf entries).length - limit := by
          rw [parts, length_append, length_cons]
          omega
        rw [same, getLast?_drop, if_neg more, last]
      obtain ⟨event, ends⟩ : ∃ event, (first :: rest).getLast? = some event :=
        ⟨_, getLast?_eq_some_getLast (cons_ne_nil first rest)⟩
      rw [parts] at distinct
      exact absurd rfl ((nodup_append.mp distinct).2.2 event
        (mem_of_getLast? (read.trans ends)) event (mem_of_getLast? ends))
  · intro nothing
    have few : (eventsOf (entries.take limit)).length ≤ limit :=
      Nat.le_trans (length_eventsOf_le _) (length_take_le _ _)
    rw [nothing, append_nil] at parts
    rw [parts, Nat.sub_eq_zero_of_le few, drop_zero]

/-- A stream read from its start has what follows a cursor only if there is nothing to read
and nothing to return. -/
theorem eventsOf_start_iff (distinct : (eventsOf (earlier ++ entry :: later)).Nodup)
    (readable : entry.event.isSome = true) (positive : 0 < limit) :
    eventsOf ((earlier ++ entry :: later).take limit) = (eventsOf later).take limit ↔
      eventsOf ((earlier ++ [entry]).take limit) = [] ∧ eventsOf later = [] := by
  have longer : earlier ++ entry :: later = (earlier ++ [entry]) ++ later := by
    rw [append_assoc, singleton_append]
  rw [longer] at distinct ⊢
  rw [take_append, eventsOf_append]
  constructor
  · intro same
    have before : eventsOf ((earlier ++ [entry]).take limit) = [] := by
      cases first : eventsOf ((earlier ++ [entry]).take limit) with
      | nil => rfl
      | cons event rest =>
        -- The first event read would be one of those after the cursor.
        rw [first, cons_append] at same
        have inside : event ∈ eventsOf later :=
          mem_of_mem_take (same ▸ mem_cons_self)
        have outside : event ∈ eventsOf (earlier ++ [entry]) := by
          rw [eventsOf_take_drop (earlier ++ [entry]) limit, first]
          exact mem_append_left _ mem_cons_self
        rw [eventsOf_append] at distinct
        exact absurd rfl ((nodup_append.mp distinct).2.2 event outside event inside)
    have short : limit ≤ earlier.length := by
      by_contra long
      have within : entry ∈ (earlier ++ [entry]).take limit := by
        rw [take_of_length_le (by rw [length_append, length_singleton]; omega)]
        exact mem_append_right _ mem_cons_self
      obtain ⟨event, read⟩ := Option.isSome_iff_exists.mp readable
      have listed := mem_eventsOf.mpr ⟨entry, within, read⟩
      rw [before] at listed
      cases listed
    have rest : limit - (earlier ++ [entry]).length = 0 := by
      rw [length_append]
      omega
    rw [before, rest, take_zero] at same
    refine ⟨before, ?_⟩
    rcases take_eq_nil_iff.mp same.symm with zero | nothing
    · omega
    · exact nothing
  · rintro ⟨before, nothing⟩
    have none : eventsOf (later.take (limit - (earlier ++ [entry]).length)) = [] := by
      rw [eventsOf_take_drop later, append_eq_nil_iff] at nothing
      exact nothing.1
    rw [before, none, nothing, take_nil]
    rfl

/-- What is read of a stream is what a replay is to return. -/
theorem Stream.WellFormed.replays_iff (wellFormed : stream.WellFormed) :
    stream.Replays afterEventId limit
        (eventsOf (stream.xrange (startOf stream afterEventId) limit)) ↔
      limit = 0 ∨ stream.Suits afterEventId limit := by
  by_cases zero : limit = 0
  · subst zero
    have nothing : ∀ start, eventsOf (stream.xrange start 0) = [] := fun _ => rfl
    refine iff_of_true ⟨?_, ?_⟩ (.inl rfl)
    · intro earlier entry later split holds
      rw [nothing, take_zero]
    · intro absent
      rw [nothing, Nat.sub_zero, drop_length]
  rw [or_iff_right zero]
  have positive : 0 < limit := Nat.pos_of_ne_zero zero
  have scanned := scan_eq stream afterEventId 5 none
  have whole : stream.xrange none limit = stream.entries.take limit := by
    simp only [Stream.xrange, Option.all_none, filter_true]
  have distinct := wellFormed.nodup
  have foundThere : ∀ earlier entry later, stream.entries = earlier ++ entry :: later →
      entry.holds afterEventId = true →
        (eventsOf (stream.xrange (startOf stream afterEventId) limit) = (eventsOf later).take limit ↔
          if (stream.batchOf afterEventId 5 none).isSome then
            (∀ entry ∈ later.take limit, entry.event.isSome = true) ∨
              eventsOf (later.drop limit) = []
          else eventsOf ((earlier ++ [entry]).take limit) = [] ∧ eventsOf later = []) := by
    intro earlier entry later split holds
    unfold startOf
    cases batch : stream.batchOf afterEventId 5 none with
    | some index =>
      rw [batch] at scanned
      obtain ⟨found, member, again, same⟩ := scanned
      obtain ⟨before, after, split'⟩ := append_of_mem member
      obtain ⟨rfl, rfl, rfl⟩ := wellFormed.split_unique split holds split' again
      rw [same, wellFormed.xrange split, if_pos Option.isSome_some,
        eventsOf_take_iff (wellFormed.nodup_later split)]
    | none =>
      rw [batch] at scanned
      dsimp only at scanned
      obtain ⟨event, read, -⟩ := event_of_holds holds
      rw [split] at distinct whole
      rw [scanned, whole, if_neg (by decide),
        eventsOf_start_iff distinct (Option.isSome_iff_exists.mpr ⟨event, read⟩) positive]
  have missing : (∀ entry ∈ stream.entries, entry.holds afterEventId = false) →
      (eventsOf (stream.xrange (startOf stream afterEventId) limit) =
          (eventsOf stream.entries).drop ((eventsOf stream.entries).length - limit) ↔
        eventsOf (stream.entries.drop limit) = []) := by
    intro absent
    unfold startOf
    cases batch : stream.batchOf afterEventId 5 none with
    | some index =>
      rw [batch] at scanned
      obtain ⟨found, member, again, -⟩ := scanned
      rw [absent found member] at again
      cases again
    | none =>
      rw [batch] at scanned
      dsimp only at scanned
      rw [scanned, whole, eventsOf_oldest_iff distinct positive]
  constructor
  · rintro ⟨found, none⟩
    exact ⟨fun earlier entry later split holds =>
      (foundThere earlier entry later split holds).mp (found earlier entry later split holds),
      fun absent => (missing absent).mp (none absent)⟩
  · rintro ⟨found, none⟩
    exact ⟨fun earlier entry later split holds =>
      (foundThere earlier entry later split holds).mpr (found earlier entry later split holds),
      fun absent => (missing absent).mpr (none absent)⟩

end

/-- A replay returns the events it is to return when it is asked for none or its stream
suits it. -/
theorem replay_exact_iff (deployment : Deployment) {world : World}
    {channelId afterEventId : JsString} (limit : Nat)
    (answered : ReplayAnswered world channelId afterEventId)
    (wellFormed : (world.streams channelId).WellFormed) :
    ReplaysExactly deployment channelId afterEventId limit world ↔
      limit = 0 ∨ (world.streams channelId).Suits afterEventId limit := by
  obtain ⟨after, ran⟩ := run_replay_of_answered deployment answered limit
  rw [← wellFormed.replays_iff]
  constructor
  · rintro ⟨events, after', ran', replays⟩
    rw [ran] at ran'
    cases ran'
    exact replays
  · exact fun replays => ⟨_, after, ran, replays⟩

theorem sample_answered : ReplayAnswered (Sample.resuming []) (js "dm") (js "first") :=
  ⟨rfl, by decide⟩

/-- The second of two events is replayed after the first one. -/
theorem replay_exact_sample :
    ReplaysExactly Sample.deployment (js "dm") (js "first") 1 (Sample.resuming []) := by
  refine (replay_exact_iff Sample.deployment 1 sample_answered Sample.wellFormed).mpr (.inr ?_)
  have first : Sample.stream.entries = [] ++ _ := rfl
  constructor
  · intro earlier entry later split holds
    obtain ⟨rfl, rfl, rfl⟩ := Sample.wellFormed.split_unique split holds first (by decide)
    have reached : (Sample.stream.batchOf (js "first") 5 none).isSome = true := by decide
    exact (if_pos reached).mpr (.inl (by decide))
  · intro absent
    exact absurd (absent _ List.mem_cons_self) (by decide)

/-- After an event that is not in the stream the oldest event is replayed. -/
theorem replay_inexact_sample :
    ¬ReplaysExactly Sample.deployment (js "dm") (js "gone") 1 (Sample.resuming []) := by
  rintro ⟨events, after, ran, replays⟩
  have answered : ReplayAnswered (Sample.resuming []) (js "dm") (js "gone") :=
    ⟨rfl, by decide⟩
  obtain ⟨after', ran'⟩ := run_replay_of_answered Sample.deployment answered 1
  rw [ran'] at ran
  cases ran
  have suits := ((Sample.wellFormed.replays_iff).mp replays).resolve_left (by decide)
  have nothing : eventsOf (Sample.stream.entries.drop 1) = [] := suits.missing (by decide)
  cases nothing

end Vortex.Gateway
