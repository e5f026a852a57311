import Vortex.Foundation.JsMap

/-!
# Memoised computations

A cache of computations that take their time: the one for a key is begun once and handed to whoever
asks for the key, one that fails is struck out some time later, and the oldest makes room when there
are too many. Whatever the order of all this, a computation that comes to an end has the result of
the argument it was begun for, and that argument has the key that was asked for.
-/

namespace Foundation

inductive Progress (Value : Type*)
  | pending
  | resolved (value : Value)
  | rejected (handled : Bool)

/-- A computation, with the argument it was begun for. -/
structure Job (Arg Value : Type*) where
  arg : Arg
  progress : Progress Value

/-- The jobs ever begun, and the keys under which some of them are kept. -/
structure Memo (Arg Key Value : Type*) where
  cache : JsMap Key Nat
  jobs : List (Job Arg Value)

namespace Memo

variable {Arg Key Value : Type*}

def empty : Memo Arg Key Value := ⟨.empty, []⟩

variable [DecidableEq Key] (keyOf : Arg → Key) (capacity : Nat) (compute : Arg → Value)

/-- Where there are too many entries, the oldest one goes. -/
def evict (cache : JsMap Key Nat) : JsMap Key Nat :=
  if capacity < cache.size then
    match cache.keys.head? with
    | none => cache
    | some oldestKey => cache.delete oldestKey
  else cache

/-- The job for an argument: the one that is kept under its key, or a new one. -/
def ask (arg : Arg) (memo : Memo Arg Key Value) : Nat × Memo Arg Key Value :=
  match memo.cache.get? (keyOf arg) with
  | some cached => (cached, memo)
  | none =>
      (memo.jobs.length, ⟨evict capacity (memo.cache.set (keyOf arg) memo.jobs.length),
        memo.jobs ++ [⟨arg, .pending⟩]⟩)

/-- A pending job comes to its end, or fails. -/
def settle (job : Nat) (fails : Bool) (memo : Memo Arg Key Value) :
    Option (Memo Arg Key Value) :=
  match memo.jobs[job]? with
  | some ⟨arg, .pending⟩ =>
      some { memo with
        jobs := memo.jobs.set job
          ⟨arg, if fails then .rejected false else .resolved (compute arg)⟩ }
  | _ => none

/-- The handler of a job that has failed. -/
def handle (job : Nat) (memo : Memo Arg Key Value) : Option (Memo Arg Key Value) :=
  match memo.jobs[job]? with
  | some ⟨arg, .rejected false⟩ =>
      some ⟨memo.cache.delete (keyOf arg), memo.jobs.set job ⟨arg, .rejected true⟩⟩
  | _ => none

/-- The keys lead to jobs of their own, none of which has been struck out, a job that has ended has
the right result, and there are not too many keys. -/
structure Sound (memo : Memo Arg Key Value) : Prop where
  cached : ∀ key job, memo.cache.get? key = some job →
    ∃ entry, memo.jobs[job]? = some entry ∧ keyOf entry.arg = key
  unhandled : ∀ key job, memo.cache.get? key = some job →
    ∀ entry, memo.jobs[job]? = some entry → entry.progress ≠ .rejected true
  resolved : ∀ entry ∈ memo.jobs, ∀ value, entry.progress = .resolved value →
    value = compute entry.arg
  bounded : memo.cache.size ≤ capacity

/-- A job stays what it is, and keeps its result. -/
def Extends (before after : Memo Arg Key Value) : Prop :=
  ∀ (job : Nat) (entry : Job Arg Value), before.jobs[job]? = some entry →
    ∃ later, after.jobs[job]? = some later ∧ later.arg = entry.arg ∧
      ∀ value, entry.progress = .resolved value → later.progress = .resolved value

variable {keyOf capacity compute} {memo after : Memo Arg Key Value} {arg : Arg} {job : Nat}
  {fails : Bool}

omit [DecidableEq Key] in
omit [DecidableEq Key] in
theorem Extends.trans {first second third : Memo Arg Key Value} (left : Extends first second)
    (right : Extends second third) : Extends first third := by
  intro job entry found
  obtain ⟨middle, found, same, kept⟩ := left job entry found
  obtain ⟨last, found, same', kept'⟩ := right job middle found
  exact ⟨last, found, same'.trans same, fun value resolved => kept' value (kept value resolved)⟩

omit [DecidableEq Key] in
/-- A job without a result goes on. -/
theorem extends_set {cache : JsMap Key Nat} {entry : Job Arg Value} {progress : Progress Value}
    (found : memo.jobs[job]? = some entry)
    (unresolved : ∀ value, entry.progress ≠ .resolved value) :
    Extends memo ⟨cache, memo.jobs.set job ⟨entry.arg, progress⟩⟩ := by
  intro other old there
  by_cases same : job = other
  · subst same
    obtain rfl := Option.some.inj (found.symm.trans there)
    have bound := (List.getElem?_eq_some_iff.mp found).1
    exact ⟨_, List.getElem?_set_self bound, rfl, fun value done => absurd done (unresolved value)⟩
  · refine ⟨old, ?_, rfl, fun _ => id⟩
    change (memo.jobs.set job _)[other]? = some old
    rw [List.getElem?_set_ne same, there]

/-! ## What the operations do -/

theorem sound_empty : Sound keyOf capacity compute (empty : Memo Arg Key Value) where
  cached := fun _ _ found => nomatch found
  unhandled := fun _ _ found => nomatch found
  resolved := fun _ member => nomatch member
  bounded := Nat.zero_le capacity

theorem get?_evict {cache : JsMap Key Nat} {key : Key} {value : Nat}
    (found : (evict capacity cache).get? key = some value) : cache.get? key = some value := by
  unfold evict at found
  split at found
  · split at found
    · exact found
    · rw [JsMap.get?_delete] at found
      split at found
      · cases found
      · exact found
  · exact found

theorem size_evict {cache : JsMap Key Nat} (most : cache.size ≤ capacity + 1) :
    (evict capacity cache).size ≤ capacity := by
  unfold evict
  split
  · rename_i more
    cases first : cache.keys.head? with
    | none =>
      have none := List.head?_eq_none_iff.mp first
      rw [← JsMap.length_keys, none] at more
      cases more
    | some oldestKey =>
      have gone := JsMap.size_delete (List.mem_of_mem_head? first)
      dsimp only
      omega
  · rename_i few
    omega

/-- Keys that lead to jobs of their own still do when these stay what they are. -/
theorem Sound.cached_of_extends (sound : Sound keyOf capacity compute memo)
    (extension : Extends memo after) {key : Key} (found : memo.cache.get? key = some job) :
    ∃ entry, after.jobs[job]? = some entry ∧ keyOf entry.arg = key := by
  obtain ⟨entry, there, same⟩ := sound.cached key job found
  obtain ⟨later, there, kept, -⟩ := extension job entry there
  exact ⟨later, there, kept ▸ same⟩

/-- Asking leaves the jobs alone that there are. -/
theorem getElem?_ask (keyOf : Arg → Key) (capacity : Nat) (arg : Arg) {entry : Job Arg Value}
    (found : memo.jobs[job]? = some entry) :
    (memo.ask keyOf capacity arg).2.jobs[job]? = some entry := by
  unfold ask
  split
  · exact found
  · have bound := (List.getElem?_eq_some_iff.mp found).1
    change (memo.jobs ++ [_])[job]? = some entry
    rw [List.getElem?_append_left bound, found]

theorem extends_ask (keyOf : Arg → Key) (capacity : Nat) (arg : Arg)
    (memo : Memo Arg Key Value) : Extends memo (memo.ask keyOf capacity arg).2 :=
  fun _ entry found => ⟨entry, getElem?_ask keyOf capacity arg found, rfl, fun _ => id⟩

/-- Asking leaves everything sound, and gives a job whose argument has the key. -/
theorem Sound.ask (sound : Sound keyOf capacity compute memo) (arg : Arg) :
    Sound keyOf capacity compute (memo.ask keyOf capacity arg).2 ∧
      ∃ entry, (memo.ask keyOf capacity arg).2.jobs[(memo.ask keyOf capacity arg).1]? =
        some entry ∧ keyOf entry.arg = keyOf arg := by
  have stays (job : Nat) (entry : Job Arg Value) (found : memo.jobs[job]? = some entry) :=
    getElem?_ask keyOf capacity arg found
  unfold Memo.ask at stays ⊢
  cases hit : memo.cache.get? (keyOf arg) with
  | some cached => exact ⟨sound, sound.cached _ cached hit⟩
  | none =>
    rw [hit] at stays
    dsimp only at stays ⊢
    have fresh : (memo.jobs ++ [(⟨arg, .pending⟩ : Job Arg Value)])[memo.jobs.length]? =
        some ⟨arg, .pending⟩ := List.getElem?_concat_length
    refine ⟨⟨?_, ?_, ?_, ?_⟩, _, fresh, rfl⟩
    · intro key job found
      have there := get?_evict found
      rw [JsMap.get?_set] at there
      split at there
      · rename_i same
        cases there
        exact ⟨_, fresh, same.symm⟩
      · obtain ⟨entry, old, own⟩ := sound.cached key job there
        exact ⟨entry, stays job entry old, own⟩
    · intro key job found entry place
      have there := get?_evict found
      rw [JsMap.get?_set] at there
      split at there
      · cases there
        obtain rfl := Option.some.inj (fresh.symm.trans place)
        rintro ⟨⟩
      · obtain ⟨old, before, -⟩ := sound.cached key job there
        obtain rfl := Option.some.inj ((stays job old before).symm.trans place)
        exact sound.unhandled key job there old before
    · intro entry member value done
      rcases List.mem_append.mp member with old | new
      · exact sound.resolved entry old value done
      · obtain rfl := List.mem_singleton.mp new
        cases done
    · exact size_evict (Nat.le_trans JsMap.size_set_le (Nat.succ_le_succ sound.bounded))

/-- Where every failed job has been handled, asking gives one that has not failed. -/
theorem Sound.ask_alive (sound : Sound keyOf capacity compute memo)
    (handled : ∀ entry ∈ memo.jobs, entry.progress ≠ .rejected false) (arg : Arg) :
    (∀ entry ∈ (memo.ask keyOf capacity arg).2.jobs, entry.progress ≠ .rejected false) ∧
      ∀ entry, (memo.ask keyOf capacity arg).2.jobs[(memo.ask keyOf capacity arg).1]? =
        some entry → ∀ flag, entry.progress ≠ .rejected flag := by
  unfold Memo.ask
  cases hit : memo.cache.get? (keyOf arg) with
  | some cached =>
    refine ⟨handled, fun entry found flag => ?_⟩
    cases flag with
    | false => exact handled entry (List.mem_of_getElem? found)
    | true => exact sound.unhandled _ cached hit entry found
  | none =>
    refine ⟨fun entry member failed => ?_, fun entry found flag failed => ?_⟩
    · rcases List.mem_append.mp member with old | new
      · exact handled entry old failed
      · obtain rfl := List.mem_singleton.mp new
        cases failed
    · obtain rfl := Option.some.inj (List.getElem?_concat_length.symm.trans found)
      cases failed

omit [DecidableEq Key] in
theorem settle_eq_some (settled : memo.settle compute job fails = some after) :
    ∃ arg, memo.jobs[job]? = some ⟨arg, .pending⟩ ∧
      after = { memo with
        jobs := memo.jobs.set job
          ⟨arg, if fails then .rejected false else .resolved (compute arg)⟩ } := by
  unfold settle at settled
  split at settled
  · rename_i arg found
    exact ⟨arg, found, (Option.some.inj settled).symm⟩
  · cases settled

theorem handle_eq_some (handled : memo.handle keyOf job = some after) :
    ∃ arg, memo.jobs[job]? = some ⟨arg, .rejected false⟩ ∧
      after = ⟨memo.cache.delete (keyOf arg), memo.jobs.set job ⟨arg, .rejected true⟩⟩ := by
  unfold handle at handled
  split at handled
  · rename_i arg found
    exact ⟨arg, found, (Option.some.inj handled).symm⟩
  · cases handled

section

variable (sound : Sound keyOf capacity compute memo)

include sound

/-- A job other than the one that is set is what it was. -/
theorem Sound.unhandled_set {entry : Job Arg Value}
    {key : Key} {other : Nat} (there : memo.cache.get? key = some other)
    (own : job = other → entry.progress ≠ .rejected true) :
    ∀ later, (memo.jobs.set job entry)[other]? = some later → later.progress ≠ .rejected true := by
  intro later place
  by_cases same : job = other
  · have bound : job < memo.jobs.length := by
      have inside := (List.getElem?_eq_some_iff.mp place).1
      rw [List.length_set] at inside
      exact same ▸ inside
    rw [← same, List.getElem?_set_self bound] at place
    cases place
    exact own same
  · rw [List.getElem?_set_ne same] at place
    exact sound.unhandled key other there later place

theorem Sound.settle (settled : memo.settle compute job fails = some after) :
    Sound keyOf capacity compute after ∧ Extends memo after := by
  obtain ⟨arg, found, rfl⟩ := settle_eq_some settled
  have extension : Extends memo ⟨memo.cache, memo.jobs.set job
      ⟨arg, if fails then .rejected false else .resolved (compute arg)⟩⟩ :=
    extends_set found fun _ done => nomatch done
  refine ⟨⟨fun key other there => sound.cached_of_extends extension there, ?_, ?_,
    sound.bounded⟩, extension⟩
  · intro key other there
    refine sound.unhandled_set there fun _ => ?_
    cases fails with
    | true => exact fun struck => nomatch struck
    | false => exact fun struck => nomatch struck
  · intro entry member value done
    rcases List.mem_or_eq_of_mem_set member with old | rfl
    · exact sound.resolved entry old value done
    · cases fails with
      | true => cases done
      | false =>
        cases done
        rfl

theorem Sound.handle (handled : memo.handle keyOf job = some after) :
    Sound keyOf capacity compute after ∧ Extends memo after := by
  obtain ⟨arg, found, rfl⟩ := handle_eq_some handled
  have extension : Extends memo
      ⟨memo.cache.delete (keyOf arg), memo.jobs.set job ⟨arg, .rejected true⟩⟩ :=
    extends_set found fun _ done => nomatch done
  -- what is left of the cache was there before, under another key
  have left {key : Key} {other : Nat}
      (there : (memo.cache.delete (keyOf arg)).get? key = some other) :
      key ≠ keyOf arg ∧ memo.cache.get? key = some other := by
    rw [JsMap.get?_delete] at there
    split at there
    · cases there
    · rename_i different
      exact ⟨different, there⟩
  refine ⟨⟨fun key other there => sound.cached_of_extends extension (left there).2, ?_, ?_,
    Nat.le_trans JsMap.size_delete_le sound.bounded⟩, extension⟩
  · intro key other there
    obtain ⟨different, before⟩ := left there
    refine sound.unhandled_set before fun same => absurd ?_ different
    obtain ⟨entry, place, own⟩ := sound.cached key other before
    obtain rfl := Option.some.inj (found.symm.trans (same ▸ place))
    exact own.symm
  · intro entry member value done
    rcases List.mem_or_eq_of_mem_set member with old | rfl
    · exact sound.resolved entry old value done
    · cases done

end

end Memo

end Foundation
