import Mathlib.Algebra.Group.Nat.Defs
import Mathlib.Data.Nat.Log
import Vortex.Foundation.SortedSet
import Vortex.Limits.InMemory

/-!
# The rate limiter in Redis

The script of `rate-limit.ts`: for each key a sorted set with a member for every admitted run,
named by its time and a random number. Callers send their own time; Redis lets keys expire by
its clock.
-/

namespace Vortex.Limits

open Foundation

/-! ## The script -/

def decimal (number : Nat) : JsString := js (toString number)

/-- The text of a number in Lua, `%.14g`: from fifteen digits on it is rounded to fourteen. -/
def luaText (number : Nat) : JsString :=
  if number < 10 ^ 14 then decimal number
  else
    let exponent := Nat.log 10 number
    let unit := 10 ^ (exponent - 13)
    let most := number / unit
    let least := number % unit
    let rounded := if unit < 2 * least ∨ 2 * least = unit ∧ most % 2 = 1 then most + 1 else most
    let (digits, exponent) :=
      if rounded = 10 ^ 14 then (decimal (10 ^ 13), exponent + 1) else (decimal rounded, exponent)
    let fraction := (digits.tail.reverse.dropWhile (· = 48)).reverse
    digits.take 1 ++ (if fraction = [] then [] else js "." ++ fraction) ++ js "e+" ++ decimal exponent

def memberName (now random : Nat) : JsString := luaText now ++ js ":" ++ luaText random

structure RedisKey where
  set : SortedSet JsString
  expireAt : Nat

structure Redis where
  now : Nat
  keys : JsString → Option RedisKey

namespace Redis

def put (redis : Redis) (key : JsString) (entry : Option RedisKey) : Redis :=
  { redis with keys := Function.update redis.keys key entry }

/-- The set stored under a key, whether or not the key has expired. -/
def setOf (redis : Redis) (key : JsString) : SortedSet JsString :=
  ((redis.keys key).map RedisKey.set).getD .empty

/-- What a command finds under a key. -/
def live (redis : Redis) (key : JsString) : Option RedisKey :=
  (redis.keys key).filter fun entry => redis.now ≤ entry.expireAt

/-- `SLIDING_WINDOW_LUA`: whether the run is admitted, what remains, and when to try again. -/
def slidingWindow (redis : Redis) (key : JsString) (window limit now random : Nat) :
    (Nat × Nat × Nat) × Redis :=
  let cutoff : Int := now - window
  let set := (((redis.live key).map RedisKey.set).getD .empty).zremrangebyscore cutoff
  let count := set.zcard
  if count < limit then
    let added := set.zadd now (memberName now random)
    ((1, limit - count - 1, now + window),
      -- `PEXPIRE` without time left deletes the key.
      redis.put key (if window = 0 then none else some ⟨added, redis.now + window⟩))
  else
    let resetAt := match set.least? with
      | none => now + window
      | some oldest => oldest + window
    ((0, 0, resetAt),
      -- A set without members is no key.
      redis.put key (if set.entries = [] then none
        else (redis.live key).map fun entry => { entry with set := set }))

end Redis

def redisKey (key : JsString) : JsString := js "vortex:rl:" ++ key

def checkRedis (redis : Redis) (key : JsString) (opts : CheckOptions) (now random : Nat) :
    RateLimitResult × Redis :=
  let (result, redis) := redis.slidingWindow (redisKey key) opts.windowMs opts.limit now random
  (⟨result.1 = 1, result.2.1, result.2.2⟩, redis)

/-! ## Runs -/

/-- Redis, what it has decided for each key, and the limiter in memory on the same sequence of
checks. -/
structure RedisChecks where
  redis : Redis
  log : JsString → List SlidingWindow.Decision
  memory : Checks

inductive RedisEvent
  | passes (ms : Nat)
  | checks (key : JsString) (opts : CheckOptions) (now random : Nat)

namespace RedisChecks

def check (state : RedisChecks) (key : JsString) (opts : CheckOptions) (now random : Nat) :
    RedisChecks :=
  let (result, redis) := checkRedis state.redis key opts now random
  { redis := redis
    log := Function.update state.log key (state.log key ++ [⟨now, result.allowed⟩])
    memory := Checks.next { state.memory with now := now } (.checks key opts) }

def next (state : RedisChecks) : RedisEvent → Option RedisChecks
  | .passes ms => some { state with redis := { state.redis with now := state.redis.now + ms } }
  | .checks key opts now random =>
      if state.memory.now ≤ now ∧ 1 ≤ random ∧ random ≤ 1000000 then
        some (state.check key opts now random)
      else none

structure Initial (state : RedisChecks) : Prop where
  keys : ∀ key, state.redis.keys key = none
  log : ∀ key, state.log key = []
  memory : state.memory.Initial

/-- The members of a key that lie within the window. -/
def within (state : RedisChecks) (key : JsString) (window now : Nat) : List (JsString × Nat) :=
  (state.redis.setOf (redisKey key)).entries.filter fun entry => now < entry.2 + window

end RedisChecks

def redisSystem : System RedisChecks RedisEvent := .ofNext RedisChecks.Initial RedisChecks.next

/-- A check of the key has the options; a run that is not refused has a name of its own among
the members within the window; and the key has not expired while it had such members. -/
structure Distinct (key : JsString) (opts : CheckOptions) (state : RedisChecks)
    (others : CheckOptions)
    (now random : Nat) : Prop where
  fixed : others = opts
  fresh : (state.within key opts.windowMs now).length < opts.limit →
    memberName now random ∉ (state.within key opts.windowMs now).map Prod.fst
  lives : state.redis.live (redisKey key) = none → state.within key opts.windowMs now = []

def RedisEvent.Distinct (key : JsString) (opts : CheckOptions) (state : RedisChecks) :
    RedisEvent → Prop
  | .checks other others now random =>
      other = key → Limits.Distinct key opts state others now random
  | .passes _ => True

/-- The checks of a key all have the same options. -/
def RedisEvent.Fixed (key : JsString) (opts : CheckOptions) (_ : RedisChecks) : RedisEvent → Prop
  | .checks other others _ _ => other = key → others = opts
  | .passes _ => True

/-! ## One run of the script -/

namespace Redis

variable {redis : Redis} {key other : JsString} {window limit now random : Nat}

theorem setOf_put (entry : Option RedisKey) :
    (redis.put key entry).setOf key = (entry.map RedisKey.set).getD .empty := by
  simp only [setOf, put, Function.update_self]

theorem setOf_put_of_ne (different : other ≠ key) (entry : Option RedisKey) :
    (redis.put key entry).setOf other = redis.setOf other := by
  simp only [setOf, put, Function.update_of_ne different]

/-- A script keeps to its key. -/
theorem setOf_slidingWindow_of_ne (different : other ≠ key) :
    (redis.slidingWindow key window limit now random).2.setOf other = redis.setOf other := by
  unfold slidingWindow
  dsimp only
  split <;> exact setOf_put_of_ne different _

/-- The set the script counts. -/
def trimmed (redis : Redis) (key : JsString) (window now : Nat) : SortedSet JsString :=
  (((redis.live key).map RedisKey.set).getD .empty).zremrangebyscore (now - window)

/-- What is left is what lies within the window, unless the key has expired too early. -/
theorem entries_trimmed (lives : redis.live key = none →
      (redis.setOf key).entries.filter (fun entry => now < entry.2 + window) = []) :
    (redis.trimmed key window now).entries =
      (redis.setOf key).entries.filter fun entry => now < entry.2 + window := by
  have cutoff (set : SortedSet JsString) : (set.zremrangebyscore (now - window)).entries =
      set.entries.filter fun entry => now < entry.2 + window := by
    apply List.filter_congr
    intro entry _
    rw [decide_eq_decide]
    omega
  rw [trimmed, cutoff]
  cases found : redis.live key with
  | none =>
    rw [lives found]
    rfl
  | some entry =>
    have stored := (Option.filter_eq_some_iff.mp found).1
    rw [setOf, stored]

theorem slidingWindow_eq : redis.slidingWindow key window limit now random =
    let set := redis.trimmed key window now
    if set.zcard < limit then
      ((1, limit - set.zcard - 1, now + window), redis.put key (if window = 0 then none
        else some ⟨set.zadd now (memberName now random), redis.now + window⟩))
    else
      ((0, 0, match set.least? with
        | none => now + window
        | some oldest => oldest + window), redis.put key (if set.entries = [] then none
        else (redis.live key).map fun entry => { entry with set := set })) :=
  rfl

/-- What the script leaves in the set of its key. -/
theorem scores_slidingWindow (fresh : (redis.trimmed key window now).zcard < limit →
    memberName now random ∉ (redis.trimmed key window now).entries.map Prod.fst) :
    ((redis.slidingWindow key window limit now random).2.setOf key).scores =
      if (redis.trimmed key window now).zcard < limit then
        if window = 0 then [] else (redis.trimmed key window now).scores ++ [now]
      else (redis.trimmed key window now).scores := by
  rw [slidingWindow_eq]
  dsimp only
  split
  · rename_i room
    rw [setOf_put]
    split
    · rfl
    · exact SortedSet.scores_zadd (fresh room) now
  · rw [setOf_put]
    split
    · rename_i none
      show [] = List.map _ _
      rw [none]
      rfl
    · rename_i some
      cases found : redis.live key with
      | none =>
        rw [trimmed, found] at some
        exact absurd rfl some
      | some entry => rfl

end Redis

theorem checkRedis_allowed {redis : Redis} {key : JsString} {opts : CheckOptions}
    {now random : Nat} :
    (checkRedis redis key opts now random).1.allowed =
      decide ((redis.trimmed (redisKey key) opts.windowMs now).zcard < opts.limit) := by
  rw [checkRedis, Redis.slidingWindow_eq]
  dsimp only
  split
  · exact (decide_eq_true ‹_›).symm
  · exact (decide_eq_false ‹_›).symm

theorem setOf_checkRedis {redis : Redis} {key : JsString} {opts : CheckOptions} {now random : Nat}
    (other : JsString) : (checkRedis redis key opts now random).2.setOf other =
      (redis.slidingWindow (redisKey key) opts.windowMs opts.limit now random).2.setOf other :=
  rfl

/-! ## The two limiters side by side -/

namespace RedisChecks

variable {key : JsString} {opts : CheckOptions} {state : RedisChecks} {now random : Nat}

/-- Both limiters have decided alike, and the set has the times that matter for the next run. -/
structure Agrees (key : JsString) (opts : CheckOptions) (state : RedisChecks) : Prop where
  memory : Checks.Faithful key opts state.memory
  log : state.log key = state.memory.log key
  keeps : SlidingWindow.Keeps opts.windowMs state.memory.now
    (state.redis.setOf (redisKey key)).scores (state.log key)

theorem Agrees.start (start : Initial state) : Agrees key opts state where
  memory := .start start.memory
  log := by rw [start.log, start.memory.log]
  keeps := by
    rw [Redis.setOf, start.keys, start.log]
    exact SlidingWindow.keeps_nil

/-- The later time of a run. -/
theorem Agrees.wait (agrees : Agrees key opts state) (later : state.memory.now ≤ now) :
    Agrees key opts { state with memory := { state.memory with now := now } } where
  memory := by
    obtain ⟨ms, rfl⟩ := Nat.exists_eq_add_of_le later
    exact agrees.memory.wait ms
  log := agrees.log
  keeps := agrees.keeps.later later

theorem scores_trimmed (distinct : Distinct key opts state opts now random) :
    (state.redis.trimmed (redisKey key) opts.windowMs now).scores =
      SlidingWindow.recent opts.windowMs now (state.redis.setOf (redisKey key)).scores := by
  rw [SortedSet.scores, Redis.entries_trimmed distinct.lives, SlidingWindow.recent,
    SortedSet.scores,
    List.filter_map]
  rfl

theorem Agrees.check (agrees : Agrees key opts state) (now_eq : state.memory.now = now)
    (distinct : Distinct key opts state opts now random) :
    Agrees key opts (state.check key opts now random) := by
  subst now_eq
  have scores := scores_trimmed distinct
  have count : (state.redis.trimmed (redisKey key) opts.windowMs state.memory.now).zcard =
      (SlidingWindow.recent opts.windowMs state.memory.now
        (state.redis.setOf (redisKey key)).scores).length := by
    rw [SortedSet.zcard_eq, scores]
  have decided : (state.check key opts state.memory.now random).log key = state.log key ++
      [SlidingWindow.exact opts.windowMs opts.limit (state.log key) state.memory.now] := by
    rw [agrees.keeps.exact_eq, ← count, ← checkRedis_allowed]
    exact Function.update_self ..
  have memory : Checks.Faithful key opts (state.check key opts state.memory.now random).memory :=
    agrees.memory.check
  have log : (state.check key opts state.memory.now random).log key =
      (state.check key opts state.memory.now random).memory.log key := by
    rw [decided, agrees.log]
    exact agrees.memory.decided.symm
  have fresh : (state.redis.trimmed (redisKey key) opts.windowMs state.memory.now).zcard < opts.limit →
      memberName state.memory.now random ∉
        (state.redis.trimmed (redisKey key) opts.windowMs state.memory.now).entries.map Prod.fst := by
    rw [SortedSet.zcard, Redis.entries_trimmed distinct.lives]
    exact distinct.fresh
  have keeps : SlidingWindow.Keeps opts.windowMs state.memory.now (if _ < opts.limit then _ else _)
      _ := agrees.keeps.decide
  rw [← decided] at keeps
  refine ⟨memory, log, ?_⟩
  show SlidingWindow.Keeps _ _ ((checkRedis _ _ _ _ _).2.setOf _).scores _
  rw [setOf_checkRedis, Redis.scores_slidingWindow fresh, count, scores]
  by_cases empty : opts.windowMs = 0
  · simp only [if_pos empty]
    split
    · rw [empty, log]
      exact SlidingWindow.keeps_zero memory.past
    · rename_i full
      rw [if_neg full] at keeps
      exact keeps
  · simp only [if_neg empty]
    exact keeps

theorem Agrees.check_of_ne (agrees : Agrees key opts state) (now_eq : state.memory.now = now)
    {other : JsString} (different : key ≠ other) (others : CheckOptions) (random : Nat) :
    Agrees key opts (state.check other others now random) := by
  subst now_eq
  have log : (state.check other others state.memory.now random).log key = state.log key :=
    Function.update_of_ne different _ _
  have memory : (state.check other others state.memory.now random).memory.log key =
      state.memory.log key := Function.update_of_ne different _ _
  have apart : redisKey key ≠ redisKey other := fun same => different (List.append_cancel_left same)
  have stored : (state.check other others state.memory.now random).redis.setOf (redisKey key) =
      state.redis.setOf (redisKey key) := Redis.setOf_slidingWindow_of_ne apart
  refine ⟨agrees.memory.check_of_ne different others, ?_, ?_⟩
  · rw [log, memory, agrees.log]
  · rw [log, stored]
    exact agrees.keeps

theorem check_reachable (reached : redisSystem.Reachable (RedisEvent.Distinct key opts) state)
    (later : state.memory.now ≤ now) (drawn : 1 ≤ random ∧ random ≤ 1000000)
    (distinct : Distinct key opts state opts now random) :
    redisSystem.Reachable (RedisEvent.Distinct key opts) (state.check key opts now random) := by
  have admitted : RedisEvent.Distinct key opts state (.checks key opts now random) :=
    fun _ => distinct
  exact .step reached admitted (if_pos ⟨later, drawn⟩)

theorem agrees_of_reachable (reached : redisSystem.Reachable (RedisEvent.Distinct key opts) state) :
    Agrees key opts state := by
  induction reached with
  | initial start => exact .start start
  | @step before after event _ distinct moved ih =>
    cases event with
    | passes ms =>
      cases Option.some.inj moved
      exact ⟨ih.memory, ih.log, ih.keeps⟩
    | checks other others now random =>
      obtain ⟨valid, result⟩ := Option.ite_none_right_eq_some.mp moved
      cases Option.some.inj result
      have later := ih.wait valid.1
      by_cases same : other = key
      · cases same
        have distinct := distinct rfl
        cases distinct.fixed
        exact later.check rfl ⟨rfl, distinct.fresh, distinct.lives⟩
      · exact later.check_of_ne rfl (Ne.symm same) others random

/-- In every run whose runs of the script have names of their own, the limiter keeps its promise
and decides like the one in memory. -/
theorem bounded_of_distinct (reached : redisSystem.Reachable (RedisEvent.Distinct key opts) state) :
    SlidingWindow.Bounded opts.windowMs opts.limit (state.log key) ∧
      state.log key = state.memory.log key := by
  have agrees := agrees_of_reachable reached
  rw [agrees.log]
  exact ⟨agrees.memory.exact.bounded, rfl⟩

/-! ## Runs that are not counted -/

/-- The run is repeated at the same time with the same random number. -/
def again (state : RedisChecks) (key : JsString) (opts : CheckOptions) (now random : Nat) :
    Nat → RedisChecks
  | 0 => state
  | count + 1 => (again state key opts now random count).check key opts now random

/-- The set has the member of the run already, and is not full. -/
structure Stuck (key : JsString) (opts : CheckOptions) (now random : Nat) (state : RedisChecks) :
    Prop where
  wide : 0 < opts.windowMs
  room : (state.redis.trimmed (redisKey key) opts.windowMs now).zcard < opts.limit
  taken : memberName now random ∈
    (state.redis.trimmed (redisKey key) opts.windowMs now).entries.map Prod.fst

/-- An admitted run adds its member to what the next run at the same time counts. -/
theorem trimmed_check (wide : 0 < opts.windowMs)
    (room : (state.redis.trimmed (redisKey key) opts.windowMs now).zcard < opts.limit) :
    (state.check key opts now random).redis.trimmed (redisKey key) opts.windowMs now =
      (state.redis.trimmed (redisKey key) opts.windowMs now).zadd now (memberName now random) := by
  have after : (state.check key opts now random).redis = state.redis.put (redisKey key)
      (some ⟨(state.redis.trimmed (redisKey key) opts.windowMs now).zadd now (memberName now random),
        state.redis.now + opts.windowMs⟩) := by
    show (checkRedis _ _ _ _ _).2 = _
    rw [checkRedis, Redis.slidingWindow_eq]
    dsimp only
    rw [if_pos room, if_neg (Nat.ne_of_gt wide)]
  have live : (state.check key opts now random).redis.live (redisKey key) =
      some ⟨(state.redis.trimmed (redisKey key) opts.windowMs now).zadd now (memberName now random),
        state.redis.now + opts.windowMs⟩ := by
    rw [after, Redis.live, Redis.put]
    simp only [Function.update_self, Option.filter_some]
    exact if_pos (decide_eq_true (Nat.le_add_right ..))
  rw [Redis.trimmed, live]
  apply SortedSet.zremrangebyscore_eq_self
  intro entry stored
  rcases SortedSet.mem_zadd.mp stored with ⟨old, _⟩ | rfl
  · exact (SortedSet.mem_zremrangebyscore.mp old).2
  · show (now : Int) - opts.windowMs < now
    omega

theorem log_check_of_room
    (room : (state.redis.trimmed (redisKey key) opts.windowMs now).zcard < opts.limit) :
    (state.check key opts now random).log key = state.log key ++ [⟨now, true⟩] := by
  rw [← decide_eq_true room, ← checkRedis_allowed]
  exact Function.update_self ..

/-- Such a run is admitted, and the next one like it as well. -/
theorem Stuck.check (stuck : Stuck key opts now random state) :
    Stuck key opts now random (state.check key opts now random) where
  wide := stuck.wide
  room := by
    rw [trimmed_check stuck.wide stuck.room, SortedSet.zcard_zadd_of_mem stuck.taken]
    exact stuck.room
  taken := by
    rw [trimmed_check stuck.wide stuck.room]
    exact List.mem_map_of_mem (SortedSet.mem_zadd.mpr (.inr rfl))

theorem Stuck.again (stuck : Stuck key opts now random state) (count : Nat) :
    Stuck key opts now random (state.again key opts now random count) ∧
      (state.again key opts now random count).log key =
        state.log key ++ List.replicate count ⟨now, true⟩ := by
  induction count with
  | zero => exact ⟨stuck, (List.append_nil _).symm⟩
  | succ count ih =>
    obtain ⟨still, log⟩ := ih
    refine ⟨still.check, ?_⟩
    rw [RedisChecks.again, log_check_of_room still.room, log, List.append_assoc,
      List.replicate_succ']

theorem again_le (later : state.memory.now ≤ now) (count : Nat) :
    (state.again key opts now random count).memory.now ≤ now := by
  cases count with
  | zero => exact later
  | succ count => exact Nat.le_refl now

theorem steps_again (later : state.memory.now ≤ now) (drawn : 1 ≤ random ∧ random ≤ 1000000)
    (count : Nat) : redisSystem.Steps (RedisEvent.Fixed key opts) state
      (state.again key opts now random count) := by
  induction count with
  | zero => exact .refl
  | succ count ih =>
    have admitted : RedisEvent.Fixed key opts (state.again key opts now random count)
        (.checks key opts now random) := fun _ => rfl
    exact .step ih admitted (if_pos ⟨again_le later count, drawn⟩)

/-- Where runs are not counted, the limit can be exceeded. -/
theorem Stuck.unbounded (stuck : Stuck key opts now random state) (later : state.memory.now ≤ now)
    (drawn : 1 ≤ random ∧ random ≤ 1000000)
    (past : ∀ decision ∈ state.log key, decision.time ≤ now) :
    ∃ after, redisSystem.Steps (RedisEvent.Fixed key opts) state after ∧
      ¬SlidingWindow.Bounded opts.windowMs opts.limit (after.log key) := by
  refine ⟨_, steps_again later drawn (opts.limit + 1), ?_⟩
  intro bounded
  have log := (stuck.again (opts.limit + 1)).2
  have late : ∀ decision ∈ (state.again key opts now random (opts.limit + 1)).log key,
      decision.time ≤ now := by
    rw [log]
    intro decision member
    rcases List.mem_append.mp member with old | new
    · exact past decision old
    · cases List.eq_of_mem_replicate new
      exact Nat.le_refl now
  have most := bounded.length_recent_le late
  rw [log, SlidingWindow.allowedTimes_append, SlidingWindow.recent_append,
    SlidingWindow.allowedTimes_replicate, SlidingWindow.recent_replicate _ stuck.wide,
    List.length_append, List.length_replicate] at most
  omega

/-! ## The condition is exact -/

section Clashes

variable (agrees : Agrees key opts state) (later : state.memory.now ≤ now)
include agrees later

theorem Agrees.past : ∀ decision ∈ state.log key, decision.time ≤ now := by
  rw [agrees.log]
  exact fun decision member => Nat.le_trans (agrees.memory.past decision member) later

/-- The set has as many members within the window as the log has admitted runs. -/
theorem Agrees.length_within : (state.within key opts.windowMs now).length =
    (SlidingWindow.recent opts.windowMs now (SlidingWindow.allowedTimes (state.log key))).length := by
  have keeps : SlidingWindow.Keeps _ now _ _ := (agrees.wait later).keeps
  rw [← keeps.length_eq, SortedSet.scores, SlidingWindow.recent, List.filter_map, List.length_map]
  rfl

theorem Agrees.wide (some : state.within key opts.windowMs now ≠ []) : 0 < opts.windowMs := by
  by_contra closed
  have length := agrees.length_within later
  have none := SlidingWindow.keeps_zero (agrees.past later)
  rw [← Nat.eq_zero_of_not_pos closed] at none
  rw [← none.length_eq] at length
  exact some (List.eq_nil_of_length_eq_zero length)

theorem Agrees.past_check
    (room : (state.redis.trimmed (redisKey key) opts.windowMs now).zcard < opts.limit) :
    ∀ decision ∈ (state.check key opts now random).log key, decision.time ≤ now := by
  rw [log_check_of_room room]
  intro decision member
  rcases List.mem_append.mp member with old | new
  · exact agrees.past later decision old
  · cases List.mem_singleton.mp new
    exact Nat.le_refl now

variable (drawn : 1 ≤ random ∧ random ≤ 1000000)
include drawn

/-- A run whose name is taken. -/
theorem Agrees.unbounded_of_taken
    (lives : state.redis.live (redisKey key) = none → state.within key opts.windowMs now = [])
    (room : (state.within key opts.windowMs now).length < opts.limit)
    (taken : memberName now random ∈ (state.within key opts.windowMs now).map Prod.fst) :
    ∃ after, redisSystem.Steps (RedisEvent.Fixed key opts) (state.check key opts now random) after ∧
      ¬SlidingWindow.Bounded opts.windowMs opts.limit (after.log key) := by
  have some : state.within key opts.windowMs now ≠ [] := by
    intro none
    rw [none] at taken
    exact absurd taken List.not_mem_nil
  have same := Redis.entries_trimmed lives
  have stuck : Stuck key opts now random state := by
    refine ⟨agrees.wide later some, ?_, ?_⟩
    · rw [SortedSet.zcard, same]
      exact room
    · rw [same]
      exact taken
  exact stuck.check.unbounded (Nat.le_refl now) drawn (agrees.past_check later stuck.room)

/-- A run that finds its key expired too early. -/
theorem Agrees.unbounded_of_gone (gone : state.redis.live (redisKey key) = none)
    (some : state.within key opts.windowMs now ≠ []) :
    ∃ after, redisSystem.Steps (RedisEvent.Fixed key opts) (state.check key opts now random) after ∧
      ¬SlidingWindow.Bounded opts.windowMs opts.limit (after.log key) := by
  have wide := agrees.wide later some
  have length := agrees.length_within later
  have positive : 0 < (state.within key opts.windowMs now).length := List.length_pos_of_ne_nil some
  have most := agrees.memory.exact.bounded.length_recent_le (agrees.log ▸ agrees.past later)
  rw [← agrees.log] at most
  have empty : state.redis.trimmed (redisKey key) opts.windowMs now = .empty := by
    rw [Redis.trimmed, gone]
    rfl
  have room : (state.redis.trimmed (redisKey key) opts.windowMs now).zcard < opts.limit := by
    rw [empty]
    exact Nat.lt_of_lt_of_le positive (length ▸ most)
  have past : ∀ decision ∈ (state.check key opts now random).log key, decision.time ≤ now :=
    agrees.past_check later room
  by_cases single : opts.limit = 1
  · refine ⟨_, .refl, ?_⟩
    intro bounded
    have few := bounded.length_recent_le past
    have last : SlidingWindow.recent opts.windowMs now (SlidingWindow.allowedTimes [⟨now, true⟩]) =
        [now] := SlidingWindow.recent_replicate 1 wide
    rw [log_check_of_room room, SlidingWindow.allowedTimes_append, SlidingWindow.recent_append,
      List.length_append, ← length, last, List.length_singleton] at few
    omega
  · have stuck : Stuck key opts now random (state.check key opts now random) := by
      refine ⟨wide, ?_, ?_⟩
      · rw [trimmed_check wide room, empty]
        show 1 < opts.limit
        omega
      · rw [trimmed_check wide room]
        exact List.mem_map_of_mem (SortedSet.mem_zadd.mpr (.inr rfl))
    exact stuck.unbounded (Nat.le_refl now) drawn past

end Clashes

end RedisChecks

/-! ## Samples -/

namespace Sample

def opts : CheckOptions := ⟨2, 60000⟩

/-- An empty Redis. -/
def unused : RedisChecks := ⟨⟨0, fun _ => none⟩, fun _ => [], ⟨0, ⟨fun _ => none⟩, fun _ => []⟩⟩

theorem unused_initial :
    unused.Initial := ⟨fun _ => rfl, fun _ => rfl, ⟨fun _ => rfl, fun _ => rfl⟩⟩

/-- Two checks in one millisecond, with different random numbers. -/
def twice : RedisChecks :=
  (unused.check (js "login:ip") opts 1700000000000 1).check (js "login:ip") opts 1700000000000 2

theorem twice_reachable :
    redisSystem.Reachable (RedisEvent.Distinct (js "login:ip") opts) twice := by
  have first : Distinct (js "login:ip") opts unused opts 1700000000000 1 :=
    ⟨rfl, fun _ => List.not_mem_nil, fun _ => rfl⟩
  have second : Distinct (js "login:ip") opts (unused.check (js "login:ip") opts 1700000000000 1)
      opts 1700000000000 2 :=
    ⟨rfl, fun _ => by decide, fun gone => by
      rw [Redis.live] at gone
      exact absurd gone (by decide)⟩
  exact RedisChecks.check_reachable
    (RedisChecks.check_reachable (.initial unused_initial) (Nat.zero_le _) (by decide) first)
    (Nat.le_refl _) (by decide) second

/-- Three checks in one millisecond, with the same random number. -/
def thrice : RedisChecks := unused.again (js "login:ip") opts 1700000000000 1 3

theorem thrice_reachable : redisSystem.Reachable (RedisEvent.Fixed (js "login:ip") opts) thrice :=
  (System.Reachable.initial unused_initial).steps
    (RedisChecks.steps_again (Nat.zero_le _) (by decide) 3)

end Sample

/-- Both checks are admitted. -/
theorem twice_bounded : SlidingWindow.Bounded 60000 2 (Sample.twice.log (js "login:ip")) ∧
    Sample.twice.log (js "login:ip") = Sample.twice.memory.log (js "login:ip") :=
  RedisChecks.bounded_of_distinct Sample.twice_reachable

/-- All three are admitted where two are allowed. -/
theorem thrice_unbounded :
    redisSystem.Reachable (RedisEvent.Fixed (js "login:ip") Sample.opts) Sample.thrice ∧
      ¬SlidingWindow.Bounded 60000 2 (Sample.thrice.log (js "login:ip")) := by
  refine ⟨Sample.thrice_reachable, ?_⟩
  intro bounded
  have most := bounded.most 1700000000000
  exact absurd most (by decide)

end Vortex.Limits
