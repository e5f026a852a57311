import Mathlib.Analysis.SpecialFunctions.Log.Basic

/-!
# How long files are kept

`attachment-decay.ts`, computed exactly: larger files expire sooner, and a file that is accessed
near its expiry lives on for a while. Sizes are real numbers or infinite, as a number in JSON
may be; times are milliseconds.
-/

namespace Vortex.Channels

noncomputable section

namespace DECAY_CONSTANTS

def MIN_MB : ℝ := 5

def MAX_MB : ℝ := 500

def MIN_DAYS : ℤ := 14

def MAX_DAYS : ℤ := 365 * 3

def PLAN_MAX_MB : ℝ := 500

def CURVE : ℝ := 0.5

def PRICE_PER_TB_PER_MONTH : ℝ := 0.0081103 * 1000

end DECAY_CONSTANTS

namespace RENEWAL_CONSTANTS

def MAX_WINDOW_DAYS : ℤ := 30

def MIN_WINDOW_DAYS : ℤ := 7

def MAX_THRESHOLD_DAYS : ℤ := 14

def MIN_THRESHOLD_DAYS : ℤ := 3

end RENEWAL_CONSTANTS

open DECAY_CONSTANTS RENEWAL_CONSTANTS

structure DecayInput where
  sizeBytes : EReal
  uploadedAt : ℤ
  curve : ℝ := CURVE
  pricePerTBPerMonth : ℝ := PRICE_PER_TB_PER_MONTH

structure DecayResult where
  expiresAt : ℤ
  days : ℤ
  cost : EReal

def MS_PER_DAY : ℤ := 1000 * 60 * 60 * 24

def toMb (sizeBytes : EReal) : EReal := sizeBytes / 1024 / 1024

/-- How far a size is between the least and the greatest one, as a ratio of logarithms. -/
def logFrac (sizeMB : ℝ) : ℝ := Real.log (sizeMB / MIN_MB) / Real.log (MAX_MB / MIN_MB)

def linearFrac (sizeMB : ℝ) : ℝ := (sizeMB - MIN_MB) / (MAX_MB - MIN_MB)

def lifetimeDays (curve : ℝ) (sizeMB : EReal) : ℤ :=
  if sizeMB ≤ MIN_MB then MAX_DAYS
  else if MAX_MB ≤ sizeMB then MIN_DAYS
  else
    let blend := (1 - curve) * linearFrac sizeMB.toReal + curve * logFrac sizeMB.toReal
    round (MAX_DAYS - blend * (MAX_DAYS - MIN_DAYS))

def computeDecay (input : DecayInput) : Option DecayResult :=
  let sizeMB := toMb input.sizeBytes
  if PLAN_MAX_MB < sizeMB then none
  else
    let days := lifetimeDays input.curve sizeMB
    let sizeTB := input.sizeBytes / 1024 / 1024 / 1024 / 1024
    let lifetimeMonths : ℝ := days / 30
    some ⟨input.uploadedAt + days * MS_PER_DAY, days,
      sizeTB * input.pricePerTBPerMonth * lifetimeMonths⟩

def computeRenewalWindowDays (sizeMB : EReal) : ℤ :=
  if sizeMB ≤ MIN_MB then MAX_WINDOW_DAYS
  else if MAX_MB ≤ sizeMB then MIN_WINDOW_DAYS
  else round (MAX_WINDOW_DAYS - logFrac sizeMB.toReal * (MAX_WINDOW_DAYS - MIN_WINDOW_DAYS))

def computeRenewalThresholdDays (windowDays : ℤ) : ℤ :=
  max MIN_THRESHOLD_DAYS (min MAX_THRESHOLD_DAYS (round ((windowDays : ℚ) / 2)))

def maybeRenewExpiry (currentExpiry now : ℤ) (sizeMB : EReal) : Option ℤ :=
  let windowDays := computeRenewalWindowDays sizeMB
  let thresholdDays := computeRenewalThresholdDays windowDays
  let remainingMs := currentExpiry - now
  if thresholdDays * MS_PER_DAY < remainingMs then none
  else if remainingMs ≤ 0 then none
  else
    let newExpiry := now + windowDays * MS_PER_DAY
    if newExpiry ≤ currentExpiry then none else some newExpiry

/-- The expiry after an access. -/
def access (sizeMB : EReal) (expiry now : ℤ) : ℤ :=
  (maybeRenewExpiry expiry now sizeMB).getD expiry

/-- The expiry after some accesses, the first one first. -/
def accessed (sizeMB : EReal) (expiry : ℤ) (times : List ℤ) : ℤ :=
  times.foldl (access sizeMB) expiry

/-- The time before the expiry in which an access renews it. -/
def thresholdMs (sizeMB : EReal) : ℤ :=
  computeRenewalThresholdDays (computeRenewalWindowDays sizeMB) * MS_PER_DAY

/-! ## Interpolation -/

section Interpolation

variable {first second : ℝ}

theorem log_ratio_pos : 0 < Real.log (MAX_MB / MIN_MB) :=
  Real.log_pos (by norm_num [MAX_MB, MIN_MB])

theorem logFrac_mono (positive : MIN_MB ≤ first) (order : first ≤ second) :
    logFrac first ≤ logFrac second := by
  have low : (0 : ℝ) < MIN_MB := by norm_num [MIN_MB]
  have above : 0 < first / MIN_MB := div_pos (lt_of_lt_of_le low positive) low
  apply div_le_div_of_nonneg_right _ log_ratio_pos.le
  exact Real.log_le_log above (div_le_div_of_nonneg_right order low.le)

theorem logFrac_min : logFrac MIN_MB = 0 := by
  norm_num [logFrac, MIN_MB]

theorem logFrac_max : logFrac MAX_MB = 1 :=
  div_self log_ratio_pos.ne'

theorem linearFrac_mono (order : first ≤ second) : linearFrac first ≤ linearFrac second := by
  apply div_le_div_of_nonneg_right (sub_le_sub_right order _)
  norm_num [MAX_MB, MIN_MB]

theorem linearFrac_min : linearFrac MIN_MB = 0 := by
  norm_num [linearFrac, MIN_MB]

theorem linearFrac_max : linearFrac MAX_MB = 1 := by
  norm_num [linearFrac, MIN_MB, MAX_MB]

/-- A size, brought between the least and the greatest one. -/
def clampMb (sizeMB : EReal) : ℝ := (max (MIN_MB : EReal) (min (MAX_MB : EReal) sizeMB)).toReal

theorem min_le_max : (MIN_MB : EReal) ≤ (MAX_MB : EReal) := by
  rw [EReal.coe_le_coe_iff]
  norm_num [MIN_MB, MAX_MB]

theorem coe_clampMb (sizeMB : EReal) :
    (clampMb sizeMB : EReal) = max (MIN_MB : EReal) (min (MAX_MB : EReal) sizeMB) := by
  apply EReal.coe_toReal
  · exact ne_top_of_le_ne_top (EReal.coe_ne_top MAX_MB) (max_le min_le_max (min_le_left _ _))
  · exact ne_bot_of_le_ne_bot (EReal.coe_ne_bot MIN_MB) (le_max_left _ _)

theorem min_le_clampMb (sizeMB : EReal) : MIN_MB ≤ clampMb sizeMB := by
  rw [← EReal.coe_le_coe_iff, coe_clampMb]
  exact le_max_left _ _

theorem clampMb_le_max (sizeMB : EReal) : clampMb sizeMB ≤ MAX_MB := by
  rw [← EReal.coe_le_coe_iff, coe_clampMb]
  exact max_le min_le_max (min_le_left _ _)

theorem clampMb_mono {first second : EReal} (order : first ≤ second) :
    clampMb first ≤ clampMb second := by
  rw [← EReal.coe_le_coe_iff, coe_clampMb, coe_clampMb]
  exact max_le_max_left _ (min_le_min_left _ order)

theorem clampMb_of_le {sizeMB : EReal} (small : sizeMB ≤ MIN_MB) : clampMb sizeMB = MIN_MB := by
  rw [clampMb, min_eq_right (small.trans min_le_max), max_eq_left small, EReal.toReal_coe]

theorem clampMb_of_ge {sizeMB : EReal} (large : (MAX_MB : EReal) ≤ sizeMB) :
    clampMb sizeMB = MAX_MB := by
  rw [clampMb, min_eq_left large, max_eq_right min_le_max, EReal.toReal_coe]

theorem clampMb_of_between {sizeMB : EReal} (above : ¬sizeMB ≤ MIN_MB)
    (below : ¬(MAX_MB : EReal) ≤ sizeMB) : clampMb sizeMB = sizeMB.toReal := by
  rw [clampMb, min_eq_right (not_le.mp below).le, max_eq_right (not_le.mp above).le]

end Interpolation

/-! ## Lifetimes -/

section Lifetimes

variable {curve : ℝ}

/-- The days of a size between the least and the greatest one. -/
def blendedDays (curve size : ℝ) : ℤ :=
  round (MAX_DAYS - ((1 - curve) * linearFrac size + curve * logFrac size) * (MAX_DAYS - MIN_DAYS) : ℝ)

theorem blendedDays_min : blendedDays curve MIN_MB = MAX_DAYS := by
  rw [blendedDays, linearFrac_min, logFrac_min, mul_zero, mul_zero, add_zero, zero_mul, sub_zero]
  exact round_intCast MAX_DAYS

theorem blendedDays_max : blendedDays curve MAX_MB = MIN_DAYS := by
  rw [blendedDays, linearFrac_max, logFrac_max, mul_one, mul_one, sub_add_cancel, one_mul,
    sub_sub_cancel]
  exact round_intCast MIN_DAYS

theorem blendedDays_antitone (low : 0 ≤ curve) (high : curve ≤ 1) {first second : ℝ}
    (positive : MIN_MB ≤ first) (order : first ≤ second) :
    blendedDays curve second ≤ blendedDays curve first := by
  have linear := mul_le_mul_of_nonneg_left (linearFrac_mono order) (sub_nonneg.mpr high)
  have logarithmic := mul_le_mul_of_nonneg_left (logFrac_mono positive order) low
  have range : (0 : ℝ) ≤ MAX_DAYS - MIN_DAYS := by norm_num [MAX_DAYS, MIN_DAYS]
  have blend := mul_le_mul_of_nonneg_right (add_le_add linear logarithmic) range
  rw [blendedDays, blendedDays, round_eq, round_eq]
  apply Int.floor_mono
  linarith

/-- The three cases of the source are one. -/
theorem lifetimeDays_eq (sizeMB : EReal) :
    lifetimeDays curve sizeMB = blendedDays curve (clampMb sizeMB) := by
  unfold lifetimeDays
  split
  · rename_i small
    rw [clampMb_of_le small, blendedDays_min]
  · rename_i above
    split
    · rename_i large
      rw [clampMb_of_ge large, blendedDays_max]
    · rename_i below
      rw [clampMb_of_between above below]
      rfl

variable (low : 0 ≤ curve) (high : curve ≤ 1)
include low high

theorem lifetimeDays_antitone {first second : EReal} (order : first ≤ second) :
    lifetimeDays curve second ≤ lifetimeDays curve first := by
  rw [lifetimeDays_eq, lifetimeDays_eq]
  exact blendedDays_antitone low high (min_le_clampMb first) (clampMb_mono order)

theorem min_le_lifetimeDays (sizeMB : EReal) : MIN_DAYS ≤ lifetimeDays curve sizeMB := by
  rw [lifetimeDays_eq, ← blendedDays_max]
  exact blendedDays_antitone low high (min_le_clampMb sizeMB) (clampMb_le_max sizeMB)

theorem lifetimeDays_le_max (sizeMB : EReal) : lifetimeDays curve sizeMB ≤ MAX_DAYS := by
  rw [lifetimeDays_eq, ← blendedDays_min]
  exact blendedDays_antitone low high le_rfl (min_le_clampMb sizeMB)

end Lifetimes

/-! ## Renewals -/

section Renewals

variable {sizeMB : EReal} {expiry now : ℤ}

theorem computeRenewalWindowDays_eq (sizeMB : EReal) : computeRenewalWindowDays sizeMB =
    round (MAX_WINDOW_DAYS - logFrac (clampMb sizeMB) * (MAX_WINDOW_DAYS - MIN_WINDOW_DAYS) : ℝ) := by
  unfold computeRenewalWindowDays
  split
  · rename_i small
    rw [clampMb_of_le small, logFrac_min, zero_mul, sub_zero, round_intCast]
  · rename_i above
    split
    · rename_i large
      rw [clampMb_of_ge large, logFrac_max, one_mul, sub_sub_cancel, round_intCast]
    · rename_i below
      rw [clampMb_of_between above below]

theorem window_range (sizeMB : EReal) : MIN_WINDOW_DAYS ≤ computeRenewalWindowDays sizeMB ∧
    computeRenewalWindowDays sizeMB ≤ MAX_WINDOW_DAYS := by
  have low : 0 ≤ logFrac (clampMb sizeMB) :=
    logFrac_min ▸ logFrac_mono le_rfl (min_le_clampMb sizeMB)
  have high : logFrac (clampMb sizeMB) ≤ 1 :=
    logFrac_max ▸ logFrac_mono (min_le_clampMb sizeMB) (clampMb_le_max sizeMB)
  rw [computeRenewalWindowDays_eq, round_eq]
  constructor
  · rw [Int.le_floor]
    norm_num [MAX_WINDOW_DAYS, MIN_WINDOW_DAYS]
    linarith
  · rw [← Int.lt_add_one_iff, Int.floor_lt]
    norm_num [MAX_WINDOW_DAYS, MIN_WINDOW_DAYS]
    linarith

/-- A renewal reaches further than the threshold it waits for. -/
theorem threshold_lt_window (sizeMB : EReal) :
    computeRenewalThresholdDays (computeRenewalWindowDays sizeMB) < computeRenewalWindowDays sizeMB := by
  have low := (window_range sizeMB).1
  have half : round ((computeRenewalWindowDays sizeMB : ℚ) / 2) < computeRenewalWindowDays sizeMB := by
    have cast : ((MIN_WINDOW_DAYS : ℤ) : ℚ) ≤ (computeRenewalWindowDays sizeMB : ℚ) := by
      exact_mod_cast low
    norm_num [MIN_WINDOW_DAYS] at cast
    rw [round_eq, Int.floor_lt]
    linarith
  rw [computeRenewalThresholdDays]
  apply max_lt
  · exact lt_of_lt_of_le (by decide) low
  · exact lt_of_le_of_lt (min_le_right _ _) half

theorem thresholdMs_lt (sizeMB : EReal) :
    thresholdMs sizeMB < computeRenewalWindowDays sizeMB * MS_PER_DAY :=
  Int.mul_lt_mul_of_pos_right (threshold_lt_window sizeMB) (by decide)

/-- The check against shortening never fails. -/
theorem maybeRenewExpiry_eq : maybeRenewExpiry expiry now sizeMB =
    if now < expiry ∧ expiry - now ≤ thresholdMs sizeMB then
      some (now + computeRenewalWindowDays sizeMB * MS_PER_DAY)
    else none := by
  have further := thresholdMs_lt sizeMB
  unfold maybeRenewExpiry
  change (if thresholdMs sizeMB < expiry - now then _ else _) = _
  split
  · rename_i early
    exact (if_neg fun due => absurd due.2 (not_le_of_gt early)).symm
  · rename_i near
    split
    · rename_i expired
      exact (if_neg fun due => by omega).symm
    · rename_i alive
      rw [if_neg (by omega), if_pos (by omega)]

/-- An expired file is not renewed. -/
theorem maybeRenewExpiry_of_expired (expired : expiry ≤ now) :
    maybeRenewExpiry expiry now sizeMB = none := by
  rw [maybeRenewExpiry_eq]
  exact if_neg fun due => absurd due.1 (not_lt_of_ge expired)

theorem access_eq : access sizeMB expiry now =
    if now < expiry ∧ expiry - now ≤ thresholdMs sizeMB then
      now + computeRenewalWindowDays sizeMB * MS_PER_DAY
    else expiry := by
  rw [access, maybeRenewExpiry_eq]
  split <;> rfl

theorem le_access : expiry ≤ access sizeMB expiry now := by
  have further := thresholdMs_lt sizeMB
  rw [access_eq]
  split
  · omega
  · exact le_rfl

theorem access_le : access sizeMB expiry now ≤ max expiry (now + MAX_WINDOW_DAYS * MS_PER_DAY) := by
  have window :=
    Int.mul_le_mul_of_nonneg_right (window_range sizeMB).2 (by decide : (0 : ℤ) ≤ MS_PER_DAY)
  rw [access_eq]
  split
  · exact le_max_of_le_right (by omega)
  · exact le_max_left _ _

/-- After an access before the expiry, the next threshold is covered. -/
theorem lt_access (alive : now < expiry) : now + thresholdMs sizeMB < access sizeMB expiry now := by
  have further := thresholdMs_lt sizeMB
  rw [access_eq]
  split
  · omega
  · rename_i early
    omega

theorem accessed_concat (times : List ℤ) : accessed sizeMB expiry (times ++ [now]) =
    access sizeMB (accessed sizeMB expiry times) now :=
  List.foldl_concat ..

/-- No run of accesses leads beyond the last one and a full window. -/
theorem accessed_le {times : List ℤ} {last : ℤ} (order : ∀ time ∈ times, time ≤ last) :
    accessed sizeMB expiry times ≤ max expiry (last + MAX_WINDOW_DAYS * MS_PER_DAY) := by
  induction times using List.reverseRecOn with
  | nil => exact le_max_left _ _
  | append_singleton times time ih =>
    rw [accessed_concat]
    apply access_le.trans
    apply max_le
    · exact ih fun earlier member => order earlier (List.mem_append_left _ member)
    · have latest := order time (List.mem_append_right _ (List.mem_singleton_self time))
      exact le_max_of_le_right (by omega)

/-- Accesses close to each other keep a file alive. -/
theorem lt_accessed {times : List ℤ} (alive : ∀ first ∈ (times ++ [now]).head?, first < expiry)
    (close : (times ++ [now]).IsChain fun earlier later => later ≤ earlier + thresholdMs sizeMB) :
    now < accessed sizeMB expiry times := by
  induction times using List.reverseRecOn generalizing now with
  | nil => exact alive now rfl
  | append_singleton times time ih =>
    have before : time < accessed sizeMB expiry times := by
      apply ih
      · intro first member
        apply alive first
        cases times with
        | nil => exact member
        | cons head rest => exact member
      · exact close.left_of_append
    have gap : now ≤ time + thresholdMs sizeMB := by
      rw [List.append_assoc] at close
      exact (List.isChain_append.mp close).2.1.rel
    rw [accessed_concat]
    exact gap.trans_lt (lt_access before)

end Renewals

theorem computeDecay_eq_some {input : DecayInput} {result : DecayResult}
    (computed : computeDecay input = some result) :
    result.days = lifetimeDays input.curve (toMb input.sizeBytes) ∧
      result.expiresAt = input.uploadedAt + result.days * MS_PER_DAY := by
  obtain ⟨_, same⟩ := Option.ite_none_left_eq_some.mp computed
  cases Option.some.inj same
  exact ⟨rfl, rfl⟩

theorem toMb_mono {first second : EReal} (order : first ≤ second) : toMb first ≤ toMb second := by
  have positive : (0 : EReal) ≤ 1024 := by positivity
  exact EReal.div_le_div_right_of_nonneg positive (EReal.div_le_div_right_of_nonneg positive order)

theorem toMb_coe (size : ℝ) : toMb size = ((size / 1024 / 1024 : ℝ) : EReal) := by
  rw [toMb, EReal.coe_div, EReal.coe_div]
  rfl

theorem curve_nonneg : 0 ≤ CURVE := by norm_num [CURVE]

theorem curve_le_one : CURVE ≤ 1 := by norm_num [CURVE]

/-- Lifetimes lie between two weeks and three years and do not grow with the size; and in every
run of accesses the expiry never decreases, is never later than at first and 30 days after the
last access, an expired file is not renewed, and a file that is accessed often enough is never
found expired. -/
theorem decay_and_renewal :
    (∀ sizeBytes uploadedAt, toMb sizeBytes ≤ PLAN_MAX_MB →
      ∃ result, computeDecay { sizeBytes, uploadedAt } = some result ∧
        14 ≤ result.days ∧ result.days ≤ 1095) ∧
    (∀ smaller larger uploadedAt smallResult largeResult, smaller ≤ larger →
      computeDecay { sizeBytes := smaller, uploadedAt } = some smallResult →
      computeDecay { sizeBytes := larger, uploadedAt } = some largeResult →
        largeResult.days ≤ smallResult.days) ∧
    ∀ sizeMB expiry times now, (times ++ [now]).IsChain (· < ·) →
      accessed sizeMB expiry times ≤ accessed sizeMB expiry (times ++ [now]) ∧
      accessed sizeMB expiry (times ++ [now]) ≤ max expiry (now + 30 * MS_PER_DAY) ∧
      (accessed sizeMB expiry times ≤ now →
        maybeRenewExpiry (accessed sizeMB expiry times) now sizeMB = none) ∧
      ((∀ first ∈ (times ++ [now]).head?, first < expiry) →
        (times ++ [now]).IsChain (fun earlier later => later - earlier ≤
          computeRenewalThresholdDays (computeRenewalWindowDays sizeMB) * MS_PER_DAY) →
        now < accessed sizeMB expiry times) := by
  refine ⟨?_, ?_, ?_⟩
  · intro sizeBytes uploadedAt within
    refine ⟨_, if_neg (not_lt_of_ge within), ?_, ?_⟩
    · exact min_le_lifetimeDays curve_nonneg curve_le_one _
    · exact lifetimeDays_le_max curve_nonneg curve_le_one _
  · intro smaller larger uploadedAt smallResult largeResult order small large
    rw [(computeDecay_eq_some small).1, (computeDecay_eq_some large).1]
    exact lifetimeDays_antitone curve_nonneg curve_le_one (toMb_mono order)
  · intro sizeMB expiry times now increasing
    refine ⟨?_, ?_, maybeRenewExpiry_of_expired, ?_⟩
    · rw [accessed_concat]
      exact le_access
    · apply accessed_le
      intro time member
      rcases List.mem_append.mp member with earlier | last
      · have sorted := List.isChain_iff_pairwise.mp increasing
        exact ((List.pairwise_append.mp sorted).2.2 time earlier now (List.mem_singleton_self now)).le
      · exact (List.mem_singleton.mp last).le
    · intro alive close
      apply lt_accessed alive
      exact close.imp fun gap => by
        rw [thresholdMs]
        omega

/-- An empty file has a lifetime; one of a megabyte that is accessed a day before its expiry is there
two weeks later. -/
theorem renewed_twice :
    (∃ result, computeDecay { sizeBytes := 0, uploadedAt := 0 } = some result ∧
      14 ≤ result.days ∧ result.days ≤ 1095) ∧
    15 * MS_PER_DAY < accessed 1 (2 * MS_PER_DAY) [1 * MS_PER_DAY] := by
  have threshold : computeRenewalThresholdDays (computeRenewalWindowDays 1) = 14 := by
    have small : (1 : EReal) ≤ MIN_MB := by
      rw [← EReal.coe_one, EReal.coe_le_coe_iff]
      norm_num [MIN_MB]
    rw [computeRenewalWindowDays, if_pos small]
    decide +kernel
  refine ⟨decay_and_renewal.1 0 0 ?_, ?_⟩
  · rw [toMb, EReal.zero_div, EReal.zero_div, ← EReal.coe_zero, EReal.coe_le_coe_iff]
    norm_num [PLAN_MAX_MB]
  · refine (decay_and_renewal.2.2 1 (2 * MS_PER_DAY) [1 * MS_PER_DAY] (15 * MS_PER_DAY)
      (by decide)).2.2.2 (by decide) ?_
    rw [threshold]
    decide

end

end Vortex.Channels
