import Mathlib.Data.Nat.Log
import Vortex.Foundation.Http
import Vortex.Foundation.JsNumber

/-!
# The double nearest to a natural number

Rounding to a number of significant bits, ties to even, with everything from a power of two on
counting as infinite. `parseInt` reads decimal digits so, and reads the text of a number of few
bits as the number.
-/

namespace Foundation

/-- The multiple of a unit nearest to a number, the even one of two. -/
def roundTo (unit number : Nat) : Nat :=
  if 2 * (number % unit) < unit ∨ 2 * (number % unit) = unit ∧ number / unit % 2 = 0 then
    number / unit * unit
  else (number / unit + 1) * unit

/-- The number of `precision + 1` significant bits nearest to a natural number, `none` when it is
`2 ^ top` or more. -/
def nearest? (precision top number : Nat) : Option Nat :=
  let rounded := roundTo (2 ^ (number.log2 - precision)) number
  if rounded < 2 ^ top then some rounded else none

/-- The first number that is rounded to `2 ^ top`. -/
def firstInfinite (precision top : Nat) : Nat := 2 ^ top - 2 ^ (top - precision - 2)

section Rounding

variable {unit number precision top : Nat}

theorem roundTo_of_dvd (divides : unit ∣ number) (positive : 0 < unit) :
    roundTo unit number = number := by
  have rest : number % unit = 0 := Nat.mod_eq_zero_of_dvd divides
  rw [roundTo, if_pos (.inl (by omega)), Nat.div_mul_cancel divides]

theorem le_roundTo : number / unit * unit ≤ roundTo unit number := by
  unfold roundTo
  split
  · exact le_rfl
  · exact Nat.mul_le_mul_right unit (Nat.le_succ _)

theorem roundTo_le : roundTo unit number ≤ (number / unit + 1) * unit := by
  unfold roundTo
  split
  · exact Nat.mul_le_mul_right unit (Nat.le_succ _)
  · exact le_rfl

/-- An odd multiple gives way to the next one from the middle between them on. -/
theorem le_roundTo_iff (positive : 0 < unit) (odd : number / unit % 2 = 1) :
    (number / unit + 1) * unit ≤ roundTo unit number ↔ unit ≤ 2 * (number % unit) := by
  have next : (number / unit + 1) * unit = number / unit * unit + unit := by
    rw [Nat.add_mul, one_mul]
  unfold roundTo
  split
  · omega
  · rename_i far
    refine iff_of_true le_rfl ?_
    omega

/-- The power of two below a number is a multiple of the unit the number is rounded to. -/
theorem two_pow_log2 (enough : precision ≤ number.log2) :
    2 ^ number.log2 = 2 ^ precision * 2 ^ (number.log2 - precision) := by
  rw [← pow_add, Nat.add_sub_cancel' enough]

theorem two_pow_le_roundTo (enough : precision ≤ number.log2) (positive : number ≠ 0) :
    2 ^ number.log2 ≤ roundTo (2 ^ (number.log2 - precision)) number := by
  refine le_trans ?_ le_roundTo
  rw [two_pow_log2 enough]
  refine Nat.mul_le_mul_right _ ((Nat.le_div_iff_mul_le (Nat.two_pow_pos _)).mpr ?_)
  rw [← two_pow_log2 enough]
  exact Nat.log2_self_le positive

theorem div_lt_two_pow (enough : precision ≤ number.log2) :
    number / 2 ^ (number.log2 - precision) < 2 ^ (precision + 1) := by
  rw [Nat.div_lt_iff_lt_mul (Nat.two_pow_pos _), ← pow_add,
    show precision + 1 + (number.log2 - precision) = number.log2 + 1 by omega]
  exact Nat.lt_log2_self

theorem nearest?_of_dvd (divides : 2 ^ (number.log2 - precision) ∣ number)
    (finite : number < 2 ^ top) : nearest? precision top number = some number := by
  rw [nearest?, roundTo_of_dvd divides (Nat.two_pow_pos _), if_pos finite]

/-- A number of few bits is its own. -/
theorem nearest?_of_le (below : precision + 1 < top) (few : number ≤ 2 ^ (precision + 1)) :
    nearest? precision top number = some number := by
  have finite : number < 2 ^ top := few.trans_lt (Nat.pow_lt_pow_right (by decide) below)
  refine nearest?_of_dvd ?_ finite
  rcases few.lt_or_eq with fewer | rfl
  · have small : number.log2 - precision = 0 := by
      rcases Nat.eq_zero_or_pos number with rfl | positive
      · simp
      · have bits := (Nat.log2_lt positive.ne').mpr fewer
        omega
    rw [small]
    exact Nat.one_dvd number
  · rw [Nat.log2_two_pow]
    exact Nat.pow_dvd_pow 2 (Nat.sub_le _ _)

/-- A number of many bits is rounded to one of at least as many. -/
theorem le_of_nearest? {rounded : Nat} (many : 2 ^ (precision + 1) ≤ number)
    (found : nearest? precision top number = some rounded) : 2 ^ (precision + 1) ≤ rounded := by
  have positive : number ≠ 0 := ((Nat.two_pow_pos _).trans_le many).ne'
  have bits : precision + 1 ≤ number.log2 := (Nat.le_log2 positive).mpr many
  simp only [nearest?] at found
  split at found
  · cases found
    exact (Nat.pow_le_pow_right (by decide) bits).trans (two_pow_le_roundTo (by omega) positive)
  · cases found

/-- The last half unit below the next power of two is rounded up to it. -/
theorem next_le_roundTo_iff (enough : precision < number.log2) :
    2 ^ (number.log2 + 1) ≤ roundTo (2 ^ (number.log2 - precision)) number ↔
      2 ^ (number.log2 + 1) - 2 ^ (number.log2 - precision - 1) ≤ number := by
  have few := div_lt_two_pow enough.le
  have split := Nat.div_add_mod number (2 ^ (number.log2 - precision))
  have rest := Nat.mod_lt number (Nat.two_pow_pos (number.log2 - precision))
  have unit : 2 ^ (number.log2 - precision) = 2 ^ (number.log2 - precision - 1) * 2 := by
    rw [← pow_succ, Nat.sub_add_cancel (by omega)]
  have whole : 2 ^ (number.log2 + 1) = 2 ^ (precision + 1) * 2 ^ (number.log2 - precision) := by
    rw [pow_succ, two_pow_log2 enough.le, mul_right_comm, ← pow_succ]
  rw [whole]
  have next : (number / 2 ^ (number.log2 - precision) + 1) * 2 ^ (number.log2 - precision) =
      2 ^ (number.log2 - precision) * (number / 2 ^ (number.log2 - precision)) +
        2 ^ (number.log2 - precision) := by
    rw [Nat.add_mul, one_mul, mul_comm]
  rcases (Nat.add_one_le_iff.mpr few).lt_or_eq with fewer | last
  · have room := Nat.mul_le_mul_right (2 ^ (number.log2 - precision)) (Nat.add_one_le_iff.mpr fewer)
    rw [Nat.add_one_mul, next] at room
    have rounded : roundTo (2 ^ (number.log2 - precision)) number ≤
        (number / 2 ^ (number.log2 - precision) + 1) * 2 ^ (number.log2 - precision) := roundTo_le
    rw [next] at rounded
    omega
  · have odd : number / 2 ^ (number.log2 - precision) % 2 = 1 := by
      rw [pow_succ] at last
      omega
    rw [← last, le_roundTo_iff (Nat.two_pow_pos _) odd, next]
    omega

theorem nearest?_eq_none (below : precision + 2 ≤ top) :
    nearest? precision top number = none ↔ firstInfinite precision top ≤ number := by
  have infinite : nearest? precision top number = none ↔
      2 ^ top ≤ roundTo (2 ^ (number.log2 - precision)) number := by
    simp only [nearest?, ite_eq_right_iff, reduceCtorEq, imp_false, not_lt]
  have margin : 2 ^ (top - precision - 2) * 2 ≤ 2 ^ top := by
    rw [← pow_succ]
    exact Nat.pow_le_pow_right (by decide) (by omega)
  rw [infinite, firstInfinite]
  rcases Nat.eq_zero_or_pos number with rfl | positive
  · have lone : roundTo (2 ^ (Nat.log2 0 - precision)) 0 = 0 :=
      roundTo_of_dvd (Nat.dvd_zero _) (Nat.two_pow_pos _)
    have powers := Nat.two_pow_pos (top - precision - 2)
    omega
  have lower : 2 ^ number.log2 ≤ number := Nat.log2_self_le positive.ne'
  have upper : number < 2 ^ (number.log2 + 1) := Nat.lt_log2_self
  rcases lt_trichotomy (number.log2 + 1) top with fewer | same | more
  · have small : 2 ^ (number.log2 + 1) * 2 ≤ 2 ^ top := by
      rw [← pow_succ]
      exact Nat.pow_le_pow_right (by decide) fewer
    have kept : roundTo (2 ^ (number.log2 - precision)) number ≤ 2 ^ (number.log2 + 1) := by
      rcases le_or_gt precision number.log2 with enough | short
      · refine roundTo_le.trans ?_
        rw [pow_succ, two_pow_log2 enough, mul_right_comm, ← pow_succ]
        exact Nat.mul_le_mul_right _ (div_lt_two_pow enough)
      · rw [Nat.sub_eq_zero_of_le short.le, pow_zero, roundTo_of_dvd (Nat.one_dvd _) Nat.one_pos]
        exact upper.le
    omega
  · rw [← same, show number.log2 + 1 - precision - 2 = number.log2 - precision - 1 by omega]
    exact next_le_roundTo_iff (by omega)
  · have large : 2 ^ top ≤ 2 ^ number.log2 := Nat.pow_le_pow_right (by decide) (by omega)
    have rounded : 2 ^ number.log2 ≤ roundTo (2 ^ (number.log2 - precision)) number :=
      two_pow_le_roundTo (by omega) positive.ne'
    omega

/-- Rounding keeps the order with a number of few bits. -/
theorem nearest?_order {rounded bound : Nat} (below : precision + 1 < top)
    (few : bound < 2 ^ (precision + 1)) (found : nearest? precision top number = some rounded) :
    (rounded ≤ bound ↔ number ≤ bound) ∧ (bound ≤ rounded ↔ bound ≤ number) := by
  rcases le_total number (2 ^ (precision + 1)) with exact | many
  · rw [nearest?_of_le below exact] at found
    cases found
    exact ⟨Iff.rfl, Iff.rfl⟩
  · have still := le_of_nearest? many found
    omega

theorem two_pow_le_firstInfinite (below : precision + 2 ≤ top) :
    2 ^ (precision + 1) ≤ firstInfinite precision top := by
  have whole : 2 ^ (top - 1) * 2 = 2 ^ top := by
    rw [← pow_succ, Nat.sub_add_cancel (by omega)]
  have half : 2 ^ (precision + 1) ≤ 2 ^ (top - 1) :=
    Nat.pow_le_pow_right (by decide) (by omega)
  have margin : 2 ^ (top - precision - 2) ≤ 2 ^ (top - 1) :=
    Nat.pow_le_pow_right (by decide) (by omega)
  unfold firstInfinite
  omega

end Rounding

/-- `parseInt(digits, 10)`, `none` for `Infinity`. -/
def JsString.parseInt (digits : JsString) : Option Nat :=
  nearest? 52 1024 (JsString.digitsValue digits)

/-! ## Decimal texts -/

theorem decimalText_eq_if (number : Nat) :
    decimalText number = (if number < 10 then [] else decimalText (number / 10)) ++
        [48 + (number % 10).toUInt16] := by
  have last : ∀ digit < 10, utf16 (Nat.digitChar digit) = [48 + digit.toUInt16] := by decide
  simp only [decimalText_eq]
  rw [Nat.toDigits_eq_if (by decide)]
  split
  · rename_i small
    rw [Nat.mod_eq_of_lt small, List.flatMap_singleton, last number small, List.nil_append]
  · rw [List.flatMap_append, List.flatMap_singleton, last _ (Nat.mod_lt number (by decide))]

theorem decimalText_ne_nil (number : Nat) : decimalText number ≠ [] := by
  rw [decimalText_eq_if]
  exact List.append_ne_nil_of_right_ne_nil _ (List.cons_ne_nil _ _)

theorem isDigit_of_mem_decimalText {number : Nat} {unit : UInt16}
    (member : unit ∈ decimalText number) : Json.isDigit unit = true := by
  have last : ∀ digit < 10, Json.isDigit (48 + digit.toUInt16) = true := by decide
  induction number using Nat.strongRecOn with
  | ind number ih =>
    rw [decimalText_eq_if, List.mem_append, List.mem_singleton] at member
    rcases member with before | rfl
    · split at before
      · cases before
      · exact ih _ (Nat.div_lt_self (by omega) (by decide)) before
    · exact last _ (Nat.mod_lt number (by decide))

theorem digitsValue_decimalText (number : Nat) :
    JsString.digitsValue (decimalText number) = number := by
  have last : ∀ digit < 10, (48 + digit.toUInt16).toNat - 48 = digit := by decide
  induction number using Nat.strongRecOn with
  | ind number ih =>
    rw [decimalText_eq_if, JsString.digitsValue, List.foldl_append, List.foldl_cons,
      List.foldl_nil, last _ (Nat.mod_lt number (by decide)), ← JsString.digitsValue]
    split
    · rename_i small
      rw [Nat.mod_eq_of_lt small]
      exact Nat.zero_add number
    · rw [ih _ (Nat.div_lt_self (by omega) (by decide))]
      omega

theorem decimalText_injective {first second : Nat} (same : decimalText first = decimalText second) :
    first = second := by
  rw [← digitsValue_decimalText first, same, digitsValue_decimalText]

/-- Only zero begins with the digit zero. -/
theorem head_decimalText {number : Nat} (positive : 0 < number) :
    (decimalText number).head? ≠ some 48 := by
  have last : ∀ digit < 10, 0 < digit → 48 + digit.toUInt16 ≠ 48 := by decide
  induction number using Nat.strongRecOn with
  | ind number ih =>
    rw [decimalText_eq_if]
    split
    · rename_i small
      rw [Nat.mod_eq_of_lt small]
      intro zero
      exact last number small positive (Option.some.inj zero)
    · rw [List.head?_append_of_ne_nil _ (decimalText_ne_nil _)]
      exact ih _ (Nat.div_lt_self positive (by decide)) (by omega)

/-- The text of a natural number is read up to its end. -/
theorem numberLiteral_decimalText (number : Nat) : Json.NumberLiteral (decimalText number) where
  formed := by
    apply JsString.wellFormed_of_ordinary
    intro unit member
    have digit := isDigit_of_mem_decimalText member
    simp only [Json.isDigit, Bool.and_eq_true, decide_eq_true_eq, UInt16.le_iff_toNat_le] at digit
    apply JsString.ordinary_of_ascii
    rw [UInt16.lt_iff_toNat_lt]
    exact Nat.lt_of_le_of_lt digit.2 (by decide)
  read := by
    intro rest stops
    have digits : ∀ unit ∈ decimalText number, Json.isDigit unit = true :=
      fun _ => isDigit_of_mem_decimalText
    have past : rest.takeWhile Json.isDigit = [] ∧ rest.dropWhile Json.isDigit = rest := by
      cases rest with
      | nil => exact ⟨rfl, rfl⟩
      | cons unit rest =>
        have other := stops unit rfl
        simp only [Bool.or_eq_false_iff] at other
        simp only [List.takeWhile_cons, List.dropWhile_cons, other.1.1.1, Bool.false_eq_true,
          if_false, and_self]
    have whole : (decimalText number ++ rest).span Json.isDigit = (decimalText number, rest) := by
      rw [List.span_eq_takeWhile_dropWhile, List.takeWhile_append_of_pos digits,
        List.dropWhile_append_of_pos digits, past.1, past.2, List.append_nil]
    have unsigned : ¬ (decimalText number ++ rest).head? = some 45 := by
      rw [List.head?_append_of_ne_nil _ (decimalText_ne_nil _)]
      intro minus
      exact absurd (digits 45 (List.mem_of_head? minus)) (by decide)
    have leading : ¬ (1 < (decimalText number).length ∧ (decimalText number).head? = some 48) := by
      rcases Nat.eq_zero_or_pos number with zero | positive
      · subst zero
        decide
      · exact fun both => head_decimalText positive both.2
    unfold Json.parseNumber
    simp only [if_neg unsigned, whole, List.isEmpty_eq_false_iff.mpr (decimalText_ne_nil number),
      Bool.false_or, Bool.and_eq_true, decide_eq_true_eq, if_neg leading]
    cases rest with
    | nil => simp [Json.parseFraction, Json.parseExponent]
    | cons unit rest =>
      have other := stops unit rfl
      simp only [Bool.or_eq_false_iff, decide_eq_false_iff_not] at other
      simp [Json.parseFraction, Json.parseExponent, other]

/-- `typeof value === "number"`, with the number, where it is a natural one in digits. -/
def Json.digits? : Option Json → Option Nat
  | some (.num text) => some (JsString.digitsValue text)
  | _ => none

@[simp] theorem Json.digits?_decimalText (number : Nat) :
    Json.digits? (some (.num (decimalText number))) = some number :=
  congrArg some (digitsValue_decimalText number)

end Foundation
