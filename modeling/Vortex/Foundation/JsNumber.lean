import Mathlib.Algebra.Order.Ring.Rat
import Mathlib.Data.List.TakeWhile
import Vortex.Foundation.JsonText

/-!
# The numbers JSON texts stand for

`JSON.parse` rounds a number to the nearest double, so a text far from an integer
may be one, and a very small one is zero. `integer?` is the integer a text stands
for, as `Number.isInteger` and `===` see it.
-/

namespace Foundation

namespace JsString

open Json (isDigit)

/-- The number made of decimal digits. -/
def digitsValue (digits : JsString) : Nat :=
  digits.foldl (fun number digit => 10 * number + (digit.toNat - 48)) 0

/-- The double nearest to a number, without its sign. -/
def magnitude (text : JsString) : Float.Model :=
  let (whole, rest) := (if text.head? = some 45 then text.tail else text).span isDigit
  let fraction := if rest.head? = some 46 then rest.tail.takeWhile isDigit else []
  let exponent := (rest.dropWhile fun unit => unit ≠ 101 && unit ≠ 69).tail
  let power : Int := digitsValue (exponent.filter isDigit)
  .ofScientific (digitsValue (whole ++ fraction))
    ((if exponent.head? = some 45 then -power else power) - fraction.length)

/-- The integer a double is, if it is one, without its sign. -/
def natural? (number : Float.Model) : Option Nat :=
  match number.unpack with
  | .zero _ => some 0
  | .finite _ mantissa exponent _ =>
      if 0 ≤ exponent then some (mantissa * 2 ^ exponent.toNat)
      else if mantissa % 2 ^ (-exponent).toNat = 0 then some (mantissa / 2 ^ (-exponent).toNat)
      else none
  | _ => none

/-- The double nearest to a natural number, which is one again. -/
def nearest (number : Nat) : Nat := (natural? (.ofScientific number 0)).getD 0

/-- The number a natural double is printed as: the closest one of the fewest digits, filled up
with zeros, that is rounded to it. -/
def shortest (value : Nat) : Nat :=
  let size := (Nat.toDigits 10 value).length
  let candidates := (List.range size).flatMap fun kept =>
    let unit := 10 ^ (size - 1 - kept)
    let below := value / unit * unit
    if 2 * (value - below) ≤ unit then [below, below + unit] else [below + unit, below]
  (candidates.find? fun number => nearest number = value).getD value

/-- `String(parseInt(text, 10) - 1)` for the text of a number. -/
def lessOne (number : Nat) : Nat :=
  if number ≤ 2 ^ 53 then number - 1 else shortest (nearest (nearest number - 1))

/-- The integer a number is, if it is one. -/
def integer? (text : JsString) : Option Int :=
  (natural? (magnitude text)).map fun value =>
    if text.head? = some 45 then -(value : Int) else value

/-- The value of a double without its sign, `none` when it is infinite or not a number. -/
def rational? (number : Float.Model) : Option ℚ :=
  match number.unpack with
  | .zero _ => some 0
  | .finite _ mantissa exponent _ =>
      if 0 ≤ exponent then some (mantissa * 2 ^ exponent.toNat)
      else some (mkRat mantissa (2 ^ (-exponent).toNat))
  | _ => none

/-- The digits of an exponent, after its sign. -/
def isExponent (text : JsString) : Bool :=
  let digits := if text.head? = some 43 || text.head? = some 45 then text.tail else text
  !digits.isEmpty && digits.all isDigit

/-- Whether a text is a decimal literal, without a sign. -/
def isDecimal (text : JsString) : Bool :=
  let whole := text.takeWhile isDigit
  let rest := text.dropWhile isDigit
  let fraction := if rest.head? = some 46 then rest.tail.takeWhile isDigit else []
  let last := if rest.head? = some 46 then rest.tail.dropWhile isDigit else rest
  (!whole.isEmpty || !fraction.isEmpty) &&
    (last.isEmpty || ((last.head? = some 101 || last.head? = some 69) && isExponent last.tail))

def decimal? (text : JsString) : Option ℚ :=
  if isDecimal text then rational? (magnitude text) else none

/-- The base that the second letter of `0x`, `0o` and `0b` stands for. -/
def radixOf (letter : UInt16) : Option Nat :=
  if letter = 120 || letter = 88 then some 16
  else if letter = 111 || letter = 79 then some 8
  else if letter = 98 || letter = 66 then some 2
  else none

/-- The digits of a number in a base. -/
def radix? (base : Nat) (digits : JsString) : Option ℚ := do
  let values ← digits.mapM hexValue
  if values = [] || values.any (fun value => base ≤ value.toNat) then none
  else rational? (.ofScientific (values.foldl (fun number value => base * number + value.toNat) 0) 0)

/-- `Number(text)`, for a text without white space at its ends; `none` when it is `NaN`
or infinite. -/
def number? : JsString → Option ℚ
  | [] => some 0
  | 43 :: rest => decimal? rest
  | 45 :: rest => (decimal? rest).map fun value => -value
  | 48 :: letter :: rest =>
      match radixOf letter with
      | some base => radix? base rest
      | none => decimal? (48 :: letter :: rest)
  | text => decimal? text

example : integer? (js "-1.50e+1") = some (-15) := by decide

example : number? (js "1.5e2") = some 150 ∧ number? (js "0x1F") = some 31 ∧
    number? (js "::1") = none := by decide

example : integer? (js "0.5") = none ∧ integer? (js "1e-400") = some 0 := by decide +kernel

example : lessOne (2 ^ 60) = 1152921504606847000 ∧ lessOne (2 ^ 53 + 1) = 2 ^ 53 - 1 := by
  decide

/-! ## The letters of a number -/

/-- What the text of a number may be made of. -/
def isNumeral (unit : UInt16) : Bool :=
  (hexValue unit).isSome || unit = 43 || unit = 45 || unit = 46 || unit = 120 || unit = 88 ||
    unit = 111 || unit = 79

section

variable {text : JsString} {unit : UInt16}

theorem isNumeral_of_isDigit (digit : isDigit unit = true) : isNumeral unit = true := by
  unfold isNumeral hexValue
  unfold isDigit at digit
  simp [digit]

theorem isNumeral_of_isExponent (exponent : isExponent text = true) (member : unit ∈ text) :
    isNumeral unit = true := by
  unfold isExponent at exponent
  simp only [Bool.and_eq_true, List.all_eq_true] at exponent
  cases text with
  | nil => cases member
  | cons first rest =>
    split at exponent
    · rename_i signed
      rcases List.mem_cons.mp member with same | later
      · subst same
        simp only [List.head?_cons, Option.some.injEq, Bool.or_eq_true, decide_eq_true_eq] at signed
        rcases signed with plus | minus
        · rw [plus]; rfl
        · rw [minus]; rfl
      · exact isNumeral_of_isDigit (exponent.2 unit later)
    · exact isNumeral_of_isDigit (exponent.2 unit member)

theorem isNumeral_of_isDecimal (decimal : isDecimal text = true) (member : unit ∈ text) :
    isNumeral unit = true := by
  have ending : ∀ last : JsString, (last.isEmpty || ((last.head? = some 101 || last.head? = some 69)
      && isExponent last.tail)) = true → unit ∈ last → isNumeral unit = true := by
    intro last fits inside
    cases last with
    | nil => cases inside
    | cons letter exponent =>
      simp only [List.isEmpty_cons, List.head?_cons, Option.some.injEq, List.tail_cons,
        Bool.false_or, Bool.and_eq_true, Bool.or_eq_true, decide_eq_true_eq] at fits
      rcases List.mem_cons.mp inside with same | later
      · rcases fits.1 with lower | upper
        · rw [same, lower]; rfl
        · rw [same, upper]; rfl
      · exact isNumeral_of_isExponent fits.2 later
  unfold isDecimal at decimal
  rw [Bool.and_eq_true] at decimal
  have final := decimal.2
  rw [← List.takeWhile_append_dropWhile (p := isDigit) (l := text)] at member
  rcases List.mem_append.mp member with whole | rest
  · exact isNumeral_of_isDigit (List.mem_takeWhile_imp whole)
  · split at final
    · rename_i point
      rw [← List.cons_head?_tail point] at rest
      rcases List.mem_cons.mp rest with same | later
      · rw [same]; rfl
      · rw [← List.takeWhile_append_dropWhile (p := isDigit)
          (l := (text.dropWhile isDigit).tail)] at later
        rcases List.mem_append.mp later with fraction | last
        · exact isNumeral_of_isDigit (List.mem_takeWhile_imp fraction)
        · exact ending _ final last
    · exact ending _ final rest

theorem decimal?_eq_none (foreign : isNumeral unit = false) (member : unit ∈ text) :
    decimal? text = none := by
  refine if_neg fun decimal => ?_
  rw [isNumeral_of_isDecimal decimal member] at foreign
  cases foreign

theorem radix?_eq_none {base : Nat} (foreign : isNumeral unit = false) (member : unit ∈ text) :
    radix? base text = none := by
  have unreadable : hexValue unit = none := by
    unfold isNumeral at foreign
    simp only [Bool.or_eq_false_iff] at foreign
    exact Option.isSome_eq_false_iff.mp foreign.1.1.1.1.1.1.1 |> Option.isNone_iff_eq_none.mp
  have values : text.mapM hexValue = none := by
    induction text with
    | nil => cases member
    | cons first rest ih =>
      rw [List.mapM_cons]
      rcases List.mem_cons.mp member with same | later
      · rw [← same, unreadable]
        rfl
      · cases hexValue first with
        | none => rfl
        | some value =>
          rw [ih later]
          rfl
  unfold radix?
  rw [values]
  rfl

/-- A text with anything else in it is not a number. -/
theorem number?_eq_none (foreign : isNumeral unit = false) (member : unit ∈ text) :
    number? text = none := by
  have other : ∀ rest : JsString, ∀ first, isNumeral first = true → unit ∈ first :: rest →
      unit ∈ rest := by
    intro rest first numeral inside
    rcases List.mem_cons.mp inside with same | later
    · rw [same, numeral] at foreign
      cases foreign
    · exact later
  unfold number?
  split
  · cases member
  · exact decimal?_eq_none foreign (other _ _ rfl member)
  · rw [decimal?_eq_none foreign (other _ _ rfl member)]
    rfl
  · rename_i letter rest
    split
    · rename_i base read
      refine radix?_eq_none foreign (other _ letter ?_ (other _ _ rfl member))
      unfold radixOf at read
      grind [isNumeral, hexValue]
    · exact decimal?_eq_none foreign member
  · exact decimal?_eq_none foreign member

end

end JsString

end Foundation
