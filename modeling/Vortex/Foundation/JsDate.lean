import Vortex.Foundation.JsText

/-!
# Dates

A `Date` by its time value, the milliseconds since 1970, and the text
`toISOString` gives it. The text is made of digits and the separators of the
format only (`Foundation.JsDate.plain_toISOString`).
-/

namespace Foundation

namespace JsDate

/-- Year, month and day of the day that many days after 1 January 1970. Years are counted
from March, so that the leap day is the last of its year. -/
def civil (days : Int) : Int × Nat × Nat :=
  let shifted := days + 719468
  let era := shifted / 146097
  let dayOfEra := (shifted - era * 146097).toNat
  let yearOfEra := (dayOfEra - dayOfEra / 1460 + dayOfEra / 36524 - dayOfEra / 146096) / 365
  let dayOfYear := dayOfEra - (365 * yearOfEra + yearOfEra / 4 - yearOfEra / 100)
  let monthFromMarch := (5 * dayOfYear + 2) / 153
  let day := dayOfYear - (153 * monthFromMarch + 2) / 5 + 1
  let month := if monthFromMarch < 10 then monthFromMarch + 3 else monthFromMarch - 9
  (yearOfEra + era * 400 + if month ≤ 2 then 1 else 0, month, day)

/-- The last `width` decimal digits of a number. -/
def pad : Nat → Nat → JsString
  | 0, _ => []
  | width + 1, number => pad width (number / 10) ++ [48 + (number % 10).toUInt16]

/-- A year: four digits, or a sign and six. -/
def year (number : Int) : JsString :=
  if 0 ≤ number ∧ number ≤ 9999 then pad 4 number.toNat
  else (if number < 0 then 45 else 43) :: pad 6 number.natAbs

/-- The greatest time value, to either side of 1970. -/
def greatest : Nat := 8640000000000000

/-- `date.toISOString()`; `none` when it throws, for a date that is not valid. -/
def toISOString (time : Int) : Option JsString :=
  if greatest < time.natAbs then none
  else
    let date := civil (time / 86400000)
    let milliseconds := (time % 86400000).toNat
    some (year date.1 ++ 45 :: (pad 2 date.2.1 ++ 45 :: (pad 2 date.2.2 ++ 84 ::
      (pad 2 (milliseconds / 3600000) ++ 58 :: (pad 2 (milliseconds / 60000 % 60) ++ 58 ::
        (pad 2 (milliseconds / 1000 % 60) ++ 46 :: (pad 3 (milliseconds % 1000) ++ [90])))))))

example : toISOString 1709210096789 = some (js "2024-02-29T12:34:56.789Z") ∧
    toISOString (-62198755200000) = some (js "-000001-01-01T00:00:00.000Z") := by decide

/-- The characters of the format. -/
def isPlain (unit : UInt16) : Bool := 43 ≤ unit && unit ≤ 90

theorem plain_pad (width number : Nat) : ∀ unit ∈ pad width number, isPlain unit = true := by
  induction width generalizing number with
  | zero => simp [pad]
  | succ width ih =>
    intro unit member
    rcases List.mem_append.mp member with earlier | last
    · exact ih (number / 10) unit earlier
    · obtain rfl := List.mem_singleton.mp last
      have every : ∀ digit : Fin 10, isPlain (48 + digit.val.toUInt16) = true := by decide
      exact every ⟨number % 10, Nat.mod_lt _ (by decide)⟩

theorem plain_year (number : Int) : ∀ unit ∈ year number, isPlain unit = true := by
  unfold year
  split_ifs with four negative
  · exact plain_pad 4 _
  · intro unit member
    rcases List.mem_cons.mp member with rfl | later
    · rfl
    · exact plain_pad 6 _ unit later
  · intro unit member
    rcases List.mem_cons.mp member with rfl | later
    · rfl
    · exact plain_pad 6 _ unit later

theorem plain_toISOString {time : Int} {text : JsString} (printed : toISOString time = some text) :
    ∀ unit ∈ text, isPlain unit = true := by
  unfold toISOString at printed
  split_ifs at printed with outside
  cases printed
  intro unit member
  simp only [List.mem_append, List.mem_cons, List.not_mem_nil, or_false] at member
  rcases member with found | rfl | found | rfl | found | rfl | found | rfl | found | rfl |
    found | rfl | found | rfl
  · exact plain_year _ unit found
  all_goals first
    | rfl
    | exact plain_pad _ _ unit found

theorem toISOString_isSome (time : Int) :
    (toISOString time).isSome = true ↔ time.natAbs ≤ greatest := by
  unfold toISOString
  split_ifs with outside
  · simp [outside]
  · simpa using outside

end JsDate

end Foundation
