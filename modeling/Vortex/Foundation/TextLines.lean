import Mathlib.Data.List.TakeWhile
import Vortex.Foundation.JsonPrefix
import Vortex.Foundation.JsValue

/-!
# Lines of JSON

The lines `readline` finds in a text: they end at line feeds, carriage returns and
the two separators U+2028 and U+2029. A printed value escapes line feeds and
carriage returns but not the separators, so its text is broken exactly when some
string or name in it holds one (`Foundation.Json.any_endsLine_stringify`).
-/

variable {text : JsString} {parsed : JsString × JsString} {unit : UInt16}

namespace Foundation

open List

namespace JsString

/-- U+2028 and U+2029. -/
def isSeparator (unit : UInt16) : Bool := unit = 0x2028 || unit = 0x2029

def endsLine (unit : UInt16) : Bool := unit = 10 || unit = 13 || isSeparator unit

/-- The lines of a text, without their ends. Nothing after the last end is no line. -/
def lines : JsString → List JsString
  | [] => []
  | 13 :: 10 :: rest => [] :: lines rest
  | unit :: rest =>
      if endsLine unit then [] :: lines rest
      else
        match lines rest with
        | [] => [[unit]]
        | line :: later => (unit :: line) :: later

/-- A unit that ends no line belongs to the line it begins. -/
theorem lines_cons (plain : endsLine unit = false) {rest line : JsString} {later : List JsString}
    (split : lines rest = line :: later) : lines (unit :: rest) = (unit :: line) :: later := by
  have carriage : unit ≠ 13 := by
    rintro rfl
    exact absurd plain (by decide)
  rw [lines.eq_3 _ _ (fun _ same => absurd same carriage), if_neg (by simp [plain]), split]

/-- What stands before the first unit that ends a line is a line. -/
theorem lines_prefix {rest : JsString} (whole : text.any endsLine = false) {later : List JsString}
    (split : lines rest = [] :: later) : lines (text ++ rest) = text :: later := by
  induction text with
  | nil => exact split
  | cons first text ih =>
    rw [any_cons, Bool.or_eq_false_iff] at whole
    exact lines_cons whole.1 (ih whole.2)

theorem lines_append (whole : text.any endsLine = false) (ends : endsLine unit = true)
    (single : unit ≠ 13) (rest : JsString) : lines (text ++ unit :: rest) = text :: lines rest := by
  apply lines_prefix whole
  rw [lines.eq_3 _ _ (fun _ same => absurd same single), if_pos ends]

theorem lines_cut (whole : text.any endsLine = false) (ends : endsLine unit = true)
    (rest : JsString) : ∃ later, lines (text ++ unit :: rest) = text :: later := by
  have first : ∃ later, lines (unit :: rest) = [] :: later := by
    unfold lines
    split
    · contradiction
    · exact ⟨_, rfl⟩
    · rename_i same
      cases same
      exact ⟨_, if_pos ends⟩
  obtain ⟨later, split⟩ := first
  exact ⟨later, lines_prefix whole split⟩

/-- A text that holds the end of a line starts with what stands before the first. -/
theorem exists_cut (ends : text.any endsLine = true) :
    ∃ before unit after, text = before ++ unit :: after ∧ before.any endsLine = false ∧
      endsLine unit = true := by
  induction text with
  | nil => cases ends
  | cons first rest ih =>
    cases plain : endsLine first with
    | true => exact ⟨[], first, rest, rfl, rfl, plain⟩
    | false =>
      rw [any_cons, plain, Bool.false_or] at ends
      obtain ⟨before, unit, after, rfl, whole, ending⟩ := ih ends
      exact ⟨first :: before, unit, after, rfl, by rw [any_cons, plain, whole]; rfl, ending⟩

/-! ## What escaping leaves -/

theorem any_endsLine_escapeUnit (unit : UInt16) :
    (escapeUnit unit).any endsLine = isSeparator unit := by
  unfold escapeUnit
  split_ifs with backspace tab newline feed enter quoted backslash special
  iterate 7
    subst unit
    rfl
  · have digits : ∀ value : UInt16, value < 16 → endsLine (hexDigit value) = false := by
      intro value small
      have bound : value.toNat < 16 := small
      have every : ∀ digit : Fin 16, endsLine (hexDigit digit.val.toUInt16) = false := by decide
      simpa using every ⟨value.toNat, bound⟩
    have plain : isSeparator unit = false := by
      cases separator : isSeparator unit with
      | false => rfl
      | true =>
        rw [isSeparator, Bool.or_eq_true, decide_eq_true_eq, decide_eq_true_eq] at separator
        rcases separator with rfl | rfl <;> exact absurd special (by decide)
    have low : ∀ value : UInt16, value &&& 15 < 16 := by
      intro value
      rw [UInt16.lt_iff_toNat_lt, UInt16.toNat_and]
      exact Nat.lt_of_le_of_lt Nat.and_le_right (by decide)
    have top : unit >>> 12 < 16 := by
      have bound := unit.toNat_lt
      rw [UInt16.lt_iff_toNat_lt]
      simp only [UInt16.toNat_shiftRight, UInt16.reduceToNat, Nat.reduceMod,
        Nat.shiftRight_eq_div_pow]
      omega
    rw [plain]
    simp only [unicodeEscape, any_cons, any_nil, digits _ top, digits _ (low _), Bool.or_false]
    decide
  · simp [endsLine, newline, enter]

theorem any_endsLine_escape (text : JsString) :
    (escape text).any endsLine = text.any isSeparator := by
  induction text using escape.induct with
  | case1 => rfl
  | case2 unit => simp [escape, any_endsLine_escapeUnit]
  | case3 lead trail rest paired ih =>
    obtain ⟨leads, trails⟩ := Bool.and_eq_true_iff.mp paired
    have plain : ∀ unit : UInt16, 0xD800 ≤ unit.toNat → endsLine unit = isSeparator unit := by
      intro unit large
      have feed : unit ≠ 10 := by
        rintro rfl
        exact absurd large (by decide)
      have enter : unit ≠ 13 := by
        rintro rfl
        exact absurd large (by decide)
      simp [endsLine, feed, enter]
    simp only [isLeadSurrogate, isTrailSurrogate, Bool.and_eq_true, decide_eq_true_eq,
      UInt16.le_iff_toNat_le] at leads trails
    have high : 0xD800 ≤ lead.toNat := leads.1
    have low : 0xDC00 ≤ trail.toNat := trails.1
    rw [escape, if_pos paired, any_cons, any_cons, ih, plain lead high,
      plain trail (by omega), any_cons, any_cons]
  | case4 lead trail rest unpaired ih =>
    rw [escape, if_neg unpaired, any_append, any_endsLine_escapeUnit, ih]
    rfl

theorem any_endsLine_quote (text : JsString) :
    (quote text).any endsLine = text.any isSeparator := by
  rw [quote, cons_append, any_cons, any_append, any_endsLine_escape]
  simp only [show endsLine 34 = false by decide, any_cons, any_nil, Bool.or_false, Bool.false_or]

end JsString

namespace Json

open JsString

/-! ## Numbers hold no line end -/

theorem endsLine_of_isDigit (digit : isDigit unit = true) : endsLine unit = false := by
  simp only [isDigit, Bool.and_eq_true, decide_eq_true_eq, UInt16.le_iff_toNat_le] at digit
  have low : 48 ≤ unit.toNat := digit.1
  have high : unit.toNat ≤ 57 := digit.2
  have other : ∀ value : UInt16, value.toNat < 48 ∨ 57 < value.toNat → unit ≠ value := by
    rintro value outside rfl
    omega
  simp [endsLine, isSeparator, other 10 (by decide), other 13 (by decide),
    other 0x2028 (by decide), other 0x2029 (by decide)]

theorem any_endsLine_span {stays : UInt16 → Bool}
    (plain : ∀ unit, stays unit = true → endsLine unit = false) (text : JsString) :
    (text.span stays).1.any endsLine = false := by
  rw [span_eq_takeWhile_dropWhile, any_eq_false]
  intro unit member
  simp [plain unit (mem_takeWhile_imp member)]

theorem any_endsLine_parseExponent (read : parseExponent text = some parsed) :
    parsed.1.any endsLine = false := by
  cases text with
  | nil =>
    cases read
    rfl
  | cons unit rest =>
    have signs : ∀ unit : UInt16, (unit = 43 || unit = 45) = true → endsLine unit = false := by
      intro unit sign
      rw [Bool.or_eq_true, decide_eq_true_eq, decide_eq_true_eq] at sign
      rcases sign with rfl | rfl <;> rfl
    have first := any_endsLine_span signs rest
    have second := any_endsLine_span (fun _ => endsLine_of_isDigit)
      (rest.span fun unit => unit = 43 || unit = 45).2
    simp only [parseExponent] at read
    by_cases marked : (unit = 101 || unit = 69) = true
    · rw [if_pos marked] at read
      split_ifs at read with literal
      cases read
      rw [Bool.or_eq_true, decide_eq_true_eq, decide_eq_true_eq] at marked
      rw [any_cons, any_append, first, second]
      rcases marked with rfl | rfl <;> rfl
    · rw [if_neg marked] at read
      cases read
      rfl

theorem any_endsLine_parseFraction (read : parseFraction text = some parsed) :
    parsed.1.any endsLine = false := by
  cases text with
  | nil =>
    cases read
    rfl
  | cons unit rest =>
    have digits := any_endsLine_span (fun _ => endsLine_of_isDigit) rest
    simp only [parseFraction] at read
    split_ifs at read with point empty
    · cases read
      rw [any_cons, digits]
      rfl
    · cases read
      rfl

theorem any_endsLine_parseNumber (read : parseNumber text = some parsed) :
    parsed.1.any endsLine = false := by
  obtain ⟨unit, tail, rfl, -⟩ := head_of_parseNumber read
  rw [parseNumber] at read
  have signs : (if (unit :: tail).head? = some 45 then (([45] : JsString), (unit :: tail).tail)
      else ([], unit :: tail)).1.any endsLine = false := by
    split_ifs <;> rfl
  generalize (if (unit :: tail).head? = some 45 then (([45] : JsString), (unit :: tail).tail)
    else ([], unit :: tail)) = signed at read signs
  have digits := any_endsLine_span (fun _ => endsLine_of_isDigit) signed.2
  dsimp only at read
  split_ifs at read with malformed
  obtain ⟨⟨fraction, after_fraction⟩, fractional, read⟩ := Option.bind_eq_some_iff.mp read
  obtain ⟨⟨exponent, rest⟩, exponential, read⟩ := Option.bind_eq_some_iff.mp read
  cases read
  have middle := any_endsLine_parseFraction fractional
  have last := any_endsLine_parseExponent exponential
  simp only [any_append, signs, digits, middle, last, Bool.or_false]

theorem NumberLiteral.any_endsLine (literal : NumberLiteral text) : text.any endsLine = false := by
  have read := literal.read [] terminated_nil
  rw [append_nil] at read
  exact any_endsLine_parseNumber read

/-! ## Broken texts -/

mutual

/-- Whether some string or name in a value holds a separator. -/
def separated : Json → Bool
  | .str text => text.any isSeparator
  | .arr items => separatedItems items
  | .obj members => separatedMembers members
  | _ => false

def separatedItems : List Json → Bool
  | [] => false
  | item :: rest => separated item || separatedItems rest

def separatedMembers : List (JsString × Json) → Bool
  | [] => false
  | (name, value) :: rest => name.any isSeparator || separated value || separatedMembers rest

end

mutual

/-- Printing numbers otherwise moves no separator. -/
theorem separated_printed (value : Json) : separated (printed value) = separated value := by
  cases value with
  | num text =>
    rw [printed]
    split_ifs <;> rfl
  | arr items => simp [printed, separated, separatedItems_printedItems items]
  | obj members => simp [printed, separated, separatedMembers_printedMembers members]
  | null => rfl
  | bool value => rfl
  | str text => rfl

theorem separatedItems_printedItems (items : List Json) :
    separatedItems (printedItems items) = separatedItems items := by
  cases items with
  | nil => rfl
  | cons item rest =>
    simp [printedItems, separatedItems, separated_printed item, separatedItems_printedItems rest]

theorem separatedMembers_printedMembers (members : List (JsString × Json)) :
    separatedMembers (printedMembers members) = separatedMembers members := by
  cases members with
  | nil => rfl
  | cons member rest =>
    obtain ⟨name, value⟩ := member
    simp [printedMembers, separatedMembers, separated_printed value,
      separatedMembers_printedMembers rest]

end

mutual

/-- The text of a value is broken exactly when some string or name in it is. -/
theorem any_endsLine_stringify (value : Json) (printable : Printable value) :
    (stringify value).any endsLine = separated value := by
  cases value with
  | null => decide
  | bool value => cases value <;> decide
  | num text =>
    unfold Printable at printable
    exact printable.any_endsLine
  | str text => exact any_endsLine_quote text
  | arr items =>
    unfold Printable at printable
    simp [stringify, separated, any_endsLine_stringifyItems items printable,
      show endsLine 91 = false by decide, show endsLine 93 = false by decide]
  | obj members =>
    unfold Printable at printable
    simp [stringify, separated, any_endsLine_stringifyMembers members printable,
      show endsLine 123 = false by decide, show endsLine 125 = false by decide]

theorem any_endsLine_stringifyItems (items : List Json) (printable : PrintableItems items) :
    (stringifyItems items).any endsLine = separatedItems items := by
  cases items with
  | nil => rfl
  | cons item rest =>
    unfold PrintableItems at printable
    have first := any_endsLine_stringify item printable.1
    cases rest with
    | nil => rw [stringifyItems, separatedItems, separatedItems, first, Bool.or_false]
    | cons next rest =>
      rw [stringifyItems, separatedItems, any_append, any_cons, first,
        any_endsLine_stringifyItems (next :: rest) printable.2,
        show endsLine 44 = false by decide, Bool.false_or]

theorem any_endsLine_stringifyMembers (members : List (JsString × Json))
    (printable : PrintableMembers members) :
    (stringifyMembers members).any endsLine = separatedMembers members := by
  cases members with
  | nil => rfl
  | cons member rest =>
    obtain ⟨name, value⟩ := member
    unfold PrintableMembers at printable
    have first := any_endsLine_stringify value printable.1
    have colon : endsLine 58 = false := by decide
    cases rest with
    | nil =>
      rw [stringifyMembers, separatedMembers, separatedMembers, any_append, any_cons,
        first, any_endsLine_quote, colon, Bool.false_or, Bool.or_false]
    | cons next rest =>
      rw [stringifyMembers, separatedMembers, any_append, any_cons, any_append,
        any_cons, first, any_endsLine_quote, colon,
        any_endsLine_stringifyMembers (next :: rest) printable.2,
        show endsLine 44 = false by decide, Bool.false_or, Bool.false_or, Bool.or_assoc]

end

end Json

end Foundation
