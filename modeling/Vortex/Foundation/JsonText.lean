import Mathlib.Data.List.TakeDrop
import Vortex.Foundation.Json

/-!
# JSON text

`JSON.stringify` and `JSON.parse` on the values of `Foundation.Json`. What is
printed is read back (`Foundation.Json.parse_stringify`), so equal texts are
texts of equal values, and a printed text never holds an unpaired surrogate.
-/

variable {text rest after : JsString} {unit : UInt16} {fuel : Nat} {value : Json}

namespace Foundation

open List

namespace JsString

/-! ## String literals -/

/-- The value of a hexadecimal digit, in either case. -/
def hexValue (unit : UInt16) : Option UInt16 :=
  if 48 ≤ unit && unit ≤ 57 then some (unit - 48)
  else if 97 ≤ unit && unit ≤ 102 then some (unit - 87)
  else if 65 ≤ unit && unit ≤ 70 then some (unit - 55)
  else none

/-- The code unit of a `\u` escape. -/
def hexUnit (first second third fourth : UInt16) : Option UInt16 := do
  let first ← hexValue first
  let second ← hexValue second
  let third ← hexValue third
  let fourth ← hexValue fourth
  return first * 4096 + second * 256 + third * 16 + fourth

/-- The code unit of a one-letter escape. -/
def simpleEscape (letter : UInt16) : Option UInt16 :=
  if letter = 34 then some 34
  else if letter = 92 then some 92
  else if letter = 47 then some 47
  else if letter = 98 then some 8
  else if letter = 102 then some 12
  else if letter = 110 then some 10
  else if letter = 114 then some 13
  else if letter = 116 then some 9
  else none

/-- Read the rest of a string literal after its opening quote: the string and what
follows the closing quote. -/
def parseChars : JsString → Option (JsString × JsString)
  | [] => none
  | unit :: rest =>
      if unit = 34 then some ([], rest)
      else if unit = 92 then
        match rest with
        | [] => none
        | letter :: rest =>
            if letter = 117 then
              match rest with
              | first :: second :: third :: fourth :: rest => do
                  let escaped ← hexUnit first second third fourth
                  let (text, rest) ← parseChars rest
                  return (escaped :: text, rest)
              | _ => none
            else do
              let escaped ← simpleEscape letter
              let (text, rest) ← parseChars rest
              return (escaped :: text, rest)
      else if unit < 32 then none
      else do
        let (text, rest) ← parseChars rest
        return (unit :: text, rest)

theorem hexValue_hexDigit {value : UInt16} (small : value < 16) :
    hexValue (hexDigit value) = some value := by
  have bound : value.toNat < 16 := small
  have every : ∀ digit : Fin 16, hexValue (hexDigit digit.val.toUInt16) =
      some digit.val.toUInt16 := by decide
  have found := every ⟨value.toNat, bound⟩
  simpa using found

theorem hexUnit_unicodeEscape (unit : UInt16) :
    hexUnit (hexDigit (unit >>> 12)) (hexDigit (unit >>> 8 &&& 15))
      (hexDigit (unit >>> 4 &&& 15)) (hexDigit (unit &&& 15)) = some unit := by
  have bound := unit.toNat_lt
  have first : (unit >>> 12).toNat = unit.toNat / 4096 := by
    simp [Nat.shiftRight_eq_div_pow]
  have low : ∀ value : UInt16, (value &&& 15).toNat = value.toNat % 16 := by
    intro value
    rw [UInt16.toNat_and]
    exact Nat.and_two_pow_sub_one_eq_mod value.toNat 4
  have second : (unit >>> 8).toNat = unit.toNat / 256 := by
    simp [Nat.shiftRight_eq_div_pow]
  have third : (unit >>> 4).toNat = unit.toNat / 16 := by
    simp [Nat.shiftRight_eq_div_pow]
  have small : ∀ value : UInt16, value &&& 15 < 16 := by
    intro value
    rw [UInt16.lt_iff_toNat_lt, low]
    exact Nat.mod_lt _ (by decide)
  have top : unit >>> 12 < 16 := by
    rw [UInt16.lt_iff_toNat_lt, first]
    change unit.toNat / 4096 < 16
    omega
  unfold hexUnit
  rw [hexValue_hexDigit top, hexValue_hexDigit (small _), hexValue_hexDigit (small _),
    hexValue_hexDigit (small _)]
  change some _ = some unit
  apply congrArg some
  apply UInt16.toNat.inj
  simp only [UInt16.toNat_add, UInt16.toNat_mul, first, low, second, third]
  change (((unit.toNat / 4096 * 4096 % 65536 + unit.toNat / 256 % 16 * 256 % 65536) % 65536 +
    unit.toNat / 16 % 16 * 16 % 65536) % 65536 + unit.toNat % 16) % 65536 = unit.toNat
  omega

/-- An ordinary code unit stands for itself. -/
theorem parseChars_plain (quote : unit ≠ 34) (backslash : unit ≠ 92) (printable : ¬ unit < 32)
    (rest : JsString) :
    parseChars (unit :: rest) =
      (parseChars rest).map fun parsed => (unit :: parsed.1, parsed.2) := by
  rw [parseChars.eq_def]
  simp only [if_neg quote, if_neg backslash, if_neg printable]
  cases parseChars rest <;> rfl

theorem parseChars_quote (rest : JsString) : parseChars (34 :: rest) = some ([], rest) := by
  rw [parseChars.eq_def]
  rfl

theorem parseChars_simple {letter escaped : UInt16} (different : letter ≠ 117)
    (known : simpleEscape letter = some escaped) (rest : JsString) :
    parseChars (92 :: letter :: rest) =
      (parseChars rest).map fun parsed => (escaped :: parsed.1, parsed.2) := by
  rw [parseChars.eq_def]
  simp only [if_neg (show ¬ (92 : UInt16) = 34 by decide), if_true, if_neg different, known]
  cases parseChars rest <;> rfl

theorem parseChars_unicode {first second third fourth escaped : UInt16}
    (known : hexUnit first second third fourth = some escaped) (rest : JsString) :
    parseChars (92 :: 117 :: first :: second :: third :: fourth :: rest) =
      (parseChars rest).map fun parsed => (escaped :: parsed.1, parsed.2) := by
  rw [parseChars.eq_def]
  simp only [if_neg (show ¬ (92 : UInt16) = 34 by decide), if_true, known]
  cases parseChars rest <;> rfl

/-- The escape of a code unit is read back as that code unit. -/
theorem parseChars_escapeUnit (unit : UInt16) (rest : JsString) :
    parseChars (escapeUnit unit ++ rest) =
      (parseChars rest).map fun parsed => (unit :: parsed.1, parsed.2) := by
  unfold escapeUnit
  split_ifs with backspace tab newline feed enter quoted backslash special
  · subst backspace
    exact parseChars_simple (by decide) rfl rest
  · subst tab
    exact parseChars_simple (by decide) rfl rest
  · subst newline
    exact parseChars_simple (by decide) rfl rest
  · subst feed
    exact parseChars_simple (by decide) rfl rest
  · subst enter
    exact parseChars_simple (by decide) rfl rest
  · subst quoted
    exact parseChars_simple (by decide) rfl rest
  · subst backslash
    exact parseChars_simple (by decide) rfl rest
  · exact parseChars_unicode (hexUnit_unicodeEscape unit) rest
  · simp only [Bool.or_eq_true, decide_eq_true_eq, not_or] at special
    exact parseChars_plain quoted backslash special.1.1 rest

/-- A printed string literal is read back. -/
theorem parseChars_escape (text rest : JsString) :
    parseChars (escape text ++ 34 :: rest) = some (text, rest) := by
  induction text using escape.induct with
  | case1 => exact parseChars_quote rest
  | case2 unit =>
    rw [escape, parseChars_escapeUnit, parseChars_quote]
    rfl
  | case3 lead trail tail paired ih =>
    obtain ⟨leads, trails⟩ := Bool.and_eq_true_iff.mp paired
    simp only [isLeadSurrogate, isTrailSurrogate, Bool.and_eq_true, decide_eq_true_eq,
      UInt16.le_iff_toNat_le] at leads trails
    have high : 0xD800 ≤ lead.toNat := leads.1
    have low : 0xDC00 ≤ trail.toNat := trails.1
    have ordinary : ∀ unit : UInt16, 0xD800 ≤ unit.toNat → unit ≠ 34 ∧ unit ≠ 92 ∧ ¬ unit < 32 := by
      intro unit large
      refine ⟨?_, ?_, ?_⟩
      · rintro rfl
        exact absurd large (by decide)
      · rintro rfl
        exact absurd large (by decide)
      · rw [UInt16.lt_iff_toNat_lt]
        change ¬ unit.toNat < 32
        omega
    obtain ⟨quote, backslash, printable⟩ := ordinary lead high
    obtain ⟨quote', backslash', printable'⟩ := ordinary trail (by omega)
    simp only [escape, paired, if_true, cons_append]
    rw [parseChars_plain quote backslash printable,
      parseChars_plain quote' backslash' printable', ih]
    rfl
  | case4 lead trail tail unpaired ih =>
    rw [escape, if_neg unpaired, append_assoc, parseChars_escapeUnit, ih]
    rfl

/-- A literal is longer than the string it stands for. -/
theorem length_parseChars {read : JsString} (parsed : parseChars text = some (read, rest)) :
    read.length + rest.length + 1 ≤ text.length := by
  fun_induction parseChars text generalizing read rest with
  | case1 => cases parsed
  | case2 rest =>
    cases parsed
    simp
  | case3 => cases parsed
  | case4 first second third fourth tail _ ih =>
    obtain ⟨escaped, -, parsed⟩ := Option.bind_eq_some_iff.mp parsed
    obtain ⟨⟨text, rest⟩, tail, parsed⟩ := Option.bind_eq_some_iff.mp parsed
    cases parsed
    have shorter := ih tail
    simp only [length_cons]
    omega
  | case5 => cases parsed
  | case6 letter tail _ _ ih =>
    obtain ⟨escaped, -, parsed⟩ := Option.bind_eq_some_iff.mp parsed
    obtain ⟨⟨text, rest⟩, tail, parsed⟩ := Option.bind_eq_some_iff.mp parsed
    cases parsed
    have shorter := ih tail
    simp only [length_cons]
    omega
  | case7 => cases parsed
  | case8 unit tail _ _ _ ih =>
    obtain ⟨⟨text, rest⟩, tail, parsed⟩ := Option.bind_eq_some_iff.mp parsed
    cases parsed
    have shorter := ih tail
    simp only [length_cons]
    omega

/-! ## Well-formed text -/

/-- No surrogate lacks its partner. -/
def wellFormed : JsString → Bool
  | [] => true
  | [unit] => !(isLeadSurrogate unit || isTrailSurrogate unit)
  | lead :: trail :: rest =>
      if isLeadSurrogate lead && isTrailSurrogate trail then wellFormed rest
      else !(isLeadSurrogate lead || isTrailSurrogate lead) && wellFormed (trail :: rest)

/-- A code unit that is no surrogate can precede anything well formed. -/
theorem wellFormed_cons (ordinary : (isLeadSurrogate unit || isTrailSurrogate unit) = false)
    (formed : wellFormed text = true) : wellFormed (unit :: text) = true := by
  cases text with
  | nil => simp only [wellFormed, ordinary, Bool.not_false]
  | cons next rest =>
    have leads : isLeadSurrogate unit = false := (Bool.or_eq_false_iff.mp ordinary).1
    rw [wellFormed, ordinary, leads]
    exact formed

theorem wellFormed_append {first second : JsString} (left : wellFormed first = true)
    (right : wellFormed second = true) : wellFormed (first ++ second) = true := by
  induction first using wellFormed.induct with
  | case1 => exact right
  | case2 unit =>
    simp only [wellFormed, Bool.not_eq_true'] at left
    exact wellFormed_cons left right
  | case3 lead trail rest paired ih =>
    simp only [wellFormed, paired, if_true] at left
    simp only [cons_append, wellFormed, paired, if_true]
    exact ih left
  | case4 lead trail rest unpaired ih =>
    simp only [wellFormed, unpaired, if_false, Bool.and_eq_true, Bool.not_eq_true',
      Bool.false_eq_true] at left
    exact wellFormed_cons left.1 (ih left.2)

theorem wellFormed_of_ordinary
    (ordinary : ∀ unit ∈ text, (isLeadSurrogate unit || isTrailSurrogate unit) = false) :
    wellFormed text = true := by
  induction text with
  | nil => rfl
  | cons unit rest ih =>
    exact wellFormed_cons (ordinary unit mem_cons_self)
      (ih fun other member => ordinary other (mem_cons_of_mem _ member))

theorem hexDigit_ascii {value : UInt16} (small : value < 16) : hexDigit value < 0x80 := by
  have bound : value.toNat < 16 := small
  have every : ∀ digit : Fin 16, hexDigit digit.val.toUInt16 < 0x80 := by decide
  have found := every ⟨value.toNat, bound⟩
  simpa using found

/-- An escape is made of ASCII characters. -/
theorem ascii_unicodeEscape (unit : UInt16) : ∀ digit ∈ unicodeEscape unit, digit < 0x80 := by
  have small : ∀ value : UInt16, value &&& 15 < 16 := by
    intro value
    rw [UInt16.lt_iff_toNat_lt, UInt16.toNat_and]
    exact Nat.lt_of_le_of_lt Nat.and_le_right (by decide)
  have top : unit >>> 12 < 16 := by
    have bound := unit.toNat_lt
    rw [UInt16.lt_iff_toNat_lt]
    simp only [UInt16.toNat_shiftRight, UInt16.reduceToNat, Nat.reduceMod,
      Nat.shiftRight_eq_div_pow]
    omega
  simp [unicodeEscape, hexDigit_ascii, small, top]

theorem ordinary_of_ascii (ascii : unit < 0x80) :
    (isLeadSurrogate unit || isTrailSurrogate unit) = false := by
  have bound : unit.toNat < 128 := ascii
  simp only [isLeadSurrogate, isTrailSurrogate, Bool.or_eq_false_iff, Bool.and_eq_false_iff,
    decide_eq_false_iff_not, UInt16.le_iff_toNat_le, UInt16.reduceToNat]
  omega

theorem wellFormed_escapeUnit (unit : UInt16) : wellFormed (escapeUnit unit) = true := by
  unfold escapeUnit
  split_ifs with backspace tab newline feed enter quoted backslash special
  iterate 7 exact rfl
  · exact wellFormed_of_ordinary fun digit member =>
      ordinary_of_ascii (ascii_unicodeEscape unit digit member)
  · simp only [Bool.or_eq_true, decide_eq_true_eq, not_or, Bool.not_eq_true] at special
    exact wellFormed_cons (by rw [special.1.2, special.2]; rfl) rfl

theorem wellFormed_escape (text : JsString) : wellFormed (escape text) = true := by
  induction text using escape.induct with
  | case1 => rfl
  | case2 unit => exact wellFormed_escapeUnit unit
  | case3 lead trail rest paired ih =>
    simp only [escape, paired, if_true, wellFormed, ih]
  | case4 lead trail rest unpaired ih =>
    rw [escape, if_neg unpaired]
    exact wellFormed_append (wellFormed_escapeUnit lead) ih

theorem wellFormed_quote (text : JsString) : wellFormed (quote text) = true :=
  wellFormed_cons rfl (wellFormed_append (wellFormed_escape text) rfl)

end JsString

namespace Json

open JsString

/-! ## Printing -/

mutual

/-- `JSON.stringify(value)`. -/
def stringify : Json → JsString
  | .null => js "null"
  | .bool true => js "true"
  | .bool false => js "false"
  | .num text => text
  | .str value => quote value
  | .arr items => 91 :: (stringifyItems items ++ [93])
  | .obj members => 123 :: (stringifyMembers members ++ [125])

def stringifyItems : List Json → JsString
  | [] => []
  | [item] => stringify item
  | item :: next :: rest => stringify item ++ 44 :: stringifyItems (next :: rest)

def stringifyMembers : List (JsString × Json) → JsString
  | [] => []
  | [(name, value)] => quote name ++ 58 :: stringify value
  | (name, value) :: next :: rest =>
      quote name ++ 58 :: (stringify value ++ 44 :: stringifyMembers (next :: rest))

end

/-! ## Reading -/

def isSpace (unit : UInt16) : Bool := unit = 32 || unit = 9 || unit = 10 || unit = 13

def isDigit (unit : UInt16) : Bool := 48 ≤ unit && unit ≤ 57

def skipSpace (text : JsString) : JsString := text.dropWhile isSpace

/-- The exponent of a number, when there is one. -/
def parseExponent (text : JsString) : Option (JsString × JsString) :=
  match text with
  | [] => some ([], [])
  | unit :: rest =>
      if unit = 101 || unit = 69 then
        let (sign, rest) := rest.span fun unit => unit = 43 || unit = 45
        let (digits, rest) := rest.span isDigit
        if sign.length ≤ 1 && !digits.isEmpty then some (unit :: (sign ++ digits), rest) else none
      else some ([], text)

/-- The fraction of a number, when there is one. -/
def parseFraction (text : JsString) : Option (JsString × JsString) :=
  match text with
  | [] => some ([], [])
  | unit :: rest =>
      if unit = 46 then
        let (digits, rest) := rest.span isDigit
        if digits.isEmpty then none else some (46 :: digits, rest)
      else some ([], text)

/-- A number: its text and what follows it. -/
def parseNumber (text : JsString) : Option (JsString × JsString) := do
  let (sign, rest) := if text.head? = some 45 then ([45], text.tail) else ([], text)
  let (digits, rest) := rest.span isDigit
  if digits.isEmpty || (1 < digits.length && digits.head? = some 48) then none
  else
    let (fraction, rest) ← parseFraction rest
    let (exponent, rest) ← parseExponent rest
    return (sign ++ (digits ++ (fraction ++ exponent)), rest)

/-- A keyword and its value. -/
def parseKeyword (keyword : JsString) (value : Json) (text : JsString) :
    Option (Json × JsString) :=
  if keyword.isPrefixOf text then some (value, text.drop keyword.length) else none

mutual

/-- Read one value: it and what follows it. The first argument bounds the number of
nested readings; the length of the text is always enough. -/
def parseValue : Nat → JsString → Option (Json × JsString)
  | 0, _ => none
  | fuel + 1, text =>
      match skipSpace text with
      | [] => none
      | unit :: rest =>
          if unit = 34 then (parseChars rest).map fun parsed => (.str parsed.1, parsed.2)
          else if unit = 91 then
            match skipSpace rest with
            | [] => none
            | next :: after =>
                if next = 93 then some (.arr [], after)
                else (parseItems fuel (next :: after)).map fun parsed => (.arr parsed.1, parsed.2)
          else if unit = 123 then
            match skipSpace rest with
            | [] => none
            | next :: after =>
                if next = 125 then some (.obj [], after)
                else (parseMembers fuel (next :: after)).map fun parsed =>
                  (.obj parsed.1, parsed.2)
          else if unit = 110 then parseKeyword (js "null") .null (unit :: rest)
          else if unit = 116 then parseKeyword (js "true") (.bool true) (unit :: rest)
          else if unit = 102 then parseKeyword (js "false") (.bool false) (unit :: rest)
          else (parseNumber (unit :: rest)).map fun parsed => (.num parsed.1, parsed.2)

/-- Read the items of an array up to its closing bracket. -/
def parseItems : Nat → JsString → Option (List Json × JsString)
  | 0, _ => none
  | fuel + 1, text => do
      let (item, rest) ← parseValue fuel text
      match skipSpace rest with
      | [] => none
      | unit :: rest =>
          if unit = 93 then return ([item], rest)
          else if unit = 44 then
            let (items, rest) ← parseItems fuel rest
            return (item :: items, rest)
          else none

/-- Read the members of an object up to its closing brace. -/
def parseMembers : Nat → JsString → Option (List (JsString × Json) × JsString)
  | 0, _ => none
  | fuel + 1, text =>
      match skipSpace text with
      | [] => none
      | unit :: rest =>
          if unit = 34 then do
            let (name, rest) ← parseChars rest
            match skipSpace rest with
            | [] => none
            | colon :: rest =>
                if colon = 58 then
                  let (value, rest) ← parseValue fuel rest
                  match skipSpace rest with
                  | [] => none
                  | unit :: rest =>
                      if unit = 125 then return ([(name, value)], rest)
                      else if unit = 44 then
                        let (members, rest) ← parseMembers fuel rest
                        return ((name, value) :: members, rest)
                      else none
                else none
          else none

end

/-- `JSON.parse(text)`; `none` when it throws. -/
def parse (text : JsString) : Option Json :=
  match parseValue (text.length + 1) text with
  | some (value, rest) => if (skipSpace rest).isEmpty then some value else none
  | none => none

/-! ## What is printed is read back -/

/-- No number goes on with this text. -/
def terminated (text : JsString) : Prop :=
  ∀ unit, text.head? = some unit →
    (isDigit unit || unit = 46 || unit = 101 || unit = 69) = false

/-- The text of a number: it is read up to its end. -/
structure NumberLiteral (text : JsString) : Prop where
  formed : wellFormed text = true
  read : ∀ rest, terminated rest → parseNumber (text ++ rest) = some (text, rest)

mutual

/-- Every number in a value carries the text of a number. -/
def Printable : Json → Prop
  | .num text => NumberLiteral text
  | .arr items => PrintableItems items
  | .obj members => PrintableMembers members
  | _ => True

def PrintableItems : List Json → Prop
  | [] => True
  | item :: rest => Printable item ∧ PrintableItems rest

def PrintableMembers : List (JsString × Json) → Prop
  | [] => True
  | (_, value) :: rest => Printable value ∧ PrintableMembers rest

end

theorem terminated_nil : terminated [] := by
  intro unit found
  cases found

theorem terminated_cons (other : (isDigit unit || unit = 46 || unit = 101 || unit = 69) = false)
    (rest : JsString) : terminated (unit :: rest) := by
  intro first found
  cases found
  exact other

theorem skipSpace_cons (visible : isSpace unit = false) (rest : JsString) :
    skipSpace (unit :: rest) = unit :: rest := by
  rw [skipSpace, dropWhile_cons, visible]
  rfl

/-- A digit alone is a number. -/
theorem numberLiteral_digit {digit : UInt16} (numeral : isDigit digit = true) :
    NumberLiteral [digit] where
  formed := by
    simp only [isDigit, Bool.and_eq_true, decide_eq_true_eq, UInt16.le_iff_toNat_le] at numeral
    refine wellFormed_cons (ordinary_of_ascii ?_) rfl
    rw [UInt16.lt_iff_toNat_lt]
    exact Nat.lt_of_le_of_lt numeral.2 (by decide)
  read := by
    intro rest stops
    have whole : (digit :: rest).span isDigit = ([digit], rest) := by
      rw [span_eq_takeWhile_dropWhile, takeWhile_cons_of_pos numeral, dropWhile_cons_of_pos numeral]
      cases rest with
      | nil => rfl
      | cons unit rest =>
        have other := stops unit rfl
        simp only [Bool.or_eq_false_iff] at other
        simp [other.1.1.1]
    have unsigned : ¬ (digit :: rest).head? = some 45 := by
      intro minus
      rw [Option.some.inj minus] at numeral
      exact absurd numeral (by decide)
    rw [singleton_append, parseNumber]
    simp only [if_neg unsigned, whole]
    cases rest with
    | nil => rfl
    | cons unit rest =>
      have other := stops unit rfl
      simp only [Bool.or_eq_false_iff, decide_eq_false_iff_not] at other
      simp [parseFraction, parseExponent, other]

/-- A number starts with a digit or a minus sign. -/
theorem head_of_parseNumber {parsed : JsString × JsString} (read : parseNumber text = some parsed) :
    ∃ unit rest, text = unit :: rest ∧ (unit = 45 ∨ isDigit unit = true) := by
  cases text with
  | nil => cases read
  | cons unit rest =>
    refine ⟨unit, rest, rfl, ?_⟩
    by_cases minus : unit = 45
    · exact .inl minus
    · by_cases digit : isDigit unit = true
      · exact .inr digit
      · have other : ¬ (unit :: rest).head? = some 45 := fun same => minus (Option.some.inj same)
        have none_taken : ((unit :: rest).span isDigit).1 = [] := by
          rw [span_eq_takeWhile_dropWhile, takeWhile_cons, if_neg digit]
        simp only [parseNumber, if_neg other, none_taken, isEmpty_nil, Bool.true_or, if_true,
          reduceCtorEq] at read

/-- What the printed text of a value starts with. -/
structure Opening (text : JsString) : Prop where
  starts : ∃ unit rest, text = unit :: rest ∧ isSpace unit = false ∧ unit ≠ 93 ∧ unit ≠ 125

theorem NumberLiteral.head (literal : NumberLiteral text) :
    ∃ unit rest, text = unit :: rest ∧ (unit = 45 ∨ isDigit unit = true) := by
  have read := literal.read [] terminated_nil
  rw [append_nil] at read
  exact head_of_parseNumber read

theorem numeric_visible (numeric : unit = 45 ∨ isDigit unit = true) :
    isSpace unit = false ∧ unit ≠ 93 ∧ unit ≠ 125 ∧ unit ≠ 34 ∧ unit ≠ 91 ∧ unit ≠ 123 ∧
      unit ≠ 110 ∧ unit ≠ 116 ∧ unit ≠ 102 := by
  rcases numeric with rfl | digit
  · decide
  · simp only [isDigit, Bool.and_eq_true, decide_eq_true_eq, UInt16.le_iff_toNat_le] at digit
    have low : 48 ≤ unit.toNat := digit.1
    have high : unit.toNat ≤ 57 := digit.2
    have other : ∀ value : UInt16, value.toNat < 48 ∨ 57 < value.toNat → unit ≠ value := by
      rintro value outside rfl
      omega
    refine ⟨?_, other 93 (by decide), other 125 (by decide), other 34 (by decide),
      other 91 (by decide), other 123 (by decide), other 110 (by decide), other 116 (by decide),
      other 102 (by decide)⟩
    simp only [isSpace, Bool.or_eq_false_iff, decide_eq_false_iff_not]
    exact ⟨⟨⟨other 32 (by decide), other 9 (by decide)⟩, other 10 (by decide)⟩,
      other 13 (by decide)⟩

theorem opening_stringify (printable : Printable value) : Opening (stringify value) := by
  cases value with
  | null => exact ⟨110, _, rfl, by decide⟩
  | bool value => cases value <;> exact ⟨_, _, rfl, by decide⟩
  | num text =>
    unfold Printable at printable
    obtain ⟨unit, rest, same, numeric⟩ := printable.head
    obtain ⟨visible, bracket, brace, -⟩ := numeric_visible numeric
    exact ⟨unit, rest, by rw [stringify, same], visible, bracket, brace⟩
  | str value => exact ⟨34, _, rfl, by decide⟩
  | arr items => exact ⟨91, _, rfl, by decide⟩
  | obj members => exact ⟨123, _, rfl, by decide⟩

theorem Opening.append (opening : Opening text) (rest : JsString) : Opening (text ++ rest) := by
  obtain ⟨unit, tail, rfl, found⟩ := opening.starts
  exact ⟨unit, tail ++ rest, rfl, found⟩

theorem opening_stringifyItems {items : List Json} (printable : PrintableItems items)
    (some_item : items ≠ []) : Opening (stringifyItems items) := by
  cases items with
  | nil => exact absurd rfl some_item
  | cons item rest =>
    unfold PrintableItems at printable
    have opening := opening_stringify printable.1
    cases rest with
    | nil => exact opening
    | cons next rest => exact opening.append _

/-- A keyword is read back. -/
theorem parseKeyword_append (keyword : JsString) (value : Json) (rest : JsString) :
    parseKeyword keyword value (keyword ++ rest) = some (value, rest) := by
  have taken : keyword.isPrefixOf (keyword ++ rest) = true :=
    isPrefixOf_iff_prefix.mpr (prefix_append _ _)
  rw [parseKeyword, if_pos taken, drop_left]

theorem parseItems_one {item : Json} (read : parseValue fuel text = some (item, after))
    (closed : skipSpace after = 93 :: rest) : parseItems (fuel + 1) text = some ([item], rest) := by
  rw [parseItems, read]
  simp only [Option.bind_eq_bind, Option.bind_some, closed, if_true]
  rfl

theorem parseItems_more {tail : JsString} {item : Json} {items : List Json}
    (read : parseValue fuel text = some (item, after)) (comma : skipSpace after = 44 :: rest)
    (more : parseItems fuel rest = some (items, tail)) :
    parseItems (fuel + 1) text = some (item :: items, tail) := by
  rw [parseItems, read]
  simp only [Option.bind_eq_bind, Option.bind_some, comma, more,
    if_neg (show ¬ (44 : UInt16) = 93 by decide), if_true]
  rfl

theorem parseMembers_one {name : JsString} (read : parseValue fuel text = some (value, after))
    (closed : skipSpace after = 125 :: rest) :
    parseMembers (fuel + 1) (quote name ++ 58 :: text) = some ([(name, value)], rest) := by
  rw [quote, append_assoc, cons_append, parseMembers, skipSpace_cons (by decide)]
  simp only [if_true, singleton_append, parseChars_escape, Option.bind_eq_bind,
    Option.bind_some, skipSpace_cons (show isSpace 58 = false by decide), read, closed]
  rfl

theorem parseMembers_more {name tail : JsString} {members : List (JsString × Json)}
    (read : parseValue fuel text = some (value, after)) (comma : skipSpace after = 44 :: rest)
    (more : parseMembers fuel rest = some (members, tail)) :
    parseMembers (fuel + 1) (quote name ++ 58 :: text) = some ((name, value) :: members, tail) := by
  rw [quote, append_assoc, cons_append, parseMembers, skipSpace_cons (by decide)]
  simp only [if_true, singleton_append, parseChars_escape, Option.bind_eq_bind,
    Option.bind_some, skipSpace_cons (show isSpace 58 = false by decide), read, comma, more,
    if_neg (show ¬ (44 : UInt16) = 125 by decide)]
  rfl

mutual

/-- A printed value is read back, whatever follows it. -/
theorem parseValue_stringify (value : Json) (printable : Printable value) (fuel : Nat)
    (enough : (stringify value).length ≤ fuel) (rest : JsString) (stops : terminated rest) :
    parseValue fuel (stringify value ++ rest) = some (value, rest) := by
  obtain ⟨first, tail, opened, visible, -⟩ := (opening_stringify printable).starts
  obtain ⟨fuel, rfl⟩ : ∃ less, fuel = less + 1 := by
    refine ⟨fuel - 1, ?_⟩
    rw [opened, length_cons] at enough
    omega
  cases value with
  | null => exact parseKeyword_append (js "null") .null rest
  | bool value =>
    cases value with
    | true => exact parseKeyword_append (js "true") (.bool true) rest
    | false => exact parseKeyword_append (js "false") (.bool false) rest
  | num text =>
    unfold Printable at printable
    have read := printable.read rest stops
    obtain ⟨unit, tail, same, numeric⟩ := printable.head
    obtain ⟨visible, -, -, quote, bracket, brace, nulls, trues, falses⟩ :=
      numeric_visible numeric
    rw [stringify]
    subst same
    rw [cons_append, parseValue, skipSpace_cons visible]
    simp only [if_neg quote, if_neg bracket, if_neg brace, if_neg nulls, if_neg trues,
      if_neg falses]
    rw [← cons_append, read]
    rfl
  | str text =>
    rw [stringify, quote, cons_append, cons_append, parseValue, skipSpace_cons (by decide)]
    simp only [if_true, append_assoc, singleton_append, parseChars_escape]
    rfl
  | arr items =>
    rw [stringify, cons_append, append_assoc, singleton_append, parseValue,
      skipSpace_cons (by decide)]
    cases items with
    | nil => rfl
    | cons item items =>
      unfold Printable at printable
      obtain ⟨next, after, same, visible, bracket, -⟩ :=
        ((opening_stringifyItems printable (cons_ne_nil _ _)).append (93 :: rest)).starts
      simp only [stringify, length_cons, length_append, length_nil] at enough
      have read := parseItems_stringify (item :: items) printable (cons_ne_nil _ _) fuel
        (by omega) rest
      rw [same] at read ⊢
      simp only [skipSpace_cons visible, if_neg bracket, read]
      rfl
  | obj members =>
    rw [stringify, cons_append, append_assoc, singleton_append, parseValue,
      skipSpace_cons (by decide)]
    cases members with
    | nil => rfl
    | cons member members =>
      unfold Printable at printable
      simp only [stringify, length_cons, length_append, length_nil] at enough
      have read := parseMembers_stringify (member :: members) printable (cons_ne_nil _ _)
        fuel (by omega) rest
      obtain ⟨after, same⟩ : ∃ after, stringifyMembers (member :: members) ++ 125 :: rest =
          34 :: after := by
        cases members <;> exact ⟨_, rfl⟩
      rw [same] at read ⊢
      simp only [skipSpace_cons (show isSpace 34 = false by decide), read]
      rfl

theorem parseItems_stringify (items : List Json) (printable : PrintableItems items)
    (some_item : items ≠ []) (fuel : Nat) (enough : (stringifyItems items).length + 1 ≤ fuel)
    (rest : JsString) :
    parseItems fuel (stringifyItems items ++ 93 :: rest) = some (items, rest) := by
  obtain ⟨fuel, rfl⟩ : ∃ less, fuel = less + 1 := ⟨fuel - 1, by omega⟩
  cases items with
  | nil => exact absurd rfl some_item
  | cons item items =>
    unfold PrintableItems at printable
    cases items with
    | nil =>
      have read := parseValue_stringify item printable.1 fuel (by
        simp only [stringifyItems] at enough
        omega) (93 :: rest) (terminated_cons (by decide) rest)
      exact parseItems_one read (skipSpace_cons (by decide) rest)
    | cons next items =>
      simp only [stringifyItems, length_append, length_cons] at enough
      have read := parseValue_stringify item printable.1 fuel (by omega)
        (44 :: (stringifyItems (next :: items) ++ 93 :: rest)) (terminated_cons (by decide) _)
      have more := parseItems_stringify (next :: items) printable.2 (cons_ne_nil _ _)
        fuel (by omega) rest
      rw [stringifyItems, append_assoc, cons_append]
      exact parseItems_more read (skipSpace_cons (by decide) _) more

theorem parseMembers_stringify (members : List (JsString × Json))
    (printable : PrintableMembers members) (some_member : members ≠ []) (fuel : Nat)
    (enough : (stringifyMembers members).length + 1 ≤ fuel) (rest : JsString) :
    parseMembers fuel (stringifyMembers members ++ 125 :: rest) = some (members, rest) := by
  obtain ⟨fuel, rfl⟩ : ∃ less, fuel = less + 1 := ⟨fuel - 1, by omega⟩
  cases members with
  | nil => exact absurd rfl some_member
  | cons member members =>
    obtain ⟨name, value⟩ := member
    unfold PrintableMembers at printable
    cases members with
    | nil =>
      simp only [stringifyMembers, length_append, length_cons] at enough
      have read := parseValue_stringify value printable.1 fuel (by omega)
        (125 :: rest) (terminated_cons (by decide) rest)
      rw [stringifyMembers, append_assoc, cons_append]
      exact parseMembers_one read (skipSpace_cons (by decide) rest)
    | cons next members =>
      simp only [stringifyMembers, length_append, length_cons] at enough
      have read := parseValue_stringify value printable.1 fuel (by omega)
        (44 :: (stringifyMembers (next :: members) ++ 125 :: rest))
        (terminated_cons (by decide) _)
      have more := parseMembers_stringify (next :: members) printable.2
        (cons_ne_nil _ _) fuel (by omega) rest
      rw [stringifyMembers, append_assoc, cons_append, append_assoc, cons_append]
      exact parseMembers_more read (skipSpace_cons (by decide) _) more

end

mutual

theorem wellFormed_stringify (value : Json) (printable : Printable value) :
    wellFormed (stringify value) = true := by
  cases value with
  | null => rfl
  | bool value => cases value <;> rfl
  | num text =>
    unfold Printable at printable
    rw [stringify]
    exact printable.formed
  | str text =>
    rw [stringify]
    exact wellFormed_quote text
  | arr items =>
    unfold Printable at printable
    rw [stringify]
    exact wellFormed_cons rfl (wellFormed_append (wellFormed_stringifyItems items printable) rfl)
  | obj members =>
    unfold Printable at printable
    rw [stringify]
    exact wellFormed_cons rfl
      (wellFormed_append (wellFormed_stringifyMembers members printable) rfl)

theorem wellFormed_stringifyItems (items : List Json) (printable : PrintableItems items) :
    wellFormed (stringifyItems items) = true := by
  cases items with
  | nil => rfl
  | cons item items =>
    unfold PrintableItems at printable
    have first := wellFormed_stringify item printable.1
    cases items with
    | nil =>
      rw [stringifyItems]
      exact first
    | cons next items =>
      rw [stringifyItems]
      exact wellFormed_append first
        (wellFormed_cons rfl (wellFormed_stringifyItems (next :: items) printable.2))

theorem wellFormed_stringifyMembers (members : List (JsString × Json))
    (printable : PrintableMembers members) : wellFormed (stringifyMembers members) = true := by
  cases members with
  | nil => rfl
  | cons member members =>
    obtain ⟨name, value⟩ := member
    unfold PrintableMembers at printable
    have first := wellFormed_stringify value printable.1
    cases members with
    | nil =>
      rw [stringifyMembers]
      exact wellFormed_append (wellFormed_quote name) (wellFormed_cons rfl first)
    | cons next members =>
      rw [stringifyMembers]
      exact wellFormed_append (wellFormed_quote name) (wellFormed_cons rfl
        (wellFormed_append first (wellFormed_cons rfl
          (wellFormed_stringifyMembers (next :: members) printable.2))))

end

/-- `JSON.parse` undoes `JSON.stringify`. -/
theorem parse_stringify (printable : Printable value) : parse (stringify value) = some value := by
  have read := parseValue_stringify value printable ((stringify value).length + 1) (by omega) []
    terminated_nil
  rw [append_nil] at read
  rw [parse, read]
  rfl

/-- Equal texts are texts of equal values. -/
theorem stringify_injective {first second : Json} (left : Printable first)
    (right : Printable second) (same : stringify first = stringify second) : first = second := by
  have read := parse_stringify left
  rw [same, parse_stringify right] at read
  exact (Option.some.inj read).symm

/-! ## Texts of strings -/

theorem parseKeyword_ne_str {keyword value : JsString} {constant : Json}
    (other : constant ≠ .str value) :
    parseKeyword keyword constant text ≠ some (.str value, rest) := by
  unfold parseKeyword
  intro parsed
  split at parsed
  · exact other (congrArg Prod.fst (Option.some.inj parsed))
  · cases parsed

/-- A string is read from a literal. -/
theorem parseValue_str {fuel : Nat} {text value rest : JsString}
    (parsed : parseValue fuel text = some (.str value, rest)) :
    ∃ after, skipSpace text = 34 :: after ∧ parseChars after = some (value, rest) := by
  cases fuel with
  | zero => cases parsed
  | succ fuel =>
    rw [parseValue] at parsed
    split at parsed
    · cases parsed
    · rename_i unit after opened
      by_cases quote : unit = 34
      · rw [if_pos quote] at parsed
        obtain ⟨literal, read, same⟩ := Option.map_eq_some_iff.mp parsed
        cases same
        exact ⟨after, quote ▸ opened, read⟩
      · rw [if_neg quote] at parsed
        repeat' split at parsed
        iterate 2 cases parsed
        · obtain ⟨items, -, same⟩ := Option.map_eq_some_iff.mp parsed
          cases same
        iterate 2 cases parsed
        · obtain ⟨members, -, same⟩ := Option.map_eq_some_iff.mp parsed
          cases same
        iterate 3 exact absurd parsed (parseKeyword_ne_str Json.noConfusion)
        · obtain ⟨number, -, same⟩ := Option.map_eq_some_iff.mp parsed
          cases same

/-- A text that is read as a string is longer than it. -/
theorem length_of_parse_str {value : JsString} (read : parse text = some (.str value)) :
    value.length < text.length := by
  unfold parse at read
  split at read
  · rename_i found rest parsed
    split at read
    · cases read
      obtain ⟨after, opened, literal⟩ := parseValue_str parsed
      have shorter := length_parseChars literal
      have trimmed : (skipSpace text).length ≤ text.length := (dropWhile_sublist _).length_le
      rw [opened, length_cons] at trimmed
      omega
    · cases read
  · cases read

/-! ## Objects of strings -/

/-- The value of an object whose values are strings. -/
def ofStrings (members : List (JsString × JsString)) : Json :=
  .obj (members.map fun member => (member.1, .str member.2))

/-- Items can be printed one by one. -/
theorem printableItems_map {α : Type} {write : α → Json}
    (printable : ∀ item, (write item).Printable) (items : List α) :
    PrintableItems (items.map write) := by
  induction items with
  | nil => exact trivial
  | cons item rest ih => exact ⟨printable item, ih⟩

/-- A printed list has a text, and is read back from it. -/
theorem parse_stringify_map {α : Type} {write : α → Json}
    (printable : ∀ item, (write item).Printable) (items : List α) :
    ∃ unit rest, stringify (.arr (items.map write)) = unit :: rest ∧
      parse (unit :: rest) = some (.arr (items.map write)) := by
  have whole : (Json.arr (items.map write)).Printable := by
    unfold Json.Printable
    exact printableItems_map printable items
  obtain ⟨unit, rest, text, -⟩ := (opening_stringify whole).starts
  exact ⟨unit, rest, text, text ▸ parse_stringify whole⟩

/-- A list is read when each of its items is. -/
theorem mapM_read {α : Type} {read : Json → Option α} {write : α → Json}
    (inverse : ∀ item, read (write item) = some item) (items : List α) :
    (items.map write).mapM read = some items := by
  have each : read ∘ write = pure := funext inverse
  rw [mapM_map, each, mapM_pure, map_id']
  rfl

theorem printable_ofStrings (members : List (JsString × JsString)) :
    Printable (ofStrings members) := by
  unfold ofStrings Printable
  induction members with
  | nil => trivial
  | cons member rest ih => exact ⟨trivial, ih⟩

theorem stringifyObject_eq (members : List (JsString × JsString)) :
    stringifyObject members = stringify (ofStrings members) := by
  have same : JsString.stringifyMembers members =
      stringifyMembers (members.map fun member => (member.1, .str member.2)) := by
    induction members with
    | nil => rfl
    | cons member rest ih =>
      cases rest with
      | nil => rfl
      | cons next rest =>
        rw [JsString.stringifyMembers, ih]
        simp only [map_cons, stringifyMembers, stringify, cons_append, append_assoc]
  rw [stringifyObject, same, ofStrings, stringify]
  rfl

/-- The text of an object of strings determines its members. -/
theorem stringifyObject_injective {first second : List (JsString × JsString)}
    (same : stringifyObject first = stringifyObject second) : first = second := by
  rw [stringifyObject_eq, stringifyObject_eq] at same
  have equal := stringify_injective (printable_ofStrings first) (printable_ofStrings second) same
  refine map_injective_iff.mpr ?_ (Json.obj.inj equal)
  rintro ⟨name, value⟩ ⟨name', value'⟩ pair
  cases pair
  rfl

theorem wellFormed_stringifyObject (members : List (JsString × JsString)) :
    wellFormed (stringifyObject members) = true := by
  rw [stringifyObject_eq]
  exact wellFormed_stringify _ (printable_ofStrings members)

end Json

end Foundation
