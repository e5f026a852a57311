import Vortex.Foundation.Http

/-!
# How long a JSON text is on the wire

The bytes of a JSON document follow from its strings and numbers alone: `Json.bytes`
counts them without printing anything (`Json.length_jsonBytes`).
-/

namespace Foundation

namespace JsString

/-- The bytes of a code unit in a literal, outside a surrogate pair. -/
def unitBytes (unit : UInt16) : Nat :=
  if unit = 8 || unit = 9 || unit = 10 || unit = 12 || unit = 13 || unit = 34 || unit = 92 then 2
  else if unit < 32 || isLeadSurrogate unit || isTrailSurrogate unit then 6
  else if unit < 0x80 then 1
  else if unit < 0x800 then 2
  else 3

/-- The bytes between the quotes. -/
def escapedBytes : JsString → Nat
  | [] => 0
  | [unit] => unitBytes unit
  | lead :: trail :: rest =>
      if isLeadSurrogate lead && isTrailSurrogate trail then 4 + escapedBytes rest
      else unitBytes lead + escapedBytes (trail :: rest)

/-- The bytes of a string literal. -/
def literalBytes (text : JsString) : Nat := escapedBytes text + 2

/-- A code unit that is no surrogate takes up to three bytes. -/
theorem length_encodeUnit {unit : UInt16}
    (ordinary : (isLeadSurrogate unit || isTrailSurrogate unit) = false) :
    (encodeScalar (unitScalar unit)).length =
      if unit < 0x80 then 1 else if unit < 0x800 then 2 else 3 := by
  have bound := unit.toNat_lt
  rw [(scalar_unit ordinary).1, encodeScalar]
  simp only [UInt16.lt_iff_toNat_lt, UInt16.reduceToNat]
  split_ifs <;> rfl

theorem length_encodeUtf8_ascii {text : JsString} (ascii : ∀ unit ∈ text, unit < 0x80) :
    (encodeUtf8 text).length = text.length := by
  induction text using encodeUtf8.induct with
  | case1 => rfl
  | case2 unit =>
    have single := ascii unit (by simp)
    rw [encodeUtf8, length_encodeUnit (ordinary_of_ascii single), if_pos single]
    rfl
  | case3 lead trail rest paired ih =>
    have ordinary := ordinary_of_ascii (ascii lead (by simp))
    simp_all
  | case4 lead trail rest unpaired ih =>
    have first := ascii lead (by simp)
    have others := ih fun unit member => ascii unit (by simp [member])
    rw [encodeUtf8, if_neg unpaired, List.length_append,
      length_encodeUnit (ordinary_of_ascii first), if_pos first, others]
    simp [Nat.add_comm]

/-- The escape of a code unit has the bytes counted for it. -/
theorem length_encodeUtf8_escapeUnit (unit : UInt16) :
    (encodeUtf8 (escapeUnit unit)).length = unitBytes unit := by
  unfold escapeUnit
  split_ifs with backspace tab newline feed enter quoted backslash special
  · simp only [backspace]
    rfl
  · simp only [tab]
    rfl
  · simp only [newline]
    rfl
  · simp only [feed]
    rfl
  · simp only [enter]
    rfl
  · simp only [quoted]
    rfl
  · simp only [backslash]
    rfl
  · rw [length_encodeUtf8_ascii (ascii_unicodeEscape unit)]
    simp [unitBytes, backspace, tab, newline, feed, enter, quoted, backslash, special,
      unicodeEscape]
  · have ordinary : (isLeadSurrogate unit || isTrailSurrogate unit) = false := by
      simp only [Bool.or_eq_true, not_or, Bool.not_eq_true] at special
      simp [special]
    rw [encodeUtf8, length_encodeUnit ordinary]
    simp [unitBytes, backspace, tab, newline, feed, enter, quoted, backslash, special]

theorem length_encodeUtf8_escape (text : JsString) :
    (encodeUtf8 (escape text)).length = escapedBytes text := by
  induction text using escape.induct with
  | case1 => rfl
  | case2 unit => exact length_encodeUtf8_escapeUnit unit
  | case3 lead trail rest paired ih =>
    obtain ⟨⟨low, high⟩, low', high'⟩ := bounds_of_pair paired
    have large : (encodeScalar (pairScalar lead trail)).length = 4 := by
      unfold encodeScalar pairScalar
      split_ifs <;> first | rfl | omega
    simp [escape, escapedBytes, encodeUtf8, paired, large, ih]
  | case4 lead trail rest unpaired ih =>
    rw [escape, if_neg unpaired, escapedBytes, if_neg unpaired,
      encodeUtf8_append (wellFormed_escapeUnit lead), List.length_append,
      length_encodeUtf8_escapeUnit, ih]

/-- A text between two ASCII characters. -/
theorem length_enclosed {opening closing : UInt16} (first : opening < 0x80) (last : closing < 0x80)
    {text : JsString} (formed : wellFormed text = true) :
    (encodeUtf8 (opening :: (text ++ [closing]))).length = (encodeUtf8 text).length + 2 := by
  have opened : opening :: (text ++ [closing]) = [opening] ++ (text ++ [closing]) := rfl
  have single : wellFormed [opening] = true := wellFormed_cons (ordinary_of_ascii first) rfl
  have left : (encodeUtf8 [opening]).length = 1 := length_encodeUtf8_ascii (by simpa using first)
  have right : (encodeUtf8 [closing]).length = 1 := length_encodeUtf8_ascii (by simpa using last)
  rw [opened, encodeUtf8_append single, encodeUtf8_append formed, List.length_append,
    List.length_append, left, right]
  omega

/-- Two texts with an ASCII character between them. -/
theorem length_joined {separator : UInt16} (ascii : separator < 0x80) {first : JsString}
    (formed : wellFormed first = true) (second : JsString) :
    (encodeUtf8 (first ++ separator :: second)).length =
      (encodeUtf8 first).length + 1 + (encodeUtf8 second).length := by
  have joined : separator :: second = [separator] ++ second := rfl
  have single : wellFormed [separator] = true := wellFormed_cons (ordinary_of_ascii ascii) rfl
  have middle : (encodeUtf8 [separator]).length = 1 :=
    length_encodeUtf8_ascii (by simpa using ascii)
  rw [joined, encodeUtf8_append formed, encodeUtf8_append single, List.length_append,
    List.length_append, middle]
  omega

/-- A string literal has the bytes counted for it. -/
theorem length_encodeUtf8_quote (text : JsString) :
    (encodeUtf8 (quote text)).length = literalBytes text := by
  have opened : quote text = 34 :: (escape text ++ [34]) := rfl
  rw [opened, length_enclosed (by decide) (by decide) (wellFormed_escape text),
    length_encodeUtf8_escape, literalBytes]

/-- A literal has at least one byte for each code unit. -/
theorem length_le_escapedBytes (text : JsString) : text.length ≤ escapedBytes text := by
  have positive : ∀ unit, 1 ≤ unitBytes unit := by
    intro unit
    unfold unitBytes
    split_ifs <;> omega
  induction text using escapedBytes.induct with
  | case1 => exact Nat.zero_le _
  | case2 unit => exact positive unit
  | case3 lead trail rest paired ih =>
    simp only [escapedBytes, paired, if_true, List.length_cons]
    omega
  | case4 lead trail rest unpaired ih =>
    have first := positive lead
    simp only [escapedBytes, if_neg unpaired, List.length_cons] at ih ⊢
    omega

end JsString

namespace Json

open JsString

/-! ## Documents -/

mutual

/-- The bytes of a printed value. -/
def bytes : Json → Nat
  | .null => 4
  | .bool true => 4
  | .bool false => 5
  | .num text => (encodeUtf8 text).length
  | .str value => literalBytes value
  | .arr items => bytesOfItems items + 2
  | .obj members => bytesOfMembers members + 2

def bytesOfItems : List Json → Nat
  | [] => 0
  | [item] => bytes item
  | item :: next :: rest => bytes item + 1 + bytesOfItems (next :: rest)

def bytesOfMembers : List (JsString × Json) → Nat
  | [] => 0
  | [(name, value)] => literalBytes name + 1 + bytes value
  | (name, value) :: next :: rest =>
      literalBytes name + 1 + bytes value + 1 + bytesOfMembers (next :: rest)

end

mutual

theorem length_stringify (value : Json) (printable : Printable value) :
    (encodeUtf8 (stringify value)).length = bytes value := by
  cases value with
  | null => rfl
  | bool value => cases value <;> rfl
  | num text => rw [stringify, bytes]
  | str text => rw [stringify, bytes, length_encodeUtf8_quote]
  | arr items =>
    unfold Printable at printable
    rw [stringify, length_enclosed (by decide) (by decide)
      (wellFormed_stringifyItems items printable), length_stringifyItems items printable, bytes]
  | obj members =>
    unfold Printable at printable
    rw [stringify, length_enclosed (by decide) (by decide)
      (wellFormed_stringifyMembers members printable),
      length_stringifyMembers members printable, bytes]

theorem length_stringifyItems (items : List Json) (printable : PrintableItems items) :
    (encodeUtf8 (stringifyItems items)).length = bytesOfItems items := by
  cases items with
  | nil => rfl
  | cons item items =>
    unfold PrintableItems at printable
    have first := length_stringify item printable.1
    cases items with
    | nil => rw [stringifyItems, bytesOfItems, first]
    | cons next items =>
      rw [stringifyItems, length_joined (by decide) (wellFormed_stringify item printable.1),
        first, length_stringifyItems (next :: items) printable.2, bytesOfItems]

theorem length_stringifyMembers (members : List (JsString × Json))
    (printable : PrintableMembers members) :
    (encodeUtf8 (stringifyMembers members)).length = bytesOfMembers members := by
  cases members with
  | nil => rfl
  | cons member members =>
    obtain ⟨name, value⟩ := member
    unfold PrintableMembers at printable
    have first := length_stringify value printable.1
    have formed := wellFormed_stringify value printable.1
    cases members with
    | nil =>
      rw [stringifyMembers, length_joined (by decide) (wellFormed_quote name),
        length_encodeUtf8_quote, first, bytesOfMembers]
    | cons next members =>
      rw [stringifyMembers, length_joined (by decide) (wellFormed_quote name),
        length_encodeUtf8_quote, length_joined (by decide) formed, first,
        length_stringifyMembers (next :: members) printable.2, bytesOfMembers]
      omega

end

/-- A document has the bytes counted for it. -/
theorem length_jsonBytes {value : Json} (printable : value.Printable) :
    (jsonBytes value).length = value.bytes := length_stringify value printable

end Json

end Foundation
