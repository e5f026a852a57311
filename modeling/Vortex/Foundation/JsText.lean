import Mathlib.Data.List.Basic

/-!
# JavaScript strings and their JSON text

A JavaScript string is a sequence of UTF-16 code units, unpaired surrogates
included. `quote` is the text `JSON.stringify` gives a string: control
characters, quotes and backslashes are escaped, and so is a surrogate without
its partner, so that the text itself is always well formed.
-/

namespace Foundation

/-- A JavaScript string: its UTF-16 code units. -/
abbrev JsString : Type := List UInt16

instance : LawfulBEq JsString := inferInstance

/-- The code units of one Unicode character. -/
def utf16 (character : Char) : JsString :=
  if character.toNat < 0x10000 then [character.toNat.toUInt16]
  else
    let offset := character.toNat - 0x10000
    [(0xD800 + offset / 0x400).toUInt16, (0xDC00 + offset % 0x400).toUInt16]

/-- A literal. -/
def js (text : String) : JsString := text.toList.flatMap utf16

namespace JsString

/-- What `<` compares. -/
def codeUnits (text : JsString) : List Nat := text.map UInt16.toNat

def isLeadSurrogate (unit : UInt16) : Bool := 0xD800 ≤ unit && unit ≤ 0xDBFF

def isTrailSurrogate (unit : UInt16) : Bool := 0xDC00 ≤ unit && unit ≤ 0xDFFF

/-- A hexadecimal digit, in lower case. -/
def hexDigit (value : UInt16) : UInt16 :=
  if value < 10 then 48 + value else 87 + value

/-- The escape of a code unit by its number. -/
def unicodeEscape (unit : UInt16) : JsString :=
  [92, 117, hexDigit (unit >>> 12), hexDigit (unit >>> 8 &&& 15), hexDigit (unit >>> 4 &&& 15),
    hexDigit (unit &&& 15)]

/-- The text of one code unit that is not part of a surrogate pair. -/
def escapeUnit (unit : UInt16) : JsString :=
  if unit = 8 then [92, 98]
  else if unit = 9 then [92, 116]
  else if unit = 10 then [92, 110]
  else if unit = 12 then [92, 102]
  else if unit = 13 then [92, 114]
  else if unit = 34 then [92, 34]
  else if unit = 92 then [92, 92]
  else if unit < 32 || isLeadSurrogate unit || isTrailSurrogate unit then unicodeEscape unit
  else [unit]

/-- The text between the quotes. -/
def escape : JsString → JsString
  | [] => []
  | [unit] => escapeUnit unit
  | lead :: trail :: rest =>
      if isLeadSurrogate lead && isTrailSurrogate trail then lead :: trail :: escape rest
      else escapeUnit lead ++ escape (trail :: rest)

/-- `JSON.stringify` of a string. -/
def quote (text : JsString) : JsString := 34 :: escape text ++ [34]

/-- The members of an object whose values are strings, in source order. -/
def stringifyMembers : List (JsString × JsString) → JsString
  | [] => []
  | [(name, value)] => quote name ++ 58 :: quote value
  | (name, value) :: member :: rest =>
      quote name ++ 58 :: quote value ++ 44 :: stringifyMembers (member :: rest)

/-- `JSON.stringify` of an object whose values are strings. -/
def stringifyObject (members : List (JsString × JsString)) : JsString :=
  123 :: stringifyMembers members ++ [125]

example : stringifyObject [(js "a", js "x\"y"), (js "b", [0xD800])] =
    js "\x7b\"a\":\"x\\\"y\",\"b\":\"\\ud800\"\x7d" := by decide

end JsString

/-- What is joined is made of the pieces and of what stands between them. -/
theorem mem_of_mem_intercalate {α : Type} {separator : List α} {pieces : List (List α)} {item : α}
    (inside : item ∈ separator.intercalate pieces) :
    (∃ piece ∈ pieces, item ∈ piece) ∨ item ∈ separator := by
  induction pieces with
  | nil => cases inside
  | cons piece rest ih =>
    cases rest with
    | nil =>
      rw [List.intercalate_singleton] at inside
      exact Or.inl ⟨piece, List.mem_cons_self, inside⟩
    | cons next others =>
      rw [List.intercalate_cons_cons, List.append_assoc, List.mem_append, List.mem_append] at inside
      rcases inside with first | between | later
      · exact Or.inl ⟨piece, List.mem_cons_self, first⟩
      · exact Or.inr between
      · rcases ih later with ⟨found, member, within⟩ | between
        · exact Or.inl ⟨found, List.mem_cons_of_mem _ member, within⟩
        · exact Or.inr between

end Foundation
