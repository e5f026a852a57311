import Vortex.Foundation.JsonText

/-!
# UTF-8

The bytes of a JavaScript string on the wire and the string made of received
bytes. Encoding replaces a surrogate without its partner by U+FFFD, decoding does
so with every maximal invalid part; a well-formed string survives the way there
and back (`Foundation.JsString.decodeUtf8_encodeUtf8`).
-/

namespace Foundation

open List

namespace JsString

/-! ## Encoding -/

/-- The bytes of one code point. -/
def encodeScalar (code : Nat) : List UInt8 :=
  if code < 0x80 then [code.toUInt8]
  else if code < 0x800 then [(0xC0 + code / 64).toUInt8, (0x80 + code % 64).toUInt8]
  else if code < 0x10000 then
    [(0xE0 + code / 4096).toUInt8, (0x80 + code / 64 % 64).toUInt8, (0x80 + code % 64).toUInt8]
  else
    [(0xF0 + code / 262144).toUInt8, (0x80 + code / 4096 % 64).toUInt8,
      (0x80 + code / 64 % 64).toUInt8, (0x80 + code % 64).toUInt8]

/-- The code point of a code unit that is not part of a surrogate pair. -/
def unitScalar (unit : UInt16) : Nat :=
  if isLeadSurrogate unit || isTrailSurrogate unit then 0xFFFD else unit.toNat

/-- The code point of a surrogate pair. -/
def pairScalar (lead trail : UInt16) : Nat :=
  0x10000 + (lead.toNat - 0xD800) * 0x400 + (trail.toNat - 0xDC00)

/-- The UTF-8 bytes of a string. -/
def encodeUtf8 : JsString → List UInt8
  | [] => []
  | [unit] => encodeScalar (unitScalar unit)
  | lead :: trail :: rest =>
      if isLeadSurrogate lead && isTrailSurrogate trail then
        encodeScalar (pairScalar lead trail) ++ encodeUtf8 rest
      else encodeScalar (unitScalar lead) ++ encodeUtf8 (trail :: rest)

/-! ## Decoding -/

/-- A code point some of whose bytes are still to come: its bits so far, how many
bytes are missing, and what the next of them may be. -/
structure Pending where
  code : Nat
  needed : Nat
  lower : Nat
  upper : Nat

/-- The code units of a code point. -/
def units (code : Nat) : JsString :=
  if code < 0x10000 then [code.toUInt16]
  else [(0xD800 + (code - 0x10000) / 0x400).toUInt16, (0xDC00 + (code - 0x10000) % 0x400).toUInt16]

/-- The first byte of a code point: what it completes, or what it begins. -/
def startByte (byte : Nat) : JsString × Option Pending :=
  if byte < 0x80 then ([byte.toUInt16], none)
  else if 0xC2 ≤ byte ∧ byte ≤ 0xDF then ([], some ⟨byte - 0xC0, 1, 0x80, 0xBF⟩)
  else if 0xE0 ≤ byte ∧ byte ≤ 0xEF then
    ([], some ⟨byte - 0xE0, 2, if byte = 0xE0 then 0xA0 else 0x80,
      if byte = 0xED then 0x9F else 0xBF⟩)
  else if 0xF0 ≤ byte ∧ byte ≤ 0xF4 then
    ([], some ⟨byte - 0xF0, 3, if byte = 0xF0 then 0x90 else 0x80,
      if byte = 0xF4 then 0x8F else 0xBF⟩)
  else ([0xFFFD], none)

/-- Decode bytes from within a code point. -/
def decodeFrom : Option Pending → List UInt8 → JsString
  | none, [] => []
  | some _, [] => [0xFFFD]
  | none, byte :: rest =>
      (startByte byte.toNat).1 ++ decodeFrom (startByte byte.toNat).2 rest
  | some pending, byte :: rest =>
      if pending.lower ≤ byte.toNat ∧ byte.toNat ≤ pending.upper then
        let code := pending.code * 64 + (byte.toNat - 0x80)
        if pending.needed = 1 then units code ++ decodeFrom none rest
        else decodeFrom (some ⟨code, pending.needed - 1, 0x80, 0xBF⟩) rest
      else 0xFFFD :: ((startByte byte.toNat).1 ++ decodeFrom (startByte byte.toNat).2 rest)

/-- The string made of received bytes. -/
def decodeUtf8 (bytes : List UInt8) : JsString := decodeFrom none bytes

/-! ## The way there and back -/

theorem toNat_toUInt8 {value : Nat} (small : value < 256) : value.toUInt8.toNat = value :=
  Nat.mod_eq_of_lt small

/-- A last byte completes its code point. -/
theorem decodeFrom_last {pending : Pending} {low : Nat} (small : low < 64)
    (inside : pending.lower ≤ 0x80 + low ∧ 0x80 + low ≤ pending.upper)
    (last : pending.needed = 1) (rest : List UInt8) :
    decodeFrom (some pending) ((0x80 + low).toUInt8 :: rest) =
      units (pending.code * 64 + low) ++ decodeFrom none rest := by
  have value : (0x80 + low).toUInt8.toNat = 0x80 + low := toNat_toUInt8 (by omega)
  rw [decodeFrom, value, if_pos inside, Nat.add_sub_cancel_left]
  simp only [last, if_true]

/-- Another byte adds six bits. -/
theorem decodeFrom_more {pending : Pending} {low : Nat} (small : low < 64)
    (inside : pending.lower ≤ 0x80 + low ∧ 0x80 + low ≤ pending.upper)
    (more : pending.needed ≠ 1) (rest : List UInt8) :
    decodeFrom (some pending) ((0x80 + low).toUInt8 :: rest) =
      decodeFrom (some ⟨pending.code * 64 + low, pending.needed - 1, 0x80, 0xBF⟩) rest := by
  have value : (0x80 + low).toUInt8.toNat = 0x80 + low := toNat_toUInt8 (by omega)
  rw [decodeFrom, value, if_pos inside, Nat.add_sub_cancel_left]
  simp only [if_neg more]

/-- The code points UTF-8 encodes. -/
def Scalar (code : Nat) : Prop := code < 0xD800 ∨ (0xE000 ≤ code ∧ code < 0x110000)

/-- An encoded code point is decoded before everything that follows it. -/
theorem decodeFrom_encodeScalar {code : Nat} (scalar : Scalar code) (rest : List UInt8) :
    decodeFrom none (encodeScalar code ++ rest) = units code ++ decodeFrom none rest := by
  unfold Scalar at scalar
  unfold encodeScalar
  split_ifs with one two three
  · rw [singleton_append, decodeFrom, toNat_toUInt8 (by omega)]
    rw [startByte, if_pos one, units, if_pos (by omega)]
  · rw [cons_append, singleton_append, decodeFrom, toNat_toUInt8 (by omega), startByte,
      if_neg (by omega), if_pos (by omega), nil_append,
      decodeFrom_last (by omega) ⟨by dsimp only; omega, by dsimp only; omega⟩ rfl]
    congr 2
    dsimp only
    omega
  · rw [cons_append, cons_append, singleton_append, decodeFrom,
      toNat_toUInt8 (by omega), startByte, if_neg (by omega), if_neg (by omega),
      if_pos (by omega), nil_append]
    rw [decodeFrom_more (by omega) (by dsimp only; split_ifs <;> omega) (by simp),
      decodeFrom_last (by omega) ⟨by dsimp only; omega, by dsimp only; omega⟩ rfl]
    congr 2
    dsimp only
    omega
  · rw [cons_append, cons_append, cons_append, singleton_append, decodeFrom,
      toNat_toUInt8 (by omega), startByte, if_neg (by omega), if_neg (by omega),
      if_neg (by omega), if_pos (by omega), nil_append]
    rw [decodeFrom_more (by omega) (by dsimp only; split_ifs <;> omega) (by simp),
      decodeFrom_more (by omega) ⟨by dsimp only; omega, by dsimp only; omega⟩ (by simp),
      decodeFrom_last (by omega) ⟨by dsimp only; omega, by dsimp only; omega⟩ rfl]
    congr 2
    dsimp only
    omega

theorem units_unit (unit : UInt16) : units unit.toNat = [unit] := by
  have bound : unit.toNat < 0x10000 := unit.toNat_lt
  rw [units, if_pos bound]
  exact congrArg (fun value => [value]) (UInt16.toNat.inj (Nat.mod_eq_of_lt bound))

/-- The bounds of the two halves of a surrogate pair. -/
theorem bounds_of_pair {lead trail : UInt16}
    (paired : (isLeadSurrogate lead && isTrailSurrogate trail) = true) :
    (0xD800 ≤ lead.toNat ∧ lead.toNat ≤ 0xDBFF) ∧ 0xDC00 ≤ trail.toNat ∧ trail.toNat ≤ 0xDFFF := by
  simp only [isLeadSurrogate, isTrailSurrogate, Bool.and_eq_true, decide_eq_true_eq,
    UInt16.le_iff_toNat_le] at paired
  exact paired

theorem units_pair {lead trail : UInt16}
    (paired : (isLeadSurrogate lead && isTrailSurrogate trail) = true) :
    units (pairScalar lead trail) = [lead, trail] := by
  obtain ⟨⟨low, high⟩, low', high'⟩ := bounds_of_pair paired
  have first : 0xD800 + (pairScalar lead trail - 0x10000) / 0x400 = lead.toNat := by
    unfold pairScalar
    omega
  have second : 0xDC00 + (pairScalar lead trail - 0x10000) % 0x400 = trail.toNat := by
    unfold pairScalar
    omega
  rw [units, if_neg (by unfold pairScalar; omega), first, second]
  have same : ∀ unit : UInt16, unit.toNat.toUInt16 = unit := fun unit =>
    UInt16.toNat.inj (Nat.mod_eq_of_lt unit.toNat_lt)
  rw [same, same]

theorem scalar_pair {lead trail : UInt16}
    (paired : (isLeadSurrogate lead && isTrailSurrogate trail) = true) :
    Scalar (pairScalar lead trail) := by
  obtain ⟨⟨low, high⟩, low', high'⟩ := bounds_of_pair paired
  unfold Scalar pairScalar
  omega

theorem scalar_unit {unit : UInt16}
    (ordinary : (isLeadSurrogate unit || isTrailSurrogate unit) = false) :
    unitScalar unit = unit.toNat ∧ Scalar unit.toNat := by
  have bound : unit.toNat < 65536 := unit.toNat_lt
  refine ⟨by rw [unitScalar, ordinary]; rfl, ?_⟩
  simp only [isLeadSurrogate, isTrailSurrogate, Bool.or_eq_false_iff, Bool.and_eq_false_iff,
    decide_eq_false_iff_not, UInt16.le_iff_toNat_le] at ordinary
  have outside : (¬ 0xD800 ≤ unit.toNat ∨ ¬ unit.toNat ≤ 0xDBFF) ∧
      (¬ 0xDC00 ≤ unit.toNat ∨ ¬ unit.toNat ≤ 0xDFFF) := ordinary
  unfold Scalar
  omega

/-- What follows a well-formed text does not change how it is encoded. -/
theorem encodeUtf8_append {first : JsString} (formed : wellFormed first = true)
    (second : JsString) : encodeUtf8 (first ++ second) = encodeUtf8 first ++ encodeUtf8 second := by
  induction first using wellFormed.induct with
  | case1 => rfl
  | case2 unit =>
    simp only [wellFormed, Bool.not_eq_true', Bool.or_eq_false_iff] at formed
    cases second with
    | nil => simp [encodeUtf8]
    | cons next rest => simp [encodeUtf8, formed.1]
  | case3 lead trail rest paired ih =>
    simp only [wellFormed, paired, if_true] at formed
    simp [encodeUtf8, paired, ih formed]
  | case4 lead trail rest unpaired ih =>
    simp only [wellFormed, unpaired, if_false, Bool.and_eq_true, Bool.false_eq_true] at formed
    have tail := ih formed.2
    simp only [cons_append] at tail ⊢
    simp [encodeUtf8, unpaired, tail]

/-- A well-formed string is decoded before everything that follows its bytes. -/
theorem decodeFrom_encodeUtf8 {text : JsString} (formed : wellFormed text = true)
    (rest : List UInt8) :
    decodeFrom none (encodeUtf8 text ++ rest) = text ++ decodeFrom none rest := by
  induction text using encodeUtf8.induct with
  | case1 => rfl
  | case2 unit =>
    simp only [wellFormed, Bool.not_eq_true'] at formed
    obtain ⟨same, scalar⟩ := scalar_unit formed
    rw [encodeUtf8, same, decodeFrom_encodeScalar scalar, units_unit]
  | case3 lead trail tail paired ih =>
    simp only [wellFormed, paired, if_true] at formed
    rw [encodeUtf8, if_pos paired, append_assoc, decodeFrom_encodeScalar (scalar_pair paired),
      units_pair paired, ih formed]
    rfl
  | case4 lead trail tail unpaired ih =>
    simp only [wellFormed, unpaired, Bool.and_eq_true, Bool.not_eq_true',
      if_false, Bool.false_eq_true] at formed
    obtain ⟨same, scalar⟩ := scalar_unit formed.1
    rw [encodeUtf8, if_neg unpaired, append_assoc, same, decodeFrom_encodeScalar scalar,
      units_unit, ih formed.2]
    rfl

/-- A well-formed string is received as it was sent. -/
theorem decodeUtf8_encodeUtf8 {text : JsString} (formed : wellFormed text = true) :
    decodeUtf8 (encodeUtf8 text) = text := by
  have decoded := decodeFrom_encodeUtf8 formed []
  rw [append_nil] at decoded
  rw [decodeUtf8, decoded, decodeFrom, append_nil]

/-- What stands for a code unit without its partner is one code unit. -/
theorem units_unitScalar (unit : UInt16) :
    Scalar (unitScalar unit) ∧ (units (unitScalar unit)).length = 1 := by
  cases found : isLeadSurrogate unit || isTrailSurrogate unit with
  | true =>
    have replaced : unitScalar unit = 0xFFFD := if_pos found
    rw [replaced]
    exact ⟨.inr (by decide), rfl⟩
  | false =>
    obtain ⟨same, scalar⟩ := scalar_unit found
    rw [same, units_unit]
    exact ⟨scalar, rfl⟩

/-- A string keeps its length on the way there and back. -/
theorem length_decodeUtf8_encodeUtf8 (text : JsString) :
    (decodeUtf8 (encodeUtf8 text)).length = text.length := by
  unfold decodeUtf8
  induction text using encodeUtf8.induct with
  | case1 => rfl
  | case2 unit =>
    obtain ⟨scalar, single⟩ := units_unitScalar unit
    have decoded := decodeFrom_encodeScalar scalar []
    rw [append_nil] at decoded
    rw [encodeUtf8, decoded, length_append, single]
    rfl
  | case3 lead trail tail paired ih =>
    rw [encodeUtf8, if_pos paired, decodeFrom_encodeScalar (scalar_pair paired),
      units_pair paired, length_append, ih]
    simp only [length_cons, length_nil]
    omega
  | case4 lead trail tail unpaired ih =>
    obtain ⟨scalar, single⟩ := units_unitScalar lead
    rw [encodeUtf8, if_neg unpaired, decodeFrom_encodeScalar scalar, length_append, single,
      ih, length_cons (a := lead)]
    omega

/-- Well-formed strings with the same bytes are equal. -/
theorem encodeUtf8_injective {first second : JsString} (left : wellFormed first = true)
    (right : wellFormed second = true) (same : encodeUtf8 first = encodeUtf8 second) :
    first = second := by
  rw [← decodeUtf8_encodeUtf8 left, same, decodeUtf8_encodeUtf8 right]

end JsString

end Foundation
