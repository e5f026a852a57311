import Mathlib.Data.Rat.Cast.Order
import Vortex.Web.Oembed

/-!
# Where link previews connect to

What the address test of the link preview route says of every text of every address. It
knows each reserved address of four octets, both local networks of eight groups, the
loopback address in its shortest form, and a mapped address whose last two groups are
written as octets: of every other text of a reserved address it says that the address is
public.
-/

namespace Vortex.Web.Oembed

open Foundation List
open JsString (hexValue hexDigit isNumeral number? number?_eq_none)
open Vortex.Gateway (isWhiteSpace trim mem_trim)

/-- `::ffff:1.2.3.4` -/
def DottedMapped (address : Ipv6) (inner : Ipv4) : Prop :=
  address.front = [] ∧ (∃ group, address.back = some [group] ∧ group.value = 0xFFFF) ∧
    address.embedded = some inner ∧ address.zone = none

/-- How the address test knows a reserved address. -/
def Recognised : Address → Prop
  | .v4 _ => True
  | .v6 address =>
      address.text = js "::1" ∨ (∃ inner, DottedMapped address inner) ∨ address.UniqueLocal ∨
        address.LinkLocal

/-! ## Four octets -/

/-- Digits are no white space. -/
theorem trim_digits {text : JsString} (digits : text.all Json.isDigit = true) :
    trim text = text := by
  have kept : ∀ units : JsString, (∀ unit ∈ units, Json.isDigit unit = true) →
      units.dropWhile isWhiteSpace = units := by
    intro units numeric
    cases units with
    | nil => rfl
    | cons unit rest =>
      have digit := numeric unit mem_cons_self
      have hex : (hexValue unit).isSome = true := by
        unfold hexValue
        unfold Json.isDigit at digit
        rw [if_pos digit]
        rfl
      have visible : isWhiteSpace unit = false :=
        HexGroup.forall_hex (fun letter => Json.isDigit letter = true → isWhiteSpace letter = false)
          (by decide) hex digit
      rw [dropWhile_cons_of_neg (Bool.not_eq_true _ ▸ visible)]
  have numeric := all_eq_true.mp digits
  have backwards : ∀ unit ∈ text.reverse, Json.isDigit unit = true :=
    fun unit member => numeric unit (mem_reverse.mp member)
  rw [trim, kept text numeric, kept text.reverse backwards, reverse_reverse]

theorem number?_octet (octet : Fin 256) :
    number? (trim (decimalText octet)) = some ((octet : Nat) : ℚ) := by
  obtain ⟨-, digits, value⟩ := Ipv4.octet_spec octet
  rw [trim_digits digits, value]

theorem isPrivateV4_iff (address : Ipv4) :
    isPrivateV4 ((address.first : Nat) : ℚ) ((address.second : Nat) : ℚ) = true ↔
      address.Reserved := by
  obtain ⟨first, second, third, fourth⟩ := address
  unfold isPrivateV4 Ipv4.Reserved
  simp only [Bool.or_eq_true, Bool.and_eq_true, decide_eq_true_eq, Fin.ext_iff, Fin.le_def]
  change _ ↔ (first : Nat) = 127 ∨ (first : Nat) = 0 ∨ (first : Nat) = 10 ∨
    ((first : Nat) = 172 ∧ 16 ≤ (second : Nat) ∧ (second : Nat) ≤ 31) ∨
    ((first : Nat) = 192 ∧ (second : Nat) = 168) ∨ ((first : Nat) = 169 ∧ (second : Nat) = 254) ∨
    ((first : Nat) = 100 ∧ 64 ≤ (second : Nat) ∧ (second : Nat) ≤ 127)
  generalize (first : Nat) = a
  generalize (second : Nat) = b
  norm_cast
  tauto

theorem isPrivateUnmapped_v4 (address : Ipv4) :
    isPrivateUnmapped address.text = true ↔ address.Reserved := by
  have bounded : ∀ octet : Fin 256, (decide ((0 : ℚ) ≤ ((octet : Nat) : ℚ)) &&
      decide (((octet : Nat) : ℚ) ≤ 255)) = true := by
    intro octet
    have small : (octet : Nat) ≤ 255 := Nat.le_of_lt_succ octet.isLt
    rw [Bool.and_eq_true, decide_eq_true_eq, decide_eq_true_eq]
    exact ⟨Nat.cast_nonneg _, by exact_mod_cast small⟩
  rw [← isPrivateV4_iff]
  unfold isPrivateUnmapped
  rw [Ipv4.splitOn_text]
  simp only [Ipv4.parts, map_cons, map_nil, number?_octet, all_cons, all_nil,
    bounded, Bool.and_self, ↓reduceIte]

theorem isPrivateIp_v4 (address : Ipv4) : isPrivateIp address.text = true ↔ address.Reserved := by
  have plain : v4mapped address.text = none := by
    refine v4mapped_eq_none fun rest same => ?_
    have absent : (58 : UInt16) ∉ address.text := Ipv4.not_mem_text rfl (by decide)
    rw [same] at absent
    exact absent mem_cons_self
  unfold isPrivateIp
  rw [plain]
  exact isPrivateUnmapped_v4 address

/-! ## Eight groups -/

/-- What comes before the first point of a split text is in its first part. -/
theorem splitOn_first {before : JsString} (after : JsString) (plain : (46 : UInt16) ∉ before) :
    ∃ part rest, (before ++ 58 :: after).splitOn 46 = part :: rest ∧ (58 : UInt16) ∈ part := by
  induction before with
  | nil =>
    rw [nil_append, splitOn_cons_eq_if_modifyHead, if_neg (by decide)]
    cases parts : after.splitOn 46 with
    | nil => exact absurd parts (splitOn_ne_nil 46 after)
    | cons part rest => exact ⟨58 :: part, rest, rfl, mem_cons_self⟩
  | cons unit before ih =>
    obtain ⟨part, rest, parts, inside⟩ := ih fun later => plain (mem_cons_of_mem _ later)
    have other : (unit == 46) = false := by
      rw [beq_eq_false_iff_ne]
      intro same
      exact plain (same ▸ mem_cons_self)
    rw [cons_append, splitOn_cons_eq_if_modifyHead, other, parts]
    exact ⟨unit :: part, rest, rfl, mem_cons_of_mem _ inside⟩

/-- An address of eight groups is never taken for one of four octets. -/
theorem isPrivateUnmapped_v6 (address : Ipv6) :
    isPrivateUnmapped address.text = isPrivateV6 address.text := by
  obtain ⟨before, after, same, plain⟩ := address.exists_colon
  obtain ⟨part, rest, parts, inside⟩ := splitOn_first after plain
  have foreign : isNumeral 58 = false := rfl
  have unreadable : number? (trim part) = none := number?_eq_none foreign (mem_trim rfl inside)
  unfold isPrivateUnmapped
  rw [same, parts, map_cons, unreadable]

/-- The lower case of a digit is the digit of its value. -/
theorem lower_eq_hexDigit {digit : UInt16} (hex : (hexValue digit).isSome = true) :
    lower digit = hexDigit (digitValue digit).toUInt16 := by
  refine HexGroup.forall_hex (fun letter => (hexValue letter).isSome = true →
    lower letter = hexDigit (digitValue letter).toUInt16) ?_ hex hex
  decide

/-- The digit a letter is, in either case. -/
theorem digitValue_of_lower {digit : UInt16} (hex : (hexValue digit).isSome = true) :
    lower digit = 102 ↔ digitValue digit = 15 := by
  refine HexGroup.forall_hex (fun letter => (hexValue letter).isSome = true →
    (lower letter = 102 ↔ digitValue letter = 15)) ?_ hex hex
  decide

/-- Four digits in lower case. -/
theorem map_lower_digits {group : HexGroup} : group.digits.map lower = js "ffff" ↔
    group.value = 0xFFFF := by
  constructor
  · intro same
    have four : ∃ first second third fourth, group.digits = [first, second, third, fourth] := by
      have count := congrArg List.length same
      rw [length_map] at count
      exact length_eq_four.mp count
    obtain ⟨first, second, third, fourth, digits⟩ := four
    have fifteen : ∀ digit ∈ group.digits, digitValue digit = 15 := by
      intro digit member
      refine (digitValue_of_lower (group.hex digit member)).mp ?_
      have listed : lower digit ∈ js "ffff" := same ▸ mem_map_of_mem member
      exact eq_of_mem_replicate (n := 4) listed
    rw [digits] at fifteen
    unfold HexGroup.value
    rw [digits]
    simp only [mem_cons, not_mem_nil, or_false, forall_eq_or_imp, forall_eq] at fifteen
    obtain ⟨one, two, three, four⟩ := fifteen
    simp only [foldl_cons, foldl_nil, one, two, three, four]
  · intro full
    obtain ⟨first, second, third, fourth, digits, sum⟩ :=
      HexGroup.digits_of_le_value (Nat.le_trans (by decide) (Nat.le_of_eq full.symm))
    have small := HexGroup.digitValue_lt
    have letter : ∀ digit ∈ group.digits, lower digit = 102 := by
      intro digit member
      refine (digitValue_of_lower (group.hex digit member)).mpr ?_
      have bound := small digit
      have one := small first
      have two := small second
      have three := small third
      have four := small fourth
      rw [digits] at member
      simp only [mem_cons, not_mem_nil, or_false] at member
      rcases member with same | same | same | same
      all_goals
        rw [same]
        omega
    rw [digits] at letter ⊢
    simp only [mem_cons, not_mem_nil, or_false, forall_eq_or_imp, forall_eq] at letter
    obtain ⟨one, two, three, four⟩ := letter
    simp only [map_cons, map_nil, one, two, three, four]
    rfl

/-! ## Mapped addresses -/

theorem colons_pair (first second : JsString) :
    Ipv6.colons [first, second] = first ++ 58 :: second := by
  unfold Ipv6.colons
  rw [intercalate_cons_cons, intercalate_singleton, append_assoc]
  rfl

/-- A mapped address of which the octets are written is unwrapped. -/
theorem v4mapped_of_dotted {address : Ipv6} {inner : Ipv4} (dotted : DottedMapped address inner) :
    v4mapped address.text = some inner.text := by
  obtain ⟨front, ⟨group, back, full⟩, embedded, zone⟩ := dotted
  obtain ⟨after, back', same⟩ := Ipv6.text_eq_colons front
  obtain rfl : [group] = after := Option.some.inj (back.symm.trans back')
  have written : address.text = (58 :: 58 :: (group.digits ++ [58])) ++ inner.text := by
    rw [same, Ipv6.embeddedText, embedded, zone]
    change 58 :: 58 :: (Ipv6.colons [group.digits, inner.text] ++ []) = _
    rw [colons_pair, append_nil, cons_append, cons_append, append_assoc]
    rfl
  have letters := map_lower_digits.mpr full
  have seven : (58 :: 58 :: (group.digits ++ [58])).length = 7 := by
    have four := congrArg List.length letters
    rw [length_map] at four
    rw [length_cons, length_cons, length_append, four]
    rfl
  rw [written]
  refine v4mapped_eq_some.mpr ⟨(drop_left' seven).symm, ?_, ?_, ?_⟩
  · rw [opensWith_iff]
    change (List.take 7 _).map lower = _
    rw [take_left' seven, map_cons, map_cons, map_append, letters]
    rfl
  · rw [Ipv4.splitOn_text]
    rfl
  · rw [Ipv4.splitOn_text]
    intro part member
    obtain ⟨octet, shown⟩ := Ipv4.exists_of_mem_parts member
    rw [shown]
    exact ⟨(Ipv4.octet_spec octet).1, (Ipv4.octet_spec octet).2.1⟩

/-- A text that begins with a colon begins with what is left out. -/
theorem front_of_opensWith {address : Ipv6} {opening : JsString}
    (opens : opensWith address.text (58 :: opening) = true) : address.front = [] := by
  cases front : address.front with
  | nil => rfl
  | cons group others =>
    obtain ⟨colon, same, -⟩ := Ipv6.text_eq_digits front
    obtain ⟨first, more, shown⟩ := group.digits_eq_cons
    obtain ⟨unit, text, begins, lowered⟩ := head_of_opensWith opens
    rw [same, shown] at begins
    obtain ⟨rfl, -⟩ := cons.inj begins
    have hex := group.hex first (shown ▸ mem_cons_self)
    rw [eq_colon_of_lower lowered] at hex
    cases hex

/-- What follows the colons of a mapped prefix. -/
theorem letters_of_opensWith {tail : JsString}
    (opens : opensWith (58 :: 58 :: tail) (js "::ffff:") = true) :
    ∃ letters, tail = letters ++ 58 :: (58 :: 58 :: tail).drop 7 ∧
      letters.map lower = js "ffff" ∧ ∀ unit ∈ letters, lower unit = 102 := by
  rw [opensWith_iff] at opens
  match tail with
  | first :: second :: third :: fourth :: colon :: tail =>
    obtain ⟨one, two, three, four, five⟩ : lower first = 102 ∧ lower second = 102 ∧
        lower third = 102 ∧ lower fourth = 102 ∧ lower colon = 58 := by
      simpa [js, utf16, lower] using opens
    refine ⟨[first, second, third, fourth], ?_, ?_, ?_⟩
    · rw [eq_colon_of_lower five]
      rfl
    · simp only [map_cons, map_nil, one, two, three, four]
      rfl
    · simp only [mem_cons, not_mem_nil, or_false, forall_eq_or_imp, forall_eq]
      exact ⟨one, two, three, four⟩
  | [] | [_] | [_, _] | [_, _, _] | [_, _, _, _] => simp [js, utf16] at opens

/-- Nothing else is. -/
theorem dotted_of_v4mapped {address : Ipv6} {rest : JsString}
    (unwrapped : v4mapped address.text = some rest) :
    ∃ inner, DottedMapped address inner ∧ rest = inner.text := by
  have numeric := numeric_of_v4mapped unwrapped
  obtain ⟨dropped, opens, four, -⟩ := v4mapped_eq_some.mp unwrapped
  have front := front_of_opensWith opens
  obtain ⟨after, back, same⟩ := Ipv6.text_eq_colons front
  rw [same] at opens dropped
  obtain ⟨letters, written, lowered, lettered⟩ := letters_of_opensWith opens
  rw [← dropped] at written
  have zone : address.zone = none := by
    cases zone : address.zone with
    | none => rfl
    | some named =>
      rw [zone] at written
      have inside : (37 : UInt16) ∈ letters ++ 58 :: rest := by
        rw [← written]
        exact mem_append_right _ mem_cons_self
      rcases mem_append.mp inside with letter | later
      · cases lettered 37 letter
      · rcases mem_cons.mp later with colon | numbers
        · cases colon
        · rcases numeric 37 numbers with digit | point
          · cases digit
          · cases point
  rw [zone, Option.elim_none, append_nil] at written
  have pieces : after.map HexGroup.digits ++ address.embeddedText = [letters, rest] := by
    have some : after.map HexGroup.digits ++ address.embeddedText ≠ [] := by
      intro none
      rw [none] at written
      exact append_ne_nil_of_right_ne_nil letters (cons_ne_nil 58 rest) written.symm
    have last : (58 : UInt16) ∉ rest := by
      intro inside
      rcases numeric 58 inside with digit | point
      · cases digit
      · cases point
    have first : (58 : UInt16) ∉ letters := fun inside => nomatch lettered 58 inside
    rw [← Ipv6.splitOn_colons some, written, splitOn_append_cons_self_of_not_mem first,
      splitOn_eq_singleton last]
  rw [Ipv6.embeddedText] at pieces
  cases embedded : address.embedded with
  | none =>
    -- the last piece is a group, but what is unwrapped has points in it
    rw [embedded, Option.map_none, Option.toList_none, append_nil] at pieces
    have listed : rest ∈ after.map HexGroup.digits := by
      rw [pieces]
      exact mem_cons_of_mem _ mem_cons_self
    obtain ⟨group, -, digits⟩ := mem_map.mp listed
    have plain : (46 : UInt16) ∉ rest := digits ▸ HexGroup.not_mem_digits rfl
    rw [splitOn_eq_singleton plain] at four
    cases four
  | some inner =>
    rw [embedded] at pieces
    have split : after.map HexGroup.digits ++ [inner.text] = [letters] ++ [rest] := pieces
    obtain ⟨groups, quad⟩ := append_inj' split rfl
    obtain ⟨group, alone, shown⟩ := map_eq_singleton_iff.mp groups
    have full : group.value = 0xFFFF := map_lower_digits.mp (shown ▸ lowered)
    exact ⟨inner, ⟨front, ⟨group, alone ▸ back, full⟩, embedded, zone⟩, (cons.inj quad).1.symm⟩

/-- A mapped address is reserved when what it is mapped from is. -/
theorem reserved_of_dotted {address : Ipv6} {inner : Ipv4} (dotted : DottedMapped address inner) :
    address.Reserved ↔ inner.Reserved := by
  obtain ⟨front, ⟨group, back, full⟩, embedded, -⟩ := dotted
  have groups : address.groups = [0, 0, 0, 0, 0, 0xFFFF,
      256 * (inner.first : Nat) + inner.second, 256 * (inner.third : Nat) + inner.fourth] := by
    unfold Ipv6.groups Ipv6.embeddedGroups
    rw [back, front, embedded]
    dsimp only [Option.elim_some]
    rw [map_singleton, full]
    rfl
  unfold Ipv6.Reserved Ipv6.UniqueLocal Ipv6.LinkLocal Ipv6.mapped
  simp only [groups, List.cons.injEq, Ipv4.ofGroups_groups, head?_cons, Option.mem_some_iff,
    Option.some.injEq]
  simp

/-! ## The address test -/

/-- A text that begins with the letter `f` begins with a group that is not zero. -/
theorem local_of_opensWith {address : Ipv6} {opening : JsString}
    (opens : opensWith address.text (102 :: opening) = true) (reserved : address.Reserved) :
    address.UniqueLocal ∨ address.LinkLocal := by
  obtain ⟨first, rest, same, lowered⟩ := head_of_opensWith opens
  cases front : address.front with
  | nil =>
    obtain ⟨after, -, shown⟩ := Ipv6.text_eq_colons front
    obtain ⟨rfl, -⟩ := cons.inj (same.symm.trans shown)
    cases lowered
  | cons group others =>
    obtain ⟨colon, shown, -⟩ := Ipv6.text_eq_digits front
    obtain ⟨digit, more, digits⟩ := group.digits_eq_cons
    rw [digits] at shown
    obtain ⟨rfl, -⟩ := cons.inj (same.symm.trans shown)
    have hex := group.hex first (digits ▸ mem_cons_self)
    have fifteen := (digitValue_of_lower hex).mp lowered
    have large := HexGroup.digitValue_le_value digits
    rcases Ipv6.head?_of_reserved reserved with zero | nearby
    · rw [Ipv6.head?_groups_cons front, Option.some.injEq] at zero
      omega
    · exact nearby

/-- The first digits of an address whose first group is large. -/
theorem digits_of_head {address : Ipv6} {number : Nat} (head : number ∈ address.groups.head?)
    (large : 0x1000 ≤ number) :
    ∃ first second third fourth rest, address.text = first :: second :: third :: fourth :: rest ∧
      (∀ digit ∈ [first, second, third], lower digit = hexDigit (digitValue digit).toUInt16) ∧
      number = 0x1000 * digitValue first + 0x100 * digitValue second + 0x10 * digitValue third +
        digitValue fourth := by
  cases front : address.front with
  | nil =>
    rw [Ipv6.head?_groups_nil front, Option.mem_some_iff] at head
    omega
  | cons group others =>
    rw [Ipv6.head?_groups_cons front, Option.mem_some_iff] at head
    subst head
    obtain ⟨first, second, third, fourth, digits, sum⟩ := HexGroup.digits_of_le_value large
    obtain ⟨rest, same, -⟩ := Ipv6.text_eq_digits front
    rw [digits] at same
    refine ⟨first, second, third, fourth, rest, same, fun digit member => ?_, sum⟩
    refine lower_eq_hexDigit (group.hex digit ?_)
    rw [digits]
    simp only [mem_cons, not_mem_nil, or_false] at member ⊢
    tauto

theorem opensWith_of_uniqueLocal {address : Ipv6} (unique : address.UniqueLocal) :
    (opensWith address.text (js "fc") || opensWith address.text (js "fd")) = true := by
  obtain ⟨number, head, low, high⟩ := unique
  obtain ⟨first, second, third, fourth, rest, same, lowered, sum⟩ :=
    digits_of_head head (Nat.le_trans (by decide) low)
  have one := HexGroup.digitValue_lt first
  have two := HexGroup.digitValue_lt second
  have three := HexGroup.digitValue_lt third
  have four := HexGroup.digitValue_lt fourth
  have leading : digitValue first = 15 := by omega
  have following : digitValue second = 12 ∨ digitValue second = 13 := by omega
  simp only [mem_cons, not_mem_nil, or_false, forall_eq_or_imp, forall_eq] at lowered
  obtain ⟨initial, next, -⟩ := lowered
  rw [Bool.or_eq_true, opensWith_iff, opensWith_iff, same]
  change [lower first, lower second] = _ ∨ [lower first, lower second] = _
  rw [initial, next, leading]
  rcases following with twelve | thirteen
  · exact Or.inl (by rw [twelve]; rfl)
  · exact Or.inr (by rw [thirteen]; rfl)

theorem opensWith_of_linkLocal {address : Ipv6} (link : address.LinkLocal) :
    [js "fe8", js "fe9", js "fea", js "feb"].any (opensWith address.text) = true := by
  obtain ⟨number, head, low, high⟩ := link
  obtain ⟨first, second, third, fourth, rest, same, lowered, sum⟩ :=
    digits_of_head head (Nat.le_trans (by decide) low)
  have one := HexGroup.digitValue_lt first
  have two := HexGroup.digitValue_lt second
  have three := HexGroup.digitValue_lt third
  have four := HexGroup.digitValue_lt fourth
  have leading : digitValue first = 15 := by omega
  have following : digitValue second = 14 := by omega
  have last : digitValue third = 8 ∨ digitValue third = 9 ∨ digitValue third = 10 ∨
      digitValue third = 11 := by omega
  simp only [mem_cons, not_mem_nil, or_false, forall_eq_or_imp, forall_eq] at lowered
  obtain ⟨initial, next, final⟩ := lowered
  have shown : ∀ opening : JsString, opening.length = 3 → (opensWith address.text opening = true ↔
        [hexDigit 15, hexDigit 14, hexDigit (digitValue third).toUInt16] = opening) := by
    intro opening length
    rw [opensWith_iff, same, length]
    change [lower first, lower second, lower third] = _ ↔ _
    rw [initial, next, final, leading, following]
    rfl
  rw [any_eq_true]
  rcases last with value | value | value | value
  · exact ⟨js "fe8", by decide, (shown _ rfl).mpr (by rw [value]; rfl)⟩
  · exact ⟨js "fe9", by decide, (shown _ rfl).mpr (by rw [value]; rfl)⟩
  · exact ⟨js "fea", by decide, (shown _ rfl).mpr (by rw [value]; rfl)⟩
  · exact ⟨js "feb", by decide, (shown _ rfl).mpr (by rw [value]; rfl)⟩

theorem isPrivateV6_iff {address : Ipv6} (reserved : address.Reserved) :
    isPrivateV6 address.text = true ↔
      address.text = js "::1" ∨ address.UniqueLocal ∨ address.LinkLocal := by
  unfold isPrivateV6
  rw [Bool.or_eq_true, Bool.or_eq_true, decide_eq_true_eq]
  constructor
  · intro known
    rcases known with (shown | unique) | link
    · exact Or.inl shown
    · rw [Bool.or_eq_true] at unique
      rcases unique with opens | opens
      · exact Or.inr (local_of_opensWith opens reserved)
      · exact Or.inr (local_of_opensWith opens reserved)
    · obtain ⟨opening, member, opens⟩ := any_eq_true.mp link
      simp only [mem_cons, not_mem_nil, or_false] at member
      rcases member with same | same | same | same
      all_goals
        rw [same] at opens
        exact Or.inr (local_of_opensWith opens reserved)
  · intro known
    rcases known with shown | unique | link
    · exact Or.inl (Or.inl shown)
    · exact Or.inl (Or.inr (opensWith_of_uniqueLocal unique))
    · exact Or.inr (opensWith_of_linkLocal link)

/-- What the address test knows of the reserved addresses. -/
theorem isPrivateIp_iff {address : Address} (reserved : address.Reserved) :
    isPrivateIp address.text = true ↔ Recognised address := by
  cases address with
  | v4 address => exact iff_of_true ((isPrivateIp_v4 address).mpr reserved) trivial
  | v6 address =>
    change isPrivateIp address.text = true ↔ _
    unfold isPrivateIp
    cases unwrapped : v4mapped address.text with
    | some rest =>
      obtain ⟨inner, dotted, rfl⟩ := dotted_of_v4mapped unwrapped
      refine iff_of_true ?_ (Or.inr (Or.inl ⟨inner, dotted⟩))
      exact (isPrivateUnmapped_v4 inner).mpr ((reserved_of_dotted dotted).mp reserved)
    | none =>
      change isPrivateUnmapped address.text = true ↔ _
      rw [isPrivateUnmapped_v6, isPrivateV6_iff reserved]
      have undotted : ¬ ∃ inner, DottedMapped address inner := by
        intro ⟨inner, dotted⟩
        rw [v4mapped_of_dotted dotted] at unwrapped
        cases unwrapped
      unfold Recognised
      constructor
      · intro known
        rcases known with shown | nearby
        · exact Or.inl shown
        · exact Or.inr (Or.inr nearby)
      · intro known
        rcases known with shown | dotted | nearby
        · exact Or.inl shown
        · exact absurd dotted undotted
        · exact Or.inr nearby

/-! ## The connections of a request -/

/-- An address that a lookup found and the address test let pass. -/
def Connectable (seen : List (Proc.Exchange oembedInterface)) (address : Address) : Prop :=
  isPrivateIp address.text = false ∧
    ∃ hostname found, ⟨.lookup hostname, .ok found⟩ ∈ seen ∧ address ∈ found

/-- Watches the lookups: a connection is only opened to what they found. -/
def egress : Monitor oembedInterface (List (Proc.Exchange oembedInterface)) :=
  .recorder
    (fun request => match request with
      | .lookup _ => true
      | _ => false)
    fun seen request => match request with
      | .fetchWithPinnedAddress _ address => Connectable seen address
      | _ => True

theorem fetchAny_obeys {currentUrl : EmbedUrl} {addresses : List Address}
    {fetchError : Option FetchError} {seen : List (Proc.Exchange oembedInterface)}
    {post : List (Proc.Exchange oembedInterface) →
      Except FetchError (Except (Option FetchError) PinnedFetchResponse) → Prop}
    (connectable : ∀ address ∈ addresses, Connectable seen address)
    (ends : ∀ result, post seen (.ok result)) :
    (fetchAny currentUrl addresses fetchError).Obeys egress post seen := by
  induction addresses generalizing fetchError with
  | nil => exact ends _
  | cons address rest ih =>
    refine ⟨connectable address mem_cons_self, fun answer => ?_⟩
    cases answer with
    | ok resp => exact ends _
    | error error => exact ih fun other later => connectable other (mem_cons_of_mem _ later)

section

variable {environment : OembedEnvironment}

/-- What a host is validated to may be connected to. -/
theorem validateHost_obeys {parsedUrl : EmbedUrl} {seen : List (Proc.Exchange oembedInterface)}
    {post : List (Proc.Exchange oembedInterface) →
      Except FetchError (Except HttpResponse (List Address)) → Prop}
    (refused : ∀ later response, post later (.ok (.error response)))
    (validated : ∀ later addresses, (∀ address ∈ addresses, Connectable later address) →
      post later (.ok (.ok addresses))) :
    (validateHost environment parsedUrl).Obeys egress post seen := by
  unfold validateHost
  split
  · exact refused _ _
  · refine ⟨trivial, fun answer => ?_⟩
    cases answer with
    | error nothing => exact refused _ _
    | ok found =>
      change Proc.Obeys egress post (if _ then _ else _) _
      split
      · exact refused _ _
      · refine validated _ _ fun address member => ?_
        obtain ⟨listed, shown⟩ := mem_filter.mp member
        refine ⟨(Bool.not_eq_true' _).mp shown, parsedUrl.hostname, found, ?_, listed⟩
        exact mem_append_right _ mem_cons_self

theorem followRedirects_obeys {turns : Nat} {currentUrl : EmbedUrl} {addresses : List Address}
    {seen : List (Proc.Exchange oembedInterface)} {post : List (Proc.Exchange oembedInterface) →
      Except FetchError (Except HttpResponse (Option PinnedFetchResponse × EmbedUrl)) → Prop}
    (connectable : ∀ address ∈ addresses, Connectable seen address)
    (ends : ∀ later result, post later result) :
    (followRedirects environment turns currentUrl addresses).Obeys egress post seen := by
  induction turns generalizing currentUrl addresses seen with
  | zero => exact ends _ _
  | succ turns ih =>
    refine .bind (fetchAny_obeys connectable fun result => ?_)
    cases result with
    | error fetchError =>
      cases fetchError with
      | none => exact ends _ _
      | some error =>
        cases error with
        | abort => exact ends _ _
        | other => exact ends _ _
    | ok resp =>
      change Proc.Obeys egress _ (if _ then _ else _) _
      split
      · split
        · exact ends _ _
        · split
          · exact ends _ _
          · refine .bind (validateHost_obeys (fun later response => ends _ _) ?_)
            exact fun later addresses connectable => ih connectable
      · exact ends _ _

end

theorem GET_obeys (call : OembedCall) : (GET call).Obeys egress (fun _ _ => True) [] := by
  refine ⟨trivial, fun allowed => ?_⟩
  change Proc.Obeys egress _ (if _ then _ else _) _
  split
  · trivial
  · split
    · trivial
    · split
      · trivial
      · refine .bind (validateHost_obeys (fun later response => trivial) ?_)
        intro later addresses connectable
        refine .bind (.attempt (.bind (followRedirects_obeys connectable fun seen result => ?_)))
        cases result with
        | error error => trivial
        | ok ended => cases ended <;> trivial

/-- A connection that a request opens is to an address that the last lookups found and the
address test let pass. -/
theorem connectable_of_leads {call : OembedCall} {exchanges : List (Proc.Exchange oembedInterface)}
    {url : EmbedUrl} {address : Address}
    {next : Except FetchError PinnedFetchResponse → OembedProc OembedResult}
    (path : (GET call).Leads exchanges (.await (.fetchWithPinnedAddress url address) next)) :
    Connectable exchanges address := by
  obtain ⟨passed, hostname, found, seen, listed⟩ := ((GET_obeys call).leads path).1
  exact ⟨passed, hostname, found, (Monitor.mem_remember_recorder.mp seen).1, listed⟩

/-- Every address a lookup has found is one the resolver may answer with. -/
def ResolvedIn (answerable : Address → Prop) (exchanges : List (Proc.Exchange oembedInterface)) :
    Prop :=
  ∀ hostname found, ⟨.lookup hostname, .ok found⟩ ∈ exchanges → ∀ address ∈ found,
    answerable address

/-- No request opens a connection to a reserved address while the resolver answers with
addresses of a kind. -/
def Guarded (answerable : Address → Prop) : Prop :=
  ∀ (call : OembedCall) (exchanges : List (Proc.Exchange oembedInterface)) (url : EmbedUrl)
    (address : Address) (next : Except FetchError PinnedFetchResponse → OembedProc OembedResult),
    (GET call).Leads exchanges (.await (.fetchWithPinnedAddress url address) next) →
      ResolvedIn answerable exchanges → ¬ address.Reserved

/-- A host that is found is validated to the addresses the test lets pass. -/
theorem validateHost_leads {environment : OembedEnvironment} {parsedUrl : EmbedUrl}
    {found : List Address} {α : Type} (next : Except HttpResponse (List Address) → OembedProc α)
    (free : isBlockedEmbedHost environment parsedUrl.hostname = false)
    (passed : found.filter (fun address => !isPrivateIp address.text) = found)
    (some : found.isEmpty = false) :
    (validateHost environment parsedUrl >>= next).Leads
      [⟨.lookup parsedUrl.hostname, .ok found⟩] (next (.ok found)) := by
  unfold validateHost
  rw [free]
  refine .cons ?_
  change Proc.Leads ((if (found.filter _).isEmpty = true then _ else
    .done (.ok (.ok (found.filter _))) : OembedProc _) >>= next) [] _
  rw [passed, some]
  exact .nil _

namespace Sample

def page (text : JsString) : EmbedUrl where
  protocol := js "http:"
  hostname := text
  port := []
  pathname := js "/"
  search := []
  host := text
  origin := js "http://" ++ text

/-- A request for the page of a host. -/
def preview : OembedCall where
  environment :=
    { parseUrl := fun text _ => some (page text)
      toLowerCase := fun text => text
      EMBED_BLOCKED_DOMAINS := none }
  clientIp := none
  url := some (js "a")

/-- An address the test lets pass is connected to when it is the answer. -/
theorem preview_leads {address : Address} (passed : isPrivateIp address.text = false) :
    ∃ next, (GET preview).Leads [⟨.check (js "oembed:unknown"), true⟩,
      ⟨.lookup (js "a"), .ok [address]⟩]
      (.await (.fetchWithPinnedAddress (page (js "a")) address) next) := by
  have kept : [address].filter (fun found => !isPrivateIp found.text) = [address] := by
    rw [filter_singleton, passed]
    rfl
  have free : isBlockedEmbedHost preview.environment (page (js "a")).hostname = false := by decide
  apply Exists.intro
  apply Proc.Leads.cons
  change Proc.Leads (validateHost preview.environment (page (js "a")) >>= _) _ _
  exact validateHost_leads _ free kept rfl

end Sample

/-- No connection is opened to a reserved address, however a request and its redirects
resolve, if and only if the resolver answers with reserved addresses only in the forms
that the address test knows. -/
theorem guarded_iff (answerable : Address → Prop) :
    Guarded answerable ↔ ∀ address, answerable address → address.Reserved → Recognised address := by
  constructor
  · intro guarded address possible reserved
    refine (isPrivateIp_iff reserved).mp (Bool.not_eq_false _ |>.mp fun passed => ?_)
    obtain ⟨next, path⟩ := Sample.preview_leads passed
    refine guarded Sample.preview _ _ address next path ?_ reserved
    intro hostname found seen other listed
    simp only [List.mem_cons, List.not_mem_nil, or_false] at seen
    rcases seen with checked | lookedUp
    · cases checked
    · cases lookedUp
      obtain rfl := List.mem_singleton.mp listed
      exact possible
  · intro known call exchanges url address next path resolved reserved
    obtain ⟨passed, hostname, found, seen, listed⟩ := connectable_of_leads path
    have known' := (isPrivateIp_iff reserved).mpr
      (known address (resolved hostname found seen address listed) reserved)
    rw [known'] at passed
    cases passed

/-- `::` -/
def unspecified : Address := .v6 ⟨[], some [], none, none, by decide⟩

theorem isPrivateIp_unspecified : isPrivateIp unspecified.text = false := by decide

/-- A host that resolves to the unspecified address is connected to. -/
theorem not_guarded : ¬ Guarded fun _ => True := by
  intro guarded
  obtain ⟨next, path⟩ := Sample.preview_leads isPrivateIp_unspecified
  exact guarded Sample.preview _ _ unspecified next path (fun _ _ _ _ _ => trivial)
    (Or.inr (Or.inl rfl))

end Vortex.Web.Oembed
