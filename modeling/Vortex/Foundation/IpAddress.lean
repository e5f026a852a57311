import Vortex.Foundation.Http
import Vortex.Foundation.JsNumber

/-!
# Internet addresses and their texts

The addresses of the Internet with every text that stands for one of them: four decimal
numbers, or up to eight groups of hexadecimal digits of which one run of zeros may be
left out, the last two written as four decimal numbers or not, with or without a zone.
`Address.Reserved` says, of the numbers an address stands for, whether they belong to a
network that is nobody's but the host's or its neighbours'.
-/

variable {unit : UInt16}

namespace Foundation

open List

open JsString (hexValue number?)
open Json (isDigit)

/-! ## Four octets -/

structure Ipv4 where
  first : Fin 256
  second : Fin 256
  third : Fin 256
  fourth : Fin 256
  deriving DecidableEq

namespace Ipv4

def parts (address : Ipv4) : List JsString :=
  [decimalText address.first, decimalText address.second, decimalText address.third,
    decimalText address.fourth]

/-- `1.2.3.4` -/
def text (address : Ipv4) : JsString := [46].intercalate address.parts

/-- The loopback, unspecified, private, link-local and carrier-grade networks. -/
def Reserved (address : Ipv4) : Prop :=
  address.first = 127 ∨ address.first = 0 ∨ address.first = 10 ∨
    (address.first = 172 ∧ 16 ≤ address.second ∧ address.second ≤ 31) ∨
    (address.first = 192 ∧ address.second = 168) ∨ (address.first = 169 ∧ address.second = 254) ∨
    (address.first = 100 ∧ 64 ≤ address.second ∧ address.second ≤ 127)

instance (address : Ipv4) : Decidable address.Reserved := by
  unfold Reserved
  infer_instance

/-- The two groups of sixteen bits an address is made of. -/
def groups (address : Ipv4) : List Nat :=
  [256 * address.first + address.second, 256 * address.third + address.fourth]

/-- The address made of two groups of sixteen bits. -/
def ofGroups (high low : Nat) : Ipv4 where
  first := Fin.ofNat 256 (high / 256)
  second := Fin.ofNat 256 high
  third := Fin.ofNat 256 (low / 256)
  fourth := Fin.ofNat 256 low

theorem octet_spec (octet : Fin 256) :
    decimalText octet ≠ [] ∧ (decimalText octet).all isDigit = true ∧
      number? (decimalText octet) = some ((octet : Nat) : ℚ) := by
  rw [decimalText_eq]
  revert octet
  decide +kernel

variable {address : Ipv4}

theorem exists_of_mem_parts {part : JsString} (member : part ∈ address.parts) :
    ∃ octet : Fin 256, part = decimalText octet := by
  unfold parts at member
  simp only [mem_cons, not_mem_nil, or_false] at member
  rcases member with same | same | same | same
  all_goals exact ⟨_, same⟩

theorem isDigit_of_mem_parts {part : JsString} (member : part ∈ address.parts)
    (inside : unit ∈ part) : isDigit unit = true := by
  obtain ⟨octet, same⟩ := exists_of_mem_parts member
  rw [same] at inside
  exact all_eq_true.mp (octet_spec octet).2.1 unit inside

theorem splitOn_text (address : Ipv4) : address.text.splitOn 46 = address.parts := by
  refine splitOn_intercalate 46 (fun part member inside => ?_) (cons_ne_nil _ _)
  cases isDigit_of_mem_parts member inside

/-- The text of four octets is digits and points. -/
theorem mem_text (inside : unit ∈ address.text) : isDigit unit = true ∨ unit = 46 := by
  unfold text at inside
  rcases mem_of_mem_intercalate inside with ⟨part, member, within⟩ | separator
  · exact Or.inl (isDigit_of_mem_parts member within)
  · exact Or.inr (mem_singleton.mp separator)

theorem not_mem_text (letter : isDigit unit = false) (other : unit ≠ 46) : unit ∉ address.text := by
  intro inside
  rcases mem_text inside with digit | point
  · rw [letter] at digit
    cases digit
  · exact other point

theorem point_mem_text (address : Ipv4) : (46 : UInt16) ∈ address.text := by
  simp [text, parts, List.intercalate, List.intersperse]

theorem ofGroups_groups (address : Ipv4) :
    ofGroups (256 * address.first + address.second) (256 * address.third + address.fourth) =
      address := by
  obtain ⟨first, second, third, fourth⟩ := address
  unfold ofGroups
  congr 1 <;> apply Fin.ext <;> simp only [Fin.ofNat] <;> omega

end Ipv4

/-! ## Eight groups -/

/-- One to four hexadecimal digits. -/
structure HexGroup where
  digits : JsString
  short : 0 < digits.length ∧ digits.length ≤ 4
  hex : ∀ digit ∈ digits, (hexValue digit).isSome = true

def digitValue (digit : UInt16) : Nat := ((hexValue digit).getD 0).toNat

def HexGroup.value (group : HexGroup) : Nat :=
  group.digits.foldl (fun number digit => 16 * number + digitValue digit) 0

namespace HexGroup

variable {group : HexGroup}

theorem not_mem_digits (other : hexValue unit = none) : unit ∉ group.digits := by
  intro inside
  have hex := group.hex unit inside
  rw [other] at hex
  cases hex

theorem digits_eq_cons (group : HexGroup) : ∃ first rest, group.digits = first :: rest :=
  exists_cons_of_length_pos group.short.1

/-- A fact about every hexadecimal digit is one about a few letters. -/
theorem forall_hex (fact : UInt16 → Prop) (every : ∀ letter : Fin 128, fact letter.val.toUInt16)
    {digit : UInt16} (hex : (hexValue digit).isSome = true) : fact digit := by
  have small : digit.toNat < 128 := by
    unfold hexValue at hex
    simp only [Bool.and_eq_true, decide_eq_true_eq, UInt16.le_iff_toNat_le] at hex
    split at hex
    · rename_i decimal
      exact Nat.lt_of_le_of_lt decimal.2 (by decide)
    · split at hex
      · rename_i lower
        exact Nat.lt_of_le_of_lt lower.2 (by decide)
      · split at hex
        · rename_i upper
          exact Nat.lt_of_le_of_lt upper.2 (by decide)
        · cases hex
  have found := every ⟨digit.toNat, small⟩
  simpa using found

theorem digitValue_lt (digit : UInt16) : digitValue digit < 16 := by
  cases read : hexValue digit with
  | none =>
    unfold digitValue
    rw [read]
    exact Nat.zero_lt_succ 15
  | some value =>
    exact forall_hex (digitValue · < 16) (by decide) (Option.isSome_iff_exists.mpr ⟨value, read⟩)

/-- Only four digits make a number of four digits. -/
theorem digits_of_le_value (large : 0x1000 ≤ group.value) :
    ∃ first second third fourth, group.digits = [first, second, third, fourth] ∧
      group.value = 0x1000 * digitValue first + 0x100 * digitValue second +
        0x10 * digitValue third + digitValue fourth := by
  have short := group.short.2
  unfold value at large ⊢
  match digits : group.digits with
  | [] =>
    rw [digits] at large
    cases large
  | [first] =>
    rw [digits] at large
    have := digitValue_lt first
    simp only [foldl_cons, foldl_nil] at large
    omega
  | [first, second] =>
    rw [digits] at large
    have := digitValue_lt first
    have := digitValue_lt second
    simp only [foldl_cons, foldl_nil] at large
    omega
  | [first, second, third] =>
    rw [digits] at large
    have := digitValue_lt first
    have := digitValue_lt second
    have := digitValue_lt third
    simp only [foldl_cons, foldl_nil] at large
    omega
  | [first, second, third, fourth] =>
    refine ⟨first, second, third, fourth, rfl, ?_⟩
    simp only [foldl_cons, foldl_nil]
    omega
  | _ :: _ :: _ :: _ :: _ :: _ =>
    rw [digits] at short
    simp only [length_cons] at short
    omega

/-- The first digit counts. -/
theorem digitValue_le_value {first : UInt16} {rest : JsString}
    (digits : group.digits = first :: rest) : digitValue first ≤ group.value := by
  have grows : ∀ (units : JsString) (number : Nat),
      number ≤ units.foldl (fun number digit => 16 * number + digitValue digit) number := by
    intro units
    induction units with
    | nil => exact fun number => Nat.le_refl number
    | cons unit units ih =>
      intro number
      have step := ih (16 * number + digitValue unit)
      rw [foldl_cons]
      omega
  unfold value
  rw [digits, foldl_cons]
  have step := grows rest (16 * 0 + digitValue first)
  omega

end HexGroup

/-- A text of eight groups: those before the `::`, those after it if there is one, the
last two where they are written as four octets, and the zone. -/
structure Ipv6 where
  front : List HexGroup
  back : Option (List HexGroup)
  embedded : Option Ipv4
  zone : Option JsString
  whole : match back with
    | none => front.length + (embedded.elim 0 fun _ => 2) = 8
    | some after => front.length + after.length + (embedded.elim 0 fun _ => 2) < 8

namespace Ipv6

/-- Pieces of a text with colons between them. -/
def colons (pieces : List JsString) : JsString := [58].intercalate pieces

def embeddedText (address : Ipv6) : List JsString := (address.embedded.map Ipv4.text).toList

def groupsText (address : Ipv6) : JsString :=
  match address.back with
  | none => colons (address.front.map HexGroup.digits ++ address.embeddedText)
  | some after =>
      colons (address.front.map HexGroup.digits) ++ [58, 58] ++
        colons (after.map HexGroup.digits ++ address.embeddedText)

def text (address : Ipv6) : JsString :=
  address.groupsText ++ (address.zone.elim [] fun zone => 37 :: zone)

def embeddedGroups (address : Ipv6) : List Nat := address.embedded.elim [] Ipv4.groups

/-- The numbers of the eight groups. -/
def groups (address : Ipv6) : List Nat :=
  match address.back with
  | none => address.front.map HexGroup.value ++ address.embeddedGroups
  | some after =>
      let last := after.map HexGroup.value ++ address.embeddedGroups
      address.front.map HexGroup.value ++
        List.replicate (8 - address.front.length - last.length) 0 ++ last

/-- `fc00::/7` -/
def UniqueLocal (address : Ipv6) : Prop :=
  ∃ first ∈ address.groups.head?, 0xFC00 ≤ first ∧ first ≤ 0xFDFF

/-- `fe80::/10` -/
def LinkLocal (address : Ipv6) : Prop :=
  ∃ first ∈ address.groups.head?, 0xFE80 ≤ first ∧ first ≤ 0xFEBF

/-- The address of four octets that a mapped address stands for. -/
def mapped (address : Ipv6) : Option Ipv4 :=
  match address.groups with
  | [0, 0, 0, 0, 0, 0xFFFF, high, low] => some (Ipv4.ofGroups high low)
  | _ => none

/-- The loopback and the unspecified address, the two local networks, and what is mapped
from a reserved address. -/
def Reserved (address : Ipv6) : Prop :=
  address.groups = [0, 0, 0, 0, 0, 0, 0, 1] ∨ address.groups = [0, 0, 0, 0, 0, 0, 0, 0] ∨
    address.UniqueLocal ∨ address.LinkLocal ∨ ∃ inner, address.mapped = some inner ∧ inner.Reserved

section

variable {address : Ipv6}

/-- A text that begins with a group. -/
theorem text_eq_digits {group : HexGroup} {others : List HexGroup}
    (front : address.front = group :: others) :
    ∃ rest, address.text = group.digits ++ rest ∧ ∃ colon, rest = 58 :: colon := by
  have joined : ∀ pieces : List JsString, pieces ≠ [] →
      ∃ colon, colons (group.digits :: pieces) = group.digits ++ 58 :: colon := by
    intro pieces some
    unfold colons
    rw [intercalate_cons_of_ne_nil some]
    exact ⟨_, by rw [append_assoc]; rfl⟩
  have whole := address.whole
  unfold text groupsText
  cases back : address.back with
  | none =>
    rw [back, front] at whole
    have more : others.map HexGroup.digits ++ address.embeddedText ≠ [] := by
      intro empty
      obtain ⟨none_left, none_embedded⟩ := append_eq_nil_iff.mp empty
      have alone := map_eq_nil_iff.mp none_left
      unfold embeddedText at none_embedded
      cases embedded : address.embedded with
      | none =>
        rw [alone, embedded] at whole
        cases whole
      | some inner =>
        rw [embedded] at none_embedded
        cases none_embedded
    obtain ⟨colon, same⟩ := joined _ more
    dsimp only
    rw [front, map_cons, cons_append, same, append_assoc]
    exact ⟨_, rfl, _, rfl⟩
  | some after =>
    dsimp only
    rw [front, map_cons]
    cases others with
    | nil =>
      unfold colons
      rw [map_nil, intercalate_singleton, append_assoc, append_assoc]
      exact ⟨_, rfl, _, rfl⟩
    | cons next others =>
      obtain ⟨colon, same⟩ :=
        joined ((next :: others).map HexGroup.digits) (cons_ne_nil _ _)
      rw [same, append_assoc, append_assoc, append_assoc]
      exact ⟨_, rfl, _, rfl⟩

/-- A text that begins with what is left out. -/
theorem text_eq_colons (front : address.front = []) :
    ∃ after, address.back = some after ∧
      address.text = 58 :: 58 :: (colons (after.map HexGroup.digits ++ address.embeddedText) ++
        (address.zone.elim [] fun zone => 37 :: zone)) := by
  have whole := address.whole
  unfold text groupsText
  cases back : address.back with
  | none =>
    rw [back, front] at whole
    cases embedded : address.embedded with
    | none =>
      rw [embedded] at whole
      cases whole
    | some inner =>
      rw [embedded] at whole
      cases whole
  | some after =>
    rw [front]
    exact ⟨after, rfl, rfl⟩

/-- The pieces after what is left out are read back. -/
theorem splitOn_colons {after : List HexGroup}
    (written : after.map HexGroup.digits ++ address.embeddedText ≠ []) :
    (colons (after.map HexGroup.digits ++ address.embeddedText)).splitOn 58 =
      after.map HexGroup.digits ++ address.embeddedText := by
  refine splitOn_intercalate 58 (fun piece member => ?_) written
  rcases mem_append.mp member with group | quad
  · obtain ⟨group, -, rfl⟩ := mem_map.mp group
    exact HexGroup.not_mem_digits rfl
  · obtain ⟨inner, -, rfl⟩ := Option.mem_map.mp (Option.mem_toList.mp quad)
    exact Ipv4.not_mem_text rfl (by decide)

/-- There is a colon before every point. -/
theorem exists_colon (address : Ipv6) :
    ∃ before after, address.text = before ++ 58 :: after ∧ (46 : UInt16) ∉ before := by
  cases front : address.front with
  | nil =>
    obtain ⟨after, -, same⟩ := text_eq_colons front
    exact ⟨[], _, same, not_mem_nil⟩
  | cons group others =>
    obtain ⟨rest, same, colon, starts⟩ := text_eq_digits front
    exact ⟨group.digits, colon, by rw [same, starts], HexGroup.not_mem_digits rfl⟩

theorem head?_groups_cons {group : HexGroup} {others : List HexGroup}
    (front : address.front = group :: others) : address.groups.head? = some group.value := by
  unfold groups
  rw [front]
  cases address.back with
  | none => rfl
  | some after => rfl

theorem head?_groups_nil (front : address.front = []) : address.groups.head? = some 0 := by
  obtain ⟨after, back, -⟩ := text_eq_colons front
  have whole := address.whole
  have room : 0 < 8 - address.front.length -
      (after.map HexGroup.value ++ address.embeddedGroups).length := by
    rw [back] at whole
    unfold embeddedGroups
    cases embedded : address.embedded with
    | none =>
      rw [embedded] at whole
      simp only [Option.elim_none, append_nil, length_map] at whole ⊢
      omega
    | some inner =>
      rw [embedded] at whole
      simp only [Option.elim_some, length_append, length_map] at whole ⊢
      have two : inner.groups.length = 2 := rfl
      omega
  obtain ⟨count, many⟩ := Nat.exists_eq_succ_of_ne_zero (Nat.pos_iff_ne_zero.mp room)
  unfold groups
  rw [back]
  dsimp only
  rw [many, front]
  rfl

/-- A reserved address of neither local network begins with a zero. -/
theorem head?_of_reserved (reserved : address.Reserved) :
    address.groups.head? = some 0 ∨ address.UniqueLocal ∨ address.LinkLocal := by
  rcases reserved with loopback | unspecified | unique | link | ⟨inner, mapped, -⟩
  · exact Or.inl (by rw [loopback]; rfl)
  · exact Or.inl (by rw [unspecified]; rfl)
  · exact Or.inr (Or.inl unique)
  · exact Or.inr (Or.inr link)
  · unfold Ipv6.mapped at mapped
    split at mapped
    · rename_i high low same
      exact Or.inl (by rw [same]; rfl)
    · cases mapped

end

end Ipv6

/-- An address, as it is written. -/
inductive Address
  | v4 (address : Ipv4)
  | v6 (address : Ipv6)

namespace Address

def text : Address → JsString
  | .v4 address => address.text
  | .v6 address => address.text

def Reserved : Address → Prop
  | .v4 address => address.Reserved
  | .v6 address => address.Reserved

end Address

end Foundation
