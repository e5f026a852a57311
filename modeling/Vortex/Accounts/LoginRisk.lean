import Vortex.Foundation.DiskPath
import Vortex.Foundation.IpAddress
import Vortex.Foundation.NearestDouble

/-!
# Login risk

The subnets of two logins are compared as texts: three numbers of an IPv4 address, or the first
four pieces between the colons of an IPv6 address. An IPv6 address has many texts, and a `::` among
the first four pieces stands for any number of groups.
-/

variable {after : List HexGroup} {place : Nat}

namespace Vortex.Accounts.LoginRisk

open Foundation List

/-! ## The score -/

structure LoginFingerprint where
  ipAddress : Option JsString
  userAgent : Option JsString
  locationHint : Option JsString

inductive RiskAction
  | allow
  | challenge_mfa
  | lock_and_verify

structure LoginRiskResult where
  riskScore : Nat
  suspicious : Bool
  reasons : List JsString
  action : RiskAction

def subnet (ip : Option JsString) : Option JsString :=
  match ip.filter (!·.isEmpty) with
  | none => none
  | some ip =>
      if (58 : UInt16) ∈ ip then some ([58].intercalate ((ip.splitOn 58).take 4))
      else
        match ip.splitOn 46 with
        | [first, second, third, _] => some ([46].intercalate [first, second, third])
        | _ => some ip

def actionForScore (score : Nat) : RiskAction :=
  if 80 ≤ score then .lock_and_verify
  else if 60 ≤ score then .challenge_mfa
  else .allow

/-- Both texts are there, and they are not the same. -/
def differs (current previous : Option JsString) : Bool :=
  current.any (!·.isEmpty) && previous.any (!·.isEmpty) && current ≠ previous

/-- The result for what is new of a login. -/
def assess (newSubnet newLocation newDevice : Bool) : LoginRiskResult :=
  let score := (if newSubnet then 45 else 0) + (if newLocation then 25 else 0) +
    (if newDevice then 30 else 0)
  let capped := min score 100
  { riskScore := capped
    suspicious := 60 ≤ capped
    reasons := (if newSubnet then [js "new_ip_subnet"] else []) ++
      (if newLocation then [js "new_location"] else []) ++
      (if newDevice then [js "new_device_signature"] else [])
    action := actionForScore capped }

def computeLoginRisk (current : LoginFingerprint) (previous : Option LoginFingerprint) :
    LoginRiskResult :=
  match previous with
  | none => ⟨25, false, [js "first_seen_login"], .allow⟩
  | some previous =>
      assess
        ((subnet current.ipAddress).any (!·.isEmpty) &&
          subnet current.ipAddress ≠ subnet previous.ipAddress)
        (differs current.locationHint previous.locationHint)
        (differs current.userAgent previous.userAgent)

/-! ## Networks -/

/-- An address without a zone, as it is written. -/
structure LoginAddress where
  address : Address
  unzoned : ∀ inner, address = .v6 inner → inner.zone = none

/-- The numbers of the `/24` or the `/64` of an address. -/
def network : Address → List Nat
  | .v4 address => [address.first, address.second, address.third]
  | .v6 address => address.groups.take 4

/-- Two IPv4 addresses of one `/24`, or two IPv6 addresses of one `/64`. -/
def SameNetwork : Address → Address → Prop
  | .v4 first, .v4 second => network (.v4 first) = network (.v4 second)
  | .v6 first, .v6 second => network (.v6 first) = network (.v6 second)
  | _, _ => False

/-! ## Pieces of a text -/

/-- What is written between two colons: a group, or the last two as four octets. -/
inductive Piece
  | hex (group : HexGroup)
  | quad (address : Ipv4)

def Piece.text : Piece → JsString
  | .hex group => group.digits
  | .quad address => address.text

def Piece.groups : Piece → List Nat
  | .hex group => [group.value]
  | .quad address => address.groups

/-- The pieces that are written after the `::`. -/
def tail (address : Ipv6) : List Piece :=
  address.back.elim [] fun after =>
    after.map .hex ++ (address.embedded.map Piece.quad).toList

/-- Where a `::` stands among the first four groups. -/
def gap (address : Ipv6) : Option Nat :=
  if address.back.isSome ∧ address.front.length < 4 then some address.front.length else none

/-- How many of the first four pieces come after a `::` in such a place. -/
def visible (place : Nat) : Nat := if place = 0 then 2 else 3 - place

/-- How many groups the `::` stands for. -/
def leftOut (address : Ipv6) : Nat :=
  8 - address.front.length - ((tail address).flatMap Piece.groups).length

/-- Two addresses are written the same as far as their subnets go. -/
structure WrittenAlike (first second : Ipv6) : Prop where
  gap : gap first = gap second
  front : (first.front.take 4).map HexGroup.digits = (second.front.take 4).map HexGroup.digits
  tail : ∀ place, LoginRisk.gap first = some place →
    ((tail first).take (visible place)).map Piece.text =
      ((tail second).take (visible place)).map Piece.text

/-- A list of pieces as it is cut: there is always one. -/
def cut (pieces : List JsString) : List JsString := if pieces = [] then [[]] else pieces

section Pieces

variable {address first second : Ipv6} {pieces others : List JsString}

theorem Piece.plain_text (piece : Piece) : (58 : UInt16) ∉ piece.text := by
  cases piece with
  | hex group => exact group.not_mem_digits rfl
  | quad address => exact address.not_mem_text rfl (by decide)

theorem Piece.text_ne_nil (piece : Piece) : piece.text ≠ [] := by
  cases piece with
  | hex group =>
    obtain ⟨unit, rest, same⟩ := group.digits_eq_cons
    rw [Piece.text, same]
    exact cons_ne_nil _ _
  | quad address =>
    intro empty
    have point := address.point_mem_text
    rw [show address.text = [] from empty] at point
    cases point

theorem ipv4_eq_of_parts {first second : Ipv4} (same : first.parts = second.parts) :
    first = second := by
  have numbers {left right : Fin 256} (text : decimalText left = decimalText right) :
      left = right :=
    Fin.ext (decimalText_injective text)
  obtain ⟨one, rest⟩ := cons.inj same
  obtain ⟨two, rest⟩ := cons.inj rest
  obtain ⟨three, rest⟩ := cons.inj rest
  cases first
  cases second
  rw [Ipv4.mk.injEq]
  exact ⟨numbers one, numbers two, numbers three, numbers (cons.inj rest).1⟩

/-- A text is that of one group, or of one address. -/
theorem Piece.groups_eq {piece other : Piece} (same : piece.text = other.text) :
    piece.groups = other.groups := by
  have apart (group : HexGroup) (address : Ipv4) : group.digits ≠ address.text := by
    intro same
    have point := address.point_mem_text
    rw [← same] at point
    exact group.not_mem_digits rfl point
  cases piece with
  | hex group =>
    cases other with
    | hex other =>
      have digits : group.digits = other.digits := same
      rw [Piece.groups, Piece.groups, HexGroup.value, digits, ← HexGroup.value]
    | quad address => exact absurd same (apart group address)
  | quad address =>
    cases other with
    | hex group => exact absurd same.symm (apart group address)
    | quad other =>
      have parts := congrArg (List.splitOn 46) (show address.text = other.text from same)
      rw [Ipv4.splitOn_text, Ipv4.splitOn_text] at parts
      rw [ipv4_eq_of_parts parts]

theorem splitOn_colons (plain : ∀ piece ∈ pieces, (58 : UInt16) ∉ piece) :
    (Ipv6.colons pieces).splitOn 58 = cut pieces := by
  unfold cut
  split
  · rename_i none
    rw [none]
    rfl
  · rename_i some
    exact splitOn_intercalate 58 plain some

theorem plain_digits {groups : List HexGroup} :
    ∀ piece ∈ groups.map HexGroup.digits, (58 : UInt16) ∉ piece := by
  intro piece member
  obtain ⟨group, -, rfl⟩ := mem_map.mp member
  exact group.not_mem_digits rfl

theorem plain_pieces {pieces : List Piece} :
    ∀ piece ∈ pieces.map Piece.text, (58 : UInt16) ∉ piece := by
  intro piece member
  obtain ⟨piece, -, rfl⟩ := mem_map.mp member
  exact piece.plain_text

theorem text_tail (back : address.back = some after) :
    (tail address).map Piece.text = after.map HexGroup.digits ++ address.embeddedText := by
  rw [tail, back, Option.elim_some, map_append, map_map, Ipv6.embeddedText]
  congr 1
  cases address.embedded with
  | none => rfl
  | some inner => rfl

/-- The pieces of a text with a `::`. -/
theorem splitOn_of_back (unzoned : address.zone = none) (back : address.back = some after) :
    address.text.splitOn 58 =
      cut (address.front.map HexGroup.digits) ++ [] :: cut ((tail address).map Piece.text) := by
  have joined : address.text = Ipv6.colons (address.front.map HexGroup.digits) ++
      58 :: ([] ++ 58 :: Ipv6.colons ((tail address).map Piece.text)) := by
    rw [Ipv6.text, unzoned, Option.elim_none, append_nil, Ipv6.groupsText, back, text_tail back]
    exact append_assoc _ _ _
  rw [joined, splitOn_append_cons_self, splitOn_append_cons_self,
    splitOn_colons plain_digits, splitOn_colons plain_pieces]
  rfl

/-- The pieces of a text without one. -/
theorem splitOn_of_none (unzoned : address.zone = none) (back : address.back = none) :
    4 ≤ address.front.length ∧
      address.text.splitOn 58 = address.front.map HexGroup.digits ++ address.embeddedText := by
  have whole := address.whole
  rw [back] at whole
  have many : 4 ≤ address.front.length := by
    cases embedded : address.embedded with
    | none =>
      rw [embedded] at whole
      simp only [Option.elim_none] at whole
      omega
    | some inner =>
      rw [embedded] at whole
      simp only [Option.elim_some] at whole
      omega
  refine ⟨many, ?_⟩
  have plain : ∀ piece ∈ address.front.map HexGroup.digits ++ address.embeddedText,
      (58 : UInt16) ∉ piece := by
    intro piece member
    rcases mem_append.mp member with group | quad
    · exact plain_digits piece group
    · obtain ⟨inner, -, rfl⟩ := Option.mem_map.mp (Option.mem_toList.mp quad)
      exact inner.not_mem_text rfl (by decide)
  have some : address.front.map HexGroup.digits ++ address.embeddedText ≠ [] := by
    refine append_ne_nil_of_left_ne_nil (fun empty => ?_) _
    rw [map_eq_nil_iff.mp empty] at many
    cases many
  rw [Ipv6.text, unzoned, Option.elim_none, append_nil, Ipv6.groupsText, back]
  exact splitOn_intercalate 58 plain some

/-! ## The first four pieces -/

/-- The first four pieces of a text. -/
def opening (address : Ipv6) : List JsString := (address.text.splitOn 58).take 4

theorem opening_of_gap_none (unzoned : address.zone = none) (none : gap address = none) :
    4 ≤ address.front.length ∧ opening address = (address.front.take 4).map HexGroup.digits := by
  unfold opening
  cases back : address.back with
  | none =>
    obtain ⟨many, pieces⟩ := splitOn_of_none unzoned back
    refine ⟨many, ?_⟩
    rw [pieces, take_append_of_le_length (by rw [length_map]; exact many), ← map_take]
  | some after =>
    have many : 4 ≤ address.front.length := by
      by_contra few
      rw [gap, back, if_pos ⟨rfl, by omega⟩] at none
      cases none
    refine ⟨many, ?_⟩
    have some : address.front.map HexGroup.digits ≠ [] := by
      intro empty
      rw [map_eq_nil_iff.mp empty] at many
      cases many
    rw [splitOn_of_back unzoned back, cut, if_neg some,
      take_append_of_le_length (by rw [length_map]; exact many), ← map_take]

theorem cut_digits (group : HexGroup) (rest : List HexGroup) :
    cut ((group :: rest).map HexGroup.digits) = (group :: rest).map HexGroup.digits :=
  if_neg (cons_ne_nil _ _)

theorem opening_of_gap_some (unzoned : address.zone = none) (early : gap address = some place) :
    address.front.length = place ∧ place < 4 ∧
      opening address = cut (address.front.map HexGroup.digits) ++
        [] :: (cut ((tail address).map Piece.text)).take (visible place) := by
  unfold gap at early
  split at early
  · rename_i cond
    obtain ⟨written, few⟩ := cond
    cases early
    refine ⟨rfl, few, ?_⟩
    obtain ⟨after, back⟩ := Option.isSome_iff_exists.mp written
    rw [opening, splitOn_of_back unzoned back]
    cases front : address.front with
    | nil => rfl
    | cons group rest =>
      rw [front, length_cons] at few
      have later : 4 - (rest.length + 1) = (3 - (rest.length + 1)) + 1 := by omega
      have before : ((group :: rest).map HexGroup.digits).length ≤ 4 := by
        rw [length_map, length_cons]
        omega
      rw [cut_digits, take_append, take_of_length_le before, length_map,
        length_cons, later, take_succ_cons, visible, if_neg (Nat.succ_ne_zero _)]
  · cases early

theorem takeWhile_digits (groups : List HexGroup) :
    (groups.map HexGroup.digits).takeWhile (!·.isEmpty) = groups.map HexGroup.digits := by
  refine takeWhile_eq_self_iff.mpr fun piece member => ?_
  obtain ⟨group, -, rfl⟩ := mem_map.mp member
  obtain ⟨unit, rest, same⟩ := group.digits_eq_cons
  rw [same]
  rfl

/-- The groups before the `::` are the pieces before the first empty one. -/
theorem takeWhile_opening (unzoned : address.zone = none) (early : gap address = some place) :
    (opening address).takeWhile (!·.isEmpty) = address.front.map HexGroup.digits := by
  obtain ⟨-, -, pieces⟩ := opening_of_gap_some unzoned early
  rw [pieces]
  cases front : address.front with
  | nil => rfl
  | cons group rest =>
    have own := takeWhile_digits (group :: rest)
    rw [cut_digits, takeWhile_append, if_pos (by rw [own]), takeWhile_cons_of_neg (by decide),
      append_nil]

theorem nil_mem_opening (unzoned : address.zone = none) (early : gap address = some place) :
    [] ∈ opening address := by
  rw [(opening_of_gap_some unzoned early).2.2]
  exact mem_append_right _ mem_cons_self

theorem nil_not_mem_opening (unzoned : address.zone = none) (none : gap address = none) :
    [] ∉ opening address := by
  rw [(opening_of_gap_none unzoned none).2]
  intro member
  obtain ⟨group, -, empty⟩ := mem_map.mp member
  obtain ⟨unit, rest, same⟩ := group.digits_eq_cons
  rw [same] at empty
  cases empty

/-- Pieces that are not empty are cut alike when they are alike. -/
theorem take_cut_inj {left right : List Piece} (count : Nat) :
    (cut (left.map Piece.text)).take count = (cut (right.map Piece.text)).take count ↔
      (left.take count).map Piece.text = (right.take count).map Piece.text := by
  cases count with
  | zero => simp
  | succ count =>
    cases left with
    | nil =>
      cases right with
      | nil => simp
      | cons piece rest => simp [cut, (piece.text_ne_nil).symm]
    | cons piece rest =>
      cases right with
      | nil => simp [cut, piece.text_ne_nil]
      | cons other others => simp [cut, map_take]

/-- The first four pieces of two texts are the same when they are written alike. -/
theorem opening_eq_iff (unzoned : first.zone = none) (unzonedOther : second.zone = none) :
    opening first = opening second ↔ WrittenAlike first second := by
  cases early : gap first with
  | none =>
    have pieces := (opening_of_gap_none unzoned early).2
    cases other : gap second with
    | none =>
      rw [pieces, (opening_of_gap_none unzonedOther other).2]
      constructor
      · intro same
        exact ⟨early.trans other.symm, same, fun place found => by rw [early] at found; cases found⟩
      · exact WrittenAlike.front
    | some place =>
      refine iff_of_false (fun same => ?_) fun alike => ?_
      · exact nil_not_mem_opening unzoned early (same ▸ nil_mem_opening unzonedOther other)
      · cases (early.symm.trans alike.gap).trans other
  | some place =>
    obtain ⟨length, few, pieces⟩ := opening_of_gap_some unzoned early
    cases other : gap second with
    | none =>
      refine iff_of_false (fun same => ?_) fun alike => ?_
      · exact nil_not_mem_opening unzonedOther other (same ▸ nil_mem_opening unzoned early)
      · cases (early.symm.trans alike.gap).trans other
    | some placeOther =>
      obtain ⟨lengthOther, fewOther, piecesOther⟩ := opening_of_gap_some unzonedOther other
      have whole : first.front.take 4 = first.front := take_of_length_le (by omega)
      have wholeOther : second.front.take 4 = second.front := take_of_length_le (by omega)
      constructor
      · intro same
        have front : first.front.map HexGroup.digits = second.front.map HexGroup.digits := by
          rw [← takeWhile_opening unzoned early, same, takeWhile_opening unzonedOther other]
        have places : place = placeOther := by
          have lengths := congrArg List.length front
          rw [length_map, length_map] at lengths
          omega
        subst places
        rw [pieces, piecesOther, front] at same
        refine ⟨early.trans other.symm, by rw [whole, wholeOther, front], fun found found_ => ?_⟩
        cases early.symm.trans found_
        exact (take_cut_inj _).mp (cons.inj (append_cancel_left same)).2
      · intro alike
        have front := alike.front
        rw [whole, wholeOther] at front
        cases (early.symm.trans alike.gap).trans other
        rw [pieces, piecesOther, front, (take_cut_inj _).mpr (alike.tail place early)]

/-! ## The first four groups -/

theorem map_value_of_digits {left right : List HexGroup}
    (same : left.map HexGroup.digits = right.map HexGroup.digits) :
    left.map HexGroup.value = right.map HexGroup.value := by
  have value (group : HexGroup) : group.value =
      group.digits.foldl (fun number digit => 16 * number + digitValue digit) 0 := rfl
  have values (groups : List HexGroup) : groups.map HexGroup.value =
      (groups.map HexGroup.digits).map
        (·.foldl (fun number digit => 16 * number + digitValue digit) 0) := by
    rw [map_map]
    rfl
  rw [values, values, same]

theorem groups_of_back (back : address.back = some after) :
    address.groups = address.front.map HexGroup.value ++
      (List.replicate (leftOut address) 0 ++ (tail address).flatMap Piece.groups) ∧
      0 < leftOut address := by
  have last : (tail address).flatMap Piece.groups =
      after.map HexGroup.value ++ address.embeddedGroups := by
    rw [tail, back, Option.elim_some, flatMap_append, flatMap_map]
    congr 1
    · exact flatMap_pure_eq_map _ _
    · rw [Ipv6.embeddedGroups]
      cases address.embedded with
      | none => rfl
      | some inner => rfl
  refine ⟨?_, ?_⟩
  · rw [Ipv6.groups, back, leftOut, last]
    exact append_assoc _ _ _
  · have whole := address.whole
    rw [back] at whole
    rw [leftOut, last, length_append, length_map, Ipv6.embeddedGroups]
    cases embedded : address.embedded with
    | none =>
      rw [embedded] at whole
      simp only [Option.elim_none, length_nil] at whole ⊢
      omega
    | some inner =>
      rw [embedded] at whole
      have two : inner.groups.length = 2 := rfl
      simp only [Option.elim_some] at whole ⊢
      omega

theorem back_of_gap (early : gap address = some place) : ∃ after, address.back = some after := by
  unfold gap at early
  split at early
  · rename_i cond
    exact Option.isSome_iff_exists.mp cond.1
  · cases early

theorem network_of_gap_none (unzoned : address.zone = none) (none : gap address = none) :
    network (.v6 address) = (address.front.take 4).map HexGroup.value := by
  have many := (opening_of_gap_none unzoned none).1
  have enough : 4 ≤ (address.front.map HexGroup.value).length := by
    rw [length_map]
    exact many
  change address.groups.take 4 = _
  cases back : address.back with
  | none =>
    unfold Ipv6.groups
    rw [back]
    dsimp only
    rw [take_append_of_le_length enough, ← map_take]
  | some after =>
    rw [(groups_of_back back).1, take_append_of_le_length enough, ← map_take]

/-- The first groups of pieces are those of the first pieces. -/
theorem take_groups {pieces : List Piece} {count enough : Nat} (few : count ≤ enough) :
    (pieces.flatMap Piece.groups).take count =
      ((pieces.take enough).flatMap Piece.groups).take count := by
  have every (piece : Piece) : 0 < piece.groups.length := by
    cases piece with
    | hex group => exact Nat.one_pos
    | quad address => exact Nat.two_pos
  induction pieces generalizing count enough with
  | nil => simp
  | cons piece rest ih =>
    cases enough with
    | zero => rw [Nat.le_zero.mp few, take_zero, take_zero]
    | succ enough =>
      have some := every piece
      rw [take_succ_cons, flatMap_cons, flatMap_cons, take_append,
        take_append, ih (show count - piece.groups.length ≤ enough by omega)]

theorem groups_of_text {left right : List Piece}
    (same : left.map Piece.text = right.map Piece.text) :
    left.flatMap Piece.groups = right.flatMap Piece.groups := by
  induction left generalizing right with
  | nil =>
    rw [map_eq_nil_iff.mp same.symm]
  | cons piece rest ih =>
    cases right with
    | nil => cases same
    | cons other others =>
      obtain ⟨text, later⟩ := cons.inj same
      rw [flatMap_cons, flatMap_cons, Piece.groups_eq text, ih later]

/-- Addresses that are written alike are of one network, when neither `::` is in the way. -/
theorem network_eq_of_alike (unzoned : first.zone = none) (unzonedOther : second.zone = none)
    (alike : WrittenAlike first second) (gaps : ∀ place, gap first = some place →
      leftOut first = leftOut second ∧ (place = 0 → leftOut first ≠ 1)) :
    network (.v6 first) = network (.v6 second) := by
  cases early : gap first with
  | none =>
    rw [network_of_gap_none unzoned early,
      network_of_gap_none unzonedOther (alike.gap.symm.trans early)]
    exact map_value_of_digits alike.front
  | some place =>
    obtain ⟨length, few, -⟩ := opening_of_gap_some unzoned early
    have other := alike.gap.symm.trans early
    obtain ⟨lengthOther, -, -⟩ := opening_of_gap_some unzonedOther other
    obtain ⟨after, back⟩ := back_of_gap early
    obtain ⟨afterOther, backOther⟩ := back_of_gap other
    obtain ⟨groups, left⟩ := groups_of_back back
    obtain ⟨groupsOther, -⟩ := groups_of_back backOther
    obtain ⟨same, lone⟩ := gaps place early
    have front := alike.front
    rw [take_of_length_le (by omega), take_of_length_le (by omega)] at front
    have room : 4 - place - leftOut second ≤ visible place := by
      unfold visible
      split
      · rename_i start
        have two := lone start
        omega
      · omega
    have tails := groups_of_text (alike.tail place early)
    change first.groups.take 4 = second.groups.take 4
    rw [groups, groupsOther, map_value_of_digits front, same, take_append, take_append,
      take_append, take_append, length_map, length_replicate, lengthOther,
      take_groups room, tails, ← take_groups room]

end Pieces

/-! ## Subnets -/

section Subnets

theorem not_isEmpty_of_mem {text : JsString} {unit : UInt16} (member : unit ∈ text) :
    (!text.isEmpty) = true := by
  cases text with
  | nil => cases member
  | cons => rfl

/-- The parts of the subnet of an IPv4 address. -/
def octets (address : Ipv4) : List JsString :=
  [decimalText address.first, decimalText address.second, decimalText address.third]

theorem subnet_v4 (address : Ipv4) :
    subnet (some address.text) = some ([46].intercalate (octets address)) := by
  have some := not_isEmpty_of_mem address.point_mem_text
  have plain : (58 : UInt16) ∉ address.text := address.not_mem_text rfl (by decide)
  rw [subnet, Option.filter_some, if_pos some]
  simp only [if_neg plain, Ipv4.splitOn_text, Ipv4.parts, octets]

theorem subnet_v6 (address : Ipv6) :
    subnet (some address.text) = some (Ipv6.colons (opening address)) := by
  obtain ⟨before, after, text, -⟩ := address.exists_colon
  have colon : (58 : UInt16) ∈ address.text := by
    rw [text]
    exact mem_append_right _ mem_cons_self
  rw [subnet, Option.filter_some, if_pos (not_isEmpty_of_mem colon)]
  simp only [if_pos colon, opening, Ipv6.colons]

theorem plain_opening (address : Ipv6) : ∀ piece ∈ opening address, (58 : UInt16) ∉ piece :=
  fun _ member => DiskPath.not_mem_of_mem_splitOn (mem_of_mem_take member)

theorem two_le_length_opening (address : Ipv6) : 2 ≤ (opening address).length := by
  obtain ⟨before, after, text, -⟩ := address.exists_colon
  have first := length_pos_of_ne_nil (splitOn_ne_nil 58 before)
  have second := length_pos_of_ne_nil (splitOn_ne_nil 58 after)
  rw [opening, text, splitOn_append_cons_self, length_take, length_append]
  omega

theorem splitOn_colons_opening (address : Ipv6) :
    (Ipv6.colons (opening address)).splitOn 58 = opening address :=
  splitOn_intercalate 58 (plain_opening address)
    (ne_nil_of_length_pos (by have two := two_le_length_opening address; omega))

theorem subnet_v6_eq_iff {first second : Ipv6} (unzoned : first.zone = none)
    (unzonedOther : second.zone = none) :
    subnet (some first.text) = subnet (some second.text) ↔ WrittenAlike first second := by
  rw [subnet_v6, subnet_v6, Option.some_inj, ← opening_eq_iff unzoned unzonedOther]
  constructor
  · intro same
    rw [← splitOn_colons_opening first, same, splitOn_colons_opening]
  · intro same
    rw [same]

theorem isDigit_of_mem_octets {address : Ipv4} {part : JsString} (member : part ∈ octets address)
    {unit : UInt16} (inside : unit ∈ part) : Json.isDigit unit = true := by
  simp only [octets, mem_cons, not_mem_nil, or_false] at member
  rcases member with rfl | rfl | rfl
  all_goals exact isDigit_of_mem_decimalText inside

theorem splitOn_octets (address : Ipv4) :
    ([46].intercalate (octets address)).splitOn 46 = octets address := by
  refine splitOn_intercalate 46 (fun part member inside => ?_) (cons_ne_nil _ _)
  cases isDigit_of_mem_octets member inside

theorem subnet_v4_eq_iff {first second : Ipv4} :
    subnet (some first.text) = subnet (some second.text) ↔
      network (.v4 first) = network (.v4 second) := by
  rw [subnet_v4, subnet_v4, Option.some_inj]
  constructor
  · intro same
    have parts : octets first = octets second := by
      rw [← splitOn_octets first, same, splitOn_octets]
    obtain ⟨one, rest⟩ := cons.inj parts
    obtain ⟨two, rest⟩ := cons.inj rest
    rw [network, network, decimalText_injective one, decimalText_injective two,
      decimalText_injective (cons.inj rest).1]
  · intro same
    obtain ⟨one, rest⟩ := cons.inj same
    obtain ⟨two, rest⟩ := cons.inj rest
    rw [octets, octets, one, two, (cons.inj rest).1]

theorem subnet_v4_ne_v6 (first : Ipv4) (second : Ipv6) :
    subnet (some first.text) ≠ subnet (some second.text) := by
  rw [subnet_v4, subnet_v6]
  intro same
  have plain : (58 : UInt16) ∉ [46].intercalate (octets first) := by
    intro inside
    rcases mem_of_mem_intercalate inside with ⟨part, member, within⟩ | separator
    · cases isDigit_of_mem_octets member within
    · exact absurd (mem_singleton.mp separator) (by decide)
  have pieces := splitOn_colons_opening second
  rw [← Option.some_inj.mp same, splitOn_eq_singleton plain] at pieces
  have two := two_le_length_opening second
  rw [← pieces, length_singleton] at two
  omega

theorem subnet_some (address : Address) :
    ∃ text, subnet (some address.text) = some text ∧ text.isEmpty = false := by
  cases address with
  | v4 address =>
    refine ⟨_, subnet_v4 address, isEmpty_eq_false_iff.mpr fun empty => ?_⟩
    have parts := splitOn_octets address
    rw [empty] at parts
    simp [octets] at parts
  | v6 address =>
    refine ⟨_, subnet_v6 address, isEmpty_eq_false_iff.mpr fun empty => ?_⟩
    have pieces := splitOn_colons_opening address
    have two := two_le_length_opening address
    rw [← pieces, empty, splitOn_nil, length_singleton] at two
    omega

end Subnets

/-! ## What is reported -/

/-- Two IPv6 addresses of one `/64` are written differently as far as their subnets go. -/
structure SpelledApart (first second : Ipv6) : Prop where
  network : network (.v6 first) = network (.v6 second)
  apart : ¬ WrittenAlike first second

/-- Two IPv6 addresses of different `/64` are written alike, with a `::` that stands for another
number of groups in each, or for a single one at the beginning of both. -/
structure RunTogether (first second : Ipv6) : Prop where
  network : network (.v6 first) ≠ network (.v6 second)
  alike : WrittenAlike first second
  gap : ∃ place, gap first = some place ∧
    (leftOut first ≠ leftOut second ∨ place = 0 ∧ leftOut first = 1)

/-- The texts of two addresses show whether these are of one network. -/
def Telling : Address → Address → Prop
  | .v6 first, .v6 second => ¬ SpelledApart first second ∧ ¬ RunTogether first second
  | _, _ => True

/-- The fingerprint of a login from an address. -/
def LoginFingerprint.at_ (fingerprint : LoginFingerprint) (login : LoginAddress) :
    LoginFingerprint :=
  { fingerprint with ipAddress := some login.address.text }

section Reports

variable {first second : LoginAddress}

theorem runTogether_of_alike {first second : Ipv6} (unzoned : first.zone = none)
    (unzonedOther : second.zone = none) (alike : WrittenAlike first second)
    (apart : network (.v6 first) ≠ network (.v6 second)) : RunTogether first second := by
  refine ⟨apart, alike, ?_⟩
  by_contra! none
  exact apart (network_eq_of_alike unzoned unzonedOther alike none)

/-- Subnets are the same as texts when they are the same networks, of addresses whose texts tell. -/
theorem subnet_eq_iff_telling :
    (subnet (some first.address.text) = subnet (some second.address.text) ↔
      SameNetwork first.address second.address) ↔ Telling first.address second.address := by
  obtain ⟨first, unzoned⟩ := first
  obtain ⟨second, unzonedOther⟩ := second
  cases first with
  | v4 first =>
    cases second with
    | v4 second => exact iff_of_true subnet_v4_eq_iff trivial
    | v6 second => exact iff_of_true (iff_of_false (subnet_v4_ne_v6 first second) id) trivial
  | v6 first =>
    cases second with
    | v4 second =>
      exact iff_of_true (iff_of_false (subnet_v4_ne_v6 second first).symm id) trivial
    | v6 second =>
      have plain := unzoned first rfl
      have plainOther := unzonedOther second rfl
      have written : subnet (some (Address.v6 first).text) = subnet (some (Address.v6 second).text) ↔
          WrittenAlike first second := subnet_v6_eq_iff plain plainOther
      dsimp only
      rw [written]
      constructor
      · intro same
        exact ⟨fun apart => apart.apart (same.mpr apart.network),
          fun together => together.network (same.mp together.alike)⟩
      · rintro ⟨apart, together⟩
        constructor
        · intro alike
          by_contra networks
          exact together (runTogether_of_alike plain plainOther alike networks)
        · intro networks
          by_contra alike
          exact apart ⟨networks, alike⟩

/-- What is reported of logins from two addresses. -/
theorem computeLoginRisk_at (current previous : LoginFingerprint) :
    computeLoginRisk (current.at_ first) (some (previous.at_ second)) =
      assess (subnet (some first.address.text) ≠ subnet (some second.address.text))
        (differs current.locationHint previous.locationHint)
        (differs current.userAgent previous.userAgent) := by
  obtain ⟨text, found, full⟩ := subnet_some first.address
  have truthy : (subnet (some first.address.text)).any (!·.isEmpty) = true := by
    rw [found, Option.any_some, full]
    rfl
  simp only [computeLoginRisk, LoginFingerprint.at_, truthy, Bool.true_and]
  rfl

theorem mem_reasons_assess {newSubnet newLocation newDevice : Bool} :
    js "new_ip_subnet" ∈ (assess newSubnet newLocation newDevice).reasons ↔ newSubnet = true := by
  cases newSubnet <;> cases newLocation <;> cases newDevice <;> decide

/-- A new subnet is reported of a new network exactly when the texts tell, and then the result does
not depend on how the addresses are written. -/
theorem reports_iff_telling (current previous : LoginFingerprint) (first second : LoginAddress) :
    ((js "new_ip_subnet" ∈
        (computeLoginRisk (current.at_ first) (some (previous.at_ second))).reasons ↔
      ¬ SameNetwork first.address second.address) ↔ Telling first.address second.address) ∧
    (Telling first.address second.address → ∀ third fourth : LoginAddress,
      Telling third.address fourth.address →
      (SameNetwork first.address second.address ↔ SameNetwork third.address fourth.address) →
        computeLoginRisk (current.at_ first) (some (previous.at_ second)) =
          computeLoginRisk (current.at_ third) (some (previous.at_ fourth))) := by
  constructor
  · rw [computeLoginRisk_at, mem_reasons_assess, decide_eq_true_eq, not_iff_not]
    exact subnet_eq_iff_telling
  · intro telling third fourth tellingOther same
    have flags : (subnet (some first.address.text) ≠ subnet (some second.address.text)) ↔
        (subnet (some third.address.text) ≠ subnet (some fourth.address.text)) := by
      rw [not_iff_not, subnet_eq_iff_telling.mpr telling, same,
        subnet_eq_iff_telling.mpr tellingOther]
    rw [computeLoginRisk_at, computeLoginRisk_at, decide_eq_decide.mpr flags]

end Reports

namespace Sample

def prefix_ : List HexGroup :=
  [⟨js "2001", by decide, List.all_eq_true.mp (by decide)⟩,
    ⟨js "db8", by decide, List.all_eq_true.mp (by decide)⟩]

def zero : HexGroup := ⟨js "0", by decide, List.all_eq_true.mp (by decide)⟩

def one : HexGroup := ⟨js "1", by decide, List.all_eq_true.mp (by decide)⟩

/-- `2001:db8::1` -/
def short : LoginAddress where
  address := .v6 ⟨prefix_, some [one], none, none, by decide⟩
  unzoned := by
    intro inner same
    cases same
    rfl

/-- `2001:db8:0:0::1` -/
def long : LoginAddress where
  address := .v6 ⟨prefix_ ++ [zero, zero], some [one], none, none, by decide⟩
  unzoned := by
    intro inner same
    cases same
    rfl

def fingerprint : LoginFingerprint := ⟨none, none, none⟩

end Sample

/-- One address that is written in two ways is reported as a new subnet. -/
theorem short_reported :
    ¬ (js "new_ip_subnet" ∈ (computeLoginRisk (Sample.fingerprint.at_ Sample.short)
        (some (Sample.fingerprint.at_ Sample.long))).reasons ↔
      ¬ SameNetwork Sample.short.address Sample.long.address) := by
  have same : SameNetwork Sample.short.address Sample.long.address := by
    show network Sample.short.address = network Sample.long.address
    decide
  have reported : js "new_ip_subnet" ∈ (computeLoginRisk (Sample.fingerprint.at_ Sample.short)
      (some (Sample.fingerprint.at_ Sample.long))).reasons := by decide
  exact fun reports => reports.mp reported same

end Vortex.Accounts.LoginRisk
