import Vortex.Channels.Routes
import Vortex.Foundation.NearestDouble

/-!
# Range requests

What the download route answers once the file is found. `parseRange` reads the two numbers of a
`Range` header as doubles, and a number of more than 308 digits is no finite one: it is clamped to
the end of the file as the length of a suffix, but not as the end of a range.
-/

namespace Vortex.Channels.Ranges

open Foundation List
open Foundation.Json (isDigit)
open Foundation.JsString (digitsValue encodeUtf8 parseInt wellFormed)
open Vortex.Gateway (internalError trim)

/-! ## The header -/

/-- The bytes of a file of a size from the first to the last one. -/
structure ByteRange (size : Nat) where
  start : Nat
  stop : Nat
  ordered : start ≤ stop
  within : stop < size

/-- The groups of `/^bytes=(\d*)-(\d*)$/.exec(text)`. -/
def rangeGroups (text : JsString) : Option (JsString × JsString) :=
  let (first, rest) := (text.drop 6).span isDigit
  if text.take 6 = js "bytes=" ∧ rest.head? = some 45 ∧ rest.tail.all isDigit then
    some (first, rest.tail)
  else none

/-- The range between two numbers, when they are finite, in order and the first is inside. -/
def clamp (size : Nat) : Option Int → Option Int → Option (ByteRange size)
  | some start, some stop =>
      if inside : start ≤ stop ∧ 0 ≤ start ∧ start < size then
        some ⟨start.toNat, (min stop (size - 1)).toNat, by omega, by omega⟩
      else none
  | _, _ => none

/-- The range that the groups of a match name in a file of a size. -/
def rangeOf (size : Nat) (first second : JsString) : Option (Option (ByteRange size)) :=
  if first.isEmpty && second.isEmpty then none
  else if first.isEmpty then
    -- What is taken from the size is exact, or leaves less than nothing.
    let start : Int := match parseInt second with
      | some suffixLength => max (size - suffixLength) 0
      | none => 0
    some (clamp size (some start) (some (size - 1)))
  else
    let stop : Option Int := if second.isEmpty then some (size - 1) else (parseInt second).map (↑)
    some (clamp size ((parseInt first).map (↑)) stop)

/-- `undefined` is `none`, and `null` is `some none`. -/
def parseRange (rangeHeader : Option JsString) (size : Nat) : Option (Option (ByteRange size)) := do
  let header ← rangeHeader.filter (!·.isEmpty)
  let (first, second) ← rangeGroups (trim header)
  rangeOf size first second

/-! ## The response -/

/-- A file on disk, whose size is an integer a double can hold. -/
structure ReadableFile where
  bytes : List UInt8
  safe : bytes.length ≤ 2 ^ 53

structure ServedResponse where
  status : Nat
  headers : List (JsString × JsString)
  body : List UInt8

def ServedResponse.header (response : ServedResponse) (name : JsString) : Option JsString :=
  (response.headers.find? fun header => header.1 = name).map Prod.snd

/-- The bytes `encodeURIComponent` leaves as they are. -/
def isUnescaped (byte : UInt8) : Bool :=
  (48 ≤ byte && byte ≤ 57) || (65 ≤ byte && byte ≤ 90) || (97 ≤ byte && byte ≤ 122) ||
    [45, 95, 46, 33, 126, 42, 39, 40, 41].contains byte

def percentDigit (nibble : UInt8) : UInt16 :=
  if nibble < 10 then 48 + nibble.toUInt16 else 55 + nibble.toUInt16

/-- `encodeURIComponent(text)`, which throws when a surrogate stands alone. -/
def encodeURIComponent (text : JsString) : Option JsString :=
  if wellFormed text then
    some ((encodeUtf8 text).flatMap fun byte =>
      if isUnescaped byte then [byte.toUInt16]
      else [37, percentDigit (byte / 16), percentDigit (byte % 16)])
  else none

def isHttpWhiteSpace (unit : UInt16) : Bool := unit = 9 || unit = 10 || unit = 13 || unit = 32

/-- The value a header is set to: it is stripped, and throws when it is none a header may have. -/
def headerValue (text : JsString) : Option JsString :=
  let stripped :=
    ((text.dropWhile isHttpWhiteSpace).reverse.dropWhile isHttpWhiteSpace).reverse
  if text.all (· ≤ 255) && stripped.all (fun unit => unit ≠ 0 && unit ≠ 10 && unit ≠ 13) then
    some stripped
  else none

/-- The headers of each response with a file, `none` when they throw. -/
def baseHeaders (attachment : DmAttachment) : Option (List (JsString × JsString)) := do
  let filename ← encodeURIComponent attachment.filename
  let contentType ← headerValue
    (if attachment.contentType.isEmpty then js "application/octet-stream"
      else attachment.contentType)
  return [(js "Content-Type", contentType),
    (js "Content-Disposition", js "inline; filename=\"" ++ filename ++ js "\""),
    (js "Cache-Control", js "private, max-age=3600"), (js "Accept-Ranges", js "bytes"),
    (js "X-Content-Type-Options", js "nosniff")]

/-- The bytes of `createReadStream(path, { start, end })`. -/
def readStream (file : ReadableFile) (range : ByteRange file.bytes.length) : List UInt8 :=
  (file.bytes.drop range.start).take (range.stop - range.start + 1)

/-- What is answered with the headers of a file, or when these throw. -/
def withFile (attachment : DmAttachment)
    (next : List (JsString × JsString) → ServedResponse) : ServedResponse :=
  match baseHeaders attachment with
  | none => ⟨internalError.status, [], internalError.body⟩
  | some base => next base

/-- What `GET /api/dm/attachments/[attachmentId]/download` answers with the file of a row. -/
def serveRange (attachment : DmAttachment) (file : ReadableFile) (rangeHeader : Option JsString) :
    ServedResponse :=
  let size := decimalText file.bytes.length
  match parseRange rangeHeader file.bytes.length with
  | some none =>
      ⟨416, [(js "Content-Range", js "bytes */" ++ size), (js "Accept-Ranges", js "bytes")], []⟩
  | some (some range) =>
      withFile attachment fun base =>
        ⟨206, base ++
          [(js "Content-Range", js "bytes " ++ decimalText range.start ++ js "-" ++
              decimalText range.stop ++ js "/" ++ size),
            (js "Content-Length", decimalText (range.stop - range.start + 1))],
          readStream file range⟩
  | none => withFile attachment fun base =>
      ⟨200, base ++ [(js "Content-Length", size)], file.bytes⟩

/-! ## What is asked for -/

/-- The three forms of a single range. -/
inductive Requested
  | span (start stop : Nat)
  | onwards (start : Nat)
  | suffix (length : Nat)

/-- A text of decimal digits. -/
def IsNumber (digits : JsString) : Prop := digits ≠ [] ∧ digits.all isDigit = true

/-- A text asks for a range. -/
inductive Asks : JsString → Requested → Prop
  | span {first second : JsString} (start : IsNumber first) (stop : IsNumber second) :
      Asks (js "bytes=" ++ (first ++ 45 :: second))
        (.span (digitsValue first) (digitsValue second))
  | onwards {first : JsString} (start : IsNumber first) :
      Asks (js "bytes=" ++ (first ++ 45 :: [])) (.onwards (digitsValue first))
  | suffix {second : JsString} (length : IsNumber second) :
      Asks (js "bytes=" ++ ([] ++ 45 :: second)) (.suffix (digitsValue second))

/-- A request asks for a range. -/
def Requests (rangeHeader : Option JsString) (requested : Requested) : Prop :=
  ∃ header, rangeHeader = some header ∧ Asks (trim header) requested

/-- A position of a file of a size lies in a range. -/
def Requested.covers (size : Nat) : Requested → Nat → Bool
  | .span start stop, position => start ≤ position && position ≤ stop
  | .onwards start, position => start ≤ position
  | .suffix length, position => size ≤ position + length

/-- The positions of a file that lie in a range. -/
def Requested.wanted (requested : Requested) (size : Nat) : List Nat :=
  (List.range size).filter (requested.covers size)

/-- The end of a range that has a beginning in the file is a finite number. -/
def Requested.Finite (size : Nat) : Requested → Prop
  | .span start stop => start < size → stop < firstInfinite 52 1024
  | _ => True

section Groups

variable {text first second : JsString}

theorem rangeGroups_eq_some :
    rangeGroups text = some (first, second) ↔ text = js "bytes=" ++ (first ++ 45 :: second) ∧
        first.all isDigit = true ∧ second.all isDigit = true := by
  simp only [rangeGroups, span_eq_takeWhile_dropWhile, Option.ite_none_right_eq_some,
    Option.some.injEq, Prod.mk.injEq]
  constructor
  · rintro ⟨⟨opens, dash, digits⟩, rfl, rfl⟩
    refine ⟨?_, all_takeWhile, digits⟩
    obtain ⟨tail, rest⟩ := head?_eq_some_iff.mp dash
    rw [rest, tail_cons, ← rest, takeWhile_append_dropWhile, ← opens, take_append_drop]
  · rintro ⟨rfl, left, right⟩
    have opens : (js "bytes=" ++ (first ++ 45 :: second)).take 6 = js "bytes=" := rfl
    have rest : (js "bytes=" ++ (first ++ 45 :: second)).drop 6 = first ++ 45 :: second := rfl
    have digits : ∀ unit ∈ first, isDigit unit = true := all_eq_true.mp left
    have kept : (first ++ 45 :: second).takeWhile isDigit = first := by
      rw [takeWhile_append_of_pos digits, takeWhile_cons_of_neg (by decide), append_nil]
    have dropped : (first ++ 45 :: second).dropWhile isDigit = 45 :: second := by
      rw [dropWhile_append_of_pos digits, dropWhile_cons_of_neg (by decide)]
    rw [rest, kept, dropped]
    exact ⟨⟨opens, rfl, right⟩, rfl, rfl⟩

/-- The range that two groups stand for. -/
def requestedOf (first second : JsString) : Option Requested :=
  if first = [] then if second = [] then none else some (.suffix (digitsValue second))
  else if second = [] then some (.onwards (digitsValue first))
  else some (.span (digitsValue first) (digitsValue second))

theorem asks_iff {requested : Requested} :
    Asks text requested ↔ ∃ first second, rangeGroups text = some (first, second) ∧
        requestedOf first second = some requested := by
  constructor
  · intro asks
    cases asks with
    | span start stop =>
      exact ⟨_, _, rangeGroups_eq_some.mpr ⟨rfl, start.2, stop.2⟩,
        by rw [requestedOf, if_neg start.1, if_neg stop.1]⟩
    | onwards start =>
      exact ⟨_, [], rangeGroups_eq_some.mpr ⟨rfl, start.2, rfl⟩,
        by rw [requestedOf, if_neg start.1, if_pos rfl]⟩
    | suffix length =>
      exact ⟨[], _, rangeGroups_eq_some.mpr ⟨rfl, rfl, length.2⟩,
        by rw [requestedOf, if_pos rfl, if_neg length.1]⟩
  · rintro ⟨first, second, groups, stands⟩
    obtain ⟨rfl, left, right⟩ := rangeGroups_eq_some.mp groups
    unfold requestedOf at stands
    split at stands
    · rename_i none
      subst none
      split at stands
      · cases stands
      · rename_i some
        cases stands
        exact .suffix ⟨some, right⟩
    · rename_i some
      split at stands
      · rename_i none
        subst none
        cases stands
        exact .onwards ⟨some, left⟩
      · rename_i both
        cases stands
        exact .span ⟨some, left⟩ ⟨both, right⟩

end Groups

/-! ## What is found -/

/-- The range the code finds for the one that is asked for. -/
def Requested.found (size : Nat) : Requested → Option (ByteRange size)
  | .span start stop =>
      clamp size ((nearest? 52 1024 start).map (↑)) ((nearest? 52 1024 stop).map (↑))
  | .onwards start => clamp size ((nearest? 52 1024 start).map (↑)) (some (size - 1))
  | .suffix length =>
      clamp size
        (some (match nearest? 52 1024 length with
          | some suffixLength => max (size - suffixLength) 0
          | none => 0))
        (some (size - 1))

section Found

variable {rangeHeader : Option JsString} {requested : Requested} {size position : Nat}

theorem rangeOf_eq (first second : JsString) :
    rangeOf size first second = (requestedOf first second).map (Requested.found size) := by
  cases first with
  | nil =>
    cases second with
    | nil => rfl
    | cons => simp [rangeOf, requestedOf, Requested.found, parseInt]
  | cons =>
    cases second with
    | nil => simp [rangeOf, requestedOf, Requested.found, parseInt]
    | cons => simp [rangeOf, requestedOf, Requested.found, parseInt]

theorem parseRange_eq_some {found : Option (ByteRange size)} :
    parseRange rangeHeader size = some found ↔
      ∃ requested, Requests rangeHeader requested ∧ requested.found size = found := by
  simp only [parseRange, Option.bind_eq_bind, Option.bind_eq_some_iff, rangeOf_eq,
    Option.map_eq_some_iff, Option.filter_eq_some_iff]
  constructor
  · rintro ⟨header, ⟨given, -⟩, ⟨first, second⟩, groups, requested, stands, found⟩
    exact ⟨requested, ⟨header, given, asks_iff.mpr ⟨first, second, groups, stands⟩⟩, found⟩
  · rintro ⟨requested, ⟨header, given, asks⟩, found⟩
    obtain ⟨first, second, groups, stands⟩ := asks_iff.mp asks
    refine ⟨header, ⟨given, ?_⟩, (first, second), groups, requested, stands, found⟩
    cases header with
    | nil => cases groups
    | cons => rfl

theorem parseRange_eq_none (other : ∀ requested, ¬ Requests rangeHeader requested) :
    parseRange rangeHeader size = none := by
  refine Option.eq_none_iff_forall_ne_some.mpr fun found parsed => ?_
  obtain ⟨requested, requests, -⟩ := parseRange_eq_some.mp parsed
  exact other requested requests

/-- A position is inside a range that is found. -/
def Contains (found : Option (ByteRange size)) (position : Nat) : Prop :=
  ∃ range, found = some range ∧ range.start ≤ position ∧ position ≤ range.stop

theorem contains_clamp {start stop : Int} (natural : 0 ≤ start) (inside : position < size) :
    Contains (clamp size (some start) (some stop)) position ↔
      start ≤ position ∧ position ≤ stop := by
  simp only [clamp]
  by_cases found : start ≤ stop ∧ 0 ≤ start ∧ start < size
  · rw [dif_pos found]
    constructor
    · rintro ⟨range, ⟨⟩, left, right⟩
      dsimp only at left right
      omega
    · intro between
      refine ⟨_, rfl, ?_, ?_⟩
      · dsimp only
        omega
      · dsimp only
        omega
  · rw [dif_neg found]
    refine iff_of_false ?_ (by omega)
    rintro ⟨range, ⟨⟩, -⟩

theorem not_contains_none : ¬ Contains (none : Option (ByteRange size)) position := by
  rintro ⟨range, ⟨⟩, -⟩

/-- The range the code finds has the positions that are asked for. -/
theorem contains_found (small : size ≤ 2 ^ 53) (finite : requested.Finite size)
    (inside : position < size) :
    Contains (requested.found size) position ↔ requested.covers size position = true := by
  have few : position < 2 ^ (52 + 1) := by omega
  have beyond : 2 ^ (52 + 1) ≤ firstInfinite 52 1024 := two_pow_le_firstInfinite (by decide)
  cases requested with
  | span start stop =>
    simp only [Requested.found, Requested.covers, Bool.and_eq_true, decide_eq_true_eq]
    cases first : nearest? 52 1024 start with
    | none =>
      have large := (nearest?_eq_none (by decide)).mp first
      exact iff_of_false not_contains_none (by omega)
    | some opening =>
      have left := (nearest?_order (by decide) few first).1
      cases second : nearest? 52 1024 stop with
      | none =>
        have large := (nearest?_eq_none (by decide)).mp second
        have outside : ¬ start < size := fun before => (finite before).not_ge large
        exact iff_of_false not_contains_none (by omega)
      | some closing =>
        have right := (nearest?_order (by decide) few second).2
        rw [Option.map_some, Option.map_some, contains_clamp (by omega) inside]
        omega
  | onwards start =>
    simp only [Requested.found, Requested.covers, decide_eq_true_eq]
    cases first : nearest? 52 1024 start with
    | none =>
      have large := (nearest?_eq_none (by decide)).mp first
      exact iff_of_false not_contains_none (by omega)
    | some opening =>
      have left := (nearest?_order (by decide) few first).1
      rw [Option.map_some, contains_clamp (by omega) inside]
      omega
  | suffix length =>
    simp only [Requested.found, Requested.covers, decide_eq_true_eq]
    cases last : nearest? 52 1024 length with
    | none =>
      have large := (nearest?_eq_none (by decide)).mp last
      rw [contains_clamp le_rfl inside]
      omega
    | some suffixLength =>
      have same : suffixLength ≤ size - position - 1 ↔ length ≤ size - position - 1 :=
        (nearest?_order (by decide) (by omega) last).1
      rw [contains_clamp (le_max_right _ _) inside]
      omega

/-- A range whose end is no finite number is not found. -/
theorem found_of_infinite (infinite : ¬ requested.Finite size) : requested.found size = none := by
  cases requested with
  | span start stop =>
    simp only [Requested.Finite, Classical.not_imp, not_lt] at infinite
    have none : nearest? 52 1024 stop = none := (nearest?_eq_none (by decide)).mpr infinite.2
    simp only [Requested.found, none, Option.map_none]
    cases nearest? 52 1024 start with
    | none => rfl
    | some => rfl
  | onwards => exact absurd trivial infinite
  | suffix => exact absurd trivial infinite

theorem wanted_of_infinite (small : size ≤ 2 ^ 53) (infinite : ¬ requested.Finite size) :
    requested.wanted size ≠ [] := by
  have beyond : 2 ^ (52 + 1) ≤ firstInfinite 52 1024 := two_pow_le_firstInfinite (by decide)
  cases requested with
  | span start stop =>
    simp only [Requested.Finite, Classical.not_imp, not_lt] at infinite
    have member : start ∈ (Requested.span start stop).wanted size := by
      simp only [Requested.wanted, Requested.covers, mem_filter, mem_range,
        Bool.and_eq_true, decide_eq_true_eq]
      omega
    exact ne_nil_of_mem member
  | onwards => exact absurd trivial infinite
  | suffix => exact absurd trivial infinite

theorem requests_unique {other : Requested} (first : Requests rangeHeader requested)
    (second : Requests rangeHeader other) : requested = other := by
  obtain ⟨header, given, asks⟩ := first
  obtain ⟨same, again, asksOther⟩ := second
  cases given.symm.trans again
  obtain ⟨first, second, groups, stands⟩ := asks_iff.mp asks
  obtain ⟨firstOther, secondOther, groupsOther, standsOther⟩ := asks_iff.mp asksOther
  cases groups.symm.trans groupsOther
  exact Option.some_inj.mp (stands.symm.trans standsOther)

theorem parseRange_of_requests (requests : Requests rangeHeader requested) :
    parseRange rangeHeader size = some (requested.found size) :=
  parseRange_eq_some.mpr ⟨requested, requests, rfl⟩

/-- What a filter leaves of the positions of a file, when it is a range. -/
theorem filter_range {covers : Nat → Bool} (range : ByteRange size) (same : ∀ position < size,
      covers position = true ↔ range.start ≤ position ∧ position ≤ range.stop) :
    (List.range size).filter covers = List.range' range.start (range.stop - range.start + 1) := by
  have ordered := range.ordered
  have within := range.within
  have parts : List.range size = List.range' 0 range.start ++
      (List.range' range.start (range.stop - range.start + 1) ++
        List.range' (range.stop + 1) (size - range.stop - 1)) := by
    have last : range.stop + 1 = range.start + (range.stop - range.start + 1) := by omega
    have joined := range'_append_1 (s := 0) (m := range.start)
      (n := range.stop - range.start + 1 + (size - range.stop - 1))
    rw [Nat.zero_add] at joined
    rw [last, range'_append_1, joined, range_eq_range']
    congr 1
    omega
  have before : (List.range' 0 range.start).filter covers = [] := by
    refine filter_eq_nil_iff.mpr fun position member => ?_
    have bounds := mem_range'_1.mp member
    rw [same position (by omega)]
    omega
  have inside : (List.range' range.start (range.stop - range.start + 1)).filter covers =
      List.range' range.start (range.stop - range.start + 1) := by
    refine filter_eq_self.mpr fun position member => ?_
    have bounds := mem_range'_1.mp member
    rw [same position (by omega)]
    omega
  have after : (List.range' (range.stop + 1) (size - range.stop - 1)).filter covers = [] := by
    refine filter_eq_nil_iff.mpr fun position member => ?_
    have bounds := mem_range'_1.mp member
    rw [same position (by omega)]
    omega
  rw [parts, filter_append, filter_append, before, inside, after, nil_append, append_nil]

theorem wanted_of_found {range : ByteRange size} (small : size ≤ 2 ^ 53)
    (finite : requested.Finite size) (found : requested.found size = some range) :
    requested.wanted size = List.range' range.start (range.stop - range.start + 1) := by
  refine filter_range range fun position inside => ?_
  rw [← contains_found small finite inside, found]
  constructor
  · rintro ⟨other, ⟨⟩, between⟩
    exact between
  · intro between
    exact ⟨range, rfl, between⟩

theorem found_eq_none_iff (small : size ≤ 2 ^ 53) (finite : requested.Finite size) :
    requested.found size = none ↔ requested.wanted size = [] := by
  constructor
  · intro missing
    refine filter_eq_nil_iff.mpr fun position member => ?_
    rw [← contains_found small finite (mem_range.mp member), missing]
    exact not_contains_none
  · intro empty
    cases found : requested.found size with
    | none => rfl
    | some range =>
      rw [wanted_of_found small finite found] at empty
      cases empty

end Found

/-! ## What is answered -/

/-- The bytes at positions, in a partial response that says which they are. -/
structure Delivers (response : ServedResponse) (bytes : List UInt8) (positions : List Nat) :
    Prop where
  status : response.status = 206
  body : response.body = positions.filterMap (bytes[·]?)
  contentLength : response.header (js "Content-Length") = some (decimalText positions.length)
  contentRange : ∃ first last, first ≤ last ∧ positions = List.range' first (last - first + 1) ∧
    response.header (js "Content-Range") =
      some (js "bytes " ++ decimalText first ++ js "-" ++ decimalText last ++ js "/" ++
        decimalText bytes.length)

/-- The whole file. -/
structure DeliversAll (response : ServedResponse) (bytes : List UInt8) : Prop where
  status : response.status = 200
  body : response.body = bytes
  contentLength : response.header (js "Content-Length") = some (decimalText bytes.length)

/-- A range is answered by its bytes, or by 416 when it has none; any other header by the file. -/
def Answers (attachment : DmAttachment) (file : ReadableFile) (rangeHeader : Option JsString) :
    Prop :=
  (∀ requested, Requests rangeHeader requested →
    let response := serveRange attachment file rangeHeader
    let positions := requested.wanted file.bytes.length
    (response.status = 416 ↔ positions = []) ∧
      (positions ≠ [] → Delivers response file.bytes positions)) ∧
  ((∀ requested, ¬ Requests rangeHeader requested) →
    DeliversAll (serveRange attachment file rangeHeader) file.bytes)

/-- The name and the type of a file may stand in headers. -/
def Sendable (attachment : DmAttachment) : Prop :=
  wellFormed attachment.filename = true ∧ headerValue attachment.contentType ≠ none

section Answers

variable {attachment : DmAttachment} {file : ReadableFile} {rangeHeader : Option JsString}
  {requested : Requested} {base : List (JsString × JsString)}

theorem sendable_iff : Sendable attachment ↔ ∃ base, baseHeaders attachment = some base := by
  have typed : headerValue attachment.contentType ≠ none ↔
      ∃ value, headerValue (if attachment.contentType.isEmpty then js "application/octet-stream"
        else attachment.contentType) = some value := by
    rw [Option.ne_none_iff_exists']
    cases attachment.contentType with
    | nil => exact iff_of_true ⟨_, rfl⟩ ⟨_, rfl⟩
    | cons => exact Iff.rfl
  rw [Sendable, typed]
  simp only [baseHeaders, encodeURIComponent, Option.bind_eq_bind, Option.bind_eq_some_iff,
    Option.ite_none_right_eq_some]
  constructor
  · rintro ⟨formed, contentType, value⟩
    exact ⟨_, _, ⟨formed, rfl⟩, contentType, value, rfl⟩
  · rintro ⟨-, -, ⟨formed, -⟩, contentType, value, -⟩
    exact ⟨formed, contentType, value⟩

theorem names_baseHeaders (headers : baseHeaders attachment = some base) :
    base.map Prod.fst = [js "Content-Type", js "Content-Disposition", js "Cache-Control",
      js "Accept-Ranges", js "X-Content-Type-Options"] := by
  simp only [baseHeaders, Option.bind_eq_bind, Option.bind_eq_some_iff] at headers
  obtain ⟨filename, -, contentType, -, headers⟩ := headers
  cases headers
  rfl

theorem header_append {name : JsString} {rest : List (JsString × JsString)} {status : Nat}
    {body : List UInt8} (absent : name ∉ base.map Prod.fst) :
    ServedResponse.header ⟨status, base ++ rest, body⟩ name =
      ServedResponse.header ⟨status, rest, body⟩ name := by
  have missed : base.find? (fun header => header.1 = name) = none := by
    refine find?_eq_none.mpr fun header member => ?_
    rw [decide_eq_true_eq]
    rintro rfl
    exact absent (mem_map_of_mem member)
  rw [ServedResponse.header, find?_append, missed, Option.none_or, ServedResponse.header]

theorem filterMap_range' (bytes : List UInt8) (start count : Nat) :
    (List.range' start count).filterMap (bytes[·]?) = (bytes.drop start).take count := by
  induction count generalizing start with
  | zero => simp
  | succ count ih =>
    rw [range'_succ]
    rcases lt_or_ge start bytes.length with inside | outside
    · rw [filterMap_cons_some (getElem?_eq_getElem inside), ih,
        drop_eq_getElem_cons inside, take_succ_cons]
    · rw [filterMap_cons_none (getElem?_eq_none outside), ih,
        drop_eq_nil_of_le outside, drop_eq_nil_of_le (by omega), take_nil,
        take_nil]

theorem serveRange_of_range {range : ByteRange file.bytes.length}
    (headers : baseHeaders attachment = some base)
    (found : parseRange rangeHeader file.bytes.length = some (some range)) :
    Delivers (serveRange attachment file rangeHeader) file.bytes
      (List.range' range.start (range.stop - range.start + 1)) := by
  have names := names_baseHeaders headers
  simp only [serveRange, found, withFile, headers]
  refine ⟨rfl, (filterMap_range' _ _ _).symm, ?_, range.start, range.stop, range.ordered, rfl, ?_⟩
  · rw [header_append (by rw [names]; decide), length_range']
    rfl
  · rw [header_append (by rw [names]; decide)]
    rfl

theorem serveRange_of_none (headers : baseHeaders attachment = some base)
    (found : parseRange rangeHeader file.bytes.length = none) :
    DeliversAll (serveRange attachment file rangeHeader) file.bytes := by
  have names := names_baseHeaders headers
  simp only [serveRange, found, withFile, headers]
  refine ⟨rfl, rfl, ?_⟩
  rw [header_append (by rw [names]; decide)]
  rfl

theorem serveRange_of_unsatisfiable (found : parseRange rangeHeader file.bytes.length = some none) :
    (serveRange attachment file rangeHeader).status = 416 := by
  simp only [serveRange, found]

/-- Without the headers of a file nothing but 416 is answered as it should be. -/
theorem status_of_unsendable (unsendable : ¬ Sendable attachment)
    (found : parseRange rangeHeader file.bytes.length ≠ some none) :
    (serveRange attachment file rangeHeader).status = 500 := by
  have missing : baseHeaders attachment = none := by
    rw [sendable_iff, not_exists] at unsendable
    exact Option.eq_none_iff_forall_ne_some.mpr unsendable
  unfold serveRange
  split
  · rename_i none
    exact absurd none found
  · simp only [withFile, missing]
    rfl
  · simp only [withFile, missing]
    rfl

theorem finite_of_answers (answers : Answers attachment file rangeHeader)
    (requests : Requests rangeHeader requested) : requested.Finite file.bytes.length := by
  by_contra infinite
  have none := parseRange_eq_some.mpr ⟨requested, requests, found_of_infinite infinite⟩
  exact wanted_of_infinite file.safe infinite
    ((answers.1 requested requests).1.mp (serveRange_of_unsatisfiable none))

/-- A range is answered as it should be unless its end is read as infinite, or the headers of the
file throw when they are needed. -/
theorem answers_iff (attachment : DmAttachment) (file : ReadableFile)
    (rangeHeader : Option JsString) :
    Answers attachment file rangeHeader ↔
      (∀ requested, Requests rangeHeader requested → requested.Finite file.bytes.length) ∧
        (Sendable attachment ∨
          ∃ requested, Requests rangeHeader requested ∧
            requested.wanted file.bytes.length = []) := by
  constructor
  · intro answers
    have finite : ∀ requested, Requests rangeHeader requested →
        requested.Finite file.bytes.length := fun _ => finite_of_answers answers
    obtain ⟨ranged, other⟩ := answers
    refine ⟨finite, or_iff_not_imp_left.mpr fun unsendable => ?_⟩
    by_contra! full
    by_cases asked : ∃ requested, Requests rangeHeader requested
    · obtain ⟨requested, requests⟩ := asked
      have delivers := (ranged requested requests).2 (full requested requests)
      have failed := status_of_unsendable unsendable
        (fun parsed => full requested requests
          ((found_eq_none_iff file.safe (finite requested requests)).mp
            (Option.some_inj.mp ((parseRange_of_requests requests).symm.trans parsed))))
      rw [delivers.status] at failed
      cases failed
    · rw [not_exists] at asked
      have none : parseRange rangeHeader file.bytes.length ≠ some none := by
        rw [parseRange_eq_none asked]
        exact nofun
      have failed := status_of_unsendable unsendable none
      rw [(other asked).status] at failed
      cases failed
  · rintro ⟨finite, sent⟩
    constructor
    · intro requested requests
      cases found : requested.found file.bytes.length with
      | none =>
          have empty := (found_eq_none_iff file.safe (finite requested requests)).mp found
          have parsed := parseRange_eq_some.mpr ⟨requested, requests, found⟩
          exact ⟨iff_of_true (serveRange_of_unsatisfiable parsed) empty, (absurd empty ·)⟩
      | some range =>
          have positions := wanted_of_found file.safe (finite requested requests) found
          have full : requested.wanted file.bytes.length ≠ [] := by
            rw [positions]
            exact nofun
          have sendable : Sendable attachment := by
            refine sent.resolve_right ?_
            rintro ⟨other, requestsOther, empty⟩
            rw [← requests_unique requests requestsOther] at empty
            exact full empty
          obtain ⟨base, headers⟩ := sendable_iff.mp sendable
          have delivers := serveRange_of_range headers
            (parseRange_eq_some.mpr ⟨requested, requests, found⟩)
          rw [← positions] at delivers
          refine ⟨iff_of_false ?_ full, fun _ => delivers⟩
          rw [delivers.status]
          decide
    · intro other
      obtain sendable | ⟨requested, requests, -⟩ := sent
      · obtain ⟨base, headers⟩ := sendable_iff.mp sendable
        exact serveRange_of_none headers (parseRange_eq_none other)
      · exact absurd requests (other requested)

end Answers

namespace Sample

def attachment : DmAttachment :=
  ⟨js "a", js "m", js "dm-attachments/c/clip.mp4", js "clip.mp4", js "1", js "video/mp4"⟩

def file : ReadableFile := ⟨[7], by decide⟩

/-- The digits of `10 ^ 309`. -/
def digits : JsString := 49 :: List.replicate 309 48

def header : JsString := js "bytes=" ++ ([48] ++ 45 :: digits)

end Sample

/-- The first byte is asked for, and all that may follow up to an end no double can hold. -/
theorem overlong_unanswered :
    ¬ Answers Sample.attachment Sample.file (some Sample.header) := by
  intro answers
  have trimmed : trim Sample.header = Sample.header := by decide +kernel
  have asks : Asks (trim Sample.header)
      (.span (digitsValue [48]) (digitsValue Sample.digits)) := by
    rw [trimmed]
    exact .span ⟨nofun, by decide⟩ ⟨nofun, by decide +kernel⟩
  have finite := finite_of_answers answers ⟨Sample.header, rfl, asks⟩
  have large : firstInfinite 52 1024 ≤ digitsValue Sample.digits := by decide +kernel
  exact (finite (by decide)).not_ge large

end Vortex.Channels.Ranges
