import Vortex.Foundation.Entities
import Vortex.Web.Oembed

/-!
# What a page says of itself

`parseOG` reads the Open Graph tags of a page by regular expressions, and undoes the entities of
what it has read one kind after the other, `&amp;` first. A title then comes back as it was encoded
only where none of the other entities occurs in it as a text. The lower case of strings is a
parameter.
-/

namespace Vortex.Web

open Foundation List
open Vortex.Gateway (trim)

namespace Oembed

/-! ## Entities -/

/-- The replacements of `decodeHTMLEntities`, in their order. -/
def htmlEntities : List (Entity UInt16) :=
  [⟨38, js "&amp;", []⟩, ⟨60, js "&lt;", []⟩, ⟨62, js "&gt;", []⟩, ⟨34, js "&quot;", []⟩,
    ⟨39, js "&#39;", [js "&#039;", js "&apos;"]⟩]

def decodeHTMLEntities (str : JsString) : JsString := Entity.decodeAll htmlEntities str

/-- A text with its special characters replaced once by their entities. -/
def encodeHTMLEntities (text : JsString) : JsString := Entity.encodeAll htmlEntities text

/-- The entities that are decoded after `&amp;`. -/
def lateEntities : List JsString :=
  ["&lt;", "&gt;", "&quot;", "&#39;", "&#039;", "&apos;"].map js

/-- A text that is not changed by decoding it again. -/
def Unmistakable (text : JsString) : Prop := ∀ entity ∈ lateEntities, ¬ entity <:+: text

instance (text : JsString) : Decidable (Unmistakable text) :=
  inferInstanceAs (Decidable (∀ entity ∈ lateEntities, ¬ entity <:+: text))

theorem table_htmlEntities : Entity.Table 38 htmlEntities where
  marked := by decide
  apart := by decide

theorem decode_encode (text : JsString) :
    decodeHTMLEntities (encodeHTMLEntities text) = Entity.decodeAll htmlEntities.tail text :=
  table_htmlEntities.decodeAll_encodeAll_marker rfl text

theorem decode_encode_eq_self_iff (text : JsString) :
    decodeHTMLEntities (encodeHTMLEntities text) = text ↔ Unmistakable text := by
  have table : Entity.Table 38 htmlEntities.tail := table_htmlEntities.tail
  have late : lateEntities = htmlEntities.tail.flatMap Entity.texts := rfl
  rw [decode_encode, table.decodeAll_eq_self_iff, Unmistakable, late]
  simp only [mem_flatMap, forall_exists_index, and_imp]
  exact ⟨fun absent chunk entity member => absent entity member chunk,
    fun absent entity member chunk => absent chunk entity member⟩

/-! ## Tags and attributes -/

def isWordUnit (unit : UInt16) : Bool :=
  (48 ≤ unit && unit ≤ 57) || (65 ≤ unit && unit ≤ 90) || unit = 95 || (97 ≤ unit && unit ≤ 122)

def isQuote (unit : UInt16) : Bool := unit = 34 || unit = 39

/-- `/<meta\b[^>]*>/i` at the beginning of a text: how much of it is behind the first unit. -/
def tagRe (text : JsString) : Option Nat :=
  if opensWith text (js "<meta") && !text[5]?.any isWordUnit then text.findIdx? (· = 62) else none

/-- `/opening([^"']{least,})["']/i` behind the quote of an attribute: the group. -/
def quoted (opening : JsString) (least : Nat) (text : JsString) : Option JsString :=
  let value := text.drop opening.length
  let run := value.takeWhile (!isQuote ·)
  if opensWith text opening && least ≤ run.length && run.length < value.length then some run
  else none

/-- `/label=["']opening([^"']{least,})["']/i` at the beginning of a text. -/
def attr (label opening : JsString) (least : Nat) (text : JsString) : Option JsString :=
  match text.drop (label.length + 1) with
  | quote :: rest =>
      if opensWith text (label ++ [61]) && isQuote quote then quoted opening least rest else none
  | [] => none

/-- `/<title[^>]*>([^<]+)<\/title>/i` at the beginning of a text. -/
def titleElement (text : JsString) : Option JsString :=
  if opensWith text (js "<title") then
    match (text.drop 6).dropWhile (· ≠ 62) with
    | _ :: rest =>
        let run := rest.takeWhile (· ≠ 60)
        if !run.isEmpty && opensWith (rest.drop run.length) (js "</title>") then some run else none
    | [] => none
  else none

/-! ## The parser -/

structure OpenGraph where
  title : Option JsString
  description : Option JsString
  image : Option JsString
  siteName : Option JsString
  favicon : JsString
  deriving DecidableEq

section

variable (toLowerCase : JsString → JsString)

/-- What one tag holds of a property, before its entities are decoded. -/
def contentOf (prop attrs : JsString) : Option JsString :=
  let propMatch := (search (attr (js "property") (js "og:") 1) attrs).or
    (search (attr (js "name") [] 1) attrs)
  let contentMatch := search (attr (js "content") [] 0) attrs
  match propMatch, contentMatch with
  | some named, some content =>
      let key := toLowerCase named
      if key = prop || key = js "og:" ++ prop then some content else none
  | _, _ => none

/-- What the first tag with a property holds of it. -/
def firstContent (prop html : JsString) : Option JsString :=
  (matchesIn tagRe html).findSome? (contentOf toLowerCase prop)

/-- `meta(prop)` -/
def metaText (prop html : JsString) : Option JsString :=
  (firstContent toLowerCase prop html).map decodeHTMLEntities

def parseOG (html origin protocol : JsString) : OpenGraph where
  title := (metaText toLowerCase (js "title") html).or ((search titleElement html).map trim)
  description := metaText toLowerCase (js "description") html
  image := (metaText toLowerCase (js "image") html).map fun image =>
    if startsWith image (js "//") then protocol ++ image
    else if startsWith image (js "/") then origin ++ image
    else image
  siteName := metaText toLowerCase (js "site_name") html
  favicon := origin ++ js "/favicon.ico"

end

/-! ## Attributes in double quotes -/

section Pieces

variable {label opening piece rest : JsString} {least : Nat} {quote unit : UInt16}

theorem lower_quote (quotes : isQuote quote = true) : lower quote = quote := by
  rcases Bool.or_eq_true_iff.mp quotes with double | single
  · rw [of_decide_eq_true double]
    rfl
  · rw [of_decide_eq_true single]
    rfl

theorem attr_eq_some {text found : JsString}
    (matched : attr label opening least text = some found) :
    ∃ quote rest, text.drop (label.length + 1) = quote :: rest ∧
      (text.take (label.length + 1)).map lower = label ++ [61] ∧ isQuote quote = true := by
  rw [attr] at matched
  split at matched
  · rename_i quote rest behind
    rw [Option.ite_none_right_eq_some, Bool.and_eq_true, opensWith_iff, length_append,
      length_singleton] at matched
    exact ⟨quote, rest, behind, matched.1⟩
  · cases matched

/-- An attribute begins right before a quote only where its label does. -/
theorem attr_of_ne (quotes : isQuote quote = true) (plain : piece.all (!isQuote ·) = true)
    (bare : label.all (!isQuote ·) = true) (other : piece.map lower ≠ label ++ [61]) :
    attr label opening least (piece ++ quote :: rest) = none := by
  rw [Option.eq_none_iff_forall_ne_some]
  intro found matched
  obtain ⟨first, behind, split, same, quotes'⟩ := attr_eq_some matched
  have unquoted : ∀ unit, unit ∈ piece → isQuote unit = false := fun unit member =>
    (Bool.not_eq_true' _).mp (all_eq_true.mp plain unit member)
  rcases Nat.lt_trichotomy (label.length + 1) piece.length with shorter | equal | longer
  · rw [drop_append_of_le_length shorter.le] at split
    have member : first ∈ piece := by
      cases rest' : piece.drop (label.length + 1) with
      | nil => exact absurd (drop_eq_nil_iff.mp rest') (Nat.not_le.mpr shorter)
      | cons unit others =>
        rw [rest', cons_append] at split
        rw [← (cons.inj split).1]
        exact mem_of_mem_drop (rest' ▸ mem_cons_self)
    rw [unquoted first member] at quotes'
    cases quotes'
  · rw [equal, take_left] at same
    exact other same
  · obtain ⟨more, enough⟩ := Nat.exists_eq_add_of_lt longer
    have member : quote ∈ (piece ++ quote :: rest).take (label.length + 1) := by
      rw [enough, Nat.add_assoc, take_length_add_append, take_succ_cons]
      exact mem_append_right piece mem_cons_self
    have inside := mem_map_of_mem (f := lower) member
    rw [same, lower_quote quotes] at inside
    rcases mem_append.mp inside with within | equals
    · have unquoted := all_eq_true.mp bare quote within
      rw [quotes] at unquoted
      cases unquoted
    · rw [mem_singleton.mp equals] at quotes
      cases quotes

theorem attr_of_eq (quotes : isQuote quote = true) (same : piece.map lower = label ++ [61]) :
    attr label opening least (piece ++ quote :: rest) = quoted opening least rest := by
  have length : piece.length = label.length + 1 := by
    rw [← length_map (f := lower), same, length_append, length_singleton]
  have opens : opensWith (piece ++ quote :: rest) (label ++ [61]) = true := by
    rw [opensWith_iff, length_append, length_singleton, ← length, take_left, same]
  rw [attr, ← length, drop_left]
  dsimp only
  rw [opens, quotes]
  rfl

theorem attr_of_head (other : lower unit ≠ label.headD 61) :
    attr label opening least (unit :: rest) = none := by
  rw [Option.eq_none_iff_forall_ne_some]
  intro found matched
  obtain ⟨-, -, -, same, -⟩ := attr_eq_some matched
  rw [take_succ_cons, map_cons] at same
  cases label with
  | nil => exact other (cons.inj same).1
  | cons first label => exact other (cons.inj same).1

section

variable (quotes : isQuote quote = true)

include quotes

section

variable (plain : piece.all (!isQuote ·) = true)

include plain

section

variable (bare : label.all (!isQuote ·) = true)

include bare

section

variable (passed : label ++ [61] <:+ piece.map lower → quoted opening least rest = none)

include passed

theorem attr_of_passed : attr label opening least (piece ++ quote :: rest) = none := by
  by_cases same : piece.map lower = label ++ [61]
  · rw [attr_of_eq quotes same, passed (same ▸ suffix_rfl)]
  · exact attr_of_ne quotes plain bare same

/-- A piece is passed over if it does not end with the label, or if nothing is found behind it. -/
theorem search_attr_of_passed :
    search (attr label opening least) (piece ++ quote :: rest) =
      search (attr label opening least) rest := by
  have none := attr_of_passed quotes plain bare passed
  induction piece with
  | nil => exact search_of_none none
  | cons unit piece hypothesis =>
    have later : label ++ [61] <:+ piece.map lower → quoted opening least rest = Option.none :=
      fun ends => passed (ends.trans (suffix_cons _ _))
    have behind := (Bool.and_eq_true_iff.mp plain).2
    rw [cons_append] at none ⊢
    rw [search_of_none none]
    exact hypothesis behind later (attr_of_passed quotes behind bare later)

end

/-- The attribute a piece ends with the label of is found. -/
theorem search_attr_of_suffix {found : JsString}
    (ends : label ++ [61] <:+ piece.map lower) (matched : quoted opening least rest = some found) :
    search (attr label opening least) (piece ++ quote :: rest) = some found := by
  induction piece with
  | nil => exact absurd (suffix_nil.mp ends) (append_ne_nil_of_right_ne_nil _ nofun)
  | cons unit piece hypothesis =>
    by_cases same : (unit :: piece).map lower = label ++ [61]
    · exact search_of_some ((attr_of_eq quotes same).trans matched)
    · have none : attr label opening least (unit :: piece ++ quote :: rest) = none :=
        attr_of_ne quotes plain bare same
      rw [cons_append] at none ⊢
      rw [search_of_none none]
      refine hypothesis (Bool.and_eq_true_iff.mp plain).2 ?_
      rw [map_cons, suffix_cons_iff] at ends
      exact ends.resolve_left fun equal => same equal.symm

end

end

theorem quoted_append {value : JsString}
    (plain : value.all (!isQuote ·) = true) (opens : opensWith value opening = true)
    (enough : opening.length + least ≤ value.length) :
    quoted opening least (value ++ quote :: rest) = some (value.drop opening.length) := by
  have within : opening.length ≤ value.length := le_trans (Nat.le_add_right _ _) enough
  have run : (value.drop opening.length ++ quote :: rest).takeWhile (!isQuote ·) =
      value.drop opening.length := by
    rw [takeWhile_append_of_pos fun unit member =>
        all_eq_true.mp plain unit (mem_of_mem_drop member),
      takeWhile_cons_of_neg (by rw [quotes]; exact nofun), append_nil]
  have begins : opensWith (value ++ quote :: rest) opening = true := by
    rw [opensWith_iff, take_append_of_le_length within]
    exact opensWith_iff.mp opens
  rw [quoted, drop_append_of_le_length within, run, begins]
  refine if_pos ?_
  rw [Bool.true_and, Bool.and_eq_true, decide_eq_true_eq, decide_eq_true_eq, length_append,
    length_cons, length_drop]
  omega

end

end Pieces

/-- An attribute as a page has it: what is before it, its name, and its value in double quotes. -/
structure Attribute where
  gap : JsString
  name : JsString
  value : JsString
  begins : gap.head?.any (!isWordUnit ·) = true
  plain : (gap ++ name ++ value).all (fun unit => !isQuote unit && unit ≠ 62) = true

namespace Attribute

def text (attr : Attribute) : JsString :=
  attr.gap ++ attr.name ++ [61] ++ 34 :: (attr.value ++ [34])

/-- Whether the name does not end like another one. -/
def apart (attr : Attribute) (label : JsString) : Bool :=
  !(label ++ [61]).isSuffixOf ((attr.gap ++ attr.name ++ [61]).map lower)

/-- Whether the value does not end as an attribute with another name begins. -/
def quiet (attr : Attribute) (label : JsString) : Bool :=
  !(label ++ [61]).isSuffixOf (attr.value.map lower)

section Search

variable {attributes : List Attribute} {chosen : Attribute} {label opening rest : JsString}
  {least : Nat}

theorem plain_pieces (attr : Attribute) :
    (attr.gap ++ attr.name ++ [61]).all (!isQuote ·) = true ∧
      attr.value.all (!isQuote ·) = true ∧ (62 : UInt16) ∉ attr.text := by
  have plain := attr.plain
  simp only [all_append, Bool.and_eq_true, all_eq_true, decide_eq_true_eq] at plain ⊢
  obtain ⟨⟨gap, name⟩, value⟩ := plain
  refine ⟨⟨⟨fun unit member => (gap unit member).1, fun unit member => (name unit member).1⟩, ?_⟩,
    fun unit member => (value unit member).1, fun member => ?_⟩
  · intro unit equals
    rw [mem_singleton.mp equals]
    rfl
  · simp only [text, mem_append, mem_cons, not_mem_nil, or_false] at member
    rcases member with ((inside | inside) | equals) | equals | inside | equals
    · exact (gap 62 inside).2 rfl
    · exact (name 62 inside).2 rfl
    · cases equals
    · cases equals
    · exact (value 62 inside).2 rfl
    · cases equals

theorem text_append (attr : Attribute) (rest : JsString) :
    attr.text ++ rest = (attr.gap ++ attr.name ++ [61]) ++ 34 :: (attr.value ++ 34 :: rest) := by
  simp only [text, append_assoc, cons_append, nil_append]

/-- An attribute with another name is passed over, where its value does not end as the attribute
that is looked for begins, or where what follows the value is not what is looked for. -/
theorem search_apart (bare : label.all (!isQuote ·) = true) (named : chosen.apart label = true)
    (valued : chosen.quiet label = true ∨ quoted opening least rest = none) :
    search (attr label opening least) (chosen.text ++ rest) =
      search (attr label opening least) rest := by
  obtain ⟨front, value, -⟩ := chosen.plain_pieces
  rw [text_append, search_attr_of_passed rfl front bare fun ends => ?_,
    search_attr_of_passed rfl value bare fun ends => ?_]
  · refine valued.resolve_left fun still => ?_
    rw [quiet, isSuffixOf_iff_suffix.mpr ends] at still
    cases still
  · rw [apart, isSuffixOf_iff_suffix.mpr ends] at named
    cases named

/-- A text in front of which attributes stand begins with the gap of the first of them. -/
theorem exists_gap (some : attributes ≠ []) (rest : JsString) :
    ∃ unit more, isWordUnit unit = false ∧ attributes.flatMap text ++ rest = unit :: more := by
  obtain ⟨⟨gap, name, value, begins, plain⟩, others, rfl⟩ := exists_cons_of_ne_nil some
  cases gap with
  | nil => cases begins
  | cons unit gap => exact ⟨unit, _, (Bool.not_eq_true' _).mp begins, rfl⟩

theorem search_named (bare : label.all (!isQuote ·) = true) (named : chosen.name.map lower = label)
    (opens : opensWith chosen.value opening = true)
    (enough : opening.length + least ≤ chosen.value.length) :
    search (attr label opening least) (chosen.text ++ rest) =
      some (chosen.value.drop opening.length) := by
  obtain ⟨front, value, -⟩ := chosen.plain_pieces
  rw [text_append]
  refine search_attr_of_suffix rfl front bare ?_ (quoted_append rfl value opens enough)
  rw [map_append, map_append, named, append_assoc]
  exact suffix_append _ _

/-- Among attributes that are not taken for it, the chosen one is found in any order. -/
theorem search_attributes (bare : label.all (!isQuote ·) = true)
    (named : chosen.name.map lower = label) (opens : opensWith chosen.value opening = true)
    (enough : opening.length + least ≤ chosen.value.length)
    (single : ∀ other ∈ attributes, other = chosen ∨ (other.apart label = true ∧
      (other.quiet label = true ∨
        ∀ unit more, isWordUnit unit = false → quoted opening least (unit :: more) = none)))
    (member : chosen ∈ attributes) :
    search (attr label opening least) (attributes.flatMap text ++ rest) =
      some (chosen.value.drop opening.length) := by
  induction attributes with
  | nil => cases member
  | cons first attributes hypothesis =>
    obtain ⟨here, single⟩ := forall_mem_cons.mp single
    rw [flatMap_cons, append_assoc]
    rcases mem_cons.mp member with rfl | later
    · exact search_named bare named opens enough
    · rcases here with rfl | ⟨apart, quiet⟩
      · exact search_named bare named opens enough
      · have passed : first.quiet label = true ∨
            quoted opening least (attributes.flatMap text ++ rest) = none := by
          refine quiet.imp_right fun refused => ?_
          obtain ⟨unit, more, word, same⟩ := exists_gap (ne_nil_of_mem later) rest
          rw [same, refused unit more word]
        rw [search_apart bare apart passed, hypothesis single later]

end Search

end Attribute

/-! ## Pages with a title -/

/-- The text of a tag. -/
def tagText (attributes : List Attribute) (closing : JsString) : JsString :=
  js "<meta" ++ (attributes.flatMap Attribute.text ++ (closing ++ [62]))

/-- A page whose first Open Graph title is in a tag with its attributes in any order: among them
the property and a content in double quotes that is the title with its special characters replaced
by entities, and others that are not taken for these two. No tag before it is left open or names a
title. -/
structure TitledPage (toLowerCase : JsString → JsString) where
  title : JsString
  before : JsString
  attributes : List Attribute
  property : Attribute
  content : Attribute
  closing : JsString
  after : JsString
  property_name : property.name = js "property"
  property_value : property.value = js "og:title"
  content_name : content.name = js "content"
  content_value : content.value = encodeHTMLEntities title
  property_mem : property ∈ attributes
  content_mem : content ∈ attributes
  single : ∀ attr ∈ attributes, (attr = property ∨ attr.apart (js "property") = true) ∧
    (attr = content ∨ (attr.apart (js "content") = true ∧ attr.quiet (js "content") = true))
  closing_plain : closing.contains 62 = false
  before_shut :
    before.tails.all (fun part => !opensWith part (js "<meta") || part.contains 62) = true
  before_untitled : ∀ tag ∈ matchesIn tagRe before,
    contentOf toLowerCase (js "title") tag = none

namespace TitledPage

variable {toLowerCase : JsString → JsString} (page : TitledPage toLowerCase)

def tag : JsString := tagText page.attributes page.closing

def html : JsString := page.before ++ (page.tag ++ page.after)

end TitledPage

section Tags

variable {toLowerCase : JsString → JsString} {attributes : List Attribute}
  {closing before after part : JsString} {first : UInt16}

theorem search_meta {label opening : JsString} {least : Nat}
    (foreign : [60, 109, 101, 116, 97].all (· ≠ label.headD 61) = true) (rest : JsString) :
    search (attr label opening least) (js "<meta" ++ rest) =
      search (attr label opening least) rest := by
  simp only [all_cons, Bool.and_eq_true, decide_eq_true_eq] at foreign
  obtain ⟨angle, m, e, t, a, -⟩ := foreign
  calc search (attr label opening least) (60 :: 109 :: 101 :: 116 :: 97 :: rest)
      = search (attr label opening least) (109 :: 101 :: 116 :: 97 :: rest) :=
        search_of_none (attr_of_head angle)
    _ = search (attr label opening least) (101 :: 116 :: 97 :: rest) :=
        search_of_none (attr_of_head m)
    _ = search (attr label opening least) (116 :: 97 :: rest) := search_of_none (attr_of_head e)
    _ = search (attr label opening least) (97 :: rest) := search_of_none (attr_of_head t)
    _ = search (attr label opening least) rest := search_of_none (attr_of_head a)

/-- No property of the protocol begins where a word does not. -/
theorem quoted_og {unit : UInt16} {rest : JsString} {least : Nat}
    (apart : isWordUnit unit = false) : quoted (js "og:") least (unit :: rest) = none := by
  have other : opensWith (unit :: rest) (js "og:") = false := by
    rw [Bool.eq_false_iff, ne_eq, opensWith_iff]
    intro same
    have letter : lower unit = 111 := (cons.inj same).1
    rw [lower] at letter
    split at letter
    · rename_i upper
      rw [isWordUnit, upper, Bool.or_true, Bool.true_or, Bool.true_or] at apart
      cases apart
    · rw [letter] at apart
      cases apart
  rw [quoted, other]
  rfl

theorem findIdx?_append_cons {text : JsString} (absent : (62 : UInt16) ∉ text) (rest : JsString) :
    (text ++ 62 :: rest).findIdx? (· = 62) = some text.length := by
  induction text with
  | nil => rfl
  | cons unit text hypothesis =>
    have here : unit ≠ 62 := fun same => absent (same ▸ mem_cons_self)
    rw [cons_append, findIdx?_cons, if_neg (by simpa using here),
      hypothesis fun inside => absent (mem_cons_of_mem unit inside)]
    rfl

/-- The pattern for tags takes a tag up to its end. -/
theorem tagRe_tagText (some : attributes ≠ []) (shut : closing.contains 62 = false) :
    tagRe (tagText attributes closing ++ after) =
      Option.some (js "<meta" ++ (attributes.flatMap Attribute.text ++ closing)).length := by
  obtain ⟨attr, others, rfl⟩ := exists_cons_of_ne_nil some
  have whole : tagText (attr :: others) closing ++ after =
      (js "<meta" ++ ((attr :: others).flatMap Attribute.text ++ closing)) ++ 62 :: after := by
    simp only [tagText, append_assoc, cons_append, nil_append]
  have opens : opensWith (tagText (attr :: others) closing ++ after) (js "<meta") = true := rfl
  have bounded : (tagText (attr :: others) closing ++ after)[5]?.any isWordUnit = false := by
    obtain ⟨unit, more, apart, same⟩ :=
      Attribute.exists_gap (cons_ne_nil attr others) (closing ++ [62] ++ after)
    have fifth : (tagText (attr :: others) closing ++ after)[5]? = Option.some unit := by
      rw [tagText, append_assoc, append_assoc, same]
      rfl
    rw [fifth]
    exact apart
  have absent :
      (62 : UInt16) ∉ js "<meta" ++ ((attr :: others).flatMap Attribute.text ++ closing) := by
    intro inside
    rcases mem_append.mp inside with opening | inside
    · exact absurd opening (by decide)
    · rcases mem_append.mp inside with within | end'
      · obtain ⟨other, -, inside⟩ := mem_flatMap.mp within
        exact other.plain_pieces.2.2 inside
      · rw [contains_iff_mem.mpr end'] at shut
        cases shut
  rw [tagRe, opens, bounded, whole, findIdx?_append_cons absent]
  rfl

theorem matchesIn_tagText (some : attributes ≠ []) (shut : closing.contains 62 = false) :
    matchesIn tagRe (tagText attributes closing ++ after) =
      tagText attributes closing :: matchesIn tagRe after := by
  let inner := js "meta" ++ (attributes.flatMap Attribute.text ++ (closing ++ [62]))
  have found : tagRe (60 :: (inner ++ after)) = Option.some inner.length := by
    refine (tagRe_tagText some shut).trans (congrArg Option.some ?_)
    have letters : (js "<meta").length = (js "meta").length + 1 := rfl
    simp only [inner, letters, length_append, length_singleton]
    omega
  calc matchesIn tagRe (60 :: (inner ++ after))
      = (60 :: (inner ++ after).take inner.length) ::
          matchesIn tagRe ((inner ++ after).drop inner.length) := matchesIn_of_some found
    _ = tagText attributes closing :: matchesIn tagRe after := by
        rw [take_left, drop_left]
        rfl

theorem tagRe_eq_some {text : JsString} {more : Nat} (found : tagRe text = some more) :
    opensWith text (js "<meta") = true ∧ text.findIdx? (· = 62) = some more := by
  rw [tagRe, Option.ite_none_right_eq_some, Bool.and_eq_true] at found
  exact ⟨found.1.1, found.2⟩

/-- A tag does not begin in one text and end in another that begins with a tag. -/
theorem opensWith_append (begun : part ≠ []) (rest : JsString) :
    opensWith (part ++ 60 :: rest) (js "<meta") = opensWith part (js "<meta") := by
  rw [Bool.eq_iff_iff, opensWith_iff, opensWith_iff]
  match part, begun with
  | [_], _ =>
    refine iff_of_false (fun same => ?_) fun same => ?_
    · have second : some 60 = some (109 : UInt16) := congrArg (·[1]?) same
      cases second
    · cases congrArg List.length same
  | [_, _], _ =>
    refine iff_of_false (fun same => ?_) fun same => ?_
    · have third : some 60 = some (101 : UInt16) := congrArg (·[2]?) same
      cases third
    · cases congrArg List.length same
  | [_, _, _], _ =>
    refine iff_of_false (fun same => ?_) fun same => ?_
    · have fourth : some 60 = some (116 : UInt16) := congrArg (·[3]?) same
      cases fourth
    · cases congrArg List.length same
  | [_, _, _, _], _ =>
    refine iff_of_false (fun same => ?_) fun same => ?_
    · have fifth : some 60 = some (97 : UInt16) := congrArg (·[4]?) same
      cases fifth
    · cases congrArg List.length same
  | _ :: _ :: _ :: _ :: _ :: _, _ => exact Iff.rfl

theorem tagRe_append (begun : part ≠ [])
    (shut : (!opensWith part (js "<meta") || part.contains 62) = true) (rest : JsString) :
    tagRe (part ++ 60 :: rest) = tagRe part := by
  rw [tagRe, tagRe, opensWith_append begun]
  cases opens : opensWith part (js "<meta") with
  | false => rfl
  | true =>
    rw [opens, Bool.not_true, Bool.false_or, contains_iff_mem] at shut
    have same := opensWith_iff.mp opens
    have long : 5 < part.length := by
      by_contra short
      have all : part.take (js "<meta").length = part :=
        take_of_length_le (Nat.le_of_not_lt short)
      rw [all] at same
      have inside : lower 62 ∈ part.map lower := mem_map_of_mem shut
      rw [same] at inside
      exact absurd inside (by decide)
    have found : (part.findIdx? (· = 62)).isSome = true := by
      rw [findIdx?_isSome, any_eq_true]
      exact ⟨62, shut, decide_eq_true rfl⟩
    rw [getElem?_append_left long, findIdx?_append, Option.or_of_isSome found]

theorem le_of_tagRe {first : UInt16} {text : JsString} {more : Nat}
    (found : tagRe (first :: text) = some more) : more ≤ text.length := by
  obtain ⟨bound, -⟩ := findIdx?_eq_some_iff_getElem.mp (tagRe_eq_some found).2
  exact Nat.le_of_lt_succ bound

end Tags

namespace TitledPage

variable {toLowerCase : JsString → JsString} (page : TitledPage toLowerCase)

theorem attributes_ne_nil : page.attributes ≠ [] := ne_nil_of_mem page.property_mem

/-- The tags of a page, with that of its title where it stands. -/
theorem matchesIn_html :
    matchesIn tagRe page.html =
      matchesIn tagRe page.before ++ page.tag :: matchesIn tagRe page.after := by
  rw [html, matchesIn_append, tag, matchesIn_tagText page.attributes_ne_nil page.closing_plain]
  intro first part inside
  have shut := all_eq_true.mp page.before_shut _ ((mem_tails _ _).mpr inside)
  exact ⟨tagRe_append (cons_ne_nil first part) shut _, fun more => le_of_tagRe⟩

/-- The tag of a page's title holds it. -/
theorem contentOf_tag (ascii : toLowerCase (js "title") = js "title") :
    contentOf toLowerCase (js "title") page.tag = some (encodeHTMLEntities page.title) := by
  have named : search (attr (js "property") (js "og:") 1) page.tag = some (js "title") := by
    rw [tag, tagText, search_meta (by decide), Attribute.search_attributes (by decide)
      (by rw [page.property_name]; decide) (by rw [page.property_value]; decide)
      (by rw [page.property_value]; decide)
      (fun other member => (page.single other member).1.imp_right fun apart =>
        ⟨apart, .inr fun _ _ => quoted_og⟩)
      page.property_mem, page.property_value]
    rfl
  have held : search (attr (js "content") [] 0) page.tag =
      some (encodeHTMLEntities page.title) := by
    rw [tag, tagText, search_meta (by decide), Attribute.search_attributes (by decide)
      (by rw [page.content_name]; decide) rfl (Nat.zero_le _)
      (fun other member => (page.single other member).2.imp_right (And.imp_right .inl))
      page.content_mem, page.content_value]
    rfl
  rw [contentOf, named, held]
  dsimp only [Option.some_or]
  rw [ascii]
  rfl

theorem firstContent_html (ascii : toLowerCase (js "title") = js "title") :
    firstContent toLowerCase (js "title") page.html = some (encodeHTMLEntities page.title) := by
  have earlier : (matchesIn tagRe page.before).findSome? (contentOf toLowerCase (js "title")) =
      none := findSome?_eq_none_iff.mpr page.before_untitled
  rw [firstContent, page.matchesIn_html, findSome?_append, earlier, Option.none_or,
    findSome?_cons, page.contentOf_tag ascii]

end TitledPage

/-! ## The title -/

section Title

variable {toLowerCase : JsString → JsString}

/-- A title is read as a text if what the first tag with a title holds decodes to the text, and
where no tag has one, if the title element has the text. -/
theorem title_eq_some_iff (html origin protocol text : JsString) :
    (parseOG toLowerCase html origin protocol).title = some text ↔
      match firstContent toLowerCase (js "title") html with
      | some content => decodeHTMLEntities content = text
      | none => (search titleElement html).map trim = some text := by
  rw [parseOG, metaText]
  cases firstContent toLowerCase (js "title") html with
  | none => rw [Option.map_none, Option.none_or]
  | some content => rw [Option.map_some, Option.some_or, Option.some.injEq]

/-- When a title comes back from a page. Where the content that is come to first holds the title
with its special characters replaced by entities, it comes back if and only if none of the
entities that are decoded after `&amp;` occurs in it as a text; so it is for every page whose first
Open Graph title holds it, with the attributes in any order, if nothing else is taken for it. -/
theorem title_comes_back_iff (ascii : toLowerCase (js "title") = js "title") :
    (∀ html origin protocol title,
      (parseOG toLowerCase html origin protocol).title = some title ↔
        match firstContent toLowerCase (js "title") html with
        | some content =>
            (content = encodeHTMLEntities title ∧ Unmistakable title) ∨
              (content ≠ encodeHTMLEntities title ∧ decodeHTMLEntities content = title)
        | none => (search titleElement html).map trim = some title) ∧
    ∀ (page : TitledPage toLowerCase) (origin protocol : JsString),
      firstContent toLowerCase (js "title") page.html = some (encodeHTMLEntities page.title) ∧
        ((parseOG toLowerCase page.html origin protocol).title = some page.title ↔
          Unmistakable page.title) := by
  constructor
  · intro html origin protocol title
    rw [title_eq_some_iff]
    cases firstContent toLowerCase (js "title") html with
    | none => exact Iff.rfl
    | some content =>
        dsimp only
        rcases eq_or_ne content (encodeHTMLEntities title) with rfl | other
        · rw [decode_encode_eq_self_iff]
          exact ⟨fun plain => .inl ⟨rfl, plain⟩,
            fun either => either.elim And.right fun instead => absurd rfl instead.1⟩
        · exact ⟨fun decoded => .inr ⟨other, decoded⟩,
            fun either => either.elim (fun held => absurd held.1 other) And.right⟩
  · intro page origin protocol
    have first := page.firstContent_html ascii
    refine ⟨first, ?_⟩
    rw [title_eq_some_iff, first]
    exact decode_encode_eq_self_iff page.title

/-- A page whose tag has the content before the property. -/
def samplePage (title : JsString)
    (plain : ([32] ++ js "content" ++ encodeHTMLEntities title).all
      (fun unit => !isQuote unit && unit ≠ 62) = true) : TitledPage (·.map lower) where
  title := title
  before := js "<!doctype html><html><head><meta charset=\"utf-8\">"
  property := ⟨[32], js "property", js "og:title", rfl, by decide⟩
  content := ⟨[32], js "content", encodeHTMLEntities title, rfl, plain⟩
  attributes := [⟨[32], js "content", encodeHTMLEntities title, rfl, plain⟩,
    ⟨[32], js "property", js "og:title", rfl, by decide⟩]
  closing := js " /"
  after := js "</head></html>"
  property_name := rfl
  property_value := rfl
  content_name := rfl
  content_value := rfl
  property_mem := List.mem_cons_of_mem _ List.mem_cons_self
  content_mem := List.mem_cons_self
  single := by
    intro attr member
    rcases List.mem_cons.mp member with rfl | member
    · exact ⟨.inr rfl, .inl rfl⟩
    · obtain rfl := List.mem_singleton.mp member
      exact ⟨.inl rfl, .inr ⟨rfl, rfl⟩⟩
  closing_plain := rfl
  before_shut := by decide
  before_untitled := by decide

theorem title_comes_back : (parseOG (·.map lower)
    (samplePage (js "R&D <\"it's\"> &amp;") (by decide)).html [] []).title =
      some (js "R&D <\"it's\"> &amp;") :=
  (((title_comes_back_iff (by decide)).2 (samplePage _ (by decide)) [] []).2).mpr (by decide)

theorem title_is_decoded_twice : ¬ ∀ (page : TitledPage (·.map lower)) (origin protocol : JsString),
    (parseOG (·.map lower) page.html origin protocol).title = some page.title := by
  intro every
  exact absurd (every (samplePage (js "Use &lt;b&gt;") (by decide)) [] []) (by decide)

end Title

end Oembed

end Vortex.Web
