import Mathlib.Data.List.Infix

/-!
# Matches and entities

A text is cut at the matches of a pattern, from the left to the right. Where the matches are the
entities that stand for some elements, replacing them undoes an encoding: a table of entities is
decoded one entity after the other, and what a text loses on the way there and back is what it
would lose if it were decoded without having been encoded.
-/

namespace Foundation

open List

universe u v

variable {α : Type u} {β : Type v}

/-! ## Matches in a text -/

/-- The elements of a text at which no match begins, and the matches. `size` is how many elements
a match has behind its first one, and the first `skip` elements belong to a match already. -/
def cuts (size : List α → Option Nat) : Nat → List α → List (α ⊕ List α)
  | _, [] => []
  | skip + 1, _ :: text => cuts size skip text
  | 0, first :: text =>
      match size (first :: text) with
      | none => .inl first :: cuts size 0 text
      | some more => .inr (first :: text.take more) :: cuts size more text

def matchesIn (size : List α → Option Nat) (text : List α) : List (List α) :=
  (cuts size 0 text).filterMap Sum.getRight?

/-- A text with one element for each match. -/
def replaceBy (size : List α → Option Nat) (element : α) (text : List α) : List α :=
  (cuts size 0 text).map (Sum.elim id fun _ => element)

/-- What is found at the first place of a text where something is. -/
def search (find : List α → Option β) (text : List α) : Option β := text.tails.findSome? find

section Matches

variable {size : List α → Option Nat} {element first : α} {text before rest : List α} {more : Nat}

theorem cuts_drop (size : List α → Option Nat) (skip : Nat) (text : List α) :
    cuts size skip text = cuts size 0 (text.drop skip) := by
  induction text generalizing skip with
  | nil => rw [drop_nil, cuts, cuts]
  | cons first text hypothesis =>
    cases skip with
    | zero => rfl
    | succ skip => exact hypothesis skip

theorem cuts_of_none (none : size (first :: text) = none) :
    cuts size 0 (first :: text) = .inl first :: cuts size 0 text := by
  rw [cuts, none]

theorem cuts_of_some (found : size (first :: text) = some more) :
    cuts size 0 (first :: text) =
      .inr (first :: text.take more) :: cuts size 0 (text.drop more) := by
  rw [cuts, found, ← cuts_drop]

theorem replaceBy_of_none (none : size (first :: text) = none) :
    replaceBy size element (first :: text) = first :: replaceBy size element text := by
  rw [replaceBy, cuts_of_none none]
  rfl

theorem replaceBy_of_some (found : size (first :: text) = some more) :
    replaceBy size element (first :: text) =
      element :: replaceBy size element (text.drop more) := by
  rw [replaceBy, cuts_of_some found]
  rfl

/-- The matches of a text are those of its parts, where none reaches from one into the other. -/
theorem matchesIn_append (whole : ∀ first part, first :: part <:+ before →
      size (first :: part ++ rest) = size (first :: part) ∧
        ∀ more, size (first :: part) = some more → more ≤ part.length) :
    matchesIn size (before ++ rest) = matchesIn size before ++ matchesIn size rest := by
  suffices same : ∀ skip part, part <:+ before → skip ≤ part.length →
      cuts size skip (part ++ rest) = cuts size skip part ++ cuts size 0 rest by
    rw [matchesIn, same 0 before suffix_rfl (Nat.zero_le _), filterMap_append]
    rfl
  intro skip part inside
  induction part generalizing skip with
  | nil =>
    intro enough
    obtain rfl : skip = 0 := Nat.le_zero.mp enough
    rfl
  | cons first part hypothesis =>
    intro enough
    have behind : part <:+ before := (suffix_cons first part).trans inside
    cases skip with
    | succ skip => exact hypothesis skip behind (Nat.le_of_succ_le_succ enough)
    | zero =>
      obtain ⟨same, within⟩ := whole first part inside
      rw [cons_append] at same ⊢
      rw [cuts, cuts, same]
      cases found : size (first :: part) with
      | none => exact congrArg _ (hypothesis 0 behind (Nat.zero_le _))
      | some more =>
        have fits := within more found
        dsimp only
        rw [hypothesis more behind fits, take_append_of_le_length fits, cons_append]

theorem matchesIn_of_some (found : size (first :: text) = some more) :
    matchesIn size (first :: text) =
      (first :: text.take more) :: matchesIn size (text.drop more) := by
  rw [matchesIn, cuts_of_some found]
  rfl

theorem search_of_none {find : List α → Option β} (none : find (first :: text) = none) :
    search find (first :: text) = search find text := by
  rw [search, tails_cons, findSome?_cons, none]
  rfl

theorem search_of_some {find : List α → Option β} {result : β}
    (found : find (first :: text) = some result) : search find (first :: text) = some result := by
  rw [search, tails_cons, findSome?_cons, found]

end Matches

/-! ## Entities -/

/-- An element with the texts that stand for it. The first of them is the one it is written as. -/
structure Entity (α : Type u) where
  element : α
  text : List α
  others : List (List α)

namespace Entity

def texts (entity : Entity α) : List (List α) := entity.text :: entity.others

theorem text_mem (entity : Entity α) : entity.text ∈ entity.texts := mem_cons_self

variable [DecidableEq α]

/-- How many elements an entity at the beginning of a text has behind the first one. -/
def size? (entity : Entity α) (text : List α) : Option Nat :=
  (entity.texts.find? (·.isPrefixOf text)).map (·.length - 1)

def decode (entity : Entity α) (text : List α) : List α :=
  replaceBy entity.size? entity.element text

/-- The entities of a table, replaced one after the other. -/
def decodeAll (entities : List (Entity α)) (text : List α) : List α :=
  entities.foldl (fun text entity => entity.decode text) text

def encodeUnit (entities : List (Entity α)) (unit : α) : List α :=
  ((entities.find? (·.element = unit)).map text).getD [unit]

/-- A text with the entities of a table for their elements. -/
def encodeAll (entities : List (Entity α)) (text : List α) : List α :=
  text.flatMap (encodeUnit entities)

/-- What a table must be for its entities not to be taken for one another: each of their texts
begins with a marker, has none of the elements behind it, and does not begin with another. -/
structure Table (marker : α) (entities : List (Entity α)) : Prop where
  marked : ∀ entity ∈ entities, ∀ text ∈ entity.texts, text.head? = some marker ∧ text.tail ≠ [] ∧
    marker ∉ text.tail ∧ ∀ other ∈ entities, other.element ∉ text.tail
  apart : entities.Pairwise fun entity other => entity.element ≠ other.element ∧
    ∀ text ∈ entity.texts, ∀ foreign ∈ other.texts, ¬ text <+: foreign ∧ ¬ foreign <+: text

section Units

variable {entity other : Entity α} {entities : List (Entity α)} {marker unit : α}
  {text rest body : List α}

theorem size?_eq_none : entity.size? text = none ↔ ∀ chunk ∈ entity.texts, ¬ chunk <+: text := by
  simp only [size?, Option.map_eq_none_iff, find?_eq_none, isPrefixOf_iff_prefix]

theorem size?_eq_some {more : Nat} (found : entity.size? text = some more) :
    ∃ chunk ∈ entity.texts, chunk <+: text ∧ more = chunk.length - 1 := by
  obtain ⟨chunk, first, rfl⟩ := Option.map_eq_some_iff.mp found
  exact ⟨chunk, mem_of_find?_eq_some first,
    isPrefixOf_iff_prefix.mp (find?_some (p := (List.isPrefixOf · text)) first), rfl⟩

/-- The text an element is written as is the first that is looked for. -/
theorem size?_text_append (entity : Entity α) (rest : List α) :
    entity.size? (entity.text ++ rest) = some (entity.text.length - 1) := by
  have opens : entity.text.isPrefixOf (entity.text ++ rest) = true :=
    isPrefixOf_iff_prefix.mpr (prefix_append _ _)
  rw [size?, texts, find?_cons_of_pos (p := (List.isPrefixOf · _)) opens]
  rfl

theorem decode_of_none (none : entity.size? (unit :: text) = none) :
    entity.decode (unit :: text) = unit :: entity.decode text :=
  replaceBy_of_none none

/-- An entity at the beginning of a text is decoded. -/
theorem decode_of_some
    (found : entity.size? (unit :: (body ++ rest)) = some ((unit :: body).length - 1)) :
    entity.decode (unit :: (body ++ rest)) = entity.element :: entity.decode rest := by
  rw [decode, replaceBy_of_some found, length_cons, Nat.add_sub_cancel, drop_left, decode]

/-- Where the same texts of an entity begin, the same is found. -/
theorem size?_congr {elsewhere : List α}
    (same : ∀ chunk ∈ entity.texts, chunk <+: text ↔ chunk <+: elsewhere) :
    entity.size? text = entity.size? elsewhere := by
  have alike (chunks : List (List α)) (within : ∀ chunk ∈ chunks, chunk ∈ entity.texts) :
      chunks.find? (·.isPrefixOf text) = chunks.find? (·.isPrefixOf elsewhere) := by
    induction chunks with
    | nil => rfl
    | cons chunk chunks hypothesis =>
      obtain ⟨here, within⟩ := forall_mem_cons.mp within
      have first : chunk.isPrefixOf text = chunk.isPrefixOf elsewhere := by
        rw [Bool.eq_iff_iff, isPrefixOf_iff_prefix, isPrefixOf_iff_prefix]
        exact same chunk here
      rw [find?_cons, find?_cons, first, hypothesis within]
  rw [size?, alike entity.texts fun _ => id, size?]

theorem encodeUnit_of_ne (other : entity.element ≠ unit) :
    encodeUnit (entity :: entities) unit = encodeUnit entities unit := by
  rw [encodeUnit, find?_cons_of_neg (by simpa using other), encodeUnit]

theorem encodeUnit_element (entity : Entity α) (entities : List (Entity α)) :
    encodeUnit (entity :: entities) entity.element = entity.text := by
  rw [encodeUnit, find?_cons_of_pos (by simp)]
  rfl

/-- A unit is kept or written as one of the entities. -/
theorem encodeUnit_cases (entities : List (Entity α)) (unit : α) :
    encodeUnit entities unit = [unit] ∨
      ∃ entity ∈ entities, entity.element = unit ∧ encodeUnit entities unit = entity.text := by
  rw [encodeUnit]
  cases found : entities.find? (·.element = unit) with
  | none => exact .inl rfl
  | some entity =>
    have same : entity.element = unit := by simpa using find?_some found
    exact .inr ⟨entity, mem_of_find?_eq_some found, same, rfl⟩

theorem encodeUnit_plain (plain : ∀ entity ∈ entities, entity.element ≠ unit) :
    encodeUnit entities unit = [unit] := by
  rcases encodeUnit_cases entities unit with kept | ⟨entity, member, same, -⟩
  · exact kept
  · exact absurd same (plain entity member)

theorem encodeAll_cons (entities : List (Entity α)) (unit : α) (text : List α) :
    encodeAll entities (unit :: text) = encodeUnit entities unit ++ encodeAll entities text :=
  rfl

theorem encodeAll_append (entities : List (Entity α)) (text rest : List α) :
    encodeAll entities (text ++ rest) = encodeAll entities text ++ encodeAll entities rest :=
  flatMap_append

theorem encodeAll_plain (plain : ∀ entity ∈ entities, entity.element ∉ text) :
    encodeAll entities text = text := by
  induction text with
  | nil => rfl
  | cons unit text hypothesis =>
    rw [encodeAll_cons, encodeUnit_plain fun entity member same =>
        plain entity member (same ▸ mem_cons_self),
      hypothesis fun entity member inside =>
        plain entity member (mem_cons_of_mem unit inside)]
    rfl

end Units

/-! ## Decoding what was encoded -/

namespace Table

variable {entity other : Entity α} {entities : List (Entity α)} {marker unit : α}
  {text rest body chunk : List α}

omit [DecidableEq α] in
theorem tail (table : Table marker (entity :: entities)) : Table marker entities where
  marked other member chunk among :=
    let ⟨opens, filled, once, plain⟩ :=
      table.marked other (mem_cons_of_mem entity member) chunk among
    ⟨opens, filled, once, fun third inside => plain third (mem_cons_of_mem entity inside)⟩
  apart := table.apart.of_cons

omit [DecidableEq α] in
/-- The texts of an entity are a marker and a body. -/
theorem exists_body (table : Table marker entities) (member : entity ∈ entities)
    (among : chunk ∈ entity.texts) :
    ∃ body, chunk = marker :: body ∧ body ≠ [] ∧ marker ∉ body ∧
      ∀ other ∈ entities, other.element ∉ body := by
  obtain ⟨opens, filled, once, plain⟩ := table.marked entity member chunk among
  obtain ⟨body, rfl⟩ := head?_eq_some_iff.mp opens
  exact ⟨body, rfl, filled, once, plain⟩

/-- No entity begins without the marker. -/
theorem size?_of_ne (table : Table marker entities) (member : entity ∈ entities)
    (other : unit ≠ marker) : entity.size? (unit :: text) = none := by
  rw [size?_eq_none]
  intro chunk among opens
  obtain ⟨body, rfl, -⟩ := table.exists_body member among
  exact other (cons_prefix_cons.mp opens).1.symm

theorem decode_unmarked (table : Table marker entities) (member : entity ∈ entities)
    (plain : marker ∉ text) (rest : List α) :
    entity.decode (text ++ rest) = text ++ entity.decode rest := by
  induction text with
  | nil => rfl
  | cons unit text hypothesis =>
    have here : unit ≠ marker := fun same => plain (same ▸ mem_cons_self)
    have later : marker ∉ text := fun inside => plain (mem_cons_of_mem unit inside)
    rw [cons_append, decode_of_none (table.size?_of_ne member here), hypothesis later]
    rfl

/-- A unit that is not a marker, or is the one the entity stands for, is decoded alone. -/
theorem decode_encodeUnit (table : Table marker (entity :: entities))
    (alone : unit ≠ marker ∨ unit = entity.element) (rest : List α) :
    entity.decode (encodeUnit (entity :: entities) unit ++ rest) =
      encodeUnit entities unit ++ entity.decode rest := by
  have member : entity ∈ entity :: entities := mem_cons_self
  obtain ⟨apart, -⟩ := pairwise_cons.mp table.apart
  by_cases own : entity.element = unit
  · subst own
    obtain ⟨body, same, -⟩ := table.exists_body member entity.text_mem
    have found := entity.size?_text_append rest
    rw [encodeUnit_element, encodeUnit_plain fun other inside => (apart other inside).1.symm]
    rw [same, cons_append] at found ⊢
    rw [decode_of_some found]
    rfl
  · have unmarked : unit ≠ marker := alone.resolve_right fun same => own same.symm
    rw [encodeUnit_of_ne own]
    rcases encodeUnit_cases entities unit with kept | ⟨other, inside, -, written⟩
    · rw [kept]
      exact table.decode_unmarked member (by simpa using unmarked.symm) rest
    · obtain ⟨body, same, -, once, -⟩ :=
        table.exists_body (mem_cons_of_mem entity inside) other.text_mem
      have foreign : entity.size? (marker :: (body ++ rest)) = none := by
        rw [size?_eq_none]
        intro chunk among opens
        rw [← cons_append, ← same] at opens
        have distinct := (apart other inside).2 chunk among other.text other.text_mem
        rcases prefix_or_prefix_of_prefix opens (prefix_append other.text rest) with
          shorter | longer
        · exact distinct.1 shorter
        · exact distinct.2 longer
      rw [written, same, cons_append, decode_of_none foreign, table.decode_unmarked member once]
      rfl

/-- What is neither a marker nor an element begins an encoded text where it begins the text. -/
theorem prefix_encodeAll (table : Table marker entities) (once : marker ∉ body)
    (plain : ∀ entity ∈ entities, entity.element ∉ body) :
    body <+: encodeAll entities text ↔ body <+: text := by
  induction body generalizing text with
  | nil => exact iff_of_true nil_prefix nil_prefix
  | cons first body hypothesis =>
    cases text with
    | nil => exact Iff.rfl
    | cons unit text =>
      have later : marker ∉ body := fun inside => once (mem_cons_of_mem first inside)
      have others : ∀ entity ∈ entities, entity.element ∉ body :=
        fun entity member inside => plain entity member (mem_cons_of_mem first inside)
      rw [encodeAll_cons, cons_prefix_cons]
      rcases encodeUnit_cases entities unit with kept | ⟨entity, member, rfl, written⟩
      · rw [kept, singleton_append, cons_prefix_cons, hypothesis later others]
      · obtain ⟨rest, same, -⟩ := table.exists_body member entity.text_mem
        rw [written, same, cons_append, cons_prefix_cons]
        refine iff_of_false (fun opens => ?_) fun opens => ?_
        · exact once (opens.1 ▸ mem_cons_self)
        · exact plain entity member (opens.1 ▸ mem_cons_self)

/-- Where the marker is not encoded, an entity is replaced in an encoded text as in the text. -/
theorem decode_encodeAll (table : Table marker (entity :: entities))
    (raw : ∀ other ∈ entity :: entities, other.element ≠ marker) (text : List α) :
    entity.decode (encodeAll (entity :: entities) text) =
      encodeAll entities (entity.decode text) := by
  have member : entity ∈ entity :: entities := mem_cons_self
  obtain ⟨apart, -⟩ := pairwise_cons.mp table.apart
  induction size : text.length using Nat.strong_induction_on generalizing text with
  | _ length hypothesis =>
    subst size
    cases text with
    | nil => rfl
    | cons unit text =>
      have shorter := hypothesis text.length (Nat.lt_succ_self _) text rfl
      by_cases marked : unit = marker
      · subst marked
        have same : entity.size? (unit :: encodeAll (entity :: entities) text) =
            entity.size? (unit :: text) := by
          refine size?_congr fun chunk among => ?_
          obtain ⟨body, rfl, -, once, plain⟩ := table.exists_body member among
          rw [cons_prefix_cons, cons_prefix_cons, table.prefix_encodeAll once plain]
        rw [encodeAll_cons, encodeUnit_plain raw, singleton_append]
        cases found : entity.size? (unit :: text) with
        | none =>
          rw [decode_of_none (same.trans found), decode_of_none found, shorter, encodeAll_cons,
            encodeUnit_plain fun other inside => raw other (mem_cons_of_mem _ inside)]
          rfl
        | some more =>
          obtain ⟨chunk, among, opens, rfl⟩ := size?_eq_some found
          obtain ⟨body, rfl, -, -, plain⟩ := table.exists_body member among
          obtain ⟨rest, rfl⟩ := (cons_prefix_cons.mp opens).2
          have fewer : rest.length < (unit :: (body ++ rest)).length := by
            rw [length_cons, length_append]
            omega
          rw [encodeAll_append, encodeAll_plain plain] at same ⊢
          rw [decode_of_some (same.trans found), decode_of_some found,
            hypothesis rest.length fewer rest rfl, encodeAll_cons,
            encodeUnit_plain fun other inside => (apart other inside).1.symm]
          rfl
      · rw [encodeAll_cons, table.decode_encodeUnit (.inl marked), shorter,
          decode_of_none (table.size?_of_ne member marked), encodeAll_cons]

/-- Where the marker is encoded, its entity is replaced for each marker and nowhere else. -/
theorem decode_encodeAll_marker (table : Table marker (entity :: entities))
    (first : entity.element = marker) (text : List α) :
    entity.decode (encodeAll (entity :: entities) text) = encodeAll entities text := by
  induction text with
  | nil => rfl
  | cons unit text hypothesis =>
    have alone : unit ≠ marker ∨ unit = entity.element := by
      rw [first]
      exact (eq_or_ne unit marker).symm
    rw [encodeAll_cons, table.decode_encodeUnit alone, hypothesis, encodeAll_cons]

theorem decodeAll_encodeAll (table : Table marker entities)
    (raw : ∀ entity ∈ entities, entity.element ≠ marker) (text : List α) :
    decodeAll entities (encodeAll entities text) = decodeAll entities text := by
  induction entities generalizing text with
  | nil => exact congrArg (decodeAll []) (encodeAll_plain (forall_mem_nil _))
  | cons entity entities hypothesis =>
    rw [decodeAll, foldl_cons, table.decode_encodeAll raw, ← decodeAll,
      hypothesis table.tail fun other inside => raw other (mem_cons_of_mem _ inside)]
    rfl

/-- Decoding the marker first, an encoded text comes back as the text decoded without it. -/
theorem decodeAll_encodeAll_marker (table : Table marker (entity :: entities))
    (first : entity.element = marker) (text : List α) :
    decodeAll (entity :: entities) (encodeAll (entity :: entities) text) =
      decodeAll entities text := by
  obtain ⟨apart, -⟩ := pairwise_cons.mp table.apart
  rw [decodeAll, foldl_cons, table.decode_encodeAll_marker first, ← decodeAll]
  exact table.tail.decodeAll_encodeAll
    (fun other inside same => (apart other inside).1 (first.trans same.symm)) text

/-! ## Texts that decoding leaves alone -/

/-- Decoding an entity leaves a text without it alone, and makes every other text shorter. -/
theorem decode_cases (table : Table marker entities) (member : entity ∈ entities) (text : List α) :
    (entity.decode text = text ∧ ∀ chunk ∈ entity.texts, ¬ chunk <:+: text) ∨
      ((entity.decode text).length < text.length ∧ ∃ chunk ∈ entity.texts, chunk <:+: text) := by
  induction size : text.length using Nat.strong_induction_on generalizing text with
  | _ length hypothesis =>
    subst size
    cases text with
    | nil =>
      refine .inl ⟨rfl, fun chunk among inside => ?_⟩
      obtain ⟨body, rfl, -⟩ := table.exists_body member among
      cases infix_nil.mp inside
    | cons unit text =>
      have behind := hypothesis text.length (Nat.lt_succ_self _) text rfl
      cases found : entity.size? (unit :: text) with
      | none =>
        rw [decode_of_none found]
        rcases behind with ⟨same, absent⟩ | ⟨shorter, chunk, among, inside⟩
        · refine .inl ⟨congrArg (unit :: ·) same, fun chunk among inside => ?_⟩
          rcases infix_cons_iff.mp inside with opens | later
          · exact size?_eq_none.mp found chunk among opens
          · exact absent chunk among later
        · exact .inr ⟨Nat.succ_lt_succ shorter, chunk, among,
            inside.trans (suffix_cons unit text).isInfix⟩
      | some more =>
        obtain ⟨chunk, among, opens, rfl⟩ := size?_eq_some found
        obtain ⟨body, rfl, filled, -⟩ := table.exists_body member among
        obtain ⟨rest, rfl⟩ := (cons_prefix_cons.mp opens).2
        have fewer : rest.length < (unit :: (body ++ rest)).length := by
          rw [length_cons, length_append]
          omega
        have bound : (entity.decode rest).length ≤ rest.length := by
          rcases hypothesis rest.length fewer rest rfl with ⟨same, -⟩ | ⟨shorter, -⟩
          · rw [same]
          · exact shorter.le
        have positive : 0 < body.length := length_pos_iff.mpr filled
        refine .inr ⟨?_, _, among, opens.isInfix⟩
        rw [decode_of_some found, length_cons, length_cons, length_append]
        omega

theorem length_decodeAll_le (table : Table marker entities) (text : List α) :
    (decodeAll entities text).length ≤ text.length := by
  induction entities generalizing text with
  | nil => exact le_rfl
  | cons entity entities hypothesis =>
    refine (hypothesis table.tail (entity.decode text)).trans ?_
    rcases table.decode_cases mem_cons_self text with ⟨same, -⟩ | ⟨shorter, -⟩
    · rw [same]
    · exact shorter.le

/-- Decoding leaves exactly those texts alone in which no entity occurs. -/
theorem decodeAll_eq_self_iff (table : Table marker entities) (text : List α) :
    decodeAll entities text = text ↔
      ∀ entity ∈ entities, ∀ chunk ∈ entity.texts, ¬ chunk <:+: text := by
  induction entities with
  | nil => exact iff_of_true rfl (forall_mem_nil _)
  | cons entity entities hypothesis =>
    rw [forall_mem_cons, decodeAll, foldl_cons, ← decodeAll]
    rcases table.decode_cases mem_cons_self text with ⟨same, absent⟩ | ⟨shorter, present⟩
    · rw [same, hypothesis table.tail]
      exact (and_iff_right absent).symm
    · refine iff_of_false (fun same => ?_) fun ⟨absent, _⟩ => ?_
      · have bound := table.tail.length_decodeAll_le (entity.decode text)
        rw [same] at bound
        exact Nat.lt_irrefl _ (shorter.trans_le bound)
      · obtain ⟨chunk, among, inside⟩ := present
        exact absent chunk among inside

end Table

end Entity

end Foundation
