import Mathlib.Data.List.Infix

/-!
# Patterns and replacements

A pattern is a row of pieces, of which each takes one element of a class, as many as there are, or
at most one. A rule replaces each match of its pattern by a chunk, from the left to the right; where
a chunk begins with an element that only begins a match, no match reaches from what is kept into it.
-/

namespace Foundation

open List

universe u

variable {α : Type u}

/-! ## Pieces -/

/-- A part of a pattern, with the class of the elements it takes. -/
inductive Piece (α : Type u) where
  | one (accepts : α → Bool)
  | many (accepts : α → Bool)
  | optional (accepts : α → Bool)

namespace Piece

def accepts : Piece α → α → Bool
  | one p | many p | optional p => p

/-- Whether a piece takes the same whatever follows. -/
def bounded : Piece α → Bool
  | one _ => true
  | many _ | optional _ => false

/-- What a piece leaves of a text. It takes what it can. -/
def eat : Piece α → List α → Option (List α)
  | one _, [] => none
  | one p, first :: text => if p first then some text else none
  | many p, text => some (text.dropWhile p)
  | optional _, [] => some []
  | optional p, first :: text => some (if p first then text else first :: text)

/-- What pieces leave of a text, one after the other. -/
def eatAll : List (Piece α) → List α → Option (List α)
  | [], text => some text
  | piece :: pieces, text => (piece.eat text).bind (eatAll pieces)

/-- Pieces that match nothing where a piece before them could have taken more of a longer text. -/
def closed : List (Piece α) → Bool
  | [] => true
  | piece :: pieces => (piece.bounded || (eatAll pieces []).isNone) && closed pieces

/-- Whether pieces match no text with the given beginning. -/
def refutes : List (Piece α) → List α → Bool
  | [], _ => false
  | piece :: pieces, part =>
      match piece.eat part with
      | none => !part.isEmpty
      | some rest => (piece.bounded || !rest.isEmpty) && refutes pieces rest

section Eat

variable {piece : Piece α} {pieces : List (Piece α)} {text rest more : List α} {unit : α}

theorem eat_suffix (eaten : piece.eat text = some rest) : rest <:+ text := by
  cases piece with
  | one p =>
    cases text with
    | nil => cases eaten
    | cons first text =>
      simp only [eat, Option.ite_none_right_eq_some, Option.some.injEq] at eaten
      exact eaten.2 ▸ suffix_cons first text
  | many p => exact Option.some.inj eaten ▸ dropWhile_suffix p
  | optional p =>
    cases text with
    | nil => exact Option.some.inj eaten ▸ suffix_rfl
    | cons first text =>
      rw [← Option.some.inj eaten]
      split
      · exact suffix_cons first text
      · exact suffix_rfl

/-- A piece that stops inside a text stops there in a longer one. -/
theorem eat_append (eaten : piece.eat text = some rest) (stops : piece.bounded = true ∨ rest ≠ [])
    (more : List α) : piece.eat (text ++ more) = some (rest ++ more) := by
  cases piece with
  | one p =>
    cases text with
    | nil => cases eaten
    | cons first text =>
      simp only [eat, Option.ite_none_right_eq_some, Option.some.injEq] at eaten
      rw [cons_append, eat, if_pos eaten.1, eaten.2]
  | many p =>
    have left := Option.some.inj eaten
    have some : rest ≠ [] := stops.resolve_left nofun
    rw [eat, dropWhile_append, left, if_neg (by rwa [List.isEmpty_iff])]
  | optional p =>
    cases text with
    | nil => exact absurd (Option.some.inj eaten).symm (stops.resolve_left nofun)
    | cons first text =>
      rw [← Option.some.inj eaten, cons_append, eat]
      split
      · rfl
      · rfl

/-- A piece that fails inside a text fails there in a longer one. -/
theorem eat_append_none (fails : piece.eat text = none) (some : text ≠ []) (more : List α) :
    piece.eat (text ++ more) = none := by
  cases text with
  | nil => exact absurd rfl some
  | cons first text =>
    cases piece with
    | one p =>
      simp only [eat, ite_eq_right_iff, reduceCtorEq, imp_false] at fails
      rw [cons_append, eat, if_neg fails]
    | many p => cases fails
    | optional p => cases fails

/-- A piece leaves an element it does not accept, and all behind it. -/
theorem eat_foreign (foreign : piece.accepts unit = false)
    (eaten : piece.eat (text ++ unit :: more) = some rest) :
    ∃ kept, rest = kept ++ unit :: more ∧ piece.eat text = some kept := by
  cases piece with
  | one p =>
    cases text with
    | nil =>
      rw [nil_append, eat, if_neg (by rw [show p unit = false from foreign]; exact nofun)] at eaten
      cases eaten
    | cons first text =>
      simp only [cons_append, eat, Option.ite_none_right_eq_some, Option.some.injEq] at eaten
      exact ⟨text, eaten.2.symm, if_pos eaten.1⟩
  | many p =>
    refine ⟨text.dropWhile p, ?_, rfl⟩
    rw [← Option.some.inj eaten, dropWhile_append,
      dropWhile_cons_of_neg (by rw [show p unit = false from foreign]; exact nofun)]
    split
    · rename_i empty
      rw [List.isEmpty_iff.mp empty, nil_append]
    · rfl
  | optional p =>
    cases text with
    | nil =>
      rw [nil_append, eat, if_neg (by rw [show p unit = false from foreign]; exact nofun)] at eaten
      exact ⟨[], (Option.some.inj eaten).symm, rfl⟩
    | cons first text =>
      refine ⟨if p first then text else first :: text, ?_, rfl⟩
      rw [← Option.some.inj eaten]
      split
      · rfl
      · rfl

theorem eatAll_suffix (eaten : eatAll pieces text = some rest) : rest <:+ text := by
  induction pieces generalizing text with
  | nil => exact Option.some.inj eaten ▸ suffix_rfl
  | cons piece pieces hypothesis =>
    obtain ⟨left, first, others⟩ := Option.bind_eq_some_iff.mp eaten
    exact (hypothesis others).trans (eat_suffix first)

theorem eatAll_append (stops : closed pieces = true) (eaten : eatAll pieces text = some rest)
    (more : List α) : eatAll pieces (text ++ more) = some (rest ++ more) := by
  induction pieces generalizing text with
  | nil => exact congrArg (some <| · ++ more) (Option.some.inj eaten)
  | cons piece pieces hypothesis =>
    obtain ⟨left, first, others⟩ := Option.bind_eq_some_iff.mp eaten
    obtain ⟨here, stops⟩ := Bool.and_eq_true_iff.mp stops
    have inside : piece.bounded = true ∨ left ≠ [] := by
      refine (Bool.or_eq_true_iff.mp here).imp_right fun fails empty => ?_
      rw [empty, Option.isNone_iff_eq_none.mp fails] at others
      cases others
    rw [eatAll, eat_append first inside, Option.bind_some, hypothesis stops others]

theorem eatAll_foreign (foreign : ∀ piece ∈ pieces, piece.accepts unit = false)
    (eaten : eatAll pieces (text ++ unit :: more) = some rest) :
    ∃ kept, rest = kept ++ unit :: more ∧ eatAll pieces text = some kept := by
  induction pieces generalizing text with
  | nil => exact ⟨text, (Option.some.inj eaten).symm, rfl⟩
  | cons piece pieces hypothesis =>
    obtain ⟨left, first, others⟩ := Option.bind_eq_some_iff.mp eaten
    obtain ⟨here, foreign⟩ := forall_mem_cons.mp foreign
    obtain ⟨left, rfl, kept⟩ := eat_foreign here first
    obtain ⟨rest, same, left⟩ := hypothesis foreign others
    exact ⟨rest, same, by rw [eatAll, kept, Option.bind_some, left]⟩

theorem eatAll_of_refutes (refuted : refutes pieces text = true) (more : List α) :
    eatAll pieces (text ++ more) = none := by
  induction pieces generalizing text with
  | nil => cases refuted
  | cons piece pieces hypothesis =>
    rw [refutes] at refuted
    rw [eatAll]
    cases eaten : piece.eat text with
    | none =>
      rw [eaten] at refuted
      rw [eat_append_none eaten (by rintro rfl; cases refuted), Option.bind_none]
    | some left =>
      rw [eaten] at refuted
      obtain ⟨stops, refuted⟩ := Bool.and_eq_true_iff.mp refuted
      have inside : piece.bounded = true ∨ left ≠ [] :=
        (Bool.or_eq_true_iff.mp stops).imp_right fun some empty => by
          rw [empty] at some
          cases some
      rw [eat_append eaten inside, Option.bind_some, hypothesis refuted]

end Eat

end Piece

/-! ## Patterns -/

/-- An element of a class, followed by pieces. -/
structure Pattern (α : Type u) where
  first : α → Bool
  others : List (Piece α)
  closed : Piece.closed others = true

namespace Pattern

/-- What a match at the beginning of a text leaves of it. -/
def match? (pattern : Pattern α) : List α → Option (List α)
  | [] => none
  | first :: text => if pattern.first first then Piece.eatAll pattern.others text else none

/-- Every match in a text is followed by what is harmless. -/
def Guarded (pattern : Pattern α) (harmless : List α → Prop) (text : List α) : Prop :=
  ∀ part rest, part <:+ text → pattern.match? part = some rest → harmless rest

/-- A text without a match. -/
def Absent (pattern : Pattern α) : List α → Prop := pattern.Guarded fun _ => False

/-- A chunk that no match reaches into, and in which only harmless ones begin. -/
structure Settled (pattern : Pattern α) (harmless : List α → Prop) (chunk : List α) : Prop where
  opens : ∃ first rest, chunk = first :: rest ∧
    ∀ piece ∈ pattern.others, piece.accepts first = false
  inside : ∀ part, part ≠ [] → part <:+ chunk →
    ∀ more rest, pattern.match? (part ++ more) = some rest → harmless rest

/-- Whether a pattern matches no text with the given beginning. -/
def refutes (pattern : Pattern α) : List α → Bool
  | [] => false
  | first :: text => !pattern.first first || Piece.refutes pattern.others text

/-- Whether the beginning of a chunk only begins a match. -/
def keepsOut (pattern : Pattern α) (chunk : List α) : Bool :=
  chunk.head?.any fun first => pattern.others.all (!·.accepts first)

/-- Whether no match begins in a chunk. -/
def refutesIn (pattern : Pattern α) (chunk : List α) : Bool :=
  chunk.tails.all fun part => part.isEmpty || pattern.refutes part

section Matches

variable {pattern : Pattern α} {harmless : List α → Prop} {text rest chunk : List α}

section

variable (found : pattern.match? text = some rest)

include found

theorem match?_eq_some :
    ∃ first left, text = first :: left ∧ pattern.first first = true ∧
      Piece.eatAll pattern.others left = some rest := by
  cases text with
  | nil => cases found
  | cons first left =>
    rw [match?, Option.ite_none_right_eq_some] at found
    exact ⟨first, left, rfl, found⟩

theorem match?_suffix : rest <:+ text.tail := by
  obtain ⟨first, left, rfl, -, eaten⟩ := match?_eq_some found
  exact Piece.eatAll_suffix eaten

theorem match?_append (more : List α) :
    pattern.match? (text ++ more) = some (rest ++ more) := by
  obtain ⟨first, left, rfl, begins, eaten⟩ := match?_eq_some found
  rw [cons_append, match?, if_pos begins, Piece.eatAll_append pattern.closed eaten]

end

theorem match?_of_refutes (refuted : pattern.refutes text = true) (more : List α) :
    pattern.match? (text ++ more) = none := by
  cases text with
  | nil => cases refuted
  | cons first text =>
    rw [cons_append, match?]
    split
    · rename_i begins
      rw [refutes, begins] at refuted
      exact Piece.eatAll_of_refutes refuted more
    · rfl

theorem Guarded.mono {other : List α → Prop} (guarded : pattern.Guarded harmless text)
    (weaker : ∀ rest, harmless rest → other rest) : pattern.Guarded other text :=
  fun part rest inside found => weaker rest (guarded part rest inside found)

theorem guarded_of_tails {ok : List α → Bool}
    (every : text.tails.all (fun part => (pattern.match? part).all ok) = true) :
    pattern.Guarded (ok · = true) text := by
  intro part rest inside found
  have here := all_eq_true.mp every part ((mem_tails part text).mpr inside)
  rwa [found, Option.all_some] at here

/-- Where a text is cut off, what follows a match is a beginning of what is harmless. -/
theorem Guarded.take (guarded : pattern.Guarded harmless text) (count : Nat) :
    pattern.Guarded (fun rest => ∃ more, harmless (rest ++ more) ∧
        (more = [] ∨ (text.take count).length = count)) (text.take count) := by
  rintro part rest ⟨before, whole⟩ found
  refine ⟨text.drop count, ?_, ?_⟩
  · refine guarded (part ++ text.drop count) _ ⟨before, ?_⟩ (match?_append found _)
    rw [← append_assoc, whole, take_append_drop]
  · rw [drop_eq_nil_iff, length_take]
    omega

theorem Absent.take (absent : pattern.Absent text) (count : Nat) :
    pattern.Absent (text.take count) :=
  (Guarded.take absent count).mono fun _ ⟨_, never, _⟩ => never

theorem exists_foreign (foreign : pattern.keepsOut chunk = true) :
    ∃ first rest, chunk = first :: rest ∧
      ∀ piece ∈ pattern.others, piece.accepts first = false := by
  cases chunk with
  | nil => cases foreign
  | cons first rest =>
    refine ⟨first, rest, rfl, fun piece member => ?_⟩
    exact (Bool.not_eq_true' _).mp (all_eq_true.mp foreign piece member)

theorem match?_of_refutesIn (refuted : pattern.refutesIn chunk = true) {part : List α}
    (some : part ≠ []) (within : part <:+ chunk) (more : List α) :
    pattern.match? (part ++ more) = none := by
  have here := all_eq_true.mp refuted part ((mem_tails part chunk).mpr within)
  rw [isEmpty_eq_false_iff.mpr some, Bool.false_or] at here
  exact match?_of_refutes here more

/-- No match reaches into such a chunk or begins in it. -/
theorem settled_of_refutesIn (foreign : pattern.keepsOut chunk = true)
    (refuted : pattern.refutesIn chunk = true) : pattern.Settled harmless chunk where
  opens := exists_foreign foreign
  inside part some within more rest found := by
    rw [match?_of_refutesIn refuted some within] at found
    cases found

end Matches

end Pattern

/-! ## Replacements -/

/-- Puts a chunk made from the elements matched in place of a match, where what follows it is as
the rule asks for. -/
structure Rule (α : Type u) where
  pattern : Pattern α
  follows : List α → Bool
  insert : List α → List α

namespace Rule

/-- The chunk for a match at the beginning of a text, and what is left of the text. -/
def find (rule : Rule α) (text : List α) : Option (List α × List α) :=
  (rule.pattern.match? text).bind fun rest =>
    if rule.follows rest then some (rule.insert (text.take (text.length - rest.length)), rest)
    else none

def replaceWithin (rule : Rule α) : Nat → List α → List α
  | 0, text => text
  | _ + 1, [] => []
  | fuel + 1, first :: text =>
      match rule.find (first :: text) with
      | none => first :: rule.replaceWithin fuel text
      | some (chunk, rest) => chunk ++ rule.replaceWithin fuel rest

/-- A text with every match replaced. The search goes on behind a match. -/
def replace (rule : Rule α) (text : List α) : List α := rule.replaceWithin text.length text

/-- What a rule makes of a text. -/
inductive Replaced (rule : Rule α) : List α → List α → Prop
  | nil : Replaced rule [] []
  | keep (first : α) {text out : List α} (none : rule.find (first :: text) = none)
      (others : Replaced rule text out) : Replaced rule (first :: text) (first :: out)
  | hit {text chunk rest out : List α} (found : rule.find text = some (chunk, rest))
      (others : Replaced rule rest out) : Replaced rule text (chunk ++ out)

section Replace

variable {rule : Rule α} {pattern : Pattern α} {harmless : List α → Prop}
  {text chunk rest out : List α}

theorem find_eq_some (found : rule.find text = some (chunk, rest)) :
    rule.pattern.match? text = some rest ∧ rule.follows rest = true ∧
      ∃ matched, chunk = rule.insert matched := by
  obtain ⟨left, matched, result⟩ := Option.bind_eq_some_iff.mp found
  rw [Option.ite_none_right_eq_some] at result
  obtain ⟨follows, same⟩ := result
  cases same
  exact ⟨matched, follows, _, rfl⟩

theorem find_suffix (found : rule.find text = some (chunk, rest)) : rest <:+ text.tail :=
  Pattern.match?_suffix (find_eq_some found).1

/-- A rule that finds nothing meets no match, or one with what it does not ask for behind it. -/
theorem follows_of_find_eq_none (nothing : rule.find text = none)
    (matched : rule.pattern.match? text = some rest) : rule.follows rest = false := by
  rw [find, matched, Option.bind_some] at nothing
  simpa using nothing

theorem replaced_replaceWithin (fuel : Nat) (enough : text.length ≤ fuel) :
    Replaced rule text (rule.replaceWithin fuel text) := by
  induction fuel generalizing text with
  | zero =>
    rw [eq_nil_of_length_eq_zero (Nat.le_zero.mp enough)]
    exact .nil
  | succ fuel hypothesis =>
    cases text with
    | nil => exact .nil
    | cons first text =>
      have fewer : text.length ≤ fuel := Nat.le_of_succ_le_succ enough
      rw [replaceWithin]
      split
      · rename_i nothing
        exact .keep first nothing (hypothesis fewer)
      · rename_i chunk rest found
        exact .hit found (hypothesis ((find_suffix found).length_le.trans fewer))

theorem replaced_replace (rule : Rule α) (text : List α) : Replaced rule text (rule.replace text) :=
  replaced_replaceWithin text.length le_rfl

/-- A text in which a rule finds nothing stays as it is. -/
theorem replaceWithin_eq_self (nothing : ∀ part, part <:+ text → rule.find part = none)
    (fuel : Nat) : rule.replaceWithin fuel text = text := by
  induction fuel generalizing text with
  | zero => rfl
  | succ fuel hypothesis =>
    cases text with
    | nil => rfl
    | cons first text =>
      rw [replaceWithin, nothing _ suffix_rfl]
      exact congrArg (first :: ·) (hypothesis fun part inside =>
        nothing part (inside.trans (suffix_cons first text)))

theorem replace_eq_self (guarded : rule.pattern.Guarded (rule.follows · = false) text) :
    rule.replace text = text := by
  refine replaceWithin_eq_self (fun part inside => ?_) _
  cases matched : rule.pattern.match? part with
  | none => rw [find, matched, Option.bind_none]
  | some rest =>
    rw [find, matched, Option.bind_some, if_neg (by rw [guarded part rest inside matched]; nofun)]

/-- The beginning that is kept reaches to the end of the text or to a chunk. -/
theorem Replaced.kept (replaced : Replaced rule text out) :
    out = text ∨ ∃ kept part chunk others, text = kept ++ part ∧ out = kept ++ chunk ++ others ∧
      rule.find part ≠ none ∧ ∃ matched, chunk = rule.insert matched := by
  induction replaced with
  | nil => exact .inl rfl
  | keep first none others hypothesis =>
    rcases hypothesis with same | ⟨kept, part, chunk, rest, text, out, found⟩
    · exact .inl (congrArg (first :: ·) same)
    · exact .inr ⟨first :: kept, part, chunk, rest, congrArg (first :: ·) text,
        congrArg (first :: ·) out, found⟩
  | hit found others hypothesis =>
    refine .inr ⟨[], _, _, _, rfl, rfl, ?_, (find_eq_some found).2.2⟩
    rw [found]
    exact nofun

/-- What a rule makes of a text is guarded if its chunks are settled, and if what is kept of the
text was guarded and stays so where something else follows it. -/
theorem Replaced.guarded (replaced : Replaced rule text out)
    (settled : ∀ matched, pattern.Settled harmless (rule.insert matched))
    (later : ∀ kept part others,
      rule.find part ≠ none → harmless (kept ++ part) → harmless (kept ++ others))
    (guarded : ∀ part rest, part <:+ text → rule.find part = none →
      pattern.match? part = some rest → harmless rest) : pattern.Guarded harmless out := by
  induction replaced with
  | nil =>
    intro part rest inside found
    rw [suffix_nil.mp inside] at found
    cases found
  | @keep first text out nothing others hypothesis =>
    intro part rest inside found
    rcases suffix_cons_iff.mp inside with rfl | inside
    · obtain ⟨_, _, same, begins, eaten⟩ := Pattern.match?_eq_some found
      cases same
      rcases others.kept with rfl | ⟨kept, part, chunk, others, rfl, rfl, hit, matched, rfl⟩
      · exact guarded _ rest suffix_rfl nothing found
      · obtain ⟨unit, chunk, same, foreign⟩ := (settled matched).opens
        rw [same, append_assoc, cons_append] at eaten
        obtain ⟨left, rfl, ends⟩ := Piece.eatAll_foreign foreign eaten
        apply later left part _ hit
        apply guarded (first :: (kept ++ part)) _ suffix_rfl nothing
        rw [Pattern.match?, if_pos begins, Piece.eatAll_append pattern.closed ends]
    · exact hypothesis (fun part rest within =>
        guarded part rest (within.trans (suffix_cons first text))) part rest inside found
  | @hit text chunk left out found others hypothesis =>
    have behind : pattern.Guarded harmless out :=
      hypothesis fun part rest within => guarded part rest
        (within.trans ((find_suffix found).trans (tail_suffix text)))
    rintro part rest ⟨before, whole⟩ begins
    obtain ⟨matched, rfl⟩ := (find_eq_some found).2.2
    rcases append_eq_append_iff.mp whole with ⟨part, chunk, rfl⟩ | ⟨between, -, rfl⟩
    · cases part with
      | nil => exact behind _ rest suffix_rfl begins
      | cons first part =>
        exact (settled matched).inside _ (cons_ne_nil first part) ⟨before, chunk.symm⟩
          out rest begins
    · exact behind part rest (suffix_append between part) begins

theorem absent_replace (settled : ∀ matched, pattern.Settled (fun _ => False) (rule.insert matched))
    (absent : pattern.Absent text) : pattern.Absent (rule.replace text) :=
  (replaced_replace rule text).guarded settled (fun _ _ _ _ => id)
    fun part rest inside _ => absent part rest inside

/-- A rule that replaces every match leaves none. -/
theorem absent_replace_self (always : ∀ rest, rule.follows rest = true)
    (settled : ∀ matched, rule.pattern.Settled (fun _ => False) (rule.insert matched)) :
    rule.pattern.Absent (rule.replace text) := by
  apply (replaced_replace rule text).guarded settled (fun _ _ _ _ => id)
  intro part rest inside nothing matched
  cases (always rest).symm.trans (follows_of_find_eq_none nothing matched)

end Replace

/-! ## Rules one after the other -/

/-- What rules make of a text, each of what the one before it has made. -/
def replaceAll (rules : List (Rule α)) (text : List α) : List α :=
  rules.foldl (fun text rule => rule.replace text) text

section ReplaceAll

variable {rules : List (Rule α)} {pattern : Pattern α} {text : List α}

theorem replaceAll_cons (rule : Rule α) (rules : List (Rule α)) (text : List α) :
    replaceAll (rule :: rules) text = replaceAll rules (rule.replace text) :=
  rfl

theorem absent_replaceAll_of_absent
    (settled : ∀ rule ∈ rules, ∀ matched, pattern.Settled (fun _ => False) (rule.insert matched))
    (absent : pattern.Absent text) : pattern.Absent (replaceAll rules text) := by
  induction rules generalizing text with
  | nil => exact absent
  | cons rule rules hypothesis =>
    obtain ⟨here, settled⟩ := forall_mem_cons.mp settled
    exact hypothesis settled (absent_replace here absent)

/-- Once a pattern is replaced everywhere, it does not come back where no chunk brings it. -/
theorem absent_replaceAll {rule : Rule α} (member : rule ∈ rules)
    (always : ∀ rest, rule.follows rest = true)
    (settled : ∀ other ∈ rules, ∀ matched,
      rule.pattern.Settled (fun _ => False) (other.insert matched)) :
    rule.pattern.Absent (replaceAll rules text) := by
  induction rules generalizing text with
  | nil => cases member
  | cons other rules hypothesis =>
    obtain ⟨here, later⟩ := forall_mem_cons.mp settled
    rw [replaceAll_cons]
    rcases mem_cons.mp member with rfl | member
    · exact absent_replaceAll_of_absent later (absent_replace_self always here)
    · exact hypothesis member later

/-- A text in which no rule finds anything stays as it is. -/
theorem replaceAll_eq_self
    (guarded : ∀ rule ∈ rules, rule.pattern.Guarded (rule.follows · = false) text) :
    replaceAll rules text = text := by
  induction rules with
  | nil => rfl
  | cons rule rules hypothesis =>
    obtain ⟨here, guarded⟩ := forall_mem_cons.mp guarded
    rw [replaceAll_cons, replace_eq_self here, hypothesis guarded]

end ReplaceAll

end Rule

end Foundation
