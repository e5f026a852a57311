import Mathlib.Data.List.DropRight
import Mathlib.Data.List.Infix

/-!
# Stripping and cutting lists

`strip` removes what satisfies a predicate from both ends of a list. `cutAt` cuts a list at the
first occurrence of a marker; where the first element of the marker is not in the rest of it, an
occurrence does not overlap another one.
-/

namespace Foundation

open List

universe u

variable {α : Type u}

/-! ## Stripping -/

/-- A list without what satisfies a predicate at its ends. -/
def strip (p : α → Bool) (list : List α) : List α := (list.dropWhile p).rdropWhile p

section Strip

variable {p : α → Bool} {list ending : List α}

theorem strip_eq_self (opens : ∀ first, list.head? = some first → p first = false)
    (closes : ∀ last, list.getLast? = some last → p last = false) : strip p list = list := by
  have kept : list.dropWhile p = list := by
    cases list with
    | nil => rfl
    | cons first rest =>
      exact dropWhile_cons_of_neg (by rw [opens first rfl]; exact nofun)
  rw [strip, kept, rdropWhile_eq_self_iff]
  intro some
  rw [closes _ (getLast?_eq_getLast_of_ne_nil some)]
  exact nofun

theorem head_dropWhile {first : α} (opens : (list.dropWhile p).head? = some first) :
    p first = false := by
  have stops := head?_dropWhile_not p list
  rw [opens] at stops
  exact stops

theorem head_strip {first : α} (opens : (strip p list).head? = some first) : p first = false := by
  obtain ⟨rest, same⟩ := head?_eq_some_iff.mp opens
  obtain ⟨ending, whole⟩ := rdropWhile_prefix p (list.dropWhile p)
  rw [← strip, same, cons_append] at whole
  exact head_dropWhile (by rw [← whole, head?_cons])

theorem last_strip {last : α} (closes : (strip p list).getLast? = some last) : p last = false := by
  rw [strip, List.rdropWhile, getLast?_eq_head?_reverse, reverse_reverse] at closes
  exact head_dropWhile closes

theorem strip_sublist (p : α → Bool) (list : List α) : (strip p list).Sublist list :=
  (List.rdropWhile_prefix p _).sublist.trans (dropWhile_sublist p)

theorem strip_strip (p : α → Bool) (list : List α) : strip p (strip p list) = strip p list :=
  strip_eq_self (fun _ => head_strip) fun _ => last_strip

/-- What is stripped at the end of a list may be left out before. -/
theorem strip_append (stripped : ∀ value ∈ ending, p value = true) :
    strip p (list ++ ending) = strip p list := by
  unfold strip
  rw [dropWhile_append]
  split
  · rename_i empty
    rw [List.isEmpty_iff.mp empty, dropWhile_eq_nil_iff.mpr stripped]
  · rw [List.rdropWhile, reverse_append,
      dropWhile_append_of_pos fun value member => stripped value (mem_reverse.mp member),
      ← List.rdropWhile]

/-- What is not stripped is kept. -/
theorem filter_strip (p : α → Bool) (list : List α) :
    (strip p list).filter (!p ·) = list.filter (!p ·) := by
  have dropped {stripped : List α} (every : ∀ value ∈ stripped, p value = true) :
      stripped.filter (!p ·) = [] := by
    refine filter_eq_nil_iff.mpr fun value member => ?_
    rw [every value member]
    exact nofun
  have first : (list.dropWhile p).filter (!p ·) = list.filter (!p ·) := by
    have parts :=
      congrArg (List.filter (!p ·)) (takeWhile_append_dropWhile (p := p) (l := list))
    rw [filter_append, dropped fun _ => mem_takeWhile_imp, nil_append] at parts
    exact parts
  have parts := congrArg (List.filter (!p ·))
    (rdropWhile_append_rtakeWhile (p := p) (l := list.dropWhile p))
  rw [filter_append, dropped fun _ => mem_rtakeWhile_imp, append_nil] at parts
  exact parts.trans first

end Strip

/-! ## Markers -/

section Markers

variable {first separator : α} {rest list before after ending : List α}

/-- A marker does not begin in a list that is before another one without holding it. -/
theorem not_prefix_of_absent (lone : first ∉ rest) (some : before ≠ [])
    (absent : ¬ first :: rest <:+: before) :
    ¬ first :: rest <+: before ++ (first :: rest ++ after) := by
  intro opens
  rcases prefix_or_prefix_of_prefix opens (prefix_append before _) with inside | longer
  · exact absent inside.isInfix
  · obtain ⟨beyond, same⟩ := longer
    have onwards : before ++ beyond <+: before ++ (first :: rest ++ after) := by
      rw [same]
      exact opens
    rw [prefix_append_right_inj] at onwards
    cases beyond with
    | nil =>
      rw [append_nil] at same
      exact absent (by rw [same])
    | cons value beyond =>
      obtain rfl : value = first := (cons_prefix_cons.mp onwards).1
      obtain ⟨other, before, rfl⟩ := exists_cons_of_ne_nil some
      apply lone
      rw [← (cons.inj same).2]
      exact mem_append_right _ mem_cons_self

/-- The first occurrence of a marker. -/
theorem exists_first (present : first :: rest <:+: list) :
    ∃ before after, list = before ++ (first :: rest ++ after) ∧ ¬ first :: rest <:+: before := by
  induction list with
  | nil => cases infix_nil.mp present
  | cons value list ih =>
    by_cases here : first :: rest <+: value :: list
    · obtain ⟨after, same⟩ := here
      exact ⟨[], after, same.symm, fun inside => by cases infix_nil.mp inside⟩
    · have inside : first :: rest <:+: list := (infix_cons_iff.mp present).resolve_left here
      obtain ⟨before, after, rfl, absent⟩ := ih inside
      refine ⟨value :: before, after, rfl, fun earlier => ?_⟩
      rcases infix_cons_iff.mp earlier with opens | later
      · exact here (opens.trans (prefix_append _ _))
      · exact absent later

/-- A marker that shares nothing with the end of a list is before it. -/
theorem infix_of_append (plain : ∀ value ∈ first :: rest, value ∉ ending)
    (present : first :: rest <:+: list ++ ending) : first :: rest <:+: list := by
  rcases infix_append_iff_ne_nil.mp present with inside | outside | ⟨left, right, -, some, whole,
    -, opens⟩
  · exact inside
  · exact absurd (outside.subset mem_cons_self) (plain first mem_cons_self)
  · obtain ⟨value, right, rfl⟩ := exists_cons_of_ne_nil some
    have member : value ∈ first :: rest := by
      rw [whole]
      exact mem_append_right _ mem_cons_self
    exact absurd (opens.subset mem_cons_self) (plain value member)

theorem infix_append_cons_iff (plain : separator ∉ first :: rest) :
    first :: rest <:+: list ++ separator :: ending ↔
      first :: rest <:+: list ∨ first :: rest <:+: ending := by
  constructor
  · intro present
    rcases infix_append_iff_ne_nil.mp present with inside | outside | ⟨left, right, -, some,
      whole, -, opens⟩
    · exact .inl inside
    · rcases infix_cons_iff.mp outside with here | later
      · exact absurd (by rw [(cons_prefix_cons.mp here).1]; exact mem_cons_self) plain
      · exact .inr later
    · obtain ⟨value, right, rfl⟩ := exists_cons_of_ne_nil some
      refine absurd ?_ plain
      rw [whole, ← (cons_prefix_cons.mp opens).1]
      exact mem_append_right _ mem_cons_self
  · rintro (inside | later)
    · exact infix_append_of_infix_left inside
    · exact infix_append_of_infix_right (later.trans (suffix_cons _ _).isInfix)

/-- A marker that holds no separator is in one of the joined lists. -/
theorem infix_intercalate_iff {lists : List (List α)} (plain : separator ∉ first :: rest) :
    first :: rest <:+: [separator].intercalate lists ↔ ∃ list ∈ lists, first :: rest <:+: list := by
  induction lists with
  | nil => simp
  | cons list lists ih =>
    cases lists with
    | nil => simp
    | cons other others =>
      rw [intercalate_cons_of_ne_nil (cons_ne_nil _ _), append_assoc,
        singleton_append, infix_append_cons_iff plain, ih]
      simp only [mem_cons, exists_eq_or_imp]

end Markers

/-! ## Cutting -/

/-- What is before and after the first occurrence of a marker. -/
def cutAt [DecidableEq α] (marker : List α) : List α → Option (List α × List α)
  | [] => if marker = [] then some ([], []) else none
  | value :: list =>
      if marker <+: value :: list then some ([], (value :: list).drop marker.length)
      else (cutAt marker list).map fun (before, after) => (value :: before, after)

/-- A list without the marker that the marker follows is cut there. -/
theorem cutAt_append [DecidableEq α] {first : α} {rest before after : List α} (lone : first ∉ rest)
    (absent : ¬ first :: rest <:+: before) :
    cutAt (first :: rest) (before ++ (first :: rest ++ after)) = some (before, after) := by
  induction before with
  | nil =>
    have here : first :: rest <+: first :: (rest ++ after) :=
      prefix_append (first :: rest) after
    rw [nil_append, cons_append, cutAt, if_pos here, ← cons_append, drop_left]
  | cons value before ih =>
    have later : ¬ first :: rest <:+: before := fun inside =>
      absent (inside.trans (suffix_cons value before).isInfix)
    have elsewhere : ¬ first :: rest <+: value :: (before ++ (first :: rest ++ after)) :=
      not_prefix_of_absent lone (cons_ne_nil value before) absent
    rw [cons_append, cutAt, if_neg elsewhere, ih later, Option.map_some]

end Foundation
