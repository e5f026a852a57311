import Mathlib.Data.List.Infix
import Vortex.Foundation.JsText

/-!
# Paths on disk

Absolute POSIX paths as the segments below the root, and what `path.resolve` and
`path.relative` make of them. A text made of names is resolved to the names themselves,
below the directory it is resolved against.
-/

variable {segments : List JsString} {segment : JsString}

namespace Foundation

open List

/-- The segments of an absolute path, from the root. -/
abbrev DiskPath : Type := List JsString

namespace DiskPath

/-- One segment of a text: nothing and `.` stay, `..` leaves, a name enters. -/
def enter (path : DiskPath) (segment : JsString) : DiskPath :=
  if segment = [] ∨ segment = js "." then path
  else if segment = js ".." then path.dropLast
  else path ++ [segment]

/-- `path.resolve(directory, text)` -/
def resolve (directory : DiskPath) (text : JsString) : DiskPath :=
  (text.splitOn 47).foldl enter (if text.head? = some 47 then [] else directory)

/-- The part of the second path after what it shares with the first, and how many segments
of the first are not shared. -/
def diverge : DiskPath → DiskPath → Nat × DiskPath
  | first :: source, second :: target =>
      if first = second then diverge source target else ((first :: source).length, second :: target)
  | source, target => (source.length, target)

/-- `path.relative(directory, path)` -/
def relative (directory path : DiskPath) : JsString :=
  let (up, down) := diverge directory path
  [47].intercalate (List.replicate up (js "..") ++ down)

/-- A segment that names something. -/
def IsName (segment : JsString) : Prop :=
  segment ≠ [] ∧ segment ≠ js "." ∧ segment ≠ js ".." ∧ (47 : UInt16) ∉ segment

instance (segment : JsString) : Decidable (IsName segment) := inferInstanceAs (Decidable (_ ∧ _))

variable {directory path : DiskPath}

theorem enter_name (name : IsName segment) : enter path segment = path ++ [segment] := by
  obtain ⟨some, stay, leave, -⟩ := name
  unfold enter
  rw [if_neg, if_neg leave]
  intro either
  rcases either with empty | dot
  · exact some empty
  · exact stay dot

theorem foldl_enter_names (names : ∀ segment ∈ segments, IsName segment) :
    segments.foldl enter path = path ++ segments := by
  induction segments generalizing path with
  | nil => exact (append_nil path).symm
  | cons segment rest ih =>
    rw [foldl_cons, enter_name (names segment mem_cons_self),
      ih fun later member => names later (mem_cons_of_mem _ member), append_assoc]
    rfl

/-- Where nothing leaves, what is entered stays above. -/
theorem prefix_foldl_enter (stays : ∀ segment ∈ segments, segment ≠ js "..") :
    path <+: segments.foldl enter path := by
  induction segments generalizing path with
  | nil => exact prefix_refl path
  | cons segment rest ih =>
    have first : path <+: enter path segment := by
      unfold enter
      rw [if_neg (stays segment mem_cons_self)]
      split
      · exact prefix_refl path
      · exact prefix_append path [segment]
    exact first.trans (ih fun later member => stays later (mem_cons_of_mem _ member))

/-- What is cut at a unit does not hold it. -/
theorem not_mem_of_mem_splitOn {separator : UInt16} {text : JsString}
    (member : segment ∈ text.splitOn separator) : separator ∉ segment := by
  induction text generalizing segment with
  | nil =>
    rw [splitOn_nil, mem_singleton] at member
    rw [member]
    exact not_mem_nil
  | cons unit rest ih =>
    rw [splitOn_cons_eq_if_modifyHead] at member
    split at member
    · rcases mem_cons.mp member with same | later
      · rw [same]
        exact not_mem_nil
      · exact ih later
    · rename_i other
      cases cut : rest.splitOn separator with
      | nil => exact absurd cut (splitOn_ne_nil separator rest)
      | cons first others =>
        rw [cut] at ih member
        rcases mem_cons.mp member with same | later
        · rw [same]
          intro inside
          rcases mem_cons.mp inside with here | there
          · exact other (beq_iff_eq.mpr here.symm)
          · exact ih mem_cons_self there
        · exact ih (mem_cons_of_mem _ later)

/-- Segments without points only enter, or stay. -/
theorem foldl_enter_of_not_mem (plain : ∀ segment ∈ segments, (46 : UInt16) ∉ segment) :
    segments.foldl enter path = path ++ segments.filter (· ≠ []) := by
  induction segments generalizing path with
  | nil => exact (append_nil path).symm
  | cons segment rest ih =>
    obtain ⟨here, later⟩ := forall_mem_cons.mp plain
    have dot : segment ≠ js "." := fun same => here (same ▸ (by decide))
    have leave : segment ≠ js ".." := fun same => here (same ▸ (by decide))
    rw [foldl_cons, ih later]
    by_cases empty : segment = []
    · subst empty
      rfl
    · unfold enter
      have kept : (segment :: rest).filter (· ≠ []) = segment :: rest.filter (· ≠ []) :=
        filter_cons_of_pos (decide_eq_true empty)
      rw [if_neg (not_or.mpr ⟨empty, dot⟩), if_neg leave, kept, append_assoc]
      rfl

theorem named_enter (named : ∀ name ∈ path, IsName name) (whole : (47 : UInt16) ∉ segment) :
    ∀ name ∈ enter path segment, IsName name := by
  unfold enter
  split
  · exact named
  · rename_i moves
    obtain ⟨some, stay⟩ := not_or.mp moves
    split
    · exact fun name member => named name (mem_of_mem_dropLast member)
    · rename_i leave
      intro name member
      rcases mem_append.mp member with earlier | last
      · exact named name earlier
      · rw [mem_singleton.mp last]
        exact ⟨some, stay, leave, whole⟩

theorem named_resolve {text : JsString} (named : ∀ name ∈ directory, IsName name) :
    ∀ name ∈ resolve directory text, IsName name := by
  have entered : ∀ (segments : List JsString) (path : DiskPath),
      (∀ segment ∈ segments, (47 : UInt16) ∉ segment) → (∀ name ∈ path, IsName name) →
      ∀ name ∈ segments.foldl enter path, IsName name := by
    intro segments
    induction segments with
    | nil => exact fun path _ named => named
    | cons segment rest ih =>
      intro path whole named
      obtain ⟨here, later⟩ := forall_mem_cons.mp whole
      exact ih (enter path segment) later (named_enter named here)
  refine entered _ _ (fun segment => not_mem_of_mem_splitOn) ?_
  split
  · exact fun name member => nomatch member
  · exact named

theorem resolve_append_cons {first second : JsString} (relative : first.head? ≠ some 47)
    (some : first ≠ []) : resolve directory (first ++ 47 :: second) =
      (second.splitOn 47).foldl enter (resolve directory first) := by
  have same : (first ++ 47 :: second).head? = first.head? := head?_append_of_ne_nil _ some
  rw [resolve, resolve, same, splitOn_append_cons_self, foldl_append, if_neg relative]

/-! ## Relative paths -/

/-- Two paths share what they share, and diverge. -/
theorem diverge_spec (directory path : DiskPath) : ∃ common source target,
    directory = common ++ source ∧ path = common ++ target ∧
      diverge directory path = (source.length, target) := by
  induction directory generalizing path with
  | nil => exact ⟨[], [], path, rfl, rfl, by cases path <;> rfl⟩
  | cons first source ih =>
    cases path with
    | nil => exact ⟨[], first :: source, [], rfl, rfl, rfl⟩
    | cons second target =>
      by_cases same : first = second
      · obtain ⟨common, left, right, rfl, rfl, found⟩ := ih target
        refine ⟨first :: common, left, right, rfl, by rw [same]; rfl, ?_⟩
        rw [diverge, if_pos same, found]
      · refine ⟨[], first :: source, second :: target, rfl, rfl, ?_⟩
        rw [diverge, if_neg same]

/-- The way to a path below a directory is the rest of its segments. -/
theorem relative_append (directory rest : DiskPath) :
    relative directory (directory ++ rest) = [47].intercalate rest := by
  have found : diverge directory (directory ++ rest) = (0, rest) := by
    induction directory with
    | nil => cases rest <;> rfl
    | cons first source ih => rw [cons_append, diverge, if_pos rfl, ih]
  rw [relative, found]
  rfl

/-- The way to any other path begins with two points. -/
theorem isPrefix_relative (outside : ¬ directory <+: path) :
    js ".." <+: relative directory path := by
  obtain ⟨common, source, target, rfl, rfl, found⟩ := diverge_spec directory path
  cases source with
  | nil => exact absurd (by rw [append_nil]; exact prefix_append common target) outside
  | cons first source =>
    rw [relative, found]
    simp only [length_cons, replicate_succ, cons_append]
    cases others : List.replicate source.length (js "..") ++ target with
    | nil => exact prefix_refl _
    | cons next rest =>
      rw [intercalate_cons_cons, append_assoc]
      exact prefix_append _ _

end DiskPath

/-- A directory: the segments of its absolute path, each of which names something. -/
structure DiskDirectory where
  path : DiskPath
  named : ∀ segment ∈ path, DiskPath.IsName segment

/-- `path.resolve(text)` in a working directory. -/
def DiskDirectory.resolve (directory : DiskDirectory) (text : JsString) : DiskDirectory where
  path := DiskPath.resolve directory.path text
  named := DiskPath.named_resolve directory.named

end Foundation
