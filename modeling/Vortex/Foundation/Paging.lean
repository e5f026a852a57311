import Mathlib.Data.List.Count
import Mathlib.Data.List.Sort

/-!
# Reading rows page by page

Rows are read from the greatest key down, and a page holds a bounded number of them. The
next page starts below the key of the last row of a page, so that nothing is lost between
the two when every row that is left lies below that key (`Arranges.perm_below_last`). With
full pages that is so exactly when no rows of one key lie on both sides of a page's end
(`apart_of_not_straddles`, `not_straddles_of_split`).
-/

namespace Foundation.Paging

open List

variable {Row Key : Type} [LinearOrder Key] (key : Row → Key)

/-- Rows in an order from the greatest key down. -/
structure Arranges (rows arranged : List Row) : Prop where
  perm : arranged.Perm rows
  falling : arranged.Pairwise fun first second => key second ≤ key first

/-- The rows below a cursor, which are all rows without one. -/
def below (cursor : Option Key) (rows : List Row) : List Row :=
  rows.filter fun row => cursor.all fun bound => key row < bound

variable {key} {rows arranged : List Row} {cursor : Option Key} {bound : Key}

theorem mem_below {row : Row} :
    row ∈ below key cursor rows ↔ row ∈ rows ∧ ∀ bound ∈ cursor, key row < bound := by
  cases cursor <;> simp [below]

@[simp] theorem below_none : below key none rows = rows := by
  simp [below]

theorem below_some : below key (some bound) rows = rows.filter fun row => key row < bound := rfl

/-- A second cursor below the first one is the one that counts. -/
theorem below_below (lower : ∀ upper ∈ cursor, bound ≤ upper) :
    below key (some bound) (below key cursor rows) = below key (some bound) rows := by
  rw [below, below, below, filter_filter]
  refine filter_congr fun row _ => ?_
  rw [Bool.and_eq_left_iff_imp]
  intro beneath
  rw [Option.all_some, decide_eq_true_eq] at beneath
  rw [Option.all_eq_true]
  intro upper named
  exact decide_eq_true (beneath.trans_le (lower upper named))

namespace Arranges

section

variable (arranges : Arranges key rows arranged)

include arranges

/-- Rows with keys of their own have one order. -/
theorem unique {other : List Row} (arrangesToo : Arranges key rows other)
    (apart : ∀ first ∈ rows, ∀ second ∈ rows, key first = key second → first = second) :
    arranged = other := by
  refine (arranges.perm.trans arrangesToo.perm.symm).eq_of_pairwise ?_ arranges.falling
    arrangesToo.falling
  intro first second one two below above
  exact apart first (arranges.perm.mem_iff.mp one) second (arrangesToo.perm.mem_iff.mp two)
    (le_antisymm above below)

/-- With keys of their own the rows fall strictly. -/
theorem strict (single : (rows.map key).Nodup) :
    arranged.Pairwise fun first second => key second < key first := by
  have different : (arranged.map key).Nodup := (arranges.perm.map key).nodup_iff.mpr single
  refine (arranges.falling.and (pairwise_map.mp different)).imp ?_
  rintro first second ⟨beneath, other⟩
  exact lt_of_le_of_ne beneath (Ne.symm other)

theorem drop (size : Nat) : Arranges key (arranged.drop size) (arranged.drop size) :=
  ⟨.refl _, arranges.falling.sublist (drop_sublist _ _)⟩

/-- Nothing of a page lies below its last row. -/
theorem last_le {size : Nat} {last row : Row}
    (ends : (arranged.take size).getLast? = some last) (member : row ∈ arranged.take size) :
    key last ≤ key row := by
  obtain ⟨front, split⟩ := getLast?_eq_some_iff.mp ends
  have falling : (arranged.take size).Pairwise fun first second => key second ≤ key first :=
    arranges.falling.sublist (take_sublist _ _)
  rw [split] at falling member
  rcases mem_append.mp member with early | final
  · exact (pairwise_append.mp falling).2.2 row early last (mem_singleton_self last)
  · rw [mem_singleton.mp final]

/-- What comes after a page lies below its last row or shares its key. -/
theorem le_last {size : Nat} {last row : Row}
    (ends : (arranged.take size).getLast? = some last) (left : row ∈ arranged.drop size) :
    key row ≤ key last := by
  have falling := arranges.falling
  rw [← take_append_drop size arranged] at falling
  exact (pairwise_append.mp falling).2.2 last (mem_of_getLast? ends) row left

/-- The rows below the last row of a page, when none of the others shares its key. -/
theorem filter_last {size : Nat} {last : Row} (ends : (arranged.take size).getLast? = some last)
    (apart : ∀ row ∈ arranged.drop size, key row < key last) :
    below key (some (key last)) arranged = arranged.drop size := by
  have kept : below key (some (key last)) (arranged.drop size) = arranged.drop size := by
    refine filter_eq_self.mpr fun row left => ?_
    exact decide_eq_true (apart row left)
  have dropped : below key (some (key last)) (arranged.take size) = [] := by
    refine filter_eq_nil_iff.mpr fun row member => ?_
    simpa using arranges.last_le ends member
  calc below key (some (key last)) arranged
      = below key (some (key last)) (arranged.take size ++ arranged.drop size) := by
        rw [take_append_drop]
    _ = below key (some (key last)) (arranged.take size) ++
          below key (some (key last)) (arranged.drop size) := filter_append ..
    _ = arranged.drop size := by rw [dropped, kept, nil_append]

end

/-- The page after a page reads exactly what that page left. -/
theorem perm_below_last (arranges : Arranges key (below key cursor rows) arranged) {size : Nat}
    {last : Row} (ends : (arranged.take size).getLast? = some last)
    (apart : ∀ row ∈ arranged.drop size, key row < key last) :
    (arranged.drop size).Perm (below key (some (key last)) rows) := by
  have listed : last ∈ below key cursor rows :=
    arranges.perm.mem_iff.mp (mem_of_mem_take (mem_of_getLast? ends))
  have lower : ∀ upper ∈ cursor, key last ≤ upper :=
    fun upper named => ((mem_below.mp listed).2 upper named).le
  have kept := arranges.perm.filter fun row => key row < key last
  rw [← below_some, ← below_some, arranges.filter_last ends apart, below_below lower] at kept
  exact kept

end Arranges

/-! ## Rows that share a key -/

section Shared

variable (key) in
/-- Some of the rows with a key fit on the first pages and some do not. -/
def Straddles (size : Nat) (rows : List Row) (shared : Key) : Prop :=
  ∃ pages, rows.countP (fun row => shared < key row) < size * pages ∧
    size * pages < rows.countP fun row => shared ≤ key row

variable {early late : List Row} {size pages : Nat}

/-- After full pages that hold all rows from the cursor on, what is left after one more full
page lies below its last row, unless that row's key straddles the end of the page. -/
theorem apart_of_not_straddles (split : (early ++ below key cursor rows).Perm rows)
    (above : ∀ row ∈ early, ∀ bound ∈ cursor, bound ≤ key row) (read : early.length = size * pages)
    (arranges : Arranges key (below key cursor rows) arranged)
    (full : (arranged.take size).length = size) {last : Row}
    (ends : (arranged.take size).getLast? = some last)
    (whole : ¬ Straddles key size rows (key last)) :
    ∀ row ∈ arranged.drop size, key row < key last := by
  intro row left
  refine lt_of_not_ge fun same => whole ⟨pages + 1, ?_, ?_⟩
  all_goals
    have listed : last ∈ below key cursor rows :=
      arranges.perm.mem_iff.mp (mem_of_mem_take (mem_of_getLast? ends))
    have parts : (early ++ (arranged.take size ++ arranged.drop size)).Perm rows := by
      rw [take_append_drop]
      exact (arranges.perm.append_left early).trans split
    rw [← parts.countP_eq, countP_append, countP_append, Nat.mul_succ]
  · -- of the page the last row itself is not above its key, and after it no row is
    have rest : (arranged.drop size).countP (fun row => key last < key row) = 0 := by
      refine countP_eq_zero.mpr fun row left => ?_
      simpa using arranges.le_last ends left
    have page : (arranged.take size).countP (fun row => key last < key row) < size := by
      refine lt_of_lt_of_eq (countP_lt_length_iff.mpr ?_) full
      exact ⟨last, mem_of_getLast? ends, by simp⟩
    have first := countP_le_length (p := fun row => decide (key last < key row)) (l := early)
    omega
  · have first : early.countP (fun row => key last ≤ key row) = early.length := by
      refine countP_eq_length.mpr fun row read => decide_eq_true ?_
      cases cursor with
      | none =>
        have none : early = [] := by
          have length := split.length_eq
          rw [below_none, length_append] at length
          exact length_eq_zero_iff.mp (by omega)
        rw [none] at read
        cases read
      | some bound =>
        exact ((mem_below.mp listed).2 bound rfl).le.trans (above row read bound rfl)
    have page : (arranged.take size).countP (fun row => key last ≤ key row) = size := by
      refine (countP_eq_length.mpr fun row member => decide_eq_true ?_).trans full
      exact arranges.last_le ends member
    have rest : 0 < (arranged.drop size).countP fun row => key last ≤ key row :=
      countP_pos_iff.mpr ⟨row, left, decide_eq_true same⟩
    omega

/-- When the rows of full pages lie above all others, no key straddles their end. -/
theorem not_straddles_of_split (parts : (late ++ early).Perm rows)
    (read : early.length = size * pages) (above : ∀ row ∈ early, bound ≤ key row)
    (beneath : ∀ row ∈ late, key row < bound) (shared : Key) :
    ¬ (rows.countP (fun row => shared < key row) < size * pages ∧
      size * pages < rows.countP fun row => shared ≤ key row) := by
  rw [← parts.countP_eq, ← parts.countP_eq, countP_append, countP_append]
  rintro ⟨few, many⟩
  rcases lt_or_ge shared bound with lower | upper
  · -- all rows of the pages lie above the key
    have all : early.countP (fun row => shared < key row) = early.length :=
      countP_eq_length.mpr fun row member =>
        decide_eq_true (lower.trans_le (above row member))
    omega
  · have none : late.countP (fun row => shared ≤ key row) = 0 := by
      refine countP_eq_zero.mpr fun row member => ?_
      simpa using (beneath row member).trans_le upper
    have some := countP_le_length (p := fun row => decide (shared ≤ key row)) (l := early)
    omega

end Shared

end Foundation.Paging
