import Vortex.Foundation.JsDate
import Vortex.Foundation.TextLines

/-!
# Rows between Postgres and SQLite

Rows as node-pg returns them, the portable rows the export writes, and the values
the import binds. `toPortableRow` fails only on a date out of range, and a portable
row is one line of text that gives it back exactly when every cell survives
(`Vortex.Migration.portable_iff_survives`).
-/

namespace Vortex.Migration

open Foundation
open Foundation.JsString (isSeparator)
open Foundation.Json (assign exact exactMembers foldl_assign PrintableMembers Printable printed
  printedMembers separated separatedMembers stringify)

/-- A column's value: a `Date` by its time value, or a string, number, boolean, `null`,
array or parsed JSON value. Every number carries the text of a number. -/
inductive PgValue
  | date (time : Int)
  | plain (value : Json) (genuine : Printable (printed value))

/-- A row as node-pg returns it, by column. -/
abbrev PgRow : Type := List (JsString × PgValue)

/-- A row that can be printed as JSON, by column. -/
abbrev PortableRow : Type := List (JsString × Json)

/-- `value instanceof Date ? value.toISOString() : value`; `none` when it throws. -/
def PgValue.portable : PgValue → Option Json
  | .date time => (JsDate.toISOString time).map .str
  | .plain value _ => some value

/-- The portable row of a row; `none` when it throws. -/
def toPortableRow (row : PgRow) : Option PortableRow :=
  row.foldlM (fun out entry => do
    let value ← entry.2.portable
    return assign out entry.1 value) []

/-- A value SQLite stores that is not `NULL`. -/
inductive SqliteValue
  | num (text : JsString)
  | text (value : JsString)
  deriving DecidableEq

/-- A value that can be bound to a statement; `none` is `NULL`. -/
abbrev SqliteBindValue : Type := Option SqliteValue

/-- The value bound for one column. -/
def bindValue : Option Json → SqliteBindValue
  | none | some .null => none
  | some (.bool true) => some (.num (js "1"))
  | some (.bool false) => some (.num (js "0"))
  | some (.num text) => some (.num text)
  | some (.str text) => some (.text text)
  | some (.arr items) => some (.text (stringify (printed (.arr items))))
  | some (.obj members) => some (.text (stringify (printed (.obj members))))

/-- The values bound for a row, in the order of the columns; `none` when it throws, as
reading a column of `null` does. -/
def toSqliteBindValues (row : Json) (columns : List JsString) : Option (List SqliteBindValue) :=
  match row with
  | .null => none
  | row => some (columns.map fun column => bindValue (row.get? column))

/-! ## Portable rows -/

/-- Whether a cell can be written to a line and read back: a date in range, numbers that
are finite and not minus zero, and no separator in a string or a name. -/
def survives (entry : JsString × PgValue) : Bool :=
  !entry.1.any isSeparator &&
    match entry.2 with
    | .date time => time.natAbs ≤ JsDate.greatest
    | .plain value _ => !separated value && exact value

/-- A cell of the portable row. -/
def portableCell (entry : JsString × PgValue) : Option (JsString × Json) :=
  entry.2.portable.map (entry.1, ·)

/-- Columns with distinct names keep their order. -/
theorem toPortableRow_eq {row : PgRow} (distinct : (row.map Prod.fst).Nodup)
    (own : js "__proto__" ∉ row.map Prod.fst) : toPortableRow row = row.mapM portableCell := by
  have onward : ∀ (row : PgRow) (out : PortableRow),
      row.foldlM (fun (out : PortableRow) (entry : JsString × PgValue) => do
        let value ← entry.2.portable
        return assign out entry.1 value) out =
      (row.mapM portableCell).map fun entries =>
        entries.foldl (fun members entry => assign members entry.1 entry.2) out := by
    intro row
    induction row with
    | nil => simp
    | cons entry row ih =>
      intro out
      rw [List.foldlM_cons, List.mapM_cons]
      rw [portableCell]
      cases entry.2.portable with
      | none => rfl
      | some value =>
        have later := ih (assign out entry.1 value)
        simp only [Option.bind_eq_bind, Option.bind_some, Option.pure_def,
          Option.map_some] at later ⊢
        rw [later]
        cases row.mapM portableCell with
        | none => rfl
        | some entries => rfl
  rw [toPortableRow, onward]
  cases converted : row.mapM portableCell with
  | none => rfl
  | some entries =>
    have names : entries.map Prod.fst = row.map Prod.fst := by
      clear distinct own
      induction row generalizing entries with
      | nil =>
        cases converted
        rfl
      | cons entry row ih =>
        rw [List.mapM_cons] at converted
        obtain ⟨first, known, converted⟩ := Option.bind_eq_some_iff.mp converted
        obtain ⟨later, rest, converted⟩ := Option.bind_eq_some_iff.mp converted
        obtain ⟨value, -, rfl⟩ := Option.map_eq_some_iff.mp known
        cases converted
        rw [List.map_cons, ih later rest, List.map_cons]
    rw [Option.map_some, foldl_assign (by rwa [names]) (by rwa [List.nil_append, names]),
      List.nil_append]

theorem portable_printable {value : PgValue} {json : Json}
    (converted : value.portable = some json) : Printable (printed json) := by
  cases value with
  | date time =>
    obtain ⟨text, -, rfl⟩ := Option.map_eq_some_iff.mp converted
    rw [printed]
    unfold Printable
    trivial
  | plain value genuine =>
    cases converted
    exact genuine

/-- The text of a date holds no separator. -/
theorem any_isSeparator_toISOString {time : Int} {text : JsString}
    (shown : JsDate.toISOString time = some text) : text.any isSeparator = false := by
  rw [List.any_eq_false]
  intro unit member separator
  have plain := JsDate.plain_toISOString shown unit member
  rw [isSeparator, Bool.or_eq_true, decide_eq_true_eq, decide_eq_true_eq] at separator
  rcases separator with rfl | rfl <;> exact absurd plain (by decide)

/-- A cell survives when its value can be converted, stays on its line and is printed
as it is. -/
theorem survives_iff (entry : JsString × PgValue) :
    survives entry = true ↔ ∃ value, entry.2.portable = some value ∧
      entry.1.any isSeparator = false ∧ separated value = false ∧ exact value = true := by
  obtain ⟨name, value⟩ := entry
  cases value with
  | date time =>
    have valid := JsDate.toISOString_isSome time
    cases shown : JsDate.toISOString time with
    | none =>
      rw [shown] at valid
      simp [survives, PgValue.portable, shown, ← valid]
    | some text =>
      rw [shown] at valid
      have plain := any_isSeparator_toISOString shown
      simp [survives, PgValue.portable, shown, ← valid, separated, plain, exact]
  | plain value genuine => simp [survives, PgValue.portable]

/-- What there is to know of the cells of a row. -/
theorem cells_survive_iff (row : PgRow) :
    (∀ entry ∈ row, survives entry = true) ↔ ∃ out, (row.mapM portableCell) = some out ∧
        separatedMembers out = false ∧ exactMembers out = true := by
  induction row with
  | nil => simp [separatedMembers, exactMembers]
  | cons entry row ih =>
    rw [List.forall_mem_cons, ih, survives_iff, List.mapM_cons]
    constructor
    · rintro ⟨⟨value, converted, name, whole, exactly⟩, out, rest, apart, same⟩
      refine ⟨(entry.1, value) :: out, by simp [portableCell, converted, rest], ?_, ?_⟩
      · simp [separatedMembers, name, whole, apart]
      · simp [exactMembers, exactly, same]
    · rintro ⟨out, converted, apart, same⟩
      obtain ⟨first, known, converted⟩ := Option.bind_eq_some_iff.mp converted
      obtain ⟨later, rest, converted⟩ := Option.bind_eq_some_iff.mp converted
      obtain ⟨value, found, rfl⟩ := Option.map_eq_some_iff.mp known
      cases converted
      rw [separatedMembers, Bool.or_eq_false_iff, Bool.or_eq_false_iff] at apart
      rw [exactMembers, Bool.and_eq_true] at same
      exact ⟨⟨value, found, apart.1.1, apart.1.2, same.1⟩, later, rest, apart.2, same.2⟩

section Rows

variable {row : PgRow} (distinct : (row.map Prod.fst).Nodup)
  (own : js "__proto__" ∉ row.map Prod.fst)

include distinct own

/-- The cells of a row survive exactly when its portable row is one line of text that
gives it back. -/
theorem portable_iff_survives :
    (∀ entry ∈ row, survives entry = true) ↔
      ∃ out, toPortableRow row = some out ∧ separatedMembers out = false ∧
        exactMembers out = true := by
  rw [toPortableRow_eq distinct own]
  exact cells_survive_iff row

theorem printable_toPortableRow {out : PortableRow} (converted : toPortableRow row = some out) :
    PrintableMembers (printedMembers out) := by
  rw [toPortableRow_eq distinct own] at converted
  clear distinct own
  induction row generalizing out with
  | nil =>
    cases converted
    trivial
  | cons entry row ih =>
    rw [List.mapM_cons] at converted
    obtain ⟨first, known, converted⟩ := Option.bind_eq_some_iff.mp converted
    obtain ⟨later, rest, converted⟩ := Option.bind_eq_some_iff.mp converted
    obtain ⟨value, found, rfl⟩ := Option.map_eq_some_iff.mp known
    cases converted
    exact ⟨portable_printable found, ih rest⟩

end Rows

end Vortex.Migration
