import Mathlib.Data.List.Nodup
import Vortex.Foundation.JsonText

/-!
# Values on their way to JSON text

Objects built by assignment, and what `JSON.stringify` makes of a number. A number
carries its text: a literal, `NaN`, `Infinity` or `-Infinity`. One that is not finite
is printed as `null`, and minus zero without its sign, so a value comes back from its
text exactly when it holds neither (`Foundation.Json.printed_eq_iff`).
-/

namespace Foundation

namespace Json

open JsString

/-! ## Assignment -/

/-- `object[name] = value` on an object that began as a literal: a member keeps its
place, and `__proto__` changes the prototype and no member. -/
def assign (members : List (JsString × Json)) (name : JsString) (value : Json) :
    List (JsString × Json) :=
  if name = js "__proto__" then members
  else if name ∈ members.map Prod.fst then
    members.map fun member => if member.1 = name then (name, value) else member
  else members ++ [(name, value)]

theorem assign_new {members : List (JsString × Json)} {name : JsString}
    (own : name ≠ js "__proto__") (new : name ∉ members.map Prod.fst) (value : Json) :
    assign members name value = members ++ [(name, value)] := by
  rw [assign, if_neg own, if_neg new]

/-- Assigning distinct names one after the other builds the object they list. -/
theorem foldl_assign {members entries : List (JsString × Json)}
    (own : js "__proto__" ∉ entries.map Prod.fst)
    (distinct : ((members ++ entries).map Prod.fst).Nodup) :
    entries.foldl (fun members entry => assign members entry.1 entry.2) members =
      members ++ entries := by
  induction entries generalizing members with
  | nil => simp
  | cons entry entries ih =>
    rw [List.map_cons, List.mem_cons, not_or] at own
    have new : entry.1 ∉ members.map Prod.fst := by
      intro member
      rw [List.map_append, List.map_cons] at distinct
      exact (List.nodup_append.mp distinct).2.2 _ member _ List.mem_cons_self rfl
    rw [List.foldl_cons, assign_new (Ne.symm own.1) new, ih own.2 (by simpa using distinct)]
    simp

/-! ## Numbers -/

/-- Whether a number is neither infinite nor `NaN`, by its text. -/
def isFinite (text : JsString) : Bool :=
  !(text = js "NaN" || text = js "Infinity" || text = js "-Infinity")

mutual

/-- What `JSON.stringify` prints for a value. -/
def printed : Json → Json
  | .num text =>
      if !isFinite text then .null else if text = js "-0" then .num (js "0") else .num text
  | .arr items => .arr (printedItems items)
  | .obj members => .obj (printedMembers members)
  | .null => .null
  | .bool value => .bool value
  | .str text => .str text

def printedItems : List Json → List Json
  | [] => []
  | item :: rest => printed item :: printedItems rest

def printedMembers : List (JsString × Json) → List (JsString × Json)
  | [] => []
  | (name, value) :: rest => (name, printed value) :: printedMembers rest

end

mutual

/-- Whether every number in a value is finite and not minus zero. -/
def exact : Json → Bool
  | .num text => isFinite text && text ≠ js "-0"
  | .arr items => exactItems items
  | .obj members => exactMembers members
  | _ => true

def exactItems : List Json → Bool
  | [] => true
  | item :: rest => exact item && exactItems rest

def exactMembers : List (JsString × Json) → Bool
  | [] => true
  | (_, value) :: rest => exact value && exactMembers rest

end

mutual

/-- A value is printed as it is exactly when its numbers can be. -/
theorem printed_eq_iff (value : Json) : printed value = value ↔ exact value = true := by
  cases value with
  | num text =>
    by_cases finite : isFinite text = true
    · by_cases zero : text = js "-0"
      · subst zero
        have different : js "0" ≠ js "-0" := by decide
        simp [printed, exact, finite, different]
      · simp [printed, exact, finite, zero]
    · simp [printed, exact, finite]
  | arr items => simp [printed, exact, printedItems_eq_iff items]
  | obj members => simp [printed, exact, printedMembers_eq_iff members]
  | null => simp [printed, exact]
  | bool value => simp [printed, exact]
  | str text => simp [printed, exact]

theorem printedItems_eq_iff (items : List Json) :
    printedItems items = items ↔ exactItems items = true := by
  cases items with
  | nil => simp [printedItems, exactItems]
  | cons item rest =>
    simp [printedItems, exactItems, printed_eq_iff item, printedItems_eq_iff rest]

theorem printedMembers_eq_iff (members : List (JsString × Json)) :
    printedMembers members = members ↔ exactMembers members = true := by
  cases members with
  | nil => simp [printedMembers, exactMembers]
  | cons member rest =>
    obtain ⟨name, value⟩ := member
    simp [printedMembers, exactMembers, printed_eq_iff value, printedMembers_eq_iff rest]

end

mutual

/-- What is printed can be printed as it is. -/
theorem exact_printed (value : Json) : exact (printed value) = true := by
  cases value with
  | num text =>
    rw [printed]
    split_ifs with infinite zero
    · rfl
    · decide
    · simp only [Bool.not_eq_true', Bool.not_eq_false] at infinite
      simp [exact, infinite, zero]
  | arr items => simp [printed, exact, exact_printedItems items]
  | obj members => simp [printed, exact, exact_printedMembers members]
  | null => rfl
  | bool value => rfl
  | str text => rfl

theorem exact_printedItems (items : List Json) : exactItems (printedItems items) = true := by
  cases items with
  | nil => rfl
  | cons item rest => simp [printedItems, exactItems, exact_printed item, exact_printedItems rest]

theorem exact_printedMembers (members : List (JsString × Json)) :
    exactMembers (printedMembers members) = true := by
  cases members with
  | nil => rfl
  | cons member rest =>
    obtain ⟨name, value⟩ := member
    simp [printedMembers, exactMembers, exact_printed value, exact_printedMembers rest]

end

theorem printed_printed (value : Json) : printed (printed value) = printed value :=
  (printed_eq_iff _).mpr (exact_printed value)

theorem printedMembers_eq_map (members : List (JsString × Json)) :
    printedMembers members = members.map fun member => (member.1, printed member.2) := by
  induction members with
  | nil => rfl
  | cons member rest ih =>
    obtain ⟨name, value⟩ := member
    rw [printedMembers, ih, List.map_cons]

theorem get?_printedMembers (members : List (JsString × Json)) (name : JsString) :
    (Json.obj (printedMembers members)).get? name = ((Json.obj members).get? name).map printed := by
  rw [get?, get?, printedMembers_eq_map, ← List.map_reverse, List.find?_map, Option.map_map,
    Option.map_map]
  rfl

end Json

end Foundation
