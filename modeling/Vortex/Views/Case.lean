import Vortex.Foundation.JsValue

/-!
# Snake case

`toSnakeCase` converts the keys of plain objects on their way into a response and lets
everything else through: whatever columns a query selected are forwarded. On an object
with distinct converted keys it converts member by member (`Vortex.Views.toSnakeCase_obj`).
-/

namespace Vortex.Views

open Foundation
open Foundation.Json (assign foldl_assign)

/-- `key.replace(/[A-Z]/g, (letter) => "_" + letter.toLowerCase())`. -/
def toSnakeKey (key : JsString) : JsString :=
  key.flatMap fun unit => if 65 ≤ unit && unit ≤ 90 then [95, unit + 32] else [unit]

/-- Whether `value.constructor` is `Object`: the object has no member of that name. -/
def isPlain (members : List (JsString × Json)) : Bool :=
  !(members.map Prod.fst).contains (js "constructor")

mutual

/-- `toSnakeCase(value)`. -/
def toSnakeCase : Json → Json
  | .arr items => .arr (snakeItems items)
  | .obj members => if isPlain members then .obj (snakeMembers members []) else .obj members
  | .null => .null
  | .bool value => .bool value
  | .num text => .num text
  | .str text => .str text

def snakeItems : List Json → List Json
  | [] => []
  | item :: rest => toSnakeCase item :: snakeItems rest

/-- The loop over the entries of an object, with the result so far. -/
def snakeMembers : List (JsString × Json) → List (JsString × Json) → List (JsString × Json)
  | [], result => result
  | (key, value) :: rest, result =>
      snakeMembers rest (assign result (toSnakeKey key) (toSnakeCase value))

end

@[simp] theorem toSnakeCase_null : toSnakeCase .null = .null := by rw [toSnakeCase]

@[simp] theorem toSnakeCase_bool (value : Bool) : toSnakeCase (.bool value) = .bool value := by
  rw [toSnakeCase]

@[simp] theorem toSnakeCase_str (text : JsString) : toSnakeCase (.str text) = .str text := by
  rw [toSnakeCase]

theorem snakeItems_eq (items : List Json) : snakeItems items = items.map toSnakeCase := by
  induction items with
  | nil => rfl
  | cons item rest ih => rw [snakeItems, ih, List.map_cons]

@[simp] theorem toSnakeCase_arr (items : List Json) :
    toSnakeCase (.arr items) = .arr (items.map toSnakeCase) := by
  rw [toSnakeCase, snakeItems_eq]

/-- A member with its key converted, and its value. -/
def snakeMember (member : JsString × Json) : JsString × Json :=
  (toSnakeKey member.1, toSnakeCase member.2)

theorem snakeMembers_eq (members result : List (JsString × Json)) :
    snakeMembers members result =
      (members.map snakeMember).foldl (fun result entry => assign result entry.1 entry.2)
        result := by
  induction members generalizing result with
  | nil => rfl
  | cons member rest ih =>
    obtain ⟨key, value⟩ := member
    rw [snakeMembers, ih, List.map_cons, List.foldl_cons]
    rfl

/-- Keys that stay distinct, none of them special. -/
def distinctKeys (keys : List JsString) : Bool :=
  !keys.contains (js "constructor") && !(keys.map toSnakeKey).contains (js "__proto__") &&
    decide (keys.map toSnakeKey).Nodup

/-- Such keys are converted one by one. -/
theorem toSnakeCase_obj {members : List (JsString × Json)}
    (distinct : distinctKeys (members.map Prod.fst) = true) :
    toSnakeCase (.obj members) = .obj (members.map snakeMember) := by
  simp only [distinctKeys, Bool.and_eq_true, Bool.not_eq_true', List.contains_eq_mem,
    decide_eq_false_iff_not, decide_eq_true_eq] at distinct
  obtain ⟨⟨plain, own⟩, keys⟩ := distinct
  have named : (members.map snakeMember).map Prod.fst = (members.map Prod.fst).map toSnakeKey := by
    simp [snakeMember]
  have isolated : isPlain members = true := by
    simp only [isPlain, List.contains_eq_mem, plain]
    rfl
  rw [toSnakeCase, if_pos isolated, snakeMembers_eq, foldl_assign (by rwa [named])
    (by rwa [List.nil_append, named]), List.nil_append]

end Vortex.Views
