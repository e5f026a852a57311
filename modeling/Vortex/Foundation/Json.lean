import Vortex.Foundation.JsText

/-!
# Parsed JSON values

The values `JSON.parse` returns, with the property access a handler makes on a
value it knows nothing about: reading a property of `null` throws, reading one
that is not there gives `undefined`.
-/

namespace Foundation

/-- A JSON value. Numbers keep their text, which no reader here looks into. -/
inductive Json
  | null
  | bool (value : Bool)
  | num (text : JsString)
  | str (value : JsString)
  | arr (items : List Json)
  | obj (members : List (JsString × Json))

namespace Json

/-- An own property: of an object with a repeated name, the last member. -/
def get? (name : JsString) : Json → Option Json
  | .obj members => (members.reverse.find? fun member => member.1 = name).map Prod.snd
  | _ => none

/-- `typeof value === "string"`, with the string. -/
def string? : Option Json → Option JsString
  | some (.str value) => some value
  | _ => none

/-- `Array.isArray(value)`, with the items. -/
def array? : Option Json → Option (List Json)
  | some (.arr items) => some items
  | _ => none

end Json

end Foundation
