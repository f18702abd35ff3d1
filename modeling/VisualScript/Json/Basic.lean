import VisualScript.Json.Number
import VisualScript.OrderedMap

/-!
# Document values

The values that documents and the data of nodes are made of. An object keeps
its fields in the order of their first appearance.
-/

namespace VisualScript

/-- A document value. -/
inductive Json where
  | null
  | bool (value : Bool)
  | number (value : Json.Number)
  | string (value : String)
  | array (items : List Json)
  | object (fields : OrderedMap String Json)
  deriving Repr, Inhabited

namespace Json

/-- The value of an object's field. -/
def field? : Json → String → Option Json
  | .object fields, key => fields.get? key
  | _, _ => none

end Json

end VisualScript
