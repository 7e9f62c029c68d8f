import FieldRules.Request.Json
import FieldRules.Value.Shape

/-!
Reading records and requests from JSON values by their shape. A request is an object of its parts or
a list of at most three; a part that is not there is empty, a part that is there is an object, and
its values are read by trying one kind after another.
-/
namespace FieldRules

/-- The record of an object, with its values read by shape. -/
def Record.ofShape? : Json → Option Record
  | .object members => (Value.fieldsOfShape? members).map Dict.ofList
  | _ => none

namespace Request

def partOfShape? : Option Json → Option Record
  | none => some .empty
  | some j => Record.ofShape? j

def ofShapes? (params body query : Option Json) : Option Request := do
  return ⟨← partOfShape? params, ← partOfShape? body, ← partOfShape? query⟩

def ofShape? : Json → Option Request
  | .array parts => if parts.length ≤ 3 then ofShapes? parts[0]? parts[1]? parts[2]? else none
  | .object members =>
    ofShapes? (members.lookup "params") (members.lookup "body") (members.lookup "query")
  | _ => none

end Request

end FieldRules
