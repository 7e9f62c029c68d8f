import FieldRules.Dict
import FieldRules.Double.Basic

/-!
JSON values. A number is an integer or a double, whichever its text is: an integer has neither
fraction nor exponent and fits in 64 bits. The members of an object are a list, so that a writer
may fix their order; objects that were read have them in ascending order of their keys.
-/
namespace FieldRules

inductive Json where
  | null
  | bool (value : Bool)
  | integer (value : Int)
  | double (value : Double)
  | string (value : String)
  | array (items : List Json)
  | object (members : List (String × Json))

namespace Json

instance : Inhabited Json := ⟨null⟩

def ofDict (d : Dict Json) : Json := .object d.entries

mutual

/-- The same value with the members of all objects in ascending order, the last one of a key
kept. -/
def sorted : Json → Json
  | .array items => .array (sortedItems items)
  | .object members => ofDict (Dict.ofList (sortedMembers members))
  | value => value

def sortedItems : List Json → List Json
  | [] => []
  | item :: rest => item.sorted :: sortedItems rest

def sortedMembers : List (String × Json) → List (String × Json)
  | [] => []
  | (key, value) :: rest => (key, value.sorted) :: sortedMembers rest

end

end Json

end FieldRules
