import FieldRules.Json.Basic
import FieldRules.Time.Text
import FieldRules.Value

/-!
Values and JSON. Every JSON value is a field value; back, a date becomes the string of its Internet
form and a number that is not finite becomes null.
-/
namespace FieldRules.Value

mutual

def ofJson : Json → Value
  | .null => .null
  | .bool b => .bool b
  | .integer n => .number (.ofInt n)
  | .double d => .number d
  | .string s => .string s
  | .array items => .array (ofJsonItems items)
  | .object members => .object (ofJsonMembers members)

def ofJsonItems : List Json → List Value
  | [] => []
  | j :: rest => ofJson j :: ofJsonItems rest

def ofJsonMembers : List (String × Json) → List (String × Value)
  | [] => []
  | (k, j) :: rest => (k, ofJson j) :: ofJsonMembers rest

end

mutual

def toJson : Value → Json
  | .null => .null
  | .bool b => .bool b
  | .number d => if d.isFinite then .double d else .null
  | .string s => .string s
  | .array items => .array (toJsonItems items)
  | .object fields => .object (toJsonFields fields)
  | .date i => .string (String.ofList i.toInternet)

def toJsonItems : List Value → List Json
  | [] => []
  | v :: rest => v.toJson :: toJsonItems rest

def toJsonFields : List (String × Value) → List (String × Json)
  | [] => []
  | (k, v) :: rest => (k, v.toJson) :: toJsonFields rest

end

end FieldRules.Value

namespace FieldRules.Record

/-- The record of a JSON object; no other JSON value is one. -/
def ofJson? : Json → Option Record
  | .object members => some (Dict.ofList (Value.ofJsonMembers members))
  | _ => none

def toJson (r : Record) : Json := .object (Value.toJsonFields r.entries)

end FieldRules.Record
