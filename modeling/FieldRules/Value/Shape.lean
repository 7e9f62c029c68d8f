import FieldRules.Value.Json

/-!
Reading a value from JSON by its shape: the kinds of value are tried one after another, and the
first that fits is taken. Dates are tried last, in their Internet form.
-/
namespace FieldRules.Value

def nullShape? : Json → Option Value
  | .null => some .null
  | _ => none

def boolShape? : Json → Option Value
  | .bool b => some (.bool b)
  | _ => none

def numberShape? : Json → Option Value
  | .integer n => some (.number (.ofInt n))
  | .double d => some (.number d)
  | _ => none

def stringShape? : Json → Option Value
  | .string s => some (.string s)
  | _ => none

/-- Dates in their Internet form. A string has been taken as a string before, so that nothing is
read here, and a reader that takes more forms would make no difference. -/
def dateShape? : Json → Option Value
  | .string s => (Time.internetForm? s.toList).map .date
  | _ => none

mutual

def ofShape? (j : Json) : Option Value :=
  [nullShape? j, boolShape? j, numberShape? j, stringShape? j,
    match j with
    | .array items => (itemsOfShape? items).map .array
    | _ => none,
    match j with
    | .object members => (fieldsOfShape? members).map .object
    | _ => none,
    dateShape? j].findSome? id

def itemsOfShape? : List Json → Option (List Value)
  | [] => some []
  | j :: rest => (ofShape? j).bind fun v => (itemsOfShape? rest).map (v :: ·)

def fieldsOfShape? : List (String × Json) → Option (List (String × Value))
  | [] => some []
  | (k, j) :: rest => (ofShape? j).bind fun v => (fieldsOfShape? rest).map ((k, v) :: ·)

end

end FieldRules.Value
