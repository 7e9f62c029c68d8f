import FieldRules.Value

/-!
Two equalities of values. Strict equality compares kind and content; `nan` is not even equal to
itself and the two zeros are equal. Loose equality compares values of different kinds by their
readings as numbers, a date by its milliseconds; null equals only null, strings equal only the same
string, arrays are compared item by item and objects strictly.
-/
namespace FieldRules.Value

mutual

def strictEq : Value → Value → Bool
  | .null, .null => true
  | .bool a, .bool b => a == b
  | .number a, .number b => a.eq b
  | .string a, .string b => a == b
  | .array xs, .array ys => strictEqItems xs ys
  | .object fs, .object gs => strictEqFields fs gs
  | .date a, .date b => a == b
  | _, _ => false

def strictEqItems : List Value → List Value → Bool
  | [], [] => true
  | x :: xs, y :: ys => x.strictEq y && strictEqItems xs ys
  | _, _ => false

def strictEqFields : List (String × Value) → List (String × Value) → Bool
  | [], [] => true
  | (j, x) :: fs, (k, y) :: gs => j == k && x.strictEq y && strictEqFields fs gs
  | _, _ => false

end

/-- Both have a reading as a number and the two numbers are equal. -/
def numbersEq (a b : Value) : Bool :=
  match a.toNumber?, b.toNumber? with
  | some m, some n => m.eq n
  | _, _ => false

/-- A date against a value of another kind. -/
def dateEqNumber (date : Time.Instant) (v : Value) : Bool :=
  match v.toNumber? with
  | some n => n.eq (.ofInt date.millis)
  | none => false

mutual

def looseEq : Value → Value → Bool
  | .null, .null => true
  | .null, _ | _, .null => false
  | .string a, .string b => a == b
  | .bool a, .bool b => a == b
  | .date a, .date b => a == b
  | .date d, v | v, .date d => dateEqNumber d v
  | .array xs, .array ys => looseEqItems xs ys
  | .object fs, .object gs => strictEqFields fs gs
  | .array _, _ | .object _, _ | _, .array _ | _, .object _ => false
  | a, b => numbersEq a b

def looseEqItems : List Value → List Value → Bool
  | [], [] => true
  | x :: xs, y :: ys => x.looseEq y && looseEqItems xs ys
  | _, _ => false

end

end FieldRules.Value
