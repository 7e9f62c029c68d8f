import FieldRules.Dict
import FieldRules.Double.Text
import FieldRules.Time.Reader

/-!
Field values and their readings as text, number and date. A reading is partial: a value that has no
such reading gives nothing, and no value is ever read as an infinite number.
-/
namespace FieldRules

inductive Value where
  | null
  | bool (value : Bool)
  | number (value : Double)
  | string (value : String)
  | array (items : List Value)
  | object (fields : List (String × Value))
  | date (value : Time.Instant)

/-- A record: its fields by name. A name may be missing, which differs from a null value. -/
abbrev Record := Dict Value

/-- A finite number from text, blanks around it aside. -/
def readNumber? (s : String) : Option Double :=
  match Double.ofChars? (Text.trimChars s.toList) with
  | some d => if d.isFinite then some d else none
  | none => none

namespace Value

instance : Inhabited Value := ⟨null⟩

/-- Null and the empty string; blanks make a string non-empty. -/
def isEmpty : Value → Bool
  | .null => true
  | .string s => s.isEmpty
  | _ => false

def toNumber? : Value → Option Double
  | .number d => if d.isFinite then some d else none
  | .bool b => some (if b then .one else .zero)
  | .string s => readNumber? s
  | _ => none

def toText? : Value → Option String
  | .string s => some s
  | .number d => some d.ruleText
  | .bool b => some (if b then "true" else "false")
  | _ => none

/-- A number is read as milliseconds from the start of 1970, its fraction cut off toward zero. -/
def toDate? : Value → Option Time.Instant
  | .date i => some i
  | .number d => d.truncate?.bind Time.Instant.ofMillis?
  | .string s => Time.Instant.ofText? s
  | _ => none

end Value

/-- A missing field is empty, like an empty value. -/
def isEmptyField : Option Value → Bool
  | none => true
  | some v => v.isEmpty

end FieldRules
