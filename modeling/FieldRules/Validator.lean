import FieldRules.RuleError
import FieldRules.Value

/-!
Validators: named checks of one field of a record. A check may read the whole record; it lets the
value pass, finds fault with it, or puts another value in its place. It fails as a whole only if its
arguments are wrong.
-/
namespace FieldRules

/-- A field of a record, which need not be there. -/
structure Focus where
  record : Record
  field : String

namespace Focus

def value? (f : Focus) : Option Value := f.record.find? f.field

def isEmpty (f : Focus) : Bool := isEmptyField f.value?

/-- The field's value, unless it is empty. -/
def content? (f : Focus) : Option Value := f.value?.filter fun v => !v.isEmpty

end Focus

inductive Verdict where
  | pass
  | fail (message : String)
  | replace (value : Value)

def Verdict.isFailure : Verdict → Bool
  | .fail _ => true
  | _ => false

structure Validator where
  /-- How many arguments a token may give; without a limit every colon starts one. -/
  maxArgs : Option Nat := none
  /-- The names of the parameters, those that may be left out with a question mark. -/
  params : List String := []
  check : Focus → List String → Except RuleError Verdict

/-- An argument by its place; an empty one counts as missing. -/
def argument? (args : List String) (i : Nat) : Option String := args[i]?.filter fun a => !a.isEmpty

end FieldRules
