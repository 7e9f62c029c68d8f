import FieldRules.Double.Text

/-!
What to do with a rule whose validator is unknown.
-/
namespace FieldRules

inductive Policy where
  /-- Skip the rule. -/
  | ignore
  /-- Skip the rule and say so. -/
  | warn
  /-- End the run with an error. -/
  | error
deriving DecidableEq, Repr, Inhabited

namespace Policy

def name : Policy → String
  | ignore => "ignore"
  | warn => "warn"
  | error => "error"

def all : List Policy := [ignore, warn, error]

/-- The policy of this name, in lower case. -/
def ofName? (name : String) : Option Policy := all.find? fun p => p.name == name

/-- The policy of this name, in any case. No letter beyond ASCII has one of its letters as its lower
case. -/
def ofText? (s : String) : Option Policy := all.find? fun p => isWord p.name s.toList

end Policy

end FieldRules
