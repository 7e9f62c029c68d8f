import FieldRules.Pattern.Reader

/-!
The ways in which rules can be wrong, whatever record they are applied to.
-/
namespace FieldRules

inductive RuleError where
  | missingArgument (validator param : String)
  | invalidDateBound (bound value : String)
  | invalidPattern (pattern : String) (fault : Pattern.Fault)
  | invalidName (name : String)
  | unknownValidator (name field : String)
deriving DecidableEq

namespace RuleError

/-- What is wrong, in words. For a pattern the text ends with the pattern. -/
def message : RuleError → String
  | missingArgument validator param => s!"Validator `{validator}` requires a `{param}` parameter"
  | invalidDateBound bound value =>
    s!"Validator `date` requires a proper date format for the `{bound}` parameter, got `{value}`"
  | invalidPattern pattern _ => s!"Validator `regex` received an invalid pattern `{pattern}`"
  | invalidName name =>
    s!"Invalid validator name `{name}`: names must be non-empty and must not contain `:`"
  | unknownValidator name field => s!"Unknown validator `{name}` referenced by field `{field}`"

end RuleError

end FieldRules
