import FieldRules.Address.Email
import FieldRules.Address.Url
import FieldRules.Pattern.Search
import FieldRules.Validator

/-!
Validators of the text of a value: it must be an address, or match a pattern that the rule gives.
Values without a text match nothing.
-/
namespace FieldRules.Builtin

open Pattern

def matchesText (p : Pattern Atom) (v : Value) : Bool :=
  v.toText?.any fun text => p.occursIn text.toList

/-- Finds fault with a value whose text does not match. -/
def judgeText (p : Pattern Atom) (f : Focus) (message : String) : Verdict :=
  match f.content? with
  | none => .pass
  | some v => if matchesText p v then .pass else .fail message

def checkUrl (f : Focus) (_ : List String) : Except RuleError Verdict :=
  .ok (judgeText Address.url f s!"Field `{f.field}` must be a valid URL.")

def checkEmail (f : Focus) (_ : List String) : Except RuleError Verdict :=
  .ok (judgeText Address.email f s!"Field `{f.field}` must be a valid email address.")

def checkRegex (f : Focus) (args : List String) : Except RuleError Verdict :=
  match argument? args 0 with
  | none => .error (.missingArgument "regex" "pattern")
  | some source => match compile source with
    | .error fault => .error (.invalidPattern source fault)
    | .ok p => .ok (judgeText p f s!"Field `{f.field}` does not match regexp: `/{source}/`.")

end FieldRules.Builtin
