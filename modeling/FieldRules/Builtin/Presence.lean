import FieldRules.Validator

/-!
Validators of presence: a field must not be empty, always or depending on whether the record has
another field. Having a field with an empty value counts as having it.
-/
namespace FieldRules.Builtin

def checkRequired (f : Focus) (_ : List String) : Except RuleError Verdict :=
  .ok (if f.isEmpty then .fail s!"Field `{f.field}` is required." else .pass)

def checkRequiredWith (f : Focus) (args : List String) : Except RuleError Verdict :=
  match argument? args 0 with
  | none => .error (.missingArgument "requiredWith" "fieldname")
  | some other =>
    .ok (if f.record.contains other && f.isEmpty then
      .fail s!"Field `{f.field}` is required with field `{other}`." else .pass)

def checkRequiredWithout (f : Focus) (args : List String) : Except RuleError Verdict :=
  match argument? args 0 with
  | none => .error (.missingArgument "requiredWithout" "fieldname")
  | some other =>
    .ok (if !f.record.contains other && f.isEmpty then
      .fail s!"Field `{f.field}` is required without field `{other}`." else .pass)

end FieldRules.Builtin
