import FieldRules.Validator
import FieldRules.Value.Equality

/-!
Validators that compare a field with another one loosely. They say nothing about empty fields and
about fields that the record has not.
-/
namespace FieldRules.Builtin

/-- Whether the two fields are equal; nothing if the first is empty or the other missing. -/
def comparison? (f : Focus) (other : String) : Option Bool :=
  match f.content?, f.record.find? other with
  | some value, some target => some (value.looseEq target)
  | _, _ => none

def checkSameAs (f : Focus) (args : List String) : Except RuleError Verdict :=
  match argument? args 0 with
  | none => .error (.missingArgument "sameAs" "fieldname")
  | some other =>
    .ok (if comparison? f other = some false then
      .fail s!"Field `{f.field}` must match field {other}." else .pass)

def checkDifferent (f : Focus) (args : List String) : Except RuleError Verdict :=
  match argument? args 0 with
  | none => .error (.missingArgument "different" "fieldname")
  | some other =>
    .ok (if comparison? f other = some true then
      .fail s!"Field `{f.field}` must not match field {other}." else .pass)

end FieldRules.Builtin
