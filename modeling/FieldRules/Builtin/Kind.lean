import FieldRules.Validator

/-!
Validators of the kind of a value: arrays, and values that stand for truth values. The latter are
replaced by the truth value they stand for.
-/
namespace FieldRules.Builtin

def checkArray (f : Focus) (_ : List String) : Except RuleError Verdict :=
  .ok (match f.content? with
    | none | some (.array _) => .pass
    | some _ => .fail s!"Field `{f.field}` must be an array.")

/-- The truth value that a number stands for. -/
def boolOfNumber? (d : Double) : Option Bool :=
  if d.eq .one then some true else if d.eq .zero then some false else none

/-- The truth value that a value stands for: a word in any case, or the number one or zero. -/
def readBool? : Value → Option Bool
  | .bool b => some b
  | .string s =>
    let word := Text.trimChars s.toList
    if isWord "true" word then some true
    else if isWord "false" word then some false
    else (readNumber? s).bind boolOfNumber?
  | v@(.number _) => v.toNumber?.bind boolOfNumber?
  | _ => none

def checkBool (f : Focus) (_ : List String) : Except RuleError Verdict :=
  .ok (match f.content? with
    | none => .pass
    | some v => match readBool? v with
      | some b => .replace (.bool b)
      | none => .fail s!"Field `{f.field}` must be a boolean value.")

end FieldRules.Builtin
