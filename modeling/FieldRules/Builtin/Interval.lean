import FieldRules.Time.Text
import FieldRules.Validator

/-!
Validators of order: a number or a date must lie in an interval, whose ends belong to it and may be
missing. A number's bound that is no number does not bind; a date's bound, in milliseconds from the
start of 1970, has to be right.
-/
namespace FieldRules.Builtin

/-- The end beyond which something lies. -/
inductive Breach (α : Type) where
  | below (least : α)
  | above (greatest : α)

structure Interval (α : Type) where
  least : Option α
  greatest : Option α

namespace Interval

variable {α : Type}

/-- The end beyond which `a` lies, the least first. -/
def breach? (lt : α → α → Bool) (i : Interval α) (a : α) : Option (Breach α) :=
  ((i.least.filter fun least => lt a least).map .below).or
    ((i.greatest.filter fun greatest => lt greatest a).map .above)

end Interval

/-- A bound of a number; blanks around it do not count. -/
def numberBound? (args : List String) (i : Nat) : Option Double :=
  args[i]?.bind fun arg =>
    let text := Text.trim arg
    if text.isEmpty ∨ text = "null" then none else readNumber? text

def checkNum (f : Focus) (args : List String) : Except RuleError Verdict :=
  .ok (match f.content? with
    | none => .pass
    | some v => match v.toNumber? with
      | none => .fail s!"Field `{f.field}` is not a number."
      | some n =>
        let interval : Interval Double := ⟨numberBound? args 0, numberBound? args 1⟩
        match interval.breach? Double.lt n with
        | none => .pass
        | some (.below least) =>
          .fail s!"Field `{f.field}` is less than the minimum value of `{least.ruleText}`."
        | some (.above greatest) =>
          .fail s!"Field `{f.field}` is greater than the maximum value of `{greatest.ruleText}`.")

/-- A signed decimal number that fits in 64 bits. -/
def readInt? (s : List Char) : Option Int :=
  let (negative, digits) := match s with
    | '-' :: rest => (true, rest)
    | '+' :: rest => (false, rest)
    | rest => (false, rest)
  if digits.isEmpty || !digits.all Char.isDigit then none
  else
    let size : Int := Nat.ofDigitChars 10 digits 0
    let n := if negative then -size else size
    if Int64.minValue.toInt ≤ n ∧ n ≤ Int64.maxValue.toInt then some n else none

/-- A bound of a date. A blank one does not bind. -/
def dateBound (args : List String) (i : Nat) (name : String) :
    Except RuleError (Option Time.Instant) :=
  match args[i]?.map Text.trim with
  | none => .ok none
  | some text =>
    if text.isEmpty then .ok none
    else match (readInt? text.toList).bind Time.Instant.ofMillis? with
      | some date => .ok (some date)
      | none => .error (.invalidDateBound name text)

def mailText (date : Time.Instant) : String := String.ofList date.toMail

def checkDate (f : Focus) (args : List String) : Except RuleError Verdict := do
  let interval : Interval Time.Instant :=
    ⟨← dateBound args 0 "after", ← dateBound args 1 "before"⟩
  return match f.content? with
    | none => .pass
    | some v => match v.toDate? with
      | none => .fail s!"Field `{f.field}` must be a date string or object."
      | some date => match interval.breach? Time.Instant.lt date with
        | none => .pass
        | some (.below after) =>
          .fail s!"Field `{f.field}` must be a date after `{mailText after}`."
        | some (.above before) =>
          .fail s!"Field `{f.field}` must be a date prior to `{mailText before}`."

end FieldRules.Builtin
