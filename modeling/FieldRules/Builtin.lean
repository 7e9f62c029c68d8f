import FieldRules.Builtin.Comparison
import FieldRules.Builtin.Interval
import FieldRules.Builtin.Kind
import FieldRules.Builtin.Language
import FieldRules.Builtin.Presence

/-!
The twelve validators that every catalogue starts with, and their names.
-/
namespace FieldRules

inductive Builtin where
  | required
  | requiredWith
  | requiredWithout
  | array
  | sameAs
  | different
  | num
  | url
  | email
  | bool
  | date
  | regex
deriving DecidableEq, Repr

namespace Builtin

def all : List Builtin :=
  [required, requiredWith, requiredWithout, array, sameAs, different, num, url, email, bool, date,
   regex]

def name : Builtin → String
  | required => "required"
  | requiredWith => "requiredWith"
  | requiredWithout => "requiredWithout"
  | array => "array"
  | sameAs => "sameAs"
  | different => "different"
  | num => "num"
  | url => "url"
  | email => "email"
  | bool => "bool"
  | date => "date"
  | regex => "regex"

def ofName? (name : String) : Option Builtin := all.find? fun b => b.name == name

def validator : Builtin → Validator
  | required => { maxArgs := some 0, check := checkRequired }
  | requiredWith => { maxArgs := some 1, params := ["fieldname"], check := checkRequiredWith }
  | requiredWithout => { maxArgs := some 1, params := ["fieldname"], check := checkRequiredWithout }
  | array => { maxArgs := some 0, check := checkArray }
  | sameAs => { maxArgs := some 1, params := ["fieldname"], check := checkSameAs }
  | different => { maxArgs := some 1, params := ["fieldname"], check := checkDifferent }
  | num => { maxArgs := some 2, params := ["min?", "max?"], check := checkNum }
  | url => { maxArgs := some 0, check := checkUrl }
  | email => { maxArgs := some 0, check := checkEmail }
  | bool => { maxArgs := some 0, check := checkBool }
  | date => { maxArgs := some 2, params := ["after?", "before?"], check := checkDate }
  | regex => { maxArgs := some 1, params := ["pattern"], check := checkRegex }

end Builtin

end FieldRules
