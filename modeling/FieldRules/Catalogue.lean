import FieldRules.Builtin
import FieldRules.RuleToken
import FieldRules.Text.Literal

/-!
Catalogues: validators by name. A name must not be empty and must not hold a colon, so that every
registered validator can be called by a token and no token without a name calls one.
-/
namespace FieldRules

structure Catalogue where
  validators : Dict Validator

namespace Catalogue

def empty : Catalogue := ⟨.empty⟩

def builtins : Catalogue := ⟨.ofList (Builtin.all.map fun b => (b.name, b.validator))⟩

instance : Inhabited Catalogue := ⟨builtins⟩

def find? (c : Catalogue) (name : String) : Option Validator := c.validators.find? name

def contains (c : Catalogue) (name : String) : Bool := c.validators.contains name

def names (c : Catalogue) : List String := c.validators.keys

def size (c : Catalogue) : Nat := c.validators.size

def isEmpty (c : Catalogue) : Bool := c.validators.isEmpty

/-- Names with their validators' parameters. -/
def listing (c : Catalogue) : List (String × List String) :=
  c.validators.entries.map fun e => (e.1, e.2.params)

def isValidName (name : String) : Bool := !name.isEmpty && !name.toList.contains ':'

/-- Puts a validator under a name, in place of the one that had it. -/
def register (c : Catalogue) (name : String) (v : Validator) : Except RuleError Catalogue :=
  if isValidName name then .ok ⟨c.validators.insert name v⟩ else .error (.invalidName name)

/-- The verdict on a field of the validator that a token calls; nothing if there is none. -/
def judge? (c : Catalogue) (f : Focus) (token : String) : Option (Except RuleError Verdict) :=
  (c.find? (RuleToken.nameOf token)).map fun v => v.check f (RuleToken.ofText v.maxArgs token).args

/-- The catalogue's names in quotes, for a log. -/
def describe (c : Catalogue) : String :=
  "Catalogue \x7b validators: [" ++ ", ".intercalate (c.names.map Text.literal) ++ "] \x7d"

end Catalogue

end FieldRules
