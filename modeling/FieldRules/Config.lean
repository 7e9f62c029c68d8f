import FieldRules.Engine

/-!
Configurations: the rules of a record, and what to do with unknown ones.
-/
namespace FieldRules

structure Config where
  policy : Policy
  rules : RuleSet
deriving DecidableEq

namespace Config

/-- No rules. -/
def empty : Config := ⟨.ignore, .empty⟩

/-- A configuration to start from. -/
def starter : Config where
  policy := .ignore
  rules := .ofList [("email", ["required", "email"]), ("age", ["num:0:150"]),
    ("confirm", ["requiredWith:email", "sameAs:email"])]

/-- The engine with the validators of the start and the policy of the configuration. -/
def engine (c : Config) : Engine := ⟨.builtins, c.policy⟩

end Config

end FieldRules
