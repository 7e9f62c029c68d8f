import FieldRules.Config
import FieldRules.Toml.Document
import FieldRules.Toml.Writer

/-!
Configurations as TOML: the policy is `unknown_rules` in the table `engine`, and the table `rules`
has an array of tokens for each field. Whatever is missing has its default, and all else is passed
over.
-/
namespace FieldRules.Config

open Toml (Table)

/-- Whether a value holds nothing. -/
def isBare : Toml → Bool
  | .array items | .tables items => items.isEmpty
  | .table _ entries => entries.isEmpty
  | _ => false

/-- A policy by its name, or as the key of a table with nothing under it. In braces it has to be the
only key. -/
def policyOf? (inBraces : Bool) : Toml → Option Policy
  | .string name => Policy.ofName? name
  | .table form entries => match entries with
    | [] => none
    | (name, value) :: others =>
      if (inBraces ∨ form = .inline) ∧ !others.isEmpty then none
      else (Policy.ofName? name).filter fun _ => isBare value
  | _ => none

/-- The policy of the engine's options: a table, or an array of which the first item counts. -/
def enginePolicy? : Toml → Option Policy
  | .table form entries => match entries.lookup "unknown_rules" with
    | none => some .ignore
    | some value => policyOf? (form = .inline) value
  | .array [] => some .ignore
  | .array (value :: _) => policyOf? true value
  | .tables (value :: _) => policyOf? false value
  | _ => none

def string? : Toml → Option String
  | .string s => some s
  | _ => none

def tokens? : Toml → Option (List String)
  | .array items => items.mapM string?
  | _ => none

def rulesOf? : Toml → Option RuleSet
  | .table _ entries => (entries.mapM fun e => (tokens? e.2).map (e.1, ·)).map Dict.ofList
  | _ => none

def ofTable? (t : Table) : Option Config := do
  let policy ← match t.find? "engine" with
    | none => some .ignore
    | some value => enginePolicy? value
  let rules ← match t.find? "rules" with
    | none => some .empty
    | some value => rulesOf? value
  return ⟨policy, rules⟩

def ofText? (s : String) : Option Config := (Toml.ofChars? s.toList).bind ofTable?

def toChars (c : Config) : List Char :=
  "[engine]\n".toList ++ Toml.entryText "unknown_rules" (Toml.stringText c.policy.name.toList) ++
    "\n[rules]\n".toList ++ c.rules.entries.flatMap fun e => Toml.entryText e.1 (Toml.arrayText e.2)

def toText (c : Config) : String := String.ofList c.toChars

end FieldRules.Config
