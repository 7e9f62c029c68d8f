import FieldRules.Engine

/-!
Sessions: engines by name, some of which may share a catalogue, so that a validator registered
through one of them is known to all.
-/
namespace FieldRules

/-- Where an engine's catalogue and policy come from. -/
inductive EngineOrigin where
  | standard
  | configured (policy : Policy)
  /-- A catalogue without validators. -/
  | empty
  /-- The catalogue and the policy of another engine. -/
  | cloneOf (engine : String)
  /-- The catalogue of another engine. -/
  | sharing (engine : String)

/-- The place of an engine's catalogue among those of the session, and its policy. -/
structure EngineSlot where
  catalogue : Nat
  policy : Policy

structure Session where
  catalogues : List Catalogue
  engines : Dict EngineSlot

namespace Session

def start : Session := ⟨[], .empty⟩

def engine? (s : Session) (name : String) : Option Engine := do
  let slot ← s.engines.find? name
  return ⟨← s.catalogues[slot.catalogue]?, slot.policy⟩

/-- Adds a catalogue and puts an engine with it under a name. -/
def addCatalogue (s : Session) (name : String) (c : Catalogue) (policy : Policy) : Session :=
  { catalogues := s.catalogues ++ [c]
    engines := s.engines.insert name ⟨s.catalogues.length, policy⟩ }

/-- Makes or replaces an engine. A policy that is given comes before that of the origin. There is no
answer if the origin's engine is not there. -/
def addEngine? (s : Session) (name : String) (origin : EngineOrigin) (policy : Option Policy) :
    Option Session :=
  match origin with
  | .standard => some (s.addCatalogue name .builtins (policy.getD .ignore))
  | .configured p => some (s.addCatalogue name .builtins (policy.getD p))
  | .empty => some (s.addCatalogue name .empty (policy.getD .ignore))
  | .cloneOf other => (s.engines.find? other).map fun slot =>
    { s with engines := s.engines.insert name ⟨slot.catalogue, policy.getD slot.policy⟩ }
  | .sharing other => (s.engines.find? other).map fun slot =>
    { s with engines := s.engines.insert name ⟨slot.catalogue, policy.getD .ignore⟩ }

/-- Registers a validator in the catalogue of an engine. -/
def register? (s : Session) (engine name : String) (v : Validator) :
    Option (Except RuleError Session) := do
  let slot ← s.engines.find? engine
  let catalogue ← s.catalogues[slot.catalogue]?
  return (catalogue.register name v).map fun c =>
    { s with catalogues := s.catalogues.set slot.catalogue c }

end Session

end FieldRules
