import FieldRules.Dict

/-!
Reports: the failures of each field, in the order in which they were found. Adding no failures to a
field leaves it out.
-/
namespace FieldRules

structure Failure where
  /-- The name of the validator. -/
  kind : String
  message : String
deriving DecidableEq, Repr

structure Report where
  fields : Dict (List Failure)
deriving DecidableEq

namespace Report

def empty : Report := ⟨.empty⟩

/-- Appends failures to those of a field. -/
def insert (r : Report) (field : String) (failures : List Failure) : Report :=
  if failures.isEmpty then r
  else ⟨r.fields.alter field fun old => old.getD [] ++ failures⟩

def ofList (l : List (String × List Failure)) : Report :=
  l.foldl (fun r e => r.insert e.1 e.2) empty

def toList (r : Report) : List (String × List Failure) := r.fields.entries

def find? (r : Report) (field : String) : Option (List Failure) := r.fields.find? field

def contains (r : Report) (field : String) : Bool := r.fields.contains field

def hasFailure (r : Report) (field kind : String) : Bool :=
  (r.find? field).any fun failures => failures.any fun f => f.kind == kind

def fieldNames (r : Report) : List String := r.fields.keys

/-- The number of fields. -/
def size (r : Report) : Nat := r.fields.size

/-- The number of failures of all fields. -/
def failureCount (r : Report) : Nat := (r.toList.flatMap (·.2)).length

def isEmpty (r : Report) : Bool := r.fields.isEmpty

/-- Nothing for a report without fields. -/
def toOption (r : Report) : Option Report := if r.isEmpty then none else some r

end Report

end FieldRules
