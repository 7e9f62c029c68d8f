import FieldRules.Engine

/-!
The inputs of a request: three records, each of which is validated by itself.
-/
namespace FieldRules

inductive RequestPart where
  | params
  | body
  | query
deriving DecidableEq, Repr

structure Request where
  params : Record
  body : Record
  query : Record

namespace Request

def empty : Request := ⟨.empty, .empty, .empty⟩

def part (r : Request) : RequestPart → Record
  | .params => r.params
  | .body => r.body
  | .query => r.query

def setPart (r : Request) (part : RequestPart) (record : Record) : Request :=
  match part with
  | .params => { r with params := record }
  | .body => { r with body := record }
  | .query => { r with query := record }

/-- Fields with texts as their values; the last one of a name counts. -/
def textRecord (pairs : List (String × String)) : Record :=
  .ofList (pairs.map fun p => (p.1, .string p.2))

/-- Validates one part, and puts what validation leaves in its place. -/
def validate (r : Request) (part : RequestPart) (e : Engine) (rules : RuleSet) :
    Request × Run (Option Report) :=
  let run := e.validate (r.part part) rules
  (r.setPart part run.record, run)

end Request

end FieldRules
