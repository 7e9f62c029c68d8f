import FieldRules.Report.Json
import FieldRules.Request
import FieldRules.Value.Json

/-!
Requests as JSON: an object of the three parts. Reading passes over other members; a part that is
not there is empty, and none may be there twice. A list of at most three parts is read too.
-/
namespace FieldRules.Request

open Json (Document)

def toJson (r : Request) : Json :=
  .object [("params", r.params.toJson), ("body", r.body.toJson), ("query", r.query.toJson)]

def toText (r : Request) : String := r.toJson.toText

/-- Two containers stand around the values of a part. -/
def partRoom : Nat := Json.nestingLimit - 2

def recordOf? (document : Document) : Option Record := do
  let members ← document.members?
  let fields ← members.mapM fun m => (m.2.toJson? partRoom).map fun j => (m.1, Value.ofJson j)
  return .ofList fields

def partOf? : Option Document → Option Record
  | none => some .empty
  | some document => recordOf? document

def ofParts? (params body query : Option Document) : Option Request := do
  return ⟨← partOf? params, ← partOf? body, ← partOf? query⟩

def ofDocument? : Document → Option Request
  | .array parts => if parts.length ≤ 3 then ofParts? parts[0]? parts[1]? parts[2]? else none
  | document => do
    let members ← document.members?
    ofParts? (← Document.onlyMember? "params" members) (← Document.onlyMember? "body" members)
      (← Document.onlyMember? "query" members)

def ofText? (s : String) : Option Request := (Document.ofChars? s.toList).bind ofDocument?

/-- Takes the fields of a JSON object as the body; anything else makes the body empty. -/
def withJsonBody (r : Request) (body : Json) : Request :=
  { r with body := (Record.ofJson? body).getD .empty }

def withQuery (r : Request) (pairs : List (String × String)) : Request :=
  { r with query := textRecord pairs }

def withParams (r : Request) (pairs : List (String × String)) : Request :=
  { r with params := textRecord pairs }

end FieldRules.Request
