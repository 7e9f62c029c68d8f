import FieldRules.Json.Reader
import FieldRules.Json.Writer
import FieldRules.Report

/-!
Reports as JSON: an object with a list of failures for each field, each failure an object with its
`type` and its `msg`. Reading also takes a failure that is a list of the two, and passes over other
members of a failure whatever they hold.
-/
namespace FieldRules

open Json (Document Piece stringOf?)

def Failure.toJson (f : Failure) : Json :=
  .object [("type", .string f.kind), ("msg", .string f.message)]

namespace Report

def toJson (r : Report) : Json :=
  .ofDict (r.fields.map fun failures => .array (failures.map Failure.toJson))

def toText (r : Report) : String := r.toJson.toPrettyText

end Report

namespace Json.Document

def string? : Document → Option String
  | .string pieces => stringOf? pieces
  | _ => none

/-- The members of an object; nothing if a key holds half a character. -/
def members? : Document → Option (List (String × Document))
  | .object members => members.mapM fun m => (stringOf? m.1).map (·, m.2)
  | _ => none

/-- The only member of this name; nothing in it if there is none, and no answer if there are two. -/
def onlyMember? (name : String) (members : List (String × Document)) : Option (Option Document) :=
  match members.filter fun m => m.1 == name with
  | [] => some none
  | [m] => some (some m.2)
  | _ => none

end Json.Document

def Failure.ofDocument? : Document → Option Failure
  | .array [kind, message] => do return ⟨← kind.string?, ← message.string?⟩
  | document => do
    let members ← document.members?
    let kind ← (← Document.onlyMember? "type" members)
    let message ← (← Document.onlyMember? "msg" members)
    return ⟨← kind.string?, ← message.string?⟩

namespace Report

def failuresOf? : Document → Option (List Failure)
  | .array items => items.mapM Failure.ofDocument?
  | _ => none

/-- The fields as they stand, also those without failures; the last one of a name counts. -/
def ofDocument? (document : Document) : Option Report := do
  let members ← document.members?
  let fields ← members.mapM fun m => (failuresOf? m.2).map (m.1, ·)
  return ⟨.ofList fields⟩

def ofText? (s : String) : Option Report := (Document.ofChars? s.toList).bind ofDocument?

end Report

end FieldRules
