import FieldRules.Json.Token

/-!
A JSON text as it is written: the tree of its tokens, with numbers as digits and strings as pieces.
The tree is read from left to right with a stack of the containers that are still open.
-/
namespace FieldRules.Json

inductive Document where
  | null
  | bool (value : Bool)
  | number (text : NumberText)
  | string (pieces : List Piece)
  | array (items : List Document)
  | object (members : List (List Piece × Document))

/-- An open container: what it holds so far, the last first, and the key that waits for a value. -/
inductive Open where
  | array (items : List Document)
  | object (members : List (List Piece × Document)) (key : List Piece)

/-- What the text may go on with. -/
inductive Expecting where
  /-- A value, or the closing bracket of an array that is still empty. -/
  | value (closing : Bool)
  /-- A key, or the closing brace of an object that is still empty. -/
  | key (closing : Bool) (members : List (List Piece × Document))
  | colon (members : List (List Piece × Document)) (key : List Piece)
  /-- A comma or the end of the innermost container. -/
  | more (value : Document)

structure Reading where
  expecting : Expecting
  containers : List Open

namespace Reading

def start : Reading := ⟨.value false, []⟩

def step? : Reading → Token → Option Reading
  | ⟨.value _, stack⟩, .null => some ⟨.more .null, stack⟩
  | ⟨.value _, stack⟩, .bool b => some ⟨.more (.bool b), stack⟩
  | ⟨.value _, stack⟩, .number text => some ⟨.more (.number text), stack⟩
  | ⟨.value _, stack⟩, .string pieces => some ⟨.more (.string pieces), stack⟩
  | ⟨.value _, stack⟩, .leftBracket => some ⟨.value true, .array [] :: stack⟩
  | ⟨.value _, stack⟩, .leftBrace => some ⟨.key true [], stack⟩
  | ⟨.value true, .array [] :: stack⟩, .rightBracket => some ⟨.more (.array []), stack⟩
  | ⟨.key true _, stack⟩, .rightBrace => some ⟨.more (.object []), stack⟩
  | ⟨.key _ members, stack⟩, .string key => some ⟨.colon members key, stack⟩
  | ⟨.colon members key, stack⟩, .colon => some ⟨.value false, .object members key :: stack⟩
  | ⟨.more v, .array items :: stack⟩, .comma => some ⟨.value false, .array (v :: items) :: stack⟩
  | ⟨.more v, .array items :: stack⟩, .rightBracket =>
    some ⟨.more (.array (v :: items).reverse), stack⟩
  | ⟨.more v, .object members key :: stack⟩, .comma =>
    some ⟨.key false ((key, v) :: members), stack⟩
  | ⟨.more v, .object members key :: stack⟩, .rightBrace =>
    some ⟨.more (.object ((key, v) :: members).reverse), stack⟩
  | _, _ => none

def run? (r : Reading) (tokens : List Token) : Option Reading :=
  tokens.foldl (fun r t => r.bind (·.step? t)) (some r)

end Reading

/-- The tree of a text that holds one value. -/
def Document.ofChars? (s : List Char) : Option Document :=
  match (tokens? s).bind Reading.start.run? with
  | some ⟨.more value, []⟩ => some value
  | _ => none

end FieldRules.Json
