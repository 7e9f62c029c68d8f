import FieldRules.Double.Exponential
import FieldRules.Json.Basic

/-!
Writing JSON values, on one line without spaces or over several lines with two spaces for each
level. In strings the quote, the backslash and the control characters below U+0020 are escaped, and
nothing else. A number that is not finite is written as `null`.
-/
namespace FieldRules.Json

def hexDigits (width n : Nat) : List Char :=
  let digits := Nat.toDigits 16 n
  List.replicate (width - digits.length) '0' ++ digits

def shortEscapes : List (Char × Char) :=
  [('"', '"'), ('\\', '\\'), ('\x08', 'b'), ('\x0c', 'f'), ('\n', 'n'), ('\r', 'r'), ('\t', 't')]

def escaped (c : Char) : List Char :=
  match shortEscapes.lookup c with
  | some e => ['\\', e]
  | none => if c < ' ' then '\\' :: 'u' :: hexDigits 4 c.toNat else [c]

def quoted (s : String) : List Char := '"' :: s.toList.flatMap escaped ++ ['"']

def integerText (n : Int) : List Char :=
  if n < 0 then '-' :: Nat.toDigits 10 n.natAbs else Nat.toDigits 10 n.natAbs

/-- The text of a value that is no container. -/
def scalarText : Json → List Char
  | .bool b => (if b then "true" else "false").toList
  | .integer n => integerText n
  | .double d => d.toJsonChars?.getD "null".toList
  | .string s => quoted s
  | _ => "null".toList

mutual

def compact : Json → List Char
  | .array items => '[' :: compactItems items ++ [']']
  | .object members => '{' :: compactMembers members ++ ['}']
  | value => scalarText value

def compactItems : List Json → List Char
  | [] => []
  | [item] => item.compact
  | item :: rest => item.compact ++ ',' :: compactItems rest

def compactMembers : List (String × Json) → List Char
  | [] => []
  | [(key, value)] => quoted key ++ ':' :: value.compact
  | (key, value) :: rest => quoted key ++ ':' :: value.compact ++ ',' :: compactMembers rest

end

/-- A new line at a level. -/
def lineAt (level : Nat) : List Char := '\n' :: List.replicate (2 * level) ' '

mutual

/-- Over several lines; empty containers stay on one. -/
def pretty (level : Nat) : Json → List Char
  | .array [] => ['[', ']']
  | .array items => '[' :: prettyItems (level + 1) items ++ lineAt level ++ [']']
  | .object [] => ['{', '}']
  | .object members => '{' :: prettyMembers (level + 1) members ++ lineAt level ++ ['}']
  | value => scalarText value

def prettyItems (level : Nat) : List Json → List Char
  | [] => []
  | [item] => lineAt level ++ item.pretty level
  | item :: rest => lineAt level ++ item.pretty level ++ ',' :: prettyItems level rest

def prettyMembers (level : Nat) : List (String × Json) → List Char
  | [] => []
  | [(key, value)] => lineAt level ++ quoted key ++ ':' :: ' ' :: value.pretty level
  | (key, value) :: rest =>
    lineAt level ++ quoted key ++ ':' :: ' ' :: value.pretty level ++
      ',' :: prettyMembers level rest

end

def toText (j : Json) : String := String.ofList j.compact

def toPrettyText (j : Json) : String := String.ofList (j.pretty 0)

end FieldRules.Json
