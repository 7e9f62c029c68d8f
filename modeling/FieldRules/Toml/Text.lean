import FieldRules.Json.Token

/-!
The small parts of TOML documents: blanks, comments, line ends, strings and keys. Readers take the
text after what they read from the front of a list of characters and give nothing where it is wrong.
-/
namespace FieldRules.Toml

def isBlank (c : Char) : Bool := c == ' ' || c == '\t'

def dropBlanks (s : List Char) : List Char := s.dropWhile isBlank

/-- Characters that may stand in comments and in strings as they are. -/
def isPlain (c : Char) : Bool := c == '\t' || (' ' ≤ c && c != '\x7f')

/-- A line end at the front. -/
def lineEnd? : List Char → Option (List Char)
  | '\n' :: rest => some rest
  | '\r' :: '\n' :: rest => some rest
  | _ => none

/-- Drops a comment from the front, if there is one. -/
def dropComment : List Char → List Char
  | '#' :: rest => rest.dropWhile isPlain
  | s => s

def dropSpacesWithin : Nat → List Char → List Char
  | 0, s => s
  | fuel + 1, s =>
    let s := dropComment (dropBlanks s)
    match lineEnd? s with
    | some rest => dropSpacesWithin fuel rest
    | none => s

/-- Drops blanks, comments and line ends. -/
def dropSpaces (s : List Char) : List Char := dropSpacesWithin (s.length + 1) s

/-- The rest of a line with nothing in it but a comment; the text may end too. -/
def endLine? (s : List Char) : Option (List Char) :=
  match dropComment (dropBlanks s) with
  | [] => some []
  | s => lineEnd? s

def plainEscapes : List (Char × Char) :=
  [('b', '\x08'), ('t', '\t'), ('n', '\n'), ('f', '\x0c'), ('r', '\r'), ('"', '"'), ('\\', '\\')]

/-- The character of a code point in hexadecimal digits. -/
def codeChar? (digits : List Char) : Option Char :=
  (Json.hexNumber? digits).bind fun code =>
    if code < 0xD800 ∨ (0xDFFF < code ∧ code ≤ 0x10FFFF) then some (Char.ofNat code) else none

/-- What stands after a backslash: a letter, or a code point in four or eight digits. -/
def escape? : List Char → Option (Char × List Char)
  | 'u' :: a :: b :: c :: d :: rest => (codeChar? [a, b, c, d]).map (·, rest)
  | 'U' :: a :: b :: c :: d :: e :: f :: g :: h :: rest =>
    (codeChar? [a, b, c, d, e, f, g, h]).map (·, rest)
  | c :: rest => (plainEscapes.lookup c).map (·, rest)
  | [] => none

/-- The end of a line after a backslash, and all blanks and line ends up to the next character. -/
def foldedLine? (s : List Char) : Option (List Char) :=
  (lineEnd? (dropBlanks s)).map fun rest =>
    rest.dropWhile fun c => c == ' ' || c == '\t' || c == '\n' || c == '\r'

/-- How a string is delimited. -/
structure Quoting where
  quote : Char
  /-- Three quotes, and line ends within. -/
  long : Bool

/-- Whether a backslash starts an escape. -/
def Quoting.escapes (q : Quoting) : Bool := q.quote == '"'

/-- Up to two quotes of the text that stand before the closing ones, and what follows these. -/
def closing? (quote : Char) (s : List Char) : Option (List Char × List Char) :=
  let count := (s.takeWhile (· == quote)).length
  if 3 ≤ count then
    let inside := min (count - 3) 2
    some (List.replicate inside quote, s.drop (inside + 3))
  else none

/-- The text up to the closing quotes. -/
def bodyWithin? (q : Quoting) : Nat → List Char → Option (List Char × List Char)
  | 0, _ => none
  | _, [] => none
  | fuel + 1, c :: rest =>
    let more (c : Char) (rest : List Char) := (bodyWithin? q fuel rest).map fun r => (c :: r.1, r.2)
    if c = q.quote then
      if q.long then (closing? c (c :: rest)).or (more c rest) else some ([], rest)
    else if c = '\\' && q.escapes then
      match if q.long then foldedLine? rest else none with
      | some rest => bodyWithin? q fuel rest
      | none => (escape? rest).bind fun r => more r.1 r.2
    else if isPlain c then more c rest
    else if q.long then (lineEnd? (c :: rest)).bind (more '\n')
    else none

/-- A string; a line end right after three opening quotes is no part of it. -/
def string? (s : List Char) : Option (List Char × List Char) :=
  let body (quote : Char) (long : Bool) (s : List Char) :=
    bodyWithin? ⟨quote, long⟩ (s.length + 1) s
  match s with
  | '"' :: '"' :: '"' :: rest => body '"' true ((lineEnd? rest).getD rest)
  | '\'' :: '\'' :: '\'' :: rest => body '\'' true ((lineEnd? rest).getD rest)
  | '"' :: rest => body '"' false rest
  | '\'' :: rest => body '\'' false rest
  | _ => none

def isBareKeyChar (c : Char) : Bool := c.isAlphanum || c == '_' || c == '-'

/-- One part of a key: bare, or a string on one line. -/
def keyPart? (s : List Char) : Option (List Char × List Char) :=
  match s with
  | '"' :: rest => bodyWithin? ⟨'"', false⟩ (rest.length + 1) rest
  | '\'' :: rest => bodyWithin? ⟨'\'', false⟩ (rest.length + 1) rest
  | s =>
    let bare := s.takeWhile isBareKeyChar
    if bare.isEmpty then none else some (bare, s.dropWhile isBareKeyChar)

def keyPartsWithin? : Nat → List Char → Option (List String × List Char)
  | 0, _ => none
  | fuel + 1, s => (keyPart? (dropBlanks s)).bind fun (part, rest) =>
    match dropBlanks rest with
    | '.' :: rest => (keyPartsWithin? fuel rest).map fun r => (String.ofList part :: r.1, r.2)
    | rest => some ([String.ofList part], rest)

/-- Tables and arrays nest less deep than this. -/
def depthLimit : Nat := 80

/-- A key of parts joined by points: the parts before the last, and the last. -/
def key? (s : List Char) : Option ((List String × String) × List Char) :=
  (keyPartsWithin? (depthLimit - 1) s).bind fun (parts, rest) =>
    parts.getLast?.map fun last => ((parts.dropLast, last), rest)

end FieldRules.Toml
