/-!
The tokens of a JSON text. The text of a string is kept as pieces, since a `\u` escape gives a
16-bit unit and it takes two of them to write a character beyond U+FFFF. A number is kept as its
digits.
-/
namespace FieldRules.Json

inductive Piece where
  | char (c : Char)
  | unit (code : Nat)
deriving DecidableEq

/-- The digits of a number; `fraction` and `exponent` are absent if their mark is. -/
structure NumberText where
  negative : Bool
  whole : List Char
  fraction : Option (List Char)
  exponent : Option (Bool × List Char)
deriving DecidableEq

inductive Token where
  | leftBrace
  | rightBrace
  | leftBracket
  | rightBracket
  | comma
  | colon
  | null
  | bool (value : Bool)
  | number (text : NumberText)
  | string (pieces : List Piece)
deriving DecidableEq

def isSpace (c : Char) : Bool := c == ' ' || c == '\n' || c == '\t' || c == '\r'

def hexValue? (c : Char) : Option Nat :=
  if '0' ≤ c ∧ c ≤ '9' then some (c.toNat - '0'.toNat)
  else if 'a' ≤ c ∧ c ≤ 'f' then some (c.toNat - 'a'.toNat + 10)
  else if 'A' ≤ c ∧ c ≤ 'F' then some (c.toNat - 'A'.toNat + 10)
  else none

/-- The number that hexadecimal digits write. -/
def hexNumber? : List Char → Option Nat :=
  List.foldl (fun n c => n.bind fun n => (hexValue? c).map (16 * n + ·)) (some 0)

def escapes : List (Char × Char) :=
  [('"', '"'), ('\\', '\\'), ('/', '/'), ('b', '\x08'), ('f', '\x0c'), ('n', '\n'), ('r', '\r'),
   ('t', '\t')]

/-- The pieces up to the closing quote. Control characters have to be escaped. -/
def stringBody? : List Char → Option (List Piece × List Char)
  | [] => none
  | '"' :: rest => some ([], rest)
  | '\\' :: 'u' :: a :: b :: c :: d :: rest =>
    (hexNumber? [a, b, c, d]).bind fun code =>
      (stringBody? rest).map fun r => (.unit code :: r.1, r.2)
  | '\\' :: e :: rest =>
    (escapes.lookup e).bind fun c => (stringBody? rest).map fun r => (.char c :: r.1, r.2)
  | c :: rest =>
    if c < ' ' || c == '\\' then none
    else (stringBody? rest).map fun r => (.char c :: r.1, r.2)

def digitRun (s : List Char) : List Char × List Char :=
  (s.takeWhile Char.isDigit, s.dropWhile Char.isDigit)

/-- At least one digit. -/
def digitRun? (s : List Char) : Option (List Char × List Char) :=
  let run := digitRun s
  if run.1.isEmpty then none else some run

/-- The whole part; a zero stands alone. -/
def whole? (s : List Char) : Option (List Char × List Char) :=
  (digitRun? s).bind fun run =>
    if run.1.head? = some '0' ∧ 1 < run.1.length then none else some run

def optionalFraction? : List Char → Option (Option (List Char) × List Char)
  | '.' :: rest => (digitRun? rest).map fun run => (some run.1, run.2)
  | rest => some (none, rest)

def exponentDigits? : List Char → Option ((Bool × List Char) × List Char)
  | '-' :: rest => (digitRun? rest).map fun run => ((true, run.1), run.2)
  | '+' :: rest => (digitRun? rest).map fun run => ((false, run.1), run.2)
  | rest => (digitRun? rest).map fun run => ((false, run.1), run.2)

def optionalExponent? : List Char → Option (Option (Bool × List Char) × List Char)
  | 'e' :: rest | 'E' :: rest => (exponentDigits? rest).map fun r => (some r.1, r.2)
  | rest => some (none, rest)

def numberText? (negative : Bool) (s : List Char) : Option (NumberText × List Char) := do
  let (whole, s) ← whole? s
  let (fraction, s) ← optionalFraction? s
  let (exponent, s) ← optionalExponent? s
  some ({ negative, whole, fraction, exponent }, s)

/-- The first token of a text that starts with no space. -/
def token? : List Char → Option (Token × List Char)
  | '{' :: rest => some (.leftBrace, rest)
  | '}' :: rest => some (.rightBrace, rest)
  | '[' :: rest => some (.leftBracket, rest)
  | ']' :: rest => some (.rightBracket, rest)
  | ',' :: rest => some (.comma, rest)
  | ':' :: rest => some (.colon, rest)
  | 'n' :: 'u' :: 'l' :: 'l' :: rest => some (.null, rest)
  | 't' :: 'r' :: 'u' :: 'e' :: rest => some (.bool true, rest)
  | 'f' :: 'a' :: 'l' :: 's' :: 'e' :: rest => some (.bool false, rest)
  | '"' :: rest => (stringBody? rest).map fun r => (.string r.1, r.2)
  | '-' :: rest => (numberText? true rest).map fun r => (.number r.1, r.2)
  | s => (numberText? false s).map fun r => (.number r.1, r.2)

/-- At most `fuel` tokens; every token takes a character. -/
def tokensWithin : Nat → List Char → Option (List Token)
  | fuel, s => match s.dropWhile isSpace, fuel with
    | [], _ => some []
    | _, 0 => none
    | start, fuel + 1 =>
      (token? start).bind fun r => (tokensWithin fuel r.2).map (r.1 :: ·)

def tokens? (s : List Char) : Option (List Token) := tokensWithin s.length s

end FieldRules.Json
