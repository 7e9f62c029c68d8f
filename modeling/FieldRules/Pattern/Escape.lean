import FieldRules.Pattern.Basic
import FieldRules.Pattern.Property
import FieldRules.Unicode.CaseFold

/-!
What a backslash and the characters after it stand for in a pattern: a character, a set of
characters or a condition on a border. Readers take the text after what they read from the front of
a list of characters and give nothing where the pattern is malformed.

Two flags change how a pattern is read. A verbose pattern may hold blanks and, from `#` to the end
of the line, comments anywhere between its characters. Without `unicode` the sets are those of
ASCII, and whatever could take a part of a character's encoding is malformed.
-/
namespace FieldRules.Pattern

structure Flags where
  ignoreCase : Bool := false
  multiLine : Bool := false
  dotAll : Bool := false
  lazy : Bool := false
  unicode : Bool := true
  crlf : Bool := false
  verbose : Bool := false

/-- Drops blanks and comments from the front. -/
def dropSpace : Bool → List Char → List Char
  | _, [] => []
  | true, c :: rest => dropSpace (c != '\n') rest
  | false, c :: rest =>
    if Text.isBlank c then dropSpace false rest
    else if c = '#' then dropSpace true rest
    else c :: rest

/-- What comes next: in a verbose pattern, what follows blanks and comments. -/
def next (f : Flags) (s : List Char) : List Char := if f.verbose then dropSpace false s else s

def runWithin (f : Flags) (p : Char → Bool) : Nat → List Char → List Char × List Char
  | fuel + 1, c :: rest =>
    if p c then
      let r := runWithin f p fuel (next f rest)
      (c :: r.1, r.2)
    else ([], c :: rest)
  | _, s => ([], s)

/-- The longest run of characters that satisfy `p`, and what follows it. -/
def run (f : Flags) (p : Char → Bool) (s : List Char) : List Char × List Char :=
  runWithin f p s.length s

/-- A closing brace after a run of characters that satisfy `p`. -/
def braced? (f : Flags) (p : Char → Bool) (s : List Char) : Option (List Char × List Char) :=
  match run f p (next f s) with
  | (inside, '}' :: rest) => some (inside, rest)
  | _ => none

def isHexDigit (c : Char) : Bool :=
  c.isDigit || ('a' ≤ c && c ≤ 'f') || ('A' ≤ c && c ≤ 'F')

def hexDigit (c : Char) : Nat :=
  if c.isDigit then c.toNat - '0'.toNat
  else if 'a' ≤ c then c.toNat - 'a'.toNat + 10
  else c.toNat - 'A'.toNat + 10

/-- The character of a code point. -/
def charOf? (code : Nat) : Option Char :=
  if code < 0xD800 ∨ (0xDFFF < code ∧ code ≤ 0x10FFFF) then some (Char.ofNat code) else none

def hexChar? (digits : List Char) : Option Char :=
  if digits.isEmpty then none else charOf? (digits.foldl (fun n d => 16 * n + hexDigit d) 0)

/-- Just `count` hexadecimal digits. -/
def hexDigits? (f : Flags) : Nat → List Char → Option (List Char × List Char)
  | 0, s => some ([], s)
  | n + 1, c :: rest =>
    if isHexDigit c then (hexDigits? f n (next f rest)).map fun r => (c :: r.1, r.2) else none
  | _, [] => none

inductive Escape where
  /-- A character; `isByte` if it is written as the two digits of a byte. -/
  | char (c : Char) (isByte : Bool)
  | set (s : CharSet)
  | look (l : Look)

/-- A character by its number: in braces, or `count` digits. -/
def hexEscape? (f : Flags) (count : Nat) (s : List Char) : Option (Escape × List Char) :=
  match next f s with
  | '{' :: rest => do
    let (digits, rest) ← braced? f isHexDigit rest
    some (.char (← hexChar? digits) false, next f rest)
  | s => do
    let (digits, rest) ← hexDigits? f count s
    some (.char (← hexChar? digits) (count == 2), rest)

/-- A set closed under case, if case does not count. -/
def folded (f : Flags) (s : CharSet) : CharSet :=
  if f.ignoreCase then if f.unicode then s.withCases else s.withAsciiCases else s

/-- The other characters, if `negated`. Those of a set of ASCII characters are not all whole without
Unicode. -/
def negated? (f : Flags) (negated : Bool) (s : CharSet) : Option CharSet :=
  if negated then if f.unicode then some s.complement else none else some s

/-- The blanks, the digits or the characters of words by a small letter, and all other characters by
the capital one. -/
def letterSet? (f : Flags) (c : Char) : Option CharSet :=
  let (space, digit, word) :=
    if f.unicode then (CharSet.space, CharSet.digit, CharSet.word)
    else (CharSet.asciiSpace, CharSet.asciiDigit, CharSet.asciiWord)
  match c with
  | 's' => some space
  | 'd' => some digit
  | 'w' => some word
  | 'S' => negated? f true space
  | 'D' => negated? f true digit
  | 'W' => negated? f true word
  | _ => none

/-- The text before the first place where `mark` stands, and that after it. -/
def splitAt? (mark : List Char) : List Char → Option (List Char × List Char)
  | [] => none
  | c :: rest =>
    if mark.isPrefixOf (c :: rest) then some ([], (c :: rest).drop mark.length)
    else (splitAt? mark rest).map fun r => (c :: r.1, r.2)

/-- The set of a property. Its value may follow `!=`, a colon or `=`, which all mean the same. -/
def property? (text : List Char) : Option CharSet :=
  match [['!', '='], [':'], ['=']].findSome? fun mark => splitAt? mark text with
  | some (name, value) => Unicode.valued? name value
  | none => Unicode.named? text

/-- A property in braces, or one of a single letter. -/
def propertyEscape? (f : Flags) (negated : Bool) (s : List Char) : Option (Escape × List Char) := do
  let (text, rest) ← match next f s with
    | '{' :: rest => braced? f (· != '}') rest
    | '\\' :: _ | [] => none
    | c :: rest => some ([c], next f rest)
  if f.unicode then
    let set ← negated? f negated (folded f (← property? text))
    some (.set set, rest)
  else none

def wordLook (f : Flags) (b : WordBorder) : Escape :=
  .look (.word b (if f.unicode then .word else .asciiWord))

def wordBorders : List (String × WordBorder) :=
  [("start", .start), ("end", .finish), ("start-half", .startHalf), ("end-half", .finishHalf)]

/-- What may follow the `b` of a word border: the name of a special one in braces. Braces around
anything that starts with no letter and no hyphen belong to a repetition. -/
def wordBorder? (f : Flags) : List Char → Option (WordBorder × List Char)
  | '{' :: rest => match next f rest with
    | [] => none
    | c :: tail =>
      if c.isAlpha || c == '-' then do
        let (name, rest) ← braced? f (fun c => c.isAlpha || c == '-') (c :: tail)
        some (← wordBorders.lookup (String.ofList name), rest)
      else some (.edge, '{' :: rest)
  | s => some (.edge, s)

def plainEscapes : List (Char × Char) :=
  [('a', '\x07'), ('f', '\x0c'), ('t', '\t'), ('n', '\n'), ('r', '\r'), ('v', '\x0b')]

/-- What stands after a backslash. Every ASCII character that is no letter, no digit and no angle
bracket may be escaped and stands for itself. -/
def escape? (f : Flags) : List Char → Option (Escape × List Char)
  | [] => none
  | 'x' :: rest => hexEscape? f 2 rest
  | 'u' :: rest => hexEscape? f 4 rest
  | 'U' :: rest => hexEscape? f 8 rest
  | 'p' :: rest => propertyEscape? f false rest
  | 'P' :: rest => propertyEscape? f true rest
  | 'A' :: rest => some (.look .textStart, rest)
  | 'z' :: rest => some (.look .textEnd, rest)
  | 'b' :: rest => (wordBorder? f rest).map fun r => (wordLook f r.1, r.2)
  | 'B' :: rest => some (wordLook f .noEdge, rest)
  | '<' :: rest => some (wordLook f .start, rest)
  | '>' :: rest => some (wordLook f .finish, rest)
  | c :: rest =>
    if ['d', 's', 'w', 'D', 'S', 'W'].contains c then
      (letterSet? f c).map fun s => (.set s, rest)
    else match plainEscapes.lookup c with
      | some plain => some (.char plain false, rest)
      | none => if c.toNat ≤ 0x7F && !c.isAlphanum then some (.char c false, rest) else none

/-- Whether a character may be written so: without Unicode, no byte beyond ASCII. -/
def charAllowed (f : Flags) (c : Char) (isByte : Bool) : Bool :=
  f.unicode || !isByte || c.toNat ≤ 0x7F

end FieldRules.Pattern
