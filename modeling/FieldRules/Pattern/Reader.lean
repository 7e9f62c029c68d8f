import FieldRules.Pattern.Class
import FieldRules.Pattern.Weight

/-!
Reading patterns. A pattern is read from left to right with a stack of the groups that are still
open. Flags that are set within a group hold up to its end, whatever bars stand in between. There is
no look-around and no back-reference. A pattern must not nest more than 250 deep and must not be too
heavy.
-/
namespace FieldRules.Pattern

inductive Fault where
  | malformed
  | tooHeavy
deriving DecidableEq, Repr

/-- A part of a pattern and how deep it nests. -/
structure Node where
  pattern : Pattern Atom
  depth : Nat

/-- The parts of one alternative, the last first, and the alternatives before it, the last first.
Flags are a part that matches nothing and cannot be repeated. -/
structure Branch where
  parts : List (Option Node)
  before : List Node

structure OpenGroup where
  outer : Branch
  flags : Flags
  capturing : Bool

structure Reading where
  branch : Branch
  groups : List OpenGroup
  flags : Flags
  names : List (List Char)

namespace Node

def leaf (p : Pattern Atom) : Node := ⟨p, 0⟩

def deeper (parts : List Nat) : Nat := 1 + parts.foldl max 0

/-- Parts after one another. -/
def sequence : List (Option Node) → Node
  | [] => leaf .empty
  | [part] => part.getD (leaf .empty)
  | parts =>
    let nodes := parts.filterMap id
    ⟨.seqAll (nodes.map (·.pattern)), deeper (nodes.map (·.depth))⟩

/-- Parts that stand for one another. -/
def choice : List Node → Node
  | [] => leaf .empty
  | [node] => node
  | nodes => ⟨.altAll (nodes.map (·.pattern)), deeper (nodes.map (·.depth))⟩

end Node

namespace Branch

def empty : Branch := ⟨[], []⟩

def add (b : Branch) (n : Node) : Branch := { b with parts := some n :: b.parts }

/-- Ends the alternative. -/
def bar (b : Branch) : Branch := ⟨[], .sequence b.parts.reverse :: b.before⟩

def close (b : Branch) : Node := .choice b.bar.before.reverse

/-- Repeats the last part; there has to be one. -/
def repeat? (least : Nat) (most : Option Nat) (b : Branch) : Option Branch :=
  match b.parts with
  | some n :: parts =>
    some { b with parts := some ⟨.repeated least most n.pattern, n.depth + 1⟩ :: parts }
  | _ => none

end Branch

/-- Flags by their letters. -/
def Flags.set? (f : Flags) (on : Bool) : Char → Option Flags
  | 'i' => some { f with ignoreCase := on }
  | 'm' => some { f with multiLine := on }
  | 's' => some { f with dotAll := on }
  | 'U' => some { f with lazy := on }
  | 'u' => some { f with unicode := on }
  | 'R' => some { f with crlf := on }
  | 'x' => some { f with verbose := on }
  | _ => none

/-- What a group starts with after its flags. -/
inductive Opening where
  | flags (f : Flags)
  | group (capturing : Bool) (f : Flags) (name : Option (List Char))

/-- Flag letters up to a colon or the end of the group. A hyphen turns off the flags after it; no
letter and no hyphen stands twice, and the hyphen not at the end. `seen` are those so far, the last
first. -/
def flags? (f : Flags) (on : Bool) (seen : List Char) : List Char → Option (Opening × List Char)
  | [] => none
  | c :: rest =>
    if c = ':' then if seen.head? = some '-' then none else some (.group false f none, rest)
    else if c = ')' then
      if seen.isEmpty ∨ seen.head? = some '-' then none else some (.flags f, rest)
    else if seen.contains c then none
    else if c = '-' then flags? f false (c :: seen) rest
    else (f.set? on c).bind fun f => flags? f on (c :: seen) rest

def isNameStart (c : Char) : Bool :=
  c == '_' || (Unicode.lookup? Unicode.propertyTexts "alphabetic").any (·.contains c)

def isNamePart (c : Char) : Bool :=
  isNameStart c || ['.', '[', ']'].contains c || (Unicode.category? "n").any (·.contains c)

/-- A group's name up to the closing bracket. -/
def groupName? (s : List Char) : Option (List Char × List Char) :=
  match s.takeWhile (· != '>'), s.dropWhile (· != '>') with
  | first :: name, _ :: rest =>
    if isNameStart first && name.all isNamePart then some (first :: name, rest) else none
  | _, _ => none

/-- The start of a group after its parenthesis. -/
def opening? (f : Flags) (s : List Char) : Option (Opening × List Char) :=
  let named (rest : List Char) : Option (Opening × List Char) :=
    (groupName? rest).map fun r => (.group true f (some r.1), r.2)
  match next f s with
  | '?' :: '=' :: _ | '?' :: '!' :: _ | '?' :: '<' :: '=' :: _ | '?' :: '<' :: '!' :: _ => none
  | '?' :: 'P' :: '<' :: rest => named rest
  | '?' :: '<' :: rest => named rest
  | '?' :: rest => flags? f true [] rest
  | s => some (.group true f none, s)

/-- A question mark that makes a repetition prefer few rounds, which changes no match. -/
def dropLazy : List Char → List Char
  | '?' :: rest => rest
  | s => s

def maxCount : Nat := 4294967295

/-- A count, blanks around it aside. -/
def count? (f : Flags) (s : List Char) : Option (Nat × List Char) :=
  let (digits, rest) := run f Char.isDigit (Text.trimStart s)
  let n := Nat.ofDigitChars 10 digits 0
  if digits.isEmpty ∨ maxCount < n then none
  else some (n, if rest.head?.any Text.isBlank then next f (Text.trimStart rest) else rest)

/-- The counts of a repetition after the opening brace. -/
def counts? (f : Flags) (s : List Char) : Option ((Nat × Option Nat) × List Char) := do
  let (least, rest) ← count? f (next f s)
  match rest with
  | '}' :: rest => some ((least, some least), rest)
  | ',' :: rest => match next f rest with
    | '}' :: rest => some ((least, none), rest)
    | rest => match ← count? f rest with
      | (most, '}' :: rest) => if most < least then none else some ((least, some most), rest)
      | _ => none
  | _ => none

def dot? (f : Flags) : Option CharSet :=
  if !f.unicode then none
  else if f.dotAll then some .full
  else if f.crlf then some (CharSet.complement ⟨[(0xA, 0xA), (0xD, 0xD)]⟩)
  else some (CharSet.complement ⟨[(0xA, 0xA)]⟩)

def charNode (f : Flags) (c : Char) : Node := .leaf (chars (folded f (.singleton c)))

/-- A part that is no group and no repetition. -/
def primitive? (f : Flags) : List Char → Option (Node × List Char)
  | [] => none
  | '.' :: rest => (dot? f).map fun s => (.leaf (chars s), rest)
  | '^' :: rest =>
    some (.leaf (border (if f.multiLine then .lineStart f.crlf else .textStart)), rest)
  | '$' :: rest =>
    some (.leaf (border (if f.multiLine then .lineEnd f.crlf else .textEnd)), rest)
  | '[' :: rest => (class? f rest).map fun r => (⟨chars r.1.set, r.1.depth⟩, r.2)
  | '\\' :: rest => do
    match ← escape? f rest with
    | (.char c isByte, rest) => if charAllowed f c isByte then some (charNode f c, rest) else none
    | (.set s, rest) => some (.leaf (chars s), rest)
    | (.look l, rest) => some (.leaf (border l), rest)
  | c :: rest => some (charNode f c, rest)

namespace Reading

def start : Reading := ⟨.empty, [], {}, []⟩

def openGroup? (r : Reading) (s : List Char) : Option (Reading × List Char) := do
  let (opening, rest) ← opening? r.flags s
  match opening with
  | .flags f =>
    let branch := { r.branch with parts := none :: r.branch.parts }
    some ({ r with branch, flags := f }, rest)
  | .group capturing f name =>
    if name.any r.names.contains then none
    else some ({ branch := .empty
                 groups := ⟨r.branch, r.flags, capturing⟩ :: r.groups
                 flags := f
                 names := name.toList ++ r.names }, rest)

def closeGroup? (r : Reading) : Option Reading :=
  match r.groups with
  | [] => none
  | g :: groups =>
    let inside := r.branch.close
    let pattern := if g.capturing then .capture inside.pattern else inside.pattern
    some { r with branch := g.outer.add ⟨pattern, inside.depth + 1⟩, groups, flags := g.flags }

def repeatLast? (r : Reading) (least : Nat) (most : Option Nat) : Option Reading :=
  (r.branch.repeat? least most).map fun branch => { r with branch }

/-- Reads one part; `s` starts with it. -/
def step? (r : Reading) : List Char → Option (Reading × List Char)
  | '(' :: rest => r.openGroup? rest
  | ')' :: rest => r.closeGroup?.map (·, rest)
  | '|' :: rest => some ({ r with branch := r.branch.bar }, rest)
  | '?' :: rest => (r.repeatLast? 0 (some 1)).map (·, dropLazy rest)
  | '*' :: rest => (r.repeatLast? 0 none).map (·, dropLazy rest)
  | '+' :: rest => (r.repeatLast? 1 none).map (·, dropLazy rest)
  | '{' :: rest => do
    let ((least, most), rest) ← counts? r.flags rest
    (r.repeatLast? least most).map (·, dropLazy (next r.flags rest))
  | s => (primitive? r.flags s).map fun (node, rest) =>
    ({ r with branch := r.branch.add node }, rest)

/-- Reads to the end; every part takes a character. -/
def runWithin? : Nat → Reading → List Char → Option Reading
  | fuel, r, s => match next r.flags s, fuel with
    | [], _ => some r
    | _, 0 => none
    | s, fuel + 1 => (r.step? s).bind fun (r, rest) => runWithin? fuel r rest

end Reading

def nestingLimit : Nat := 250

/-- The pattern that a text writes. -/
def ofChars? (s : List Char) : Except Fault (Pattern Atom) :=
  match Reading.start.runWithin? s.length s with
  | some r =>
    let node := r.branch.close
    if !r.groups.isEmpty || nestingLimit < node.depth then .error .malformed
    else if node.pattern.tooHeavy then .error .tooHeavy
    else .ok node.pattern
  | none => .error .malformed

/-- As `ofChars?`, of a string. -/
def compile (source : String) : Except Fault (Pattern Atom) := ofChars? source.toList

end FieldRules.Pattern
