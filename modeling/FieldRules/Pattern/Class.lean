import FieldRules.Pattern.Escape

/-!
Sets of characters in brackets. Items stand side by side or in nested brackets; `&&`, `--` and `~~`
join what stands before and after them, from the left. The set is read with a stack of the brackets
and operations that are still open. Each part also carries how deep it nests.
-/
namespace FieldRules.Pattern

inductive SetOperation where
  | intersection
  | difference
  | symmetricDifference

def SetOperation.apply : SetOperation → CharSet → CharSet → CharSet
  | intersection => CharSet.intersection
  | difference => CharSet.difference
  | symmetricDifference => CharSet.symmetricDifference

structure ClassPart where
  set : CharSet
  depth : Nat

/-- An item that nests nothing. -/
def ClassPart.leaf (s : CharSet) : ClassPart := ⟨s, 0⟩

/-- Items side by side. -/
def ClassPart.all : List ClassPart → ClassPart
  | [] => leaf .empty
  | [part] => part
  | parts => ⟨.ofRanges (parts.flatMap (·.set.ranges)), 1 + (parts.map (·.depth)).foldl max 0⟩

inductive OpenClass where
  /-- A bracket, and the items read before it. -/
  | bracket (negated : Bool) (outer : List ClassPart)
  | operation (op : SetOperation) (left : ClassPart)

structure ClassReading where
  items : List ClassPart
  stack : List OpenClass

/-- The ASCII sets that have a name. -/
def asciiSets : List (String × CharSet) :=
  [("alnum", ⟨[(0x30, 0x39), (0x41, 0x5A), (0x61, 0x7A)]⟩),
   ("alpha", ⟨[(0x41, 0x5A), (0x61, 0x7A)]⟩),
   ("ascii", ⟨[(0, 0x7F)]⟩),
   ("blank", ⟨[(0x9, 0x9), (0x20, 0x20)]⟩),
   ("cntrl", ⟨[(0, 0x1F), (0x7F, 0x7F)]⟩),
   ("digit", ⟨[(0x30, 0x39)]⟩),
   ("graph", ⟨[(0x21, 0x7E)]⟩),
   ("lower", ⟨[(0x61, 0x7A)]⟩),
   ("print", ⟨[(0x20, 0x7E)]⟩),
   ("punct", ⟨[(0x21, 0x2F), (0x3A, 0x40), (0x5B, 0x60), (0x7B, 0x7E)]⟩),
   ("space", ⟨[(0x9, 0xD), (0x20, 0x20)]⟩),
   ("upper", ⟨[(0x41, 0x5A)]⟩),
   ("word", ⟨[(0x30, 0x39), (0x41, 0x5A), (0x5F, 0x5F), (0x61, 0x7A)]⟩),
   ("xdigit", ⟨[(0x30, 0x39), (0x41, 0x46), (0x61, 0x66)]⟩)]

/-- A named ASCII set after its opening bracket: the set, and whether its complement is meant. -/
def namedSet? : List Char → Option ((CharSet × Bool) × List Char)
  | ':' :: s =>
    let (negated, s) := match s with
      | '^' :: s => (true, s)
      | s => (false, s)
    match s.dropWhile (· != ':') with
    | ':' :: ']' :: rest =>
      (asciiSets.lookup (String.ofList (s.takeWhile (· != ':')))).map fun set =>
        ((set, negated), rest)
    | _ => none
  | _ => none

/-- Joins the items with the operation that waits for them. -/
def joinOperation (f : Flags) (right : ClassPart) : List OpenClass → ClassPart × List OpenClass
  | .operation op left :: stack =>
    (⟨op.apply (folded f left.set) (folded f right.set), 1 + max left.depth right.depth⟩, stack)
  | stack => (right, stack)

/-- The hyphens, and after none of them the closing bracket, that stand for themselves at the start
of a bracket. -/
def leadingItems (f : Flags) : Nat → List Char → List ClassPart × List Char
  | fuel + 1, '-' :: rest =>
    let r := leadingItems f fuel (next f rest)
    (.leaf (.singleton '-') :: r.1, r.2)
  | _, s => ([], s)

/-- Opens a bracket; `s` is what stands after it. -/
def openBracket (f : Flags) (r : ClassReading) (s : List Char) : ClassReading × List Char :=
  let (negated, s) := match next f s with
    | '^' :: s => (true, next f s)
    | s => (false, s)
  let (items, s) := match leadingItems f s.length s with
    | ([], ']' :: s) => ([ClassPart.leaf (.singleton ']')], next f s)
    | r => r
  (⟨items, .bracket negated r.items :: r.stack⟩, s)

def openOperation (f : Flags) (op : SetOperation) (r : ClassReading) : ClassReading :=
  let (left, stack) := joinOperation f (.all r.items) r.stack
  ⟨[], .operation op left :: stack⟩

/-- Closes the innermost bracket. -/
def closeBracket? (f : Flags) (r : ClassReading) : Option (ClassPart × ClassReading) :=
  match joinOperation f (.all r.items) r.stack with
  | (inside, .bracket negated outer :: stack) =>
    (negated? f negated (folded f inside.set)).map fun set =>
      (⟨set, 1 + inside.depth⟩, ⟨outer, stack⟩)
  | _ => none

/-- One item that is no bracket: a character, itself or escaped, or a set. -/
def classItem? (f : Flags) : List Char → Option (Escape × List Char)
  | [] => none
  | '\\' :: rest => escape? f rest
  | c :: rest => some (.char c false, rest)

def charItem? (f : Flags) (c : Char) (isByte : Bool) : Option CharSet :=
  if f.unicode || c.toNat ≤ 0x7F then
    if charAllowed f c isByte then some (.singleton c) else none
  else none

/-- What the hyphen at the front is followed by. -/
def afterHyphen (f : Flags) (s : List Char) : Option Char :=
  if f.verbose then
    match s.dropWhile Text.isBlank with
    | '#' :: rest => (rest.dropWhile Text.isBlank).head?
    | rest => rest.head?
  else s.head?

/-- An item or, if a hyphen with an item after it follows, a range. -/
def itemOrRange? (f : Flags) (s : List Char) : Option (CharSet × List Char) := do
  let (first, rest) ← classItem? f s
  let alone : Option (CharSet × List Char) := match first with
    | .char c isByte => (charItem? f c isByte).map (·, next f rest)
    | .set set => some (set, next f rest)
    | .look _ => none
  match next f rest with
  | '-' :: tail =>
    if afterHyphen f tail = some ']' ∨ afterHyphen f tail = some '-' then alone
    else
      match first, ← classItem? f (next f tail) with
      | .char low lowByte, (.char high highByte, rest) =>
        if (charItem? f low lowByte).isSome && (charItem? f high highByte).isSome && low ≤ high then
          some (⟨[(low.toNat, high.toNat)]⟩, rest)
        else none
      | _, _ => none
  | [] => none
  | _ => alone

/-- What a step of the reading of a set comes to. -/
inductive ClassStep where
  | more (r : ClassReading) (rest : List Char)
  | done (part : ClassPart) (rest : List Char)

def addItem (r : ClassReading) (s : CharSet) : ClassReading := ⟨.leaf s :: r.items, r.stack⟩

def classStep? (f : Flags) (r : ClassReading) (s : List Char) : Option ClassStep :=
  match next f s with
  | [] => none
  | '[' :: rest => match namedSet? rest with
    | some ((set, negated), rest) =>
      (negated? f negated (folded f set)).map fun set => .more (addItem r set) rest
    | none =>
      let (r, rest) := openBracket f r rest
      some (.more r rest)
  | ']' :: rest => (closeBracket? f r).map fun (part, r) =>
    if r.stack.isEmpty then .done part rest else .more ⟨part :: r.items, r.stack⟩ rest
  | '&' :: '&' :: rest => some (.more (openOperation f .intersection r) rest)
  | '-' :: '-' :: rest => some (.more (openOperation f .difference r) rest)
  | '~' :: '~' :: rest => some (.more (openOperation f .symmetricDifference r) rest)
  | s => (itemOrRange? f s).map fun (set, rest) => .more (addItem r set) rest

def classWithin? (f : Flags) : Nat → ClassReading → List Char → Option (ClassPart × List Char)
  | 0, _, _ => none
  | fuel + 1, r, s => match classStep? f r s with
    | none => none
    | some (.done part rest) => some (part, rest)
    | some (.more r rest) => classWithin? f fuel r rest

/-- The set in brackets; `s` is what stands after the opening bracket. -/
def class? (f : Flags) (s : List Char) : Option (ClassPart × List Char) :=
  let (r, rest) := openBracket f ⟨[], []⟩ s
  classWithin? f (s.length + 1) r rest

end FieldRules.Pattern
