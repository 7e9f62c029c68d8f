import FieldRules.CharSet

/-!
Ranges of code points as lines of text. Each range is the number of code points left out since the
range before it and, after a point, the number of code points that follow its first one, both in
base 36; the ranges of a line are separated by blanks.
-/
namespace FieldRules.Unicode

/-- The names of a property, in lower case and without separators, and the text of its ranges. -/
abbrev PropertyText := List String × List String

structure RangeReading where
  /-- The first code point after the ranges read so far. -/
  next : Nat
  gap : Nat
  more : Option Nat
  ranges : List (Nat × Nat)

namespace RangeReading

def digit (c : Char) : Nat :=
  if c ≤ '9' then c.toNat - '0'.toNat else c.toNat - 'a'.toNat + 10

def close (r : RangeReading) : RangeReading :=
  let first := r.next + r.gap
  let last := first + r.more.getD 0
  ⟨last + 1, 0, none, (first, last) :: r.ranges⟩

def step (r : RangeReading) (c : Char) : RangeReading :=
  if c = ' ' then r.close
  else if c = '.' then { r with more := some 0 }
  else match r.more with
    | none => { r with gap := r.gap * 36 + digit c }
    | some n => { r with more := some (n * 36 + digit c) }

end RangeReading

def rangesOfText (lines : List String) : List (Nat × Nat) :=
  let readLine (r : RangeReading) (line : String) := (line.toList.foldl RangeReading.step r).close
  (lines.foldl readLine ⟨0, 0, none, []⟩).ranges.reverse

/-- The set of the property with this name. -/
def lookup? (texts : List PropertyText) (name : String) : Option CharSet :=
  (texts.find? fun t => t.1.contains name).map fun t => ⟨rangesOfText t.2⟩

/-- The union of all sets of properties with one of these names. -/
def unionOf (texts : List PropertyText) (names : List String) : CharSet :=
  .ofRanges ((texts.filter fun t => names.any t.1.contains).flatMap fun t => rangesOfText t.2)

end FieldRules.Unicode
