import FieldRules.CharSet
import FieldRules.Text.Blank
import FieldRules.Unicode.Word

/-!
Patterns: regular expressions over characters and over the borders between characters. A pattern is
generic in its atoms, since a search replaces them by what they are worth on its text.
-/
namespace FieldRules

inductive Pattern (α : Type) where
  | empty
  | atom (a : α)
  | seq (p q : Pattern α)
  | alt (p q : Pattern α)
  /-- `p` at least `least` times, and at most `most` times if there is a limit. -/
  | repeated (least : Nat) (most : Option Nat) (p : Pattern α)
  /-- A group with a number or a name. -/
  | capture (p : Pattern α)
deriving Repr

namespace Pattern

variable {α β : Type}

def map (f : α → β) : Pattern α → Pattern β
  | empty => empty
  | atom a => atom (f a)
  | seq p q => seq (p.map f) (q.map f)
  | alt p q => alt (p.map f) (q.map f)
  | repeated least most p => repeated least most (p.map f)
  | capture p => capture (p.map f)

def seqAll : List (Pattern α) → Pattern α
  | [] => empty
  | [p] => p
  | p :: rest => seq p (seqAll rest)

def altAll : List (Pattern α) → Pattern α
  | [] => empty
  | [p] => p
  | p :: rest => alt p (altAll rest)

def optional (p : Pattern α) : Pattern α := repeated 0 (some 1) p

def star (p : Pattern α) : Pattern α := repeated 0 none p

def plus (p : Pattern α) : Pattern α := repeated 1 none p

end Pattern

namespace CharSet

def space : CharSet := ⟨Text.blankRanges⟩

def digit : CharSet := ⟨Unicode.digitRanges⟩

def word : CharSet := ⟨Unicode.wordRanges⟩

def asciiSpace : CharSet := ⟨[(0x9, 0xD), (0x20, 0x20)]⟩

def asciiDigit : CharSet := ⟨[(0x30, 0x39)]⟩

def asciiWord : CharSet := ⟨[(0x30, 0x39), (0x41, 0x5A), (0x5F, 0x5F), (0x61, 0x7A)]⟩

end CharSet

namespace Pattern

/-- Where a border lies with respect to words. -/
inductive WordBorder where
  | edge
  | noEdge
  | start
  | finish
  | startHalf
  | finishHalf
deriving DecidableEq, Repr

/-- A condition on the border between two characters. Lines end with a line feed or, if `crlf`, with
a carriage return, a line feed or both in this order. -/
inductive Look where
  | textStart
  | textEnd
  | lineStart (crlf : Bool)
  | lineEnd (crlf : Bool)
  | word (border : WordBorder) (letters : CharSet)

/-- Whether the condition holds between these characters; nothing stands beyond the text's ends. -/
def Look.holds (before after : Option Char) : Look → Bool
  | textStart => before.isNone
  | textEnd => after.isNone
  | lineStart crlf =>
    before.isNone || before == some '\n' ||
      (crlf && before == some '\r' && after != some '\n')
  | lineEnd crlf =>
    if crlf then
      after.isNone || after == some '\r' || (after == some '\n' && before != some '\r')
    else after.isNone || after == some '\n'
  | word border letters =>
    let left := before.any letters.contains
    let right := after.any letters.contains
    match border with
    | .edge => left != right
    | .noEdge => left == right
    | .start => !left && right
    | .finish => left && !right
    | .startHalf => !left
    | .finishHalf => !right

inductive Atom where
  | char (s : CharSet)
  | look (l : Look)

/-- One character of a set. -/
def chars (s : CharSet) : Pattern Atom := atom (.char s)

def border (l : Look) : Pattern Atom := atom (.look l)

end Pattern

end FieldRules
