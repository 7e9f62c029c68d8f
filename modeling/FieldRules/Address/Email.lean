import FieldRules.Pattern.Basic

/-!
The pattern of electronic mail addresses: a local part, which is a dotted sequence of words or a
quoted string, an at sign, and a domain of at least two labels, of which the last starts and ends
with a letter. Letters may be of other scripts; the case of letters does not matter.
-/
namespace FieldRules.Address

open Pattern

/-- The characters beyond ASCII that may stand for letters. -/
def wideRanges : List (Nat × Nat) := [(0xA0, 0xD7FF), (0xF900, 0xFDCF), (0xFDF0, 0xFFEF)]

def letter : CharSet := ⟨[(0x41, 0x5A), (0x61, 0x7A)] ++ wideRanges⟩

def letterOrDigit : CharSet := ⟨[(0x30, 0x39), (0x41, 0x5A), (0x61, 0x7A)] ++ wideRanges⟩

/-- A letter, a digit, or one of `-`, `.`, `_` and `~`. -/
def labelInner : CharSet :=
  ⟨[(0x2D, 0x2E), (0x30, 0x39), (0x41, 0x5A), (0x5F, 0x5F), (0x61, 0x7A), (0x7E, 0x7E)] ++
    wideRanges⟩

/-- A letter, a digit, or a printable ASCII character that is no separator in an address. -/
def wordChar : CharSet :=
  ⟨[(0x21, 0x21), (0x23, 0x27), (0x2A, 0x2B), (0x2D, 0x2D), (0x2F, 0x39), (0x3D, 0x3D),
    (0x3F, 0x3F), (0x41, 0x5A), (0x5E, 0x7E)] ++ wideRanges⟩

/-- What may stand plain in a quoted string: no blank, no quote and no backslash. -/
def quotedChar : CharSet :=
  ⟨[(0x1, 0x8), (0xB, 0xC), (0xE, 0x1F), (0x21, 0x21), (0x23, 0x5B), (0x5D, 0x7F)] ++ wideRanges⟩

/-- What a backslash may precede in a quoted string. -/
def escapedChar : CharSet := ⟨[(0x1, 0x9), (0xB, 0x7F)] ++ wideRanges⟩

def blank : CharSet := ⟨[(0x9, 0x9), (0x20, 0x20)]⟩

def char (c : Char) : Pattern Atom := chars (.singleton c)

/-- Blanks, which a line break may precede, with or without blanks before it. -/
def foldingSpace : Pattern Atom :=
  optional (seq (optional (seqAll [star (chars blank), char '\r', char '\n'])) (plus (chars blank)))

def dottedWords : Pattern Atom :=
  seq (plus (chars wordChar)) (star (seq (char '.') (plus (chars wordChar))))

def quotedItem : Pattern Atom := alt (chars quotedChar) (seq (char '\\') (chars escapedChar))

def quotedString : Pattern Atom :=
  seqAll [char '"', star (seq foldingSpace quotedItem), foldingSpace, char '"']

/-- A text that starts and ends with `ends` and has label characters in between. -/
def label (ends : CharSet) : Pattern Atom :=
  alt (chars ends) (seqAll [chars ends, star (chars labelInner), chars ends])

def email : Pattern Atom :=
  seqAll [border .textStart, alt dottedWords quotedString, char '@',
    plus (seq (label letterOrDigit) (char '.')), label letter, optional (char '.'),
    border .textEnd]

end FieldRules.Address
