import FieldRules.Pattern.Basic

/-!
The pattern of locators: a scheme, and after `://` a text without blanks, in which credentials, a
host, a port and a path may be told apart.
-/
namespace FieldRules.Address

open Pattern

def exactly (s : String) : Pattern Atom := seqAll (s.toList.map fun c => chars (.singleton c))

def schemes : List String := ["ftp", "rtmp", "git", "http", "https"]

/-- A user name and perhaps a password, up to an at sign. -/
def credentials : Pattern Atom :=
  seqAll [plus (chars .word), optional (exactly ":"), star (chars .word), exactly "@"]

def port : Pattern Atom := seq (exactly ":") (plus (chars ⟨[(0x30, 0x39)]⟩))

/-- The characters that may follow the slash of a short path: the slash itself, those of words and
`#!:.?+=&%@-`. -/
def pathChar : CharSet :=
  ⟨[(0x21, 0x21), (0x23, 0x23), (0x25, 0x26), (0x2B, 0x2B), (0x2D, 0x2F), (0x3A, 0x3A),
    (0x3D, 0x3D), (0x3F, 0x40)] ++ CharSet.word.ranges⟩

def path : Pattern Atom := alt (exactly "/") (seq (exactly "/") (chars pathChar))

def url : Pattern Atom :=
  seqAll [border .textStart, altAll (schemes.map exactly), exactly "://", optional credentials,
    plus (chars CharSet.space.complement), optional port, optional path, border .textEnd]

end FieldRules.Address
