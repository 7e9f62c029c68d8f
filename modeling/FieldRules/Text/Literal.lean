import FieldRules.Unicode.Category
import FieldRules.Unicode.Property

/-!
Text in quotes for people to read: whatever would not show, or would change how its neighbours show,
is written as an escape.
-/
namespace FieldRules.Text

def literalEscapes : List (Char × Char) :=
  [('\x00', '0'), ('\t', 't'), ('\r', 'r'), ('\n', 'n'), ('\\', '\\'), ('"', '"')]

/-- Characters that do not show by themselves: marks on the character before them, and what is no
letter, mark, number, punctuation or symbol, but for the space. -/
def isHidden (c : Char) : Bool :=
  c != ' ' && (0x7F ≤ c.toNat || c < ' ') &&
    ((Unicode.lookup? Unicode.propertyTexts "graphemeextend").any (·.contains c) ||
      !(Unicode.unionOf Unicode.categoryTexts visibleCategories).contains c)
where
  visibleCategories : List String :=
    ["lu", "ll", "lt", "lm", "lo", "mn", "mc", "me", "nd", "nl", "no", "pc", "pd", "ps", "pe", "pi",
     "pf", "po", "sm", "sc", "sk", "so"]

def literalChar (c : Char) : List Char :=
  match literalEscapes.lookup c with
  | some e => ['\\', e]
  | none => if isHidden c then "\\u\x7b".toList ++ Nat.toDigits 16 c.toNat ++ ['\x7d'] else [c]

/-- The text in double quotes. -/
def literal (s : String) : String :=
  String.ofList ('"' :: s.toList.flatMap literalChar ++ ['"'])

end FieldRules.Text
