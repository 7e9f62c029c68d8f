import FieldRules.Json.Writer
import FieldRules.Toml.Text

/-!
Writing keys and strings of TOML in the plainest quotes that take them. Keys are bare if they can
be. Strings stand in double quotes unless these would need an escape; then in single quotes, or in
three of either; and in double quotes with escapes if nothing else will do. Lines within a string
are kept apart only between three quotes.
-/
namespace FieldRules.Toml

/-- The length of the longest run of `c`. -/
def longestRun (c : Char) (s : List Char) : Nat :=
  (s.foldl (fun (longest, now) d =>
    if d = c then (max longest (now + 1), now + 1) else (longest, 0)) (0, 0)).1

/-- Control characters that can stand in no string as they are. -/
def isControl (c : Char) : Bool := (c < ' ' && c != '\t') || c == '\x7f'

/-- As `isControl`, but for line feeds. -/
def needsCode (c : Char) : Bool := isControl c && c != '\n'

def shortEscapes : List (Char × Char) :=
  [('\x08', 'b'), ('\t', 't'), ('\n', 'n'), ('\x0c', 'f'), ('\r', 'r'), ('\\', '\\')]

/-- The text between double quotes, of which up to `quotes` in a row stay as they are; `before`
counts those just before. With `lines`, line feeds stay too. -/
def escaped (lines : Bool) (quotes before : Nat) : List Char → List Char
  | [] => []
  | c :: rest =>
    if c = '"' then
      if before < quotes then c :: escaped lines quotes (before + 1) rest
      else '\\' :: c :: escaped lines quotes 0 rest
    else if c = '\n' && lines then c :: escaped lines quotes 0 rest
    else match shortEscapes.lookup c with
      | some e => '\\' :: e :: escaped lines quotes 0 rest
      | none =>
        if isControl c then
          '\\' :: 'u' :: (Json.hexDigits 4 c.toNat).map Char.toUpper ++ escaped lines quotes 0 rest
        else c :: escaped lines quotes 0 rest

def inDoubleQuotes (s : List Char) : List Char := '"' :: escaped false 0 0 s ++ ['"']

def inSingleQuotes (s : List Char) : List Char := '\'' :: s ++ ['\'']

/-- A line feed after the opening quotes, if the text has several lines. -/
def openingLine (s : List Char) : List Char := if s.contains '\n' then ['\n'] else []

def inLongDoubleQuotes (s : List Char) : List Char :=
  List.replicate 3 '"' ++ openingLine s ++ escaped true 2 0 s ++ List.replicate 3 '"'

def inLongSingleQuotes (s : List Char) : List Char :=
  List.replicate 3 '\'' ++ openingLine s ++ s ++ List.replicate 3 '\''

def stringText (s : List Char) : List Char :=
  let coded := s.any needsCode
  let escapes := coded || s.contains '\\'
  let several := s.contains '\n'
  let doubles := longestRun '"' s
  let singles := longestRun '\'' s
  if !escapes && doubles == 0 && !several then inDoubleQuotes s
  else if !coded && singles == 0 && !several then inSingleQuotes s
  else if !escapes && doubles ≤ 2 then inLongDoubleQuotes s
  else if !coded && singles ≤ 2 then inLongSingleQuotes s
  else if several then inLongDoubleQuotes s
  else inDoubleQuotes s

def keyText (s : List Char) : List Char :=
  let coded := s.any isControl
  if !s.isEmpty && s.all isBareKeyChar then s
  else if !coded && !s.contains '\\' && !s.contains '"' then inDoubleQuotes s
  else if !coded && !s.contains '\'' then inSingleQuotes s
  else inDoubleQuotes s

/-- An array of strings: on one line if it has at most one item, else an item a line. -/
def arrayText : List String → List Char
  | [] => ['[', ']']
  | [item] => '[' :: stringText item.toList ++ [']']
  | items =>
    '[' :: items.flatMap (fun item => "\n    ".toList ++ stringText item.toList ++ [',']) ++
      ['\n', ']']

/-- The line of an entry. -/
def entryText (key : String) (value : List Char) : List Char :=
  keyText key.toList ++ " = ".toList ++ value ++ ['\n']

end FieldRules.Toml
