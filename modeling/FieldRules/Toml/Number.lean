import FieldRules.Double.Text
import FieldRules.Time.Calendar
import FieldRules.Toml.Basic

/-!
Numbers, dates and times of TOML. Digits may be grouped by single underscores between them. Whole
numbers have 64 bits; a positive number too large for a double is none.
-/
namespace FieldRules.Toml

/-- Just `count` digits and their value. -/
def digits? (count : Nat) (s : List Char) : Option (Nat × List Char) :=
  let run := s.take count
  if run.length = count ∧ run.all Char.isDigit then some (Nat.ofDigitChars 10 run 0, s.drop count)
  else none

/-- A number of two digits within bounds. -/
def pair? (least most : Nat) (s : List Char) : Option (Nat × List Char) :=
  (digits? 2 s).filter fun r => least ≤ r.1 && r.1 ≤ most

/-- A year, a month and a day that is in the month. -/
def date? (s : List Char) : Option (List Char) :=
  match digits? 4 s with
  | some (year, '-' :: s) => match pair? 1 12 s with
    | some (month, '-' :: s) => (pair? 1 (Time.daysInMonth year month) s).map (·.2)
    | _ => none
  | _ => none

/-- Hours, minutes and seconds, of which there may be sixty, and a fraction. -/
def time? (s : List Char) : Option (List Char) :=
  match pair? 0 23 s with
  | some (_, ':' :: s) => match pair? 0 59 s with
    | some (_, ':' :: s) => (pair? 0 60 s).map fun r => match r.2 with
      | '.' :: rest =>
        if rest.head?.any Char.isDigit then rest.dropWhile Char.isDigit else '.' :: rest
      | s => s
    | _ => none
  | _ => none

def dropOffset (s : List Char) : List Char :=
  match s with
  | 'Z' :: rest | 'z' :: rest => rest
  | '+' :: rest | '-' :: rest => match pair? 0 23 rest with
    | some (_, ':' :: rest) => match pair? 0 59 rest with
      | some (_, rest) => rest
      | none => s
    | _ => s
  | s => s

/-- A date, a date and a time with or without an offset, or a time. -/
def moment? (s : List Char) : Option (List Char) :=
  match date? s with
  | none => time? s
  | some s => some (match s with
    | 'T' :: rest | 't' :: rest | ' ' :: rest => ((time? rest).map dropOffset).getD s
    | s => s)

/-- A run of digits with single underscores between them; without an answer if it is empty or an
underscore stands elsewhere. -/
def group? (isDigit : Char → Bool) (s : List Char) : Option (List Char × List Char) :=
  let run := s.takeWhile fun c => isDigit c || c == '_'
  let proper := (run.zip run.tail).all fun p => p.1 != '_' || p.2 != '_'
  if run.head?.any isDigit && run.getLast?.any isDigit && proper then
    some (run.filter (· != '_'), s.dropWhile fun c => isDigit c || c == '_')
  else none

/-- The whole part: one zero, or digits that start with none. -/
def wholePart? (s : List Char) : Option (List Char × List Char) :=
  match s with
  | '0' :: rest => some (['0'], rest)
  | s => group? Char.isDigit s

def exponent? : List Char → Option (Option Int × List Char)
  | e :: s =>
    if e = 'e' ∨ e = 'E' then
      let (negative, s) := match s with
        | '-' :: s => (true, s)
        | '+' :: s => (false, s)
        | s => (false, s)
      (group? Char.isDigit s).map fun (digits, rest) =>
        let n : Int := Nat.ofDigitChars 10 digits 0
        (some (if negative then -n else n), rest)
    else some (none, e :: s)
  | [] => some (none, [])

def fraction? : List Char → Option (Option (List Char) × List Char)
  | '.' :: s => (group? Char.isDigit s).map fun r => (some r.1, r.2)
  | s => some (none, s)

def integer? (n : Int) : Option Toml :=
  if Int64.minValue.toInt ≤ n ∧ n ≤ Int64.maxValue.toInt then some (.integer n) else none

/-- A decimal number after its sign. -/
def decimal? (negative : Bool) (s : List Char) : Option (Toml × List Char) := do
  let (whole, s) ← wholePart? s
  let (fraction, s) ← fraction? s
  let (exponent, s) ← exponent? s
  if fraction.isNone && exponent.isNone then
    let n : Int := Nat.ofDigitChars 10 whole 0
    some (← integer? (if negative then -n else n), s)
  else
    let places := fraction.getD []
    let d := Double.ofDecimal negative (Nat.ofDigitChars 10 (whole ++ places) 0)
      (exponent.getD 0 - places.length)
    if d = .infinite false then none else some (.float d, s)

def special? (negative : Bool) : List Char → Option (Toml × List Char)
  | 'i' :: 'n' :: 'f' :: s => some (.float (.infinite negative), s)
  | 'n' :: 'a' :: 'n' :: s => some (.float .nan, s)
  | _ => none

def isHexDigit (c : Char) : Bool :=
  c.isDigit || ('a' ≤ c && c ≤ 'f') || ('A' ≤ c && c ≤ 'F')

/-- A whole number in another base, after the mark of the base. -/
def based? (base : Nat) (isDigit : Char → Bool) (s : List Char) : Option (Toml × List Char) :=
  (group? isDigit s).bind fun (digits, rest) =>
    let value (c : Char) : Nat :=
      if c.isDigit then c.toNat - '0'.toNat else c.toLower.toNat - 'a'.toNat + 10
    (integer? (digits.foldl (fun n c => base * n + value c) 0 : Nat)).map (·, rest)

def signed? (negative : Bool) (s : List Char) : Option (Toml × List Char) :=
  (special? negative s).or (decimal? negative s)

/-- A value that starts with a sign or a digit. -/
def number? (s : List Char) : Option (Toml × List Char) :=
  match moment? s with
  | some rest => some (.moment, rest)
  | none => match s with
    | '+' :: rest => signed? false rest
    | '-' :: rest => signed? true rest
    | '0' :: 'x' :: rest => based? 16 isHexDigit rest
    | '0' :: 'o' :: rest => based? 8 (fun c => '0' ≤ c && c ≤ '7') rest
    | '0' :: 'b' :: rest => based? 2 (fun c => c == '0' || c == '1') rest
    | s => decimal? false s

end FieldRules.Toml
