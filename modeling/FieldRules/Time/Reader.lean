import FieldRules.Text.Blank
import FieldRules.Time.Instant

/-!
Reading instants from text. Six forms are known: the Internet form with an offset, the mail form
with an offset or a zone name, and four plain forms in UTC, date and time joined by `T` or by
blanks, and a date alone with dashes or slashes. The Internet form is strict about digits; the plain
forms take short numbers, blanks before a number and a signed year of any length; the mail form
takes short years and comments at the end.
-/
namespace FieldRules.Time

open Text

/-- At least `least` and at most `most` digits, and what follows them. -/
def digits? (least most : Nat) (s : List Char) : Option (List Char × List Char) :=
  let run := (s.take most).takeWhile Char.isDigit
  if run.length < least then none else some (run, s.drop run.length)

def number? (least most : Nat) (s : List Char) : Option (Nat × List Char) :=
  (digits? least most s).map fun r => (Nat.ofDigitChars 10 r.1 0, r.2)

def char? (c : Char) : List Char → Option (List Char)
  | [] => none
  | d :: rest => if d = c then some rest else none

/-- At least one blank. -/
def blanks? (s : List Char) : Option (List Char) :=
  let rest := trimStart s
  if rest.length < s.length then some rest else none

/-- Nanoseconds from the digits after a point; digits after the ninth are dropped. -/
def fraction? (s : List Char) : Option (Nat × List Char) :=
  (digits? 1 9 s).map fun r =>
    (Nat.ofDigitChars 10 r.1 0 * Nat.pow 10 (9 - r.1.length), r.2.dropWhile Char.isDigit)

/-- A point and a fraction, if a point follows. -/
def optionalFraction? : List Char → Option (Nat × List Char)
  | '.' :: rest => fraction? rest
  | rest => some (0, rest)

/-- Hours and minutes of an offset, in minutes, with `colon` saying what stands between them. -/
def offsetDigits? (colon : List Char → Option (List Char)) (s : List Char) :
    Option (Int × List Char) := do
  let (hours, s) ← number? 2 2 s
  let s ← colon s
  let (minutes, s) ← number? 2 2 s
  if hours < 24 ∧ minutes < 60 then some ((hours * 60 + minutes : Nat), s) else none

/-- `Z`, or a signed offset with a colon; the true minus sign is a sign too. -/
def internetOffset? : List Char → Option (Int × List Char)
  | 'Z' :: s | 'z' :: s => some (0, s)
  | '+' :: s => offsetDigits? (char? ':') s
  | '-' :: s | '\u2212' :: s => (offsetDigits? (char? ':') s).map fun r => (-r.1, r.2)
  | _ => none

/-- The Internet form: fixed digits, `T` or one space between date and time, and an offset. -/
def internetForm? (s : List Char) : Option Instant := do
  let (year, s) ← number? 4 4 s
  let (month, s) ← number? 2 2 (← char? '-' s)
  let (day, s) ← number? 2 2 (← char? '-' s)
  let s ← match s with
    | 'T' :: s | 't' :: s | ' ' :: s => some s
    | _ => none
  let (hour, s) ← number? 2 2 s
  let (minute, s) ← number? 2 2 (← char? ':' s)
  let (second, s) ← number? 2 2 (← char? ':' s)
  let (nanos, s) ← optionalFraction? s
  let (offset, s) ← internetOffset? s
  if s.isEmpty then
    Civil.toInstant? { date := { year, month, day }, hour, minute, second, nanos } offset
  else none

/-- The place in `names` of the name that the text starts with, in any case. -/
def name? (names : List String) (s : List Char) : Option (Nat × List Char) :=
  let start := (s.take 3).map Char.toLower
  (names.findIdx? fun n => n.toList.map Char.toLower == start).map fun i => (i, s.drop 3)

/-- Hours east of UTC of the named zones. -/
def zoneHours : List (String × Int) :=
  [("gmt", 0), ("ut", 0), ("edt", -4), ("est", -5), ("cdt", -5), ("cst", -6), ("mdt", -6),
   ("mst", -7), ("pdt", -7), ("pst", -8)]

/-- A zone name or a signed offset without a colon. A single letter other than `j` is a zone of
unknown offset and stands for UTC. -/
def mailOffset? (s : List Char) : Option (Int × List Char) :=
  let name := (s.takeWhile Char.isAlpha).map Char.toLower
  let rest := s.dropWhile Char.isAlpha
  match name with
  | [] => match s with
    | '+' :: s => offsetDigits? some s
    | '-' :: s => (offsetDigits? some s).map fun r => (-r.1, r.2)
    | _ => none
  | [letter] => if letter = 'j' then none else some (0, rest)
  | name => (zoneHours.lookup (String.ofList name)).map fun hours => (hours * 60, rest)

/-- What follows the comment that is open at `depth`; a backslash takes the next character as it
is. -/
def afterComment? : Nat → List Char → Option (List Char)
  | _, [] => none
  | _, ['\\'] => none
  | depth, '\\' :: _ :: rest => afterComment? depth rest
  | depth, '(' :: rest => afterComment? (depth + 1) rest
  | depth, ')' :: rest => if depth ≤ 1 then some rest else afterComment? (depth - 1) rest
  | depth, _ :: rest => afterComment? depth rest

/-- Nothing but comments; each takes at least its two parentheses, so `fuel` characters suffice. -/
def onlyComments : Nat → List Char → Bool
  | _, [] => true
  | 0, _ => false
  | fuel + 1, s => match trimStart s with
    | '(' :: rest => match afterComment? 1 rest with
      | some rest => onlyComments fuel rest
      | none => false
    | _ => false

/-- Years of two digits lie between 1950 and 2049, years of three digits count from 1900. -/
def mailYear (digits : List Char) : Int :=
  let year : Int := Nat.ofDigitChars 10 digits 0
  if digits.length = 2 then if year < 50 then year + 2000 else year + 1900
  else if digits.length = 3 then year + 1900
  else year

/-- A day of the week and a comma, if the text starts with one. -/
def optionalWeekday? (s : List Char) : Option (Option Nat × List Char) :=
  match name? weekdayNames s with
  | some (day, ',' :: rest) => some (some day, rest)
  | some _ => none
  | none => some (none, s)

/-- A colon and seconds, if a colon follows. -/
def optionalSeconds? (s : List Char) : Option (Nat × List Char) :=
  match trimStart s with
  | ':' :: rest => number? 2 2 rest
  | _ => some (0, s)

/-- The mail form; a day of the week has to be that of the date. -/
def mailForm? (s : List Char) : Option Instant := do
  let (dayOfWeek, s) ← optionalWeekday? (trimStart s)
  let (day, s) ← number? 1 2 (trimStart s)
  let (month, s) ← name? monthNames (← blanks? s)
  let (yearDigits, s) ← digits? 2 (s.length + 1) (← blanks? s)
  let (hour, s) ← number? 2 2 (← blanks? s)
  let (minute, s) ← number? 2 2 (trimStart (← char? ':' (trimStart s)))
  let (second, s) ← optionalSeconds? s
  let (offset, s) ← mailOffset? (← blanks? s)
  let date : Date := { year := mailYear yearDigits, month := month + 1, day }
  if onlyComments s.length s && dayOfWeek.all (weekday date.toDays == ·) then
    Civil.toInstant? { date, hour, minute, second, nanos := 0 } offset
  else none

/-- A year of up to four digits, or a signed year of any length, after blanks. -/
def plainYear? (s : List Char) : Option (Int × List Char) :=
  match trimStart s with
  | '-' :: s => (number? 1 s.length s).map fun r => (-(r.1 : Int), r.2)
  | '+' :: s => (number? 1 s.length s).map fun r => ((r.1 : Int), r.2)
  | s => (number? 1 4 s).map fun r => ((r.1 : Int), r.2)

/-- One or two digits, after blanks. -/
def plainNumber? (s : List Char) : Option (Nat × List Char) := number? 1 2 (trimStart s)

def plainDate? (separator : Char) (s : List Char) : Option (Date × List Char) := do
  let (year, s) ← plainYear? s
  let (month, s) ← plainNumber? (← char? separator s)
  let (day, s) ← plainNumber? (← char? separator s)
  some ({ year, month, day }, s)

/-- Date and time in UTC, with `joint` saying what stands between them. -/
def plainDateTime? (joint : List Char → Option (List Char)) (s : List Char) : Option Instant := do
  let (date, s) ← plainDate? '-' s
  let (hour, s) ← plainNumber? (← joint s)
  let (minute, s) ← plainNumber? (← char? ':' s)
  let (second, s) ← plainNumber? (← char? ':' s)
  let (nanos, s) ← optionalFraction? s
  if s.isEmpty then Civil.toInstant? { date, hour, minute, second, nanos } 0 else none

/-- A date alone stands for its midnight in UTC. -/
def plainMidnight? (separator : Char) (s : List Char) : Option Instant := do
  let (date, s) ← plainDate? separator s
  if s.isEmpty then Civil.toInstant? { date, hour := 0, minute := 0, second := 0, nanos := 0 } 0
  else none

/-- The forms in the order in which they are tried. -/
def forms : List (List Char → Option Instant) :=
  [internetForm?, mailForm?, plainDateTime? (char? 'T'), plainDateTime? (some ∘ trimStart),
   plainMidnight? '-', plainMidnight? '/']

/-- The instant that a text stands for; blanks around it do not count. -/
def Instant.ofText? (s : String) : Option Instant :=
  forms.findSome? fun form => form (trimChars s.toList)

end FieldRules.Time
