import FieldRules.Double.Shortest

/-!
Numbers as decimal text. A number is written with the fewest digits that read back, always
positionally, and a whole number without a fraction. Reading takes an optional sign, digits with an
optional point and an optional exponent, and the names of the special numbers in any case; it rounds
to the nearest double.
-/
namespace FieldRules

/-- Whether `s`, whatever its ASCII case, is the lower-case word `word`. -/
def isWord (word : String) (s : List Char) : Bool := s.map Char.toLower == word.toList

namespace Decimal

/-- Positional notation: zeros are filled in up to the point, and before it. -/
def positional (d : Decimal) : List Char :=
  let digits := Nat.toDigits 10 d.digits
  if 0 ≤ d.exponent then digits ++ List.replicate d.exponent.toNat '0'
  else
    let places := (-d.exponent).toNat
    if places < digits.length then
      digits.take (digits.length - places) ++ '.' :: digits.drop (digits.length - places)
    else '0' :: '.' :: List.replicate (places - digits.length) '0' ++ digits

end Decimal

namespace Double

def toChars : Double → List Char
  | .nan => "NaN".toList
  | .infinite negative => (if negative then "-inf" else "inf").toList
  | .finite negative units _ =>
    (if negative then ['-'] else []) ++
      if units = 0 then ['0'] else (shortest .up units).positional

def toText (d : Double) : String := String.ofList d.toChars

/-- Positional notation with so many places behind the point; a half goes to the even digit. -/
def toFixed (places : Nat) : Double → List Char
  | .finite negative units _ =>
    let digits := nearest .even (units * Nat.pow 10 places) unitsPerOne
    (if negative then ['-'] else []) ++ (Decimal.mk digits (-places)).positional
  | d => d.toChars

/-- The size below which a whole number is written as an integer. -/
def integerLimit : Double := ofNat (Nat.pow 10 15)

/-- The text that rules and messages see. Whole numbers that are not too large are written as
integers, so that zero has no sign. -/
def ruleText (d : Double) : String :=
  if d.isWhole && d.abs.lt integerLimit then d.toInt64.repr else d.toText

def digitRun (s : List Char) : List Char × List Char :=
  (s.takeWhile Char.isDigit, s.dropWhile Char.isDigit)

/-- An exponent at the end of a number; nothing stands for zero. -/
def exponentOf? : List Char → Option Int
  | [] => some 0
  | e :: rest =>
    if e ≠ 'e' ∧ e ≠ 'E' then none
    else
      let (negative, digits) := match rest with
        | '-' :: digits => (true, digits)
        | '+' :: digits => (false, digits)
        | digits => (false, digits)
      if digits.isEmpty || !digits.all Char.isDigit then none
      else
        let value : Int := Nat.ofDigitChars 10 digits 0
        some (if negative then -value else value)

def ofUnsigned? (negative : Bool) (s : List Char) : Option Double :=
  if isWord "nan" s then some .nan
  else if isWord "inf" s || isWord "infinity" s then some (.infinite negative)
  else
    let (whole, afterWhole) := digitRun s
    let (fraction, afterFraction) := match afterWhole with
      | '.' :: rest => digitRun rest
      | rest => ([], rest)
    if whole.isEmpty && fraction.isEmpty then none
    else (exponentOf? afterFraction).map fun exponent =>
      ofDecimal negative (Nat.ofDigitChars 10 (whole ++ fraction) 0) (exponent - fraction.length)

def ofChars? : List Char → Option Double
  | '-' :: s => ofUnsigned? true s
  | '+' :: s => ofUnsigned? false s
  | s => ofUnsigned? false s

end Double

end FieldRules
