import FieldRules.Double.Text

/-!
Numbers as JSON writes them: always with a fraction or an exponent, so that a reader keeps them
apart from integers. The point stands within the digits or up to five places before them as long as
the number stays below 10¹⁶; all other numbers have one digit before the point and an exponent with
its sign.
-/
namespace FieldRules.Decimal

def exponentText (exponent : Int) : List Char :=
  'e' :: (if exponent < 0 then '-' else '+') :: Nat.toDigits 10 exponent.natAbs

/-- A first digit, the others after a point if there are any, and the exponent. -/
def scientific (d : Decimal) : List Char :=
  let digits := Nat.toDigits 10 d.digits
  let exponent := d.exponent + digits.length - 1
  match digits with
  | [] => []
  | [digit] => digit :: exponentText exponent
  | first :: rest => first :: '.' :: rest ++ exponentText exponent

/-- The text of a positive number in JSON. -/
def json (d : Decimal) : List Char :=
  let point := d.exponent + (Nat.toDigits 10 d.digits).length
  if 0 ≤ d.exponent ∧ point ≤ 16 then d.positional ++ ".0".toList
  else if -5 < point ∧ point ≤ 16 then d.positional
  else d.scientific

end FieldRules.Decimal

namespace FieldRules.Double

/-- The text of a finite number in JSON. -/
def toJsonChars? : Double → Option (List Char)
  | .finite negative units _ =>
    some ((if negative then ['-'] else []) ++
      if units = 0 then "0.0".toList else (shortest .even units).json)
  | _ => none

end FieldRules.Double
