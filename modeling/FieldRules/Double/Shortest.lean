import FieldRules.Double.Basic

/-!
The shortest decimal of a double: of all decimals that round to the double, those with the fewest
digits, and of these the one nearest to it. The decimals that round to a double fill an interval
whose ends lie halfway to its two neighbours; the ends belong to it if the significand is even. On
the grid of the multiples of a power of ten the double lies between two points, so the widest grid
with a point in the interval has one of these two in it.
-/
namespace FieldRules

/-- `digits * 10 ^ exponent`. -/
structure Decimal where
  digits : Nat
  exponent : Int
deriving DecidableEq

/-- The decimals that round to the same double, in quarters of a unit. -/
structure Basin where
  low : Nat
  centre : Nat
  high : Nat
  closed : Bool

namespace Basin

/-- Below a power of two the doubles lie twice as close as above it. -/
def ofUnits (units : Nat) : Basin where
  low := 4 * units -
    if units = Nat.pow 2 52 * gap units ∧ 1 < gap units then gap units else 2 * gap units
  centre := 4 * units
  high := 4 * units + 2 * gap units
  closed := units / gap units % 2 == 0

def contains (b : Basin) (scale point : Nat) : Bool :=
  if b.closed then b.low * scale ≤ point && point ≤ b.high * scale
  else b.low * scale < point && point < b.high * scale

/-- The multiple of `10 ^ exponent` nearest to the centre, if it is in the basin; if just one of the
two multiples around the centre is, then that one. -/
def onGrid? (b : Basin) (tie : Tie) (exponent : Int) : Option Decimal :=
  let scale := Nat.pow 10 (-exponent).toNat
  let step := 4 * unitsPerOne * Nat.pow 10 exponent.toNat
  let nearer := nearest tie (b.centre * scale) step
  let farther := 2 * (b.centre * scale / step) + 1 - nearer
  if b.contains scale (nearer * step) then some ⟨nearer, exponent⟩
  else if b.contains scale (farther * step) then some ⟨farther, exponent⟩
  else none

end Basin

/-- An exponent whose power of ten exceeds the double. -/
def topExponent (units : Nat) : Int := ((units.log2 : Int) - 1073) * 30103 / 100000 + 2

/-- The shortest decimal of a positive number of units: seventeen digits are always enough, and the
first grids tried are wider than the double. -/
def shortest (tie : Tie) (units : Nat) : Decimal :=
  let top := topExponent units
  ((List.range 24).findSome? fun (i : Nat) =>
    (Basin.ofUnits units).onGrid? tie (top - i)).getD ⟨0, 0⟩

end FieldRules
