/-!
Double-precision numbers, exactly. A finite number is a sign and a count of units of 2⁻¹⁰⁷⁴, the
least positive double; the counts that occur have at most 53 significant bits and lie below 2²⁰⁹⁸.
Comparing two finite numbers is therefore comparing two integers. Zero keeps its sign, which only
its text shows.
-/
namespace FieldRules

/-- Units in one: 2¹⁰⁷⁴. -/
def unitsPerOne : Nat := Nat.pow 2 1074

/-- The gap between the doubles around `units`, in units. -/
def gap (units : Nat) : Nat := Nat.pow 2 (units.log2 - 52)

def Representable (units : Nat) : Prop := units.log2 < 2098 ∧ gap units ∣ units

instance (units : Nat) : Decidable (Representable units) :=
  inferInstanceAs (Decidable (_ ∧ _))

/-- Which of two equally near numbers is taken. -/
inductive Tie where
  | up
  | even
deriving DecidableEq

/-- The multiple of `step` nearest to `number`, counted in steps. -/
def nearest (tie : Tie) (number step : Nat) : Nat :=
  if 2 * (number % step) < step then number / step
  else if step < 2 * (number % step) then number / step + 1
  else match tie with
    | .up => number / step + 1
    | .even => number / step + number / step % 2

inductive Double where
  | nan
  | infinite (negative : Bool)
  | finite (negative : Bool) (units : Nat) (fits : Representable units)
deriving DecidableEq

namespace Double

def zero : Double := .finite false 0 (by decide)

instance : Inhabited Double := ⟨zero⟩

/-- The finite number with this sign and count, and infinity where no finite number has it. -/
def ofUnits (negative : Bool) (units : Nat) : Double :=
  if h : Representable units then .finite negative units h else .infinite negative

/-- `num / den` units to the nearest count a double can have; a half goes to the even multiple of
the gap. -/
def roundUnits (num den : Nat) : Nat :=
  nearest .even num (gap (num / den) * den) * gap (num / den)

/-- The double nearest to `num / den`. -/
def ofRatio (negative : Bool) (num den : Nat) : Double :=
  ofUnits negative (roundUnits (num * unitsPerOne) den)

def ofNat (n : Nat) : Double := ofRatio false n 1

def ofInt (n : Int) : Double := ofRatio (n < 0) n.natAbs 1

/-- The double nearest to `digits * 10 ^ exponent`. Beyond 10⁴⁰⁰ every number is infinite and below
10⁻⁴⁰⁰ every one is zero, so no power of ten is formed that is much longer than the digits are. -/
def ofDecimal (negative : Bool) (digits : Nat) (exponent : Int) : Double :=
  if digits = 0 then ofUnits negative 0
  else if digits.log2 * 3 / 10 + exponent > 400 then .infinite negative
  else if digits.log2 * 31 / 100 + 1 + exponent < -400 then ofUnits negative 0
  else if 0 ≤ exponent then ofRatio negative (digits * Nat.pow 10 exponent.toNat) 1
  else ofRatio negative digits (Nat.pow 10 (-exponent).toNat)

def isFinite : Double → Bool
  | .finite .. => true
  | _ => false

/-- The number in units, signed; zero for numbers that are not finite. -/
def signedUnits : Double → Int
  | .finite negative units _ => if negative then -(units : Int) else units
  | _ => 0

/-- Numeric equality: `nan` equals nothing and the two zeros are equal. -/
def eq : Double → Double → Bool
  | .infinite s, .infinite t => s == t
  | a@(.finite ..), b@(.finite ..) => a.signedUnits == b.signedUnits
  | _, _ => false

/-- Strictly below; `nan` is neither below nor above anything. -/
def lt : Double → Double → Bool
  | .nan, _ | _, .nan => false
  | .infinite s, .infinite t => s && !t
  | .infinite s, .finite .. => s
  | .finite .., .infinite t => !t
  | a@(.finite ..), b@(.finite ..) => a.signedUnits < b.signedUnits

/-- The whole part of a finite number, the fraction cut off toward zero. -/
def truncate? : Double → Option Int
  | .finite negative units _ =>
    let whole : Int := (units / unitsPerOne : Nat)
    some (if negative then -whole else whole)
  | _ => none

/-- The whole part as an integer of 64 bits: the nearest one where it does not fit, and zero for
`nan`. -/
def toInt64 : Double → Int
  | .nan => 0
  | .infinite negative => if negative then Int64.minValue.toInt else Int64.maxValue.toInt
  | .finite negative units _ =>
    let whole : Int := (units / unitsPerOne : Nat)
    max Int64.minValue.toInt (min (if negative then -whole else whole) Int64.maxValue.toInt)

def abs : Double → Double
  | .nan => .nan
  | .infinite _ => .infinite false
  | .finite _ units fits => .finite false units fits

/-- No fraction; never so for infinities and `nan`. -/
def isWhole : Double → Bool
  | .finite _ units _ => units % unitsPerOne == 0
  | _ => false

def one : Double := ofNat 1

def negate : Double → Double
  | .nan => .nan
  | .infinite s => .infinite !s
  | .finite s units fits => .finite (!s) units fits

/-- The nearest double to a sum of finite numbers. -/
def add : Double → Double → Double
  | a@(.finite s _ _), b@(.finite t _ _) =>
    let sum := a.signedUnits + b.signedUnits
    ofUnits (if sum = 0 then s && t else sum < 0) (roundUnits sum.natAbs 1)
  | _, _ => .nan

/-- The nearest double to a product of finite numbers. -/
def mul : Double → Double → Double
  | .finite s a _, .finite t b _ => ofRatio (s != t) (a * b) (unitsPerOne * unitsPerOne)
  | _, _ => .nan

/-- The nearest double to a quotient of finite numbers, the divisor not zero. -/
def div : Double → Double → Double
  | .finite s a _, .finite t b _ => if b = 0 then .nan else ofRatio (s != t) a b
  | _, _ => .nan

end Double

end FieldRules
