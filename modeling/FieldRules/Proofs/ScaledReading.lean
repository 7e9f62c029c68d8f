import FieldRules.Proofs.NumberReading
import FieldRules.Proofs.RoundingError
import Mathlib.Algebra.Order.Field.Power
import Mathlib.Tactic.FieldSimp

/-!
Digits times a power of ten, as the reader computes them: digits, power and result are rounded one
after another, and a very small power takes two divisions. If digits and power are exact the result
is the double in whose basin the decimal lies; else it is at most a few gaps away from it, and not
beyond the largest double. Main statements: `scaled?_of_exact` and `isClose_shortest`.
-/
namespace FieldRules

namespace Double

/-! ### Arithmetic on units -/

theorem ofUnits_eq {units : ℕ} (negative : Bool) (h : Representable units) :
    ofUnits negative units = .finite negative units h := dif_pos h

section Arithmetic

variable {a b : ℕ} (ha : Representable a) (hb : Representable b)
include ha hb

theorem mul_ofUnits : (ofUnits false a).mul (ofUnits false b) =
    ofUnits false (roundUnits (a * b) unitsPerOne) := by
  have hscale : roundUnits (a * b * unitsPerOne) (unitsPerOne * unitsPerOne) =
      roundUnits (a * b) unitsPerOne := by
    rw [Nat.mul_comm (a * b)]
    exact roundUnits_mul_left unitsPerOne_pos
  rw [ofUnits_eq false ha, ofUnits_eq false hb, mul, ofRatio, hscale]
  rfl

theorem div_ofUnits (hpos : 0 < b) : (ofUnits false a).div (ofUnits false b) =
    ofUnits false (roundUnits (a * unitsPerOne) b) := by
  rw [ofUnits_eq false ha, ofUnits_eq false hb, div, if_neg (Nat.pos_iff_ne_zero.mp hpos), ofRatio]
  rfl

end Arithmetic

def wholeUnits (n : ℕ) : ℕ := roundUnits (n * unitsPerOne) 1

theorem ofNat_eq (n : ℕ) : ofNat n = ofUnits false (wholeUnits n) := rfl

theorem ofDecimal_one {exponent : ℤ} (h : 0 ≤ exponent) (hle : exponent ≤ 308) :
    ofDecimal false 1 exponent = ofUnits false (wholeUnits (10 ^ exponent.toNat)) := by
  have hlog : Nat.log2 1 = 0 := rfl
  unfold ofDecimal
  rw [if_neg Nat.one_ne_zero, hlog, if_neg (by omega), if_neg (by omega), if_pos h, Nat.one_mul]
  rfl

theorem wholeUnits_of_representable {n : ℕ} (h : Representable (n * unitsPerOne)) :
    wholeUnits n = n * unitsPerOne := by
  have hround := roundUnits_of_representable Nat.one_pos h
  rw [Nat.mul_one] at hround
  exact hround

section Units

variable {a b c u : ℕ}

theorem roundUnits_product (hu : 0 < u) :
    roundUnits (a * u * (b * u)) u = roundUnits (a * u * b) 1 := by
  have hnum : a * u * (b * u) = u * (a * u * b) := by ring
  have hround : roundUnits (u * (a * u * b)) (u * 1) = roundUnits (a * u * b) 1 :=
    roundUnits_mul_left hu
  rw [Nat.mul_one] at hround
  rw [hnum, hround]

theorem roundUnits_quotient (hu : 0 < u) :
    roundUnits (a * u * u) (b * u) = roundUnits (a * u) b := by
  rw [Nat.mul_comm (a * u), Nat.mul_comm b]
  exact roundUnits_mul_left hu

theorem roundUnits_quarters :
    roundUnits (a * (4 * u * b)) (4 * c) = roundUnits (a * u * b) c := by
  have hnum : a * (4 * u * b) = 4 * (a * u * b) := by ring
  rw [hnum]
  exact roundUnits_mul_left (by decide)

end Units

/-! ### Exact digits -/

/-- Doubles have the powers of ten up to 10²². -/
theorem representable_ten : ∀ n ≤ 22, Representable (10 ^ n * unitsPerOne) := by
  decide +kernel

/-- If a double has the digits and the power of ten, the decimal is read as the double in whose
basin it lies. -/
theorem scaled?_of_exact {units : ℕ} (hpos : 0 < units) (hunits : Representable units)
    {d : Decimal} (hholds : (Basin.ofUnits units).Holds d)
    (hdigits : Representable (d.digits * unitsPerOne)) (hexponent : d.exponent.natAbs ≤ 22)
    (rounds : ℕ) :
    Json.scaled? rounds (ofNat d.digits) d.exponent = some (ofUnits false units) := by
  have hten := representable_ten d.exponent.natAbs hexponent
  have hround : roundUnits (d.digits * unitsPerOne * 10 ^ d.exponent.toNat)
      (10 ^ (-d.exponent).toNat) = units := by
    rw [← roundUnits_quarters]
    exact roundUnits_of_contains hpos hunits (Nat.pow_pos (by decide)) hholds
  unfold Json.scaled?
  rw [ofNat_eq, wholeUnits_of_representable hdigits]
  by_cases hneg : 0 ≤ d.exponent
  · have hnat : d.exponent.toNat = d.exponent.natAbs := by omega
    have hone : (-d.exponent).toNat = 0 := by omega
    rw [hone, hnat, Nat.pow_zero] at hround
    rw [if_pos hneg, if_pos (by omega), ofDecimal_one hneg (by omega), hnat,
      wholeUnits_of_representable hten, mul_ofUnits hdigits hten,
      roundUnits_product unitsPerOne_pos, hround, ofUnits_eq false hunits]
    rfl
  · have hnat : (-d.exponent).toNat = d.exponent.natAbs := by omega
    have hzero : d.exponent.toNat = 0 := by omega
    have htenPos : 0 < 10 ^ d.exponent.natAbs * unitsPerOne :=
      Nat.mul_pos (Nat.pow_pos (by decide)) unitsPerOne_pos
    rw [hzero, hnat, Nat.pow_zero, Nat.mul_one] at hround
    rw [if_neg hneg, if_pos (by omega), ofDecimal_one (by omega) (by omega), hnat,
      wholeUnits_of_representable hten, div_ofUnits hdigits hten htenPos,
      roundUnits_quotient unitsPerOne_pos, hround]

/-! ### Rounded digits -/

/-- The double is large enough for one rounding to be a relative change. -/
theorem unitsPerOne_large : 3 * 2 ^ 49 * 10 ^ 308 ≤ unitsPerOne := by decide +kernel

theorem unitsPerOne_small : 2 ^ 66 * unitsPerOne ≤ 2 ^ 52 * widestGap ∧
    10 ^ 308 * unitsPerOne + widestGap < 2 ^ 53 * widestGap ∧
    2 ^ 54 * widestGap < 10 ^ 309 * unitsPerOne := by
  decide +kernel

theorem unitsPerOne_posQ : (0 : ℚ) < unitsPerOne := Nat.cast_pos.mpr unitsPerOne_pos

section Whole

variable {n : ℕ}

/-- An integer is one rounding away from its double. -/
theorem near_wholeUnits (h : 0 < n) : Near 1 (n * unitsPerOne) (wholeUnits n) := by
  have hlarge : 2 ^ 52 ≤ n * unitsPerOne := by
    have hone {k : ℕ} (hk : 1 ≤ k) : 2 ^ 52 ≤ 3 * 2 ^ 49 * 10 ^ k :=
      (by decide : 2 ^ 52 ≤ 3 * 2 ^ 49 * 10 ^ 1).trans
        (Nat.mul_le_mul_left _ (Nat.pow_le_pow_right (by decide) hk))
    exact ((hone (by decide)).trans unitsPerOne_large).trans (Nat.le_mul_of_pos_left _ h)
  have hround := @near_roundUnits (n * unitsPerOne) 1 Nat.one_pos
  rw [Nat.cast_one, div_one, Nat.cast_le, Nat.cast_mul] at hround
  exact hround hlarge

theorem representable_wholeUnits (h : n ≤ 10 ^ 308) : Representable (wholeUnits n) := by
  apply representable_roundUnits Nat.one_pos
  have hlt : n * unitsPerOne + widestGap < 2 ^ 53 * widestGap :=
    Nat.lt_of_le_of_lt (Nat.add_le_add_right (Nat.mul_le_mul_right _ h) _) unitsPerOne_small.2.1
  have hltQ : (n * unitsPerOne + widestGap : ℚ) < 2 ^ 53 * widestGap := by exact_mod_cast hlt
  have hwidth : (0 : ℚ) ≤ widestGap := Nat.cast_nonneg _
  rw [Nat.cast_one, div_one, Nat.cast_mul]
  linarith

end Whole

theorem add_gap_le_mul_gap {units : ℕ} (h : Representable units) :
    units + gap units ≤ 2 ^ 53 * gap units := by
  have hnext := add_gap_le h
  have hpow : 2 ^ (units.log2 + 1) ≤ 2 ^ 53 * 2 ^ (units.log2 - 52) := by
    rw [← Nat.pow_add]
    exact Nat.pow_le_pow_right (by decide) (by omega)
  exact hnext.trans hpow

theorem whole_pos {n : ℕ} (h : 0 < n) : (0 : ℚ) < n * unitsPerOne :=
  mul_pos (Nat.cast_pos.mpr h) unitsPerOne_posQ

theorem ten_pow_pos (n : ℕ) : (0 : ℚ) < 10 ^ n * unitsPerOne :=
  mul_pos (pow_pos (by norm_num) n) unitsPerOne_posQ

theorem wholeUnits_pos {n : ℕ} (h : 0 < n) : 0 < wholeUnits n :=
  Nat.cast_pos.mp ((near_wholeUnits h).pos (whole_pos h))

theorem near_ten_pow (n : ℕ) : Near 1 (10 ^ n * unitsPerOne) (wholeUnits (10 ^ n)) := by
  have hnear := near_wholeUnits (n := 10 ^ n) (Nat.pow_pos (by decide))
  rw [Nat.cast_pow, Nat.cast_ofNat] at hnear
  exact hnear

theorem representable_ten_pow {n : ℕ} (h : n ≤ 308) : Representable (wholeUnits (10 ^ n)) := by
  have hpow (m : ℕ) (hm : n ≤ m) : 10 ^ n ≤ 10 ^ m := Nat.pow_le_pow_right (by decide) hm
  exact representable_wholeUnits (hpow 308 h)

def dividedUnits (a n : ℕ) : ℕ := roundUnits (a * unitsPerOne) (wholeUnits (10 ^ n))

theorem div_ofDecimal {a n : ℕ} (ha : Representable a) (hn : n ≤ 308) :
    (ofUnits false a).div (ofDecimal false 1 n) = ofUnits false (dividedUnits a n) := by
  rw [ofDecimal_one (Int.natCast_nonneg n) (by omega), Int.toNat_natCast,
    div_ofUnits ha (representable_ten_pow hn) (wholeUnits_pos (Nat.pow_pos (by decide)))]
  rfl

/-- The quotient before it is rounded. -/
theorem near_divided {k a : ℕ} {exact : ℚ} (h : Near k exact a) (hpos : 0 < exact) (n : ℕ) :
    Near (k + 1) (exact / 10 ^ n) ((a * unitsPerOne : ℕ) / wholeUnits (10 ^ n)) := by
  have hquotient := (h.mul_right hpos unitsPerOne_posQ).div (near_ten_pow n)
    (mul_pos hpos unitsPerOne_posQ) (ten_pow_pos n)
  rw [mul_div_mul_right _ _ unitsPerOne_posQ.ne'] at hquotient
  rw [Nat.cast_mul]
  exact hquotient

/-- Nine roundings, a last one and the way from the decimal to the double make less than twelve
gaps. -/
theorem abs_sub_lt {units : ℕ} (hpos : 0 < units) (h : Representable units) {exact rounded : ℚ}
    {r : ℕ} (hexact : |exact - units| ≤ gap units / 2)
    (hnear : Near 9 exact rounded) (hround : |r - rounded| ≤ 1 / 2 ^ 53 * rounded + 1 / 2) :
    |(r : ℚ) - units| < 12 * gap units := by
  have hgap : (1 : ℚ) ≤ gap units := Nat.one_le_cast.mpr (gap_pos units)
  have hle : (units + gap units : ℚ) ≤ 2 ^ 53 * gap units := by
    exact_mod_cast add_gap_le_mul_gap h
  have hunits : (gap units : ℚ) ≤ units := Nat.cast_le.mpr (gap_le hpos)
  have hfactors : 1 - 91 / 10 / 2 ^ 53 ≤ shrink ^ 9 ∧ 1 ≤ shrink ^ 9 * (1 + 91 / 10 / 2 ^ 53) := by
    unfold shrink
    norm_num
  obtain ⟨hbelow, habove⟩ := abs_le.mp hexact
  have hexactPos : 0 < exact := by linarith
  have hlow : (1 - 91 / 10 / 2 ^ 53) * exact ≤ rounded :=
    (mul_le_mul_of_nonneg_right hfactors.1 hexactPos.le).trans hnear.1
  have hroundedPos : 0 < rounded := hnear.pos hexactPos
  have hhigh : rounded ≤ (1 + 91 / 10 / 2 ^ 53) * exact := by
    calc
      rounded = 1 * rounded := (one_mul _).symm
      _ ≤ shrink ^ 9 * (1 + 91 / 10 / 2 ^ 53) * rounded :=
        mul_le_mul_of_nonneg_right hfactors.2 hroundedPos.le
      _ = (1 + 91 / 10 / 2 ^ 53) * (shrink ^ 9 * rounded) := by ring
      _ ≤ (1 + 91 / 10 / 2 ^ 53) * exact := mul_le_mul_of_nonneg_left hnear.2 (by norm_num)
  obtain ⟨hdown, hup⟩ := abs_le.mp hround
  rw [abs_lt]
  constructor <;> linarith

end Double

def Decimal.units (d : Decimal) : ℚ := d.digits * 10 ^ d.exponent * unitsPerOne

/-- The decimals in the basin of a double are at most half a gap away. -/
theorem Basin.Holds.abs_units_sub_le {units : ℕ} (hpos : 0 < units) {d : Decimal}
    (h : (ofUnits units).Holds d) : |d.units - units| ≤ gap units / 2 := by
  have hscale : (0 : ℚ) < 10 ^ (-d.exponent).toNat := by positivity
  have hpow : (10 : ℚ) ^ d.exponent * 10 ^ (-d.exponent).toNat = 10 ^ d.exponent.toNat := by
    rw [← zpow_natCast, ← zpow_natCast, ← zpow_add₀ (by norm_num)]
    congr 1
    omega
  have hpoint : ((d.digits * (4 * unitsPerOne * 10 ^ d.exponent.toNat) : ℕ) : ℚ) =
      4 * d.units * 10 ^ (-d.exponent).toNat := by
    push_cast
    rw [← hpow, Decimal.units]
    ring
  obtain ⟨hlow, -, hhigh, -⟩ := ofUnits_reach hpos h
  have hlowQ : (4 * (units * 10 ^ (-d.exponent).toNat) : ℚ) ≤
      4 * d.units * 10 ^ (-d.exponent).toNat + 2 * (gap units * 10 ^ (-d.exponent).toNat) := by
    rw [← hpoint]
    exact_mod_cast hlow
  have hhighQ : 4 * d.units * 10 ^ (-d.exponent).toNat ≤
      4 * (units * 10 ^ (-d.exponent).toNat) + 2 * (gap units * 10 ^ (-d.exponent).toNat) := by
    rw [← hpoint]
    exact_mod_cast hhigh
  rw [abs_le]
  constructor
  · refine le_of_mul_le_mul_right ?_ hscale
    linarith
  · refine le_of_mul_le_mul_right ?_ hscale
    linarith

namespace Double

/-- The reading gives a double that is less than twelve gaps away. -/
def IsClose (units : ℕ) (read : Option Double) : Prop :=
  ∃ r, Representable r ∧ read = some (ofUnits false r) ∧ |(r : ℚ) - units| < 12 * gap units

theorem widestGap_posQ : (0 : ℚ) < widestGap := by
  have hsmall : (2 ^ 66 * unitsPerOne : ℚ) ≤ 2 ^ 52 * widestGap := by
    exact_mod_cast unitsPerOne_small.1
  have hone := unitsPerOne_posQ
  linarith

/-- Nine roundings of a number up to 2⁶⁴ stay below the largest doubles. -/
theorem lt_top_of_near {exact rounded : ℚ} (hnear : Near 9 exact rounded)
    (hle : exact ≤ 2 ^ 64 * unitsPerOne) : rounded < 2 ^ 53 * widestGap - widestGap / 2 := by
  have hsmall : (2 ^ 66 * unitsPerOne : ℚ) ≤ 2 ^ 52 * widestGap := by
    exact_mod_cast unitsPerOne_small.1
  have hwidth := widestGap_posQ
  have hhalf : 1 / 2 ≤ shrink ^ 9 := by
    unfold shrink
    norm_num
  rcases le_or_gt rounded 0 with hneg | hroundedPos
  · linarith
  · have hmul : 1 / 2 * rounded ≤ shrink ^ 9 * rounded :=
      mul_le_mul_of_nonneg_right hhalf hroundedPos.le
    have hexact := hnear.2
    linarith

/-- Two roundings take no number beyond the largest double that is three of its gaps below. -/
theorem lt_top_of_near_two {exact rounded : ℚ} (hnear : Near 2 exact rounded)
    (hle : exact ≤ 2 ^ 53 * widestGap - 7 / 2 * widestGap) :
    rounded < 2 ^ 53 * widestGap - widestGap / 2 := by
  have hwidth := widestGap_posQ
  have hfactor : 2 ^ 53 - 7 / 2 < shrink ^ 2 * (2 ^ 53 - 1 / 2) := by
    unfold shrink
    norm_num
  by_contra hge
  have hmul : shrink ^ 2 * (2 ^ 53 * widestGap - widestGap / 2) ≤ shrink ^ 2 * rounded :=
    mul_le_mul_of_nonneg_left (not_lt.mp hge) (pow_pos shrink_pos 2).le
  have hscaled := mul_lt_mul_of_pos_right hfactor hwidth
  have hexact := hnear.2
  linarith

section Divided

variable {a n : ℕ} {exact : ℚ}

/-- A quotient that is not too small is rounded by a small relative change. -/
theorem near_dividedUnits (hn : 3 * 2 ^ 49 * 10 ^ n ≤ unitsPerOne) (hexact : unitsPerOne ≤ exact)
    (h : Near 1 exact a) : Near 8 (exact / 10 ^ n) (dividedUnits a n) := by
  have hnear := near_divided h (unitsPerOne_posQ.trans_le hexact) n
  have hround := @abs_roundUnits_sub_le_add (a * unitsPerOne) _
    (wholeUnits_pos (n := 10 ^ n) (Nat.pow_pos (by decide)))
  rw [← dividedUnits] at hround
  generalize ((a * unitsPerOne : ℕ) / wholeUnits (10 ^ n) : ℚ) = quotient at hnear hround
  have hquotient : (3 * 2 ^ 49 : ℚ) ≤ exact / 10 ^ n := by
    have hnQ : (3 * 2 ^ 49 * 10 ^ n : ℚ) ≤ unitsPerOne := by exact_mod_cast hn
    rw [le_div_iff₀ (pow_pos (by norm_num) n)]
    exact hnQ.trans hexact
  have hlarge : 2 ^ 50 ≤ quotient := by
    have hfactor : (2 : ℚ) ^ 50 ≤ shrink ^ 2 * (3 * 2 ^ 49) := by
      unfold shrink
      norm_num
    have hmul := mul_le_mul_of_nonneg_left hquotient (pow_pos shrink_pos 2).le
    exact (hfactor.trans hmul).trans hnear.1
  have hpart : Near 6 quotient (dividedUnits a n) := by
    refine Near.of_abs_sub_le (e := 5 / 2 ^ 53) ?_ ?_ (by linarith) (by linarith)
    · unfold shrink
      norm_num
    · unfold shrink
      norm_num
  exact hnear.trans hpart

theorem representable_dividedUnits (hpos : 0 < exact) (hle : exact ≤ 2 ^ 64 * unitsPerOne)
    (h : Near 1 exact a) : Representable (dividedUnits a n) := by
  have hnear := (near_divided h hpos n).mono (show 2 ≤ 9 by decide) (by positivity)
  have hone : (1 : ℚ) ≤ 10 ^ n := one_le_pow₀ (by norm_num)
  exact representable_roundUnits (wholeUnits_pos (Nat.pow_pos (by decide)))
    (lt_top_of_near hnear ((div_le_self hpos.le hone).trans hle))

end Divided

theorem uint64_size_le_ten_pow {k : ℕ} (h : 20 ≤ k) : UInt64.size ≤ 10 ^ k :=
  (by decide : UInt64.size ≤ 10 ^ 20).trans (Nat.pow_le_pow_right (by decide) h)

section Scaled

variable {units : ℕ} (hpos : 0 < units) (h : Representable units) {d : Decimal}
  (hholds : (Basin.ofUnits units).Holds d) (hdigits : 0 < d.digits)
  (hfits : d.digits < UInt64.size)

include hfits in
theorem representable_digits : Representable (wholeUnits d.digits) :=
  representable_wholeUnits (hfits.le.trans (uint64_size_le_ten_pow (by decide)))

include hpos h hholds in
/-- Within nine roundings of the decimal, and not beyond the largest double, the result is less than
twelve gaps away. -/
theorem isClose_of_near {num den : ℕ} (hden : 0 < den) (hnear : Near 9 d.units (num / den))
    (hlt : (num / den : ℚ) < 2 ^ 53 * widestGap - widestGap / 2) :
    IsClose units (some (ofUnits false (roundUnits num den))) :=
  ⟨roundUnits num den, representable_roundUnits hden hlt, rfl,
    abs_sub_lt hpos h (hholds.abs_units_sub_le hpos) hnear (abs_roundUnits_sub_le_add hden)⟩

include hdigits in
theorem units_pos : 0 < d.units := by
  have hdigitsQ : (0 : ℚ) < d.digits := Nat.cast_pos.mpr hdigits
  have hpow : (0 : ℚ) < 10 ^ d.exponent := by positivity
  exact mul_pos (mul_pos hdigitsQ hpow) unitsPerOne_posQ

include hfits in
/-- Behind the point there is only a number below 2⁶⁴. -/
theorem units_le_of_neg (hneg : d.exponent < 0) : d.units ≤ 2 ^ 64 * unitsPerOne := by
  have hdigitsQ : (d.digits : ℚ) ≤ 2 ^ 64 := by exact_mod_cast hfits.le
  have hpow : (10 : ℚ) ^ d.exponent ≤ 1 := zpow_le_one_of_nonpos₀ (by norm_num) hneg.le
  have hpowPos : (0 : ℚ) < 10 ^ d.exponent := by positivity
  have hone := unitsPerOne_posQ
  unfold Decimal.units
  refine mul_le_mul_of_nonneg_right ?_ hone.le
  calc
    (d.digits : ℚ) * 10 ^ d.exponent ≤ 2 ^ 64 * 1 :=
      mul_le_mul hdigitsQ hpow hpowPos.le (by norm_num)
    _ = 2 ^ 64 := mul_one _

include hpos h hholds hdigits in
theorem exponent_le : d.exponent ≤ 308 := by
  by_contra hlt
  have hdigitsQ : (1 : ℚ) ≤ d.digits := Nat.one_le_cast.mpr hdigits
  have hpow : (10 : ℚ) ^ 309 ≤ 10 ^ d.exponent := by
    rw [← zpow_natCast]
    exact zpow_le_zpow_right₀ (by norm_num) (by omega)
  have hone := unitsPerOne_posQ
  have hunits : (10 : ℚ) ^ 309 * unitsPerOne ≤ d.units := by
    unfold Decimal.units
    refine mul_le_mul_of_nonneg_right ?_ hone.le
    calc
      (10 : ℚ) ^ 309 = 1 * 10 ^ 309 := (one_mul _).symm
      _ ≤ d.digits * 10 ^ d.exponent := mul_le_mul hdigitsQ hpow (by positivity) (by positivity)
  have htop : (units + gap units : ℚ) ≤ 2 ^ 53 * gap units := by
    exact_mod_cast add_gap_le_mul_gap h
  have hgap : (gap units : ℚ) ≤ widestGap := Nat.cast_le.mpr (gap_le_widestGap h.1)
  have hsmall : (2 ^ 54 * widestGap : ℚ) < 10 ^ 309 * unitsPerOne := by
    exact_mod_cast unitsPerOne_small.2.2
  have hnear := (abs_le.mp (hholds.abs_units_sub_le hpos)).2
  have hgapPos : (0 : ℚ) < gap units := Nat.cast_pos.mpr (gap_pos units)
  generalize (10 : ℚ) ^ 309 * unitsPerOne = bound at hunits hsmall
  linarith

include hpos h hholds hdigits hfits

/-- The largest three doubles apart, the product of digits and power is no more than the largest
double. -/
theorem isClose_of_nonneg (hexponent : 0 ≤ d.exponent)
    (htop : units + 4 * widestGap ≤ 2 ^ 53 * widestGap) (rounds : ℕ) :
    IsClose units (Json.scaled? rounds (ofNat d.digits) d.exponent) := by
  have hle := exponent_le hpos h hholds hdigits
  obtain ⟨n, hn⟩ := Int.eq_ofNat_of_zero_le hexponent
  have hten := representable_ten_pow (show n ≤ 308 by omega)
  have hnear : Near 2 d.units
      ((wholeUnits d.digits * wholeUnits (10 ^ n) : ℕ) / (unitsPerOne : ℕ)) := by
    have hproduct := ((near_wholeUnits hdigits).mul (near_ten_pow n) (whole_pos hdigits)
      (ten_pow_pos n)).div (.refl _) (mul_pos (whole_pos hdigits) (ten_pow_pos n)) unitsPerOne_posQ
    have hunits : d.units = d.digits * unitsPerOne * (10 ^ n * unitsPerOne) / unitsPerOne := by
      rw [eq_div_iff unitsPerOne_posQ.ne', Decimal.units, hn, zpow_natCast]
      ring
    rw [hunits, Nat.cast_mul]
    exact hproduct
  have hlt : ((wholeUnits d.digits * wholeUnits (10 ^ n) : ℕ) / (unitsPerOne : ℕ) : ℚ) <
      2 ^ 53 * widestGap - widestGap / 2 := by
    have htopQ : (units + 4 * widestGap : ℚ) ≤ 2 ^ 53 * widestGap := by exact_mod_cast htop
    have hgap : (gap units : ℚ) ≤ widestGap := Nat.cast_le.mpr (gap_le_widestGap h.1)
    exact lt_top_of_near_two hnear (by linarith [(abs_le.mp (hholds.abs_units_sub_le hpos)).2])
  have hread : Json.scaled? rounds (ofNat d.digits) d.exponent = some (ofUnits false
      (roundUnits (wholeUnits d.digits * wholeUnits (10 ^ n)) unitsPerOne)) := by
    have hround := representable_roundUnits unitsPerOne_pos hlt
    unfold Json.scaled?
    rw [if_pos hexponent, if_pos hle, ofDecimal_one hexponent hle, ofNat_eq, hn, Int.toNat_natCast,
      mul_ofUnits (representable_digits hfits) hten, ofUnits_eq false hround]
    rfl
  rw [hread]
  exact isClose_of_near hpos h hholds unitsPerOne_pos
    (hnear.mono (by decide) (units_pos hdigits)) hlt

theorem isClose_of_neg (hneg : d.exponent < 0) (hle : -308 ≤ d.exponent) (rounds : ℕ) :
    IsClose units (Json.scaled? rounds (ofNat d.digits) d.exponent) := by
  obtain ⟨n, hn⟩ := Int.eq_ofNat_of_zero_le (show 0 ≤ -d.exponent by omega)
  have hunits : d.units = d.digits * unitsPerOne / 10 ^ n := by
    have hpow : (10 : ℚ) ^ d.exponent = (10 ^ n)⁻¹ := by
      rw [← zpow_natCast, ← zpow_neg]
      congr 1
      omega
    rw [Decimal.units, hpow]
    ring
  have hnear : Near 2 d.units ((wholeUnits d.digits * unitsPerOne : ℕ) / wholeUnits (10 ^ n)) := by
    rw [hunits]
    exact near_divided (near_wholeUnits hdigits) (whole_pos hdigits) n
  have hnine := hnear.mono (show 2 ≤ 9 by decide) (units_pos hdigits)
  have hread : Json.scaled? rounds (ofNat d.digits) d.exponent =
      some (ofUnits false (dividedUnits (wholeUnits d.digits) n)) := by
    unfold Json.scaled?
    rw [if_neg (by omega), if_pos hle, ofNat_eq, hn,
      ← div_ofDecimal (representable_digits hfits) (by omega)]
  rw [hread]
  exact isClose_of_near hpos h hholds (wholeUnits_pos (Nat.pow_pos (by decide))) hnine
    (lt_top_of_near hnine (units_le_of_neg hfits hneg))

/-- A very small power is divided by in two parts. -/
theorem isClose_of_lt (hlt : d.exponent < -308) (hle : -616 ≤ d.exponent) (rounds : ℕ) :
    IsClose units (Json.scaled? (rounds + 1) (ofNat d.digits) d.exponent) := by
  obtain ⟨n, hn⟩ := Int.eq_ofNat_of_zero_le (show 0 ≤ -(d.exponent + 308) by omega)
  have hunits : d.units = d.digits * unitsPerOne / 10 ^ 308 / 10 ^ n := by
    have hpow : (10 : ℚ) ^ d.exponent = (10 ^ 308)⁻¹ * (10 ^ n)⁻¹ := by
      rw [← zpow_natCast, ← zpow_natCast, ← zpow_neg, ← zpow_neg, ← zpow_add₀ (by norm_num)]
      congr 1
      omega
    rw [Decimal.units, hpow]
    generalize (10 : ℚ) ^ 308 = power
    ring
  have hwhole : (unitsPerOne : ℚ) ≤ d.digits * unitsPerOne := by
    exact_mod_cast Nat.le_mul_of_pos_left unitsPerOne hdigits
  have hfirstNear := near_dividedUnits unitsPerOne_large hwhole (near_wholeUnits hdigits)
  have hexact : (0 : ℚ) < d.digits * unitsPerOne / 10 ^ 308 :=
    div_pos (whole_pos hdigits) (pow_pos (by norm_num) 308)
  have hnear : Near 9 d.units ((dividedUnits (wholeUnits d.digits) 308 * unitsPerOne : ℕ) /
      wholeUnits (10 ^ n)) := by
    rw [hunits]
    exact near_divided hfirstNear hexact n
  have hdigitsQ : (d.digits : ℚ) ≤ 2 ^ 64 := by exact_mod_cast hfits.le
  have hfits' := mul_le_mul_of_nonneg_right hdigitsQ unitsPerOne_posQ.le
  have hfirst : Representable (dividedUnits (wholeUnits d.digits) 308) :=
    representable_dividedUnits (whole_pos hdigits) hfits' (near_wholeUnits hdigits)
  have hread : Json.scaled? (rounds + 1) (ofNat d.digits) d.exponent =
      some (ofUnits false (dividedUnits (dividedUnits (wholeUnits d.digits) 308) n)) := by
    have hlast := div_ofDecimal (representable_digits hfits) (Nat.le_refl 308)
    rw [Nat.cast_ofNat] at hlast
    unfold Json.scaled?
    rw [if_neg (by omega), if_neg (by omega)]
    dsimp only
    rw [ofNat_eq, hlast]
    unfold Json.scaled?
    rw [if_neg (by omega), if_pos (by omega), hn, div_ofDecimal hfirst (by omega)]
  rw [hread]
  exact isClose_of_near hpos h hholds (wholeUnits_pos (Nat.pow_pos (by decide))) hnear
    (lt_top_of_near hnear (units_le_of_neg hfits (by omega)))

end Scaled

/-! ### Written decimals -/

end Double

/-- The text of a whole number only has one more digit. -/
theorem Basin.holds_shown {b : Basin} {d : Decimal} (h : b.Holds d) : b.Holds d.shown := by
  unfold Decimal.shown
  split
  · rename_i hwhole
    have hzero : (-d.exponent).toNat = 0 := by omega
    have hscale : Nat.pow 10 (-(-1 : ℤ)).toNat = 10 * Nat.pow 10 0 := rfl
    have hone : Nat.pow 10 (-1 : ℤ).toNat = 1 := rfl
    have hpoint (u power : ℕ) : d.digits * (power * 10) * (4 * u * 1) =
        10 * (d.digits * (4 * u * power)) := by ring
    unfold Holds at h ⊢
    dsimp only
    rw [hscale, hone, Nat.pow_succ, hpoint, contains_mul_left (by decide)]
    rw [hzero] at h
    exact h
  · exact h

namespace Double

/-- Of the largest three doubles the second one is read as the first. -/
theorem scaled?_top : ∀ k ∈ [1, 2, 3],
    Json.scaled? 4 (ofNat (shortest .even ((2 ^ 53 - k) * widestGap)).shown.digits)
      (shortest .even ((2 ^ 53 - k) * widestGap)).shown.exponent =
        some (ofUnits false ((2 ^ 53 - (k - (k + 1) % 2)) * widestGap)) ∧
      Representable ((2 ^ 53 - (k - (k + 1) % 2)) * widestGap) := by
  decide +kernel

/-- A gap is the widest one or at most half of it. -/
theorem gap_eq_or_mul_le {units : ℕ} (h : Representable units) :
    gap units = widestGap ∨ 2 * gap units ≤ widestGap := by
  have hlog : units.log2 - 52 < 2045 ∨ units.log2 - 52 = 2045 := by
    have hlt := h.1
    omega
  unfold gap widestGap
  generalize 2045 = top at hlog ⊢
  rcases hlog with hlt | heq
  · right
    have hpow : 2 ^ (units.log2 - 52 + 1) ≤ 2 ^ top := Nat.pow_le_pow_right (by decide) hlt
    rw [Nat.pow_succ'] at hpow
    exact hpow
  · left
    rw [heq]

/-- Three doubles lie that close to the end of the range. -/
theorem mem_top {units : ℕ} (h : Representable units)
    (htop : 2 ^ 53 * widestGap < units + 4 * widestGap) :
    gap units = widestGap ∧ ∃ k ∈ [1, 2, 3], units = (2 ^ 53 - k) * widestGap := by
  have hnext := add_gap_le_mul_gap h
  have hpos := gap_pos units
  have hgap : gap units = widestGap := by
    rcases gap_eq_or_mul_le h with heq | hle
    · exact heq
    · omega
  obtain ⟨m, hm⟩ := h.2
  rw [hgap] at hm hnext hpos
  have hm' : units = m * widestGap := by rw [hm, Nat.mul_comm]
  have hlow : 2 ^ 53 < m + 4 := by
    refine Nat.lt_of_mul_lt_mul_right (a := widestGap) ?_
    rw [Nat.add_mul, ← hm']
    exact htop
  have hhigh : m + 1 ≤ 2 ^ 53 := by
    refine Nat.le_of_mul_le_mul_right ?_ hpos
    rw [Nat.add_mul, ← hm', Nat.one_mul]
    exact hnext
  refine ⟨hgap, 2 ^ 53 - m, ?_, ?_⟩
  · simp only [List.mem_cons, List.not_mem_nil, or_false]
    omega
  · rw [hm']
    congr 1
    omega

/-- Both numbers are at most three gaps below 2⁵³ of them, and so at most three apart. -/
theorem isClose_top {units : ℕ} (h : Representable units)
    (htop : 2 ^ 53 * widestGap < units + 4 * widestGap) :
    IsClose units (Json.scaled? 4 (ofNat (shortest .even units).shown.digits)
      (shortest .even units).shown.exponent) := by
  obtain ⟨hgap, k, hk, hunits⟩ := mem_top h htop
  obtain ⟨hread, hrep⟩ := scaled?_top k hk
  have hthree : 1 ≤ k ∧ k ≤ 3 := by
    simp only [List.mem_cons, List.not_mem_nil, or_false] at hk
    omega
  have hwithin {j : ℕ} (hj : j ≤ 3) :
      (2 ^ 53 - 3 : ℚ) ≤ (2 ^ 53 - j : ℕ) ∧ ((2 ^ 53 - j : ℕ) : ℚ) ≤ 2 ^ 53 := by
    have hcast : ((2 ^ 53 - j : ℕ) : ℚ) = 2 ^ 53 - j := by
      rw [Nat.cast_sub (hj.trans (by decide))]
      norm_num
    have hjLow : (0 : ℚ) ≤ j := Nat.cast_nonneg j
    have hjHigh : (j : ℚ) ≤ 3 := by exact_mod_cast hj
    rw [hcast]
    constructor <;> linarith
  obtain ⟨hreadLow, hreadHigh⟩ := hwithin (show k - (k + 1) % 2 ≤ 3 by omega)
  obtain ⟨hlow, hhigh⟩ := hwithin hthree.2
  refine ⟨_, hrep, by rw [hunits]; exact hread, ?_⟩
  rw [hgap, hunits, Nat.cast_mul, Nat.cast_mul, ← sub_mul, abs_mul, Nat.abs_cast]
  refine mul_lt_mul_of_pos_right ?_ widestGap_posQ
  rw [abs_lt]
  constructor <;> linarith

/-- The text of a positive double is read as a double close to it. -/
theorem isClose_shortest {units : ℕ} (hpos : 0 < units) (h : Representable units) :
    IsClose units (Json.scaled? 4 (ofNat (shortest .even units).shown.digits)
      (shortest .even units).shown.exponent) := by
  obtain ⟨hholds, -, hfits⟩ := shortest_spec .even hpos h
  have hshown := Basin.holds_shown hholds
  have hdigits := Basin.digits_pos_of_holds hpos hshown
  have hfitsShown := Decimal.shown_digits_lt hfits
  have hexponent : -616 ≤ (shortest .even units).shown.exponent := by
    have hfinest := finestExponent_le_exponent .even hpos h
    unfold finestExponent at hfinest
    unfold Decimal.shown
    split
    · exact (by decide : (-616 : ℤ) ≤ -1)
    · omega
  rcases lt_or_ge (shortest .even units).shown.exponent 0 with hneg | hnonneg
  · rcases lt_or_ge (shortest .even units).shown.exponent (-308) with hlt | hle
    · exact isClose_of_lt hpos h hshown hdigits hfitsShown hlt hexponent 3
    · exact isClose_of_neg hpos h hshown hdigits hfitsShown hneg hle 4
  · rcases le_or_gt (units + 4 * widestGap) (2 ^ 53 * widestGap) with htop | htop
    · exact isClose_of_nonneg hpos h hshown hdigits hfitsShown hnonneg htop 4
    · exact isClose_top h htop

end Double

end FieldRules
