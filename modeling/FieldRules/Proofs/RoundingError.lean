import FieldRules.Proofs.ShortestDecimal
import Mathlib.Algebra.Order.Field.Rat
import Mathlib.Data.Nat.Cast.Order.Field
import Mathlib.Tactic.IntervalCases
import Mathlib.Tactic.NormNum
import Mathlib.Tactic.Positivity

/-!
How far rounding moves a number. One rounding of a number that is not too small changes it by one
part in 2⁵³ at most; `Near k` bounds what `k` such changes do together, and is kept by products and
quotients. Main statements: `near_roundUnits` and `representable_roundUnits`.
-/
namespace FieldRules

/-! ### Relative closeness -/

/-- What is left of a number after the largest change of one rounding. -/
def shrink : ℚ := 1 - 1 / 2 ^ 53

theorem shrink_pos : 0 < shrink := by
  unfold shrink
  norm_num

theorem shrink_le_one : shrink ≤ 1 := by
  unfold shrink
  norm_num

def Near (k : ℕ) (x y : ℚ) : Prop := shrink ^ k * x ≤ y ∧ shrink ^ k * y ≤ x

namespace Near

variable {j k : ℕ} {x y z p q : ℚ}

theorem refl (x : ℚ) : Near 0 x x := by
  constructor <;> rw [pow_zero, one_mul]

/-- Roundings one after another add up. -/
theorem trans (hxy : Near j x y) (hyz : Near k y z) : Near (j + k) x z := by
  have hj : 0 ≤ shrink ^ j := pow_nonneg shrink_pos.le j
  have hk : 0 ≤ shrink ^ k := pow_nonneg shrink_pos.le k
  constructor
  · calc
      shrink ^ (j + k) * x = shrink ^ k * (shrink ^ j * x) := by ring
      _ ≤ shrink ^ k * y := mul_le_mul_of_nonneg_left hxy.1 hk
      _ ≤ z := hyz.1
  · calc
      shrink ^ (j + k) * z = shrink ^ j * (shrink ^ k * z) := by ring
      _ ≤ shrink ^ j * y := mul_le_mul_of_nonneg_left hyz.2 hj
      _ ≤ x := hxy.2

theorem pos (h : Near k x y) (hx : 0 < x) : 0 < y :=
  lt_of_lt_of_le (mul_pos (pow_pos shrink_pos k) hx) h.1

theorem mono (hjk : j ≤ k) (h : Near j x y) (hx : 0 < x) : Near k x y := by
  have hpow : shrink ^ k ≤ shrink ^ j := pow_le_pow_of_le_one shrink_pos.le shrink_le_one hjk
  exact ⟨(mul_le_mul_of_nonneg_right hpow hx.le).trans h.1,
    (mul_le_mul_of_nonneg_right hpow (h.pos hx).le).trans h.2⟩

theorem mul (hxy : Near j x y) (hpq : Near k p q) (hx : 0 < x) (hp : 0 < p) :
    Near (j + k) (x * p) (y * q) := by
  have hj : 0 < shrink ^ j := pow_pos shrink_pos j
  have hk : 0 < shrink ^ k := pow_pos shrink_pos k
  have hy := hxy.pos hx
  have hq := hpq.pos hp
  constructor
  · calc
      shrink ^ (j + k) * (x * p) = (shrink ^ j * x) * (shrink ^ k * p) := by ring
      _ ≤ y * q := mul_le_mul hxy.1 hpq.1 (mul_pos hk hp).le hy.le
  · calc
      shrink ^ (j + k) * (y * q) = (shrink ^ j * y) * (shrink ^ k * q) := by ring
      _ ≤ x * p := mul_le_mul hxy.2 hpq.2 (mul_pos hk hq).le hx.le

theorem inv (h : Near k x y) (hx : 0 < x) : Near k x⁻¹ y⁻¹ := by
  have hy := h.pos hx
  constructor
  · rw [← div_eq_mul_inv, div_le_iff₀ hx, ← div_eq_inv_mul, le_div_iff₀ hy]
    exact h.2
  · rw [← div_eq_mul_inv, div_le_iff₀ hy, ← div_eq_inv_mul, le_div_iff₀ hx]
    exact h.1

theorem div (hxy : Near j x y) (hpq : Near k p q) (hx : 0 < x) (hp : 0 < p) :
    Near (j + k) (x / p) (y / q) := by
  rw [div_eq_mul_inv, div_eq_mul_inv]
  exact hxy.mul (hpq.inv hp) hx (inv_pos.mpr hp)

theorem mul_right (h : Near k x y) (hx : 0 < x) (hp : 0 < p) : Near k (x * p) (y * p) :=
  h.mul (refl p) hx hp

/-- A change by the part `e` at most is no larger than `k` roundings, if `e` is small enough. -/
theorem of_abs_sub_le {e : ℚ} (hlow : shrink ^ k ≤ 1 - e) (hhigh : shrink ^ k * (1 + e) ≤ 1)
    (hx : 0 ≤ x) (h : |y - x| ≤ e * x) : Near k x y := by
  obtain ⟨hbelow, habove⟩ := abs_le.mp h
  constructor
  · calc
      shrink ^ k * x ≤ (1 - e) * x := mul_le_mul_of_nonneg_right hlow hx
      _ ≤ y := by linarith
  · have hy : y ≤ (1 + e) * x := by linarith
    calc
      shrink ^ k * y ≤ shrink ^ k * ((1 + e) * x) :=
        mul_le_mul_of_nonneg_left hy (pow_nonneg shrink_pos.le k)
      _ = shrink ^ k * (1 + e) * x := by ring
      _ ≤ 1 * x := mul_le_mul_of_nonneg_right hhigh hx
      _ = x := one_mul x

end Near

/-! ### One rounding -/

namespace Double

section Error

variable {num den : ℕ} (hden : 0 < den)
include hden

/-- Rounding moves a number by half a gap at most. -/
theorem abs_roundUnits_sub_le :
    |(roundUnits num den : ℚ) - num / den| ≤ gap (num / den) / 2 := by
  have hstep : 0 < gap (num / den) * den := Nat.mul_pos (gap_pos _) hden
  have hdenQ : (0 : ℚ) < den := Nat.cast_pos.mpr hden
  obtain ⟨hlow, hhigh⟩ := nearest_near .even num hstep
  have hround : nearest .even num (gap (num / den) * den) * (gap (num / den) * den) =
      roundUnits num den * den := by rw [roundUnits, Nat.mul_assoc]
  rw [hround] at hlow hhigh
  have hlowQ : 2 * (num : ℚ) ≤ 2 * (roundUnits num den * den) + gap (num / den) * den := by
    exact_mod_cast hlow
  have hhighQ : 2 * (roundUnits num den * den : ℚ) ≤ 2 * num + gap (num / den) * den := by
    exact_mod_cast hhigh
  have hsplit : (num : ℚ) = num / den * den := (div_mul_cancel₀ _ hdenQ.ne').symm
  rw [hsplit] at hlowQ hhighQ
  rw [abs_le]
  constructor
  · refine le_of_mul_le_mul_right ?_ hdenQ
    linarith
  · refine le_of_mul_le_mul_right ?_ hdenQ
    linarith

theorem le_div_of_le {bound : ℕ} (h : (bound : ℚ) ≤ num / den) : bound ≤ num / den := by
  rw [le_div_iff₀ (Nat.cast_pos.mpr hden)] at h
  exact (Nat.le_div_iff_mul_le hden).mpr (by exact_mod_cast h)

/-- A number that is not too small moves by one part in 2⁵³ at most. -/
theorem abs_roundUnits_sub_le_part (h : (2 ^ 52 : ℕ) ≤ (num / den : ℚ)) :
    |(roundUnits num den : ℚ) - num / den| ≤ 1 / 2 ^ 53 * (num / den) := by
  have hgap : 2 ^ 52 * gap (num / den) ≤ num / den := mul_gap_le (le_div_of_le hden h)
  have hfloor : ((num / den : ℕ) : ℚ) ≤ num / den := Nat.cast_div_le
  have hgapQ : (2 : ℚ) ^ 52 * gap (num / den) ≤ num / den :=
    le_trans (by exact_mod_cast hgap) hfloor
  have hhalf := @abs_roundUnits_sub_le num den hden
  linarith

/-- From 2⁵² units on, rounding changes a number by at most one part in 2⁵³. -/
theorem near_roundUnits (h : (2 ^ 52 : ℕ) ≤ (num / den : ℚ)) :
    Near 1 (num / den) (roundUnits num den) := by
  refine Near.of_abs_sub_le (e := 1 / 2 ^ 53) ?_ ?_ (by positivity)
    (abs_roundUnits_sub_le_part hden h)
  · rw [pow_one, shrink]
  · unfold shrink
    norm_num

/-- A smaller number moves by half a unit at most. -/
theorem abs_roundUnits_sub_le_add :
    |(roundUnits num den : ℚ) - num / den| ≤ 1 / 2 ^ 53 * (num / den) + 1 / 2 := by
  by_cases h : (2 ^ 52 : ℕ) ≤ (num / den : ℚ)
  · have hpart := abs_roundUnits_sub_le_part hden h
    linarith
  · have hlt : num / den < 2 ^ 53 := by
      have hfloor : ((num / den : ℕ) : ℚ) ≤ num / den := Nat.cast_div_le
      have hcast : ((num / den : ℕ) : ℚ) < (2 ^ 52 : ℕ) := lt_of_le_of_lt hfloor (not_le.mp h)
      have hnat : num / den < 2 ^ 52 := by exact_mod_cast hcast
      omega
    have hhalf := @abs_roundUnits_sub_le num den hden
    have hpart : (0 : ℚ) ≤ 1 / 2 ^ 53 * (num / den) := by positivity
    rw [gap_eq_one hlt, Nat.cast_one] at hhalf
    linarith

end Error

/-! ### What rounding gives -/

/-- The gap of the largest doubles, which lie below 2⁵³ of it. -/
def widestGap : ℕ := Nat.pow 2 2045

theorem pow_mul_widestGap : 2 ^ 53 * widestGap = Nat.pow 2 2098 := by decide +kernel

theorem gap_le_widestGap {n : ℕ} (h : n.log2 < 2098) : gap n ≤ widestGap := by
  have hlog : n.log2 - 52 ≤ 2045 := by omega
  unfold gap widestGap
  generalize 2045 = top at hlog ⊢
  exact Nat.pow_le_pow_right (by decide) hlog

theorem log2_lt_of_lt {n : ℕ} (h : n < 2 ^ 53 * widestGap) : n.log2 < 2098 := by
  rw [pow_mul_widestGap] at h
  rcases Nat.eq_zero_or_pos n with hzero | hpos
  · rw [hzero]
    decide
  · generalize 2098 = top at h ⊢
    exact (Nat.log2_lt (Nat.pos_iff_ne_zero.mp hpos)).mpr h

section Representable

variable {num den : ℕ} (hden : 0 < den)
include hden

/-- Rounding up stops at the next power of two. -/
theorem roundUnits_le_pow : roundUnits num den ≤ 2 ^ ((num / den).log2 + 1) := by
  have hlt : num / den < 2 ^ ((num / den).log2 + 1) := Nat.lt_log2_self
  obtain ⟨m, hm⟩ : gap (num / den) ∣ 2 ^ ((num / den).log2 + 1) := Nat.pow_dvd_pow 2 (by omega)
  have hbelow : num / (gap (num / den) * den) < m := by
    rw [Nat.div_lt_iff_lt_mul (Nat.mul_pos (gap_pos _) hden), ← Nat.mul_assoc, Nat.mul_comm m,
      ← hm]
    exact (Nat.div_lt_iff_lt_mul hden).mp hlt
  have hnearest : nearest .even num (gap (num / den) * den) ≤ m := by
    rcases nearest_cases .even num (gap (num / den) * den) with h | h <;> omega
  rw [roundUnits, hm, Nat.mul_comm _ m]
  exact Nat.mul_le_mul_right _ hnearest

/-- A rounded number is one that a double can have, unless it is too large. -/
theorem representable_of_log2_lt (h : (roundUnits num den).log2 < 2098) :
    Representable (roundUnits num den) := by
  refine ⟨h, ?_⟩
  rcases Nat.lt_or_eq_of_le (@roundUnits_le_pow num den hden) with hlt | heq
  · have hdvd : gap (num / den) ∣ roundUnits num den := Nat.dvd_mul_left ..
    have hgap : gap (roundUnits num den) ∣ gap (num / den) := by
      rcases Nat.eq_zero_or_pos (roundUnits num den) with hzero | hpos
      · rw [hzero]
        exact Nat.one_dvd _
      · have hlog := (Nat.log2_lt (Nat.pos_iff_ne_zero.mp hpos)).mpr hlt
        exact Nat.pow_dvd_pow 2 (by omega)
    exact Nat.dvd_trans hgap hdvd
  · rw [heq, gap, Nat.log2_two_pow]
    exact Nat.pow_dvd_pow 2 (by omega)

/-- Up to half a gap behind the largest double, rounding gives a double. -/
theorem representable_roundUnits
    (h : (num / den : ℚ) < 2 ^ 53 * widestGap - widestGap / 2) :
    Representable (roundUnits num den) := by
  have hwidth : (0 : ℚ) ≤ widestGap := Nat.cast_nonneg _
  have hfloor : ((num / den : ℕ) : ℚ) ≤ num / den := Nat.cast_div_le
  have hdiv : num / den < 2 ^ 53 * widestGap := by
    have hcast : ((num / den : ℕ) : ℚ) < 2 ^ 53 * widestGap := by linarith
    exact_mod_cast hcast
  have hgap : (gap (num / den) : ℚ) ≤ widestGap :=
    Nat.cast_le.mpr (gap_le_widestGap (log2_lt_of_lt hdiv))
  have hnear := (abs_le.mp (@abs_roundUnits_sub_le num den hden)).2
  have hround : (roundUnits num den : ℚ) < 2 ^ 53 * widestGap := by linarith
  exact representable_of_log2_lt hden (log2_lt_of_lt (by exact_mod_cast hround))

end Representable

end Double

end FieldRules
