import FieldRules.Double.Shortest
import Mathlib.Tactic.Linarith
import Mathlib.Tactic.Ring

/-!
Rounding to the nearest double. A number is rounded to the nearest multiple of a gap that depends on
the number, and this multiple is found again from any number that is at most half a gap away.
Below a power of two the gap is half as wide, which is why the basin of such a double reaches only
half as far down. Main statement: every number in the basin of a double is rounded to this double.
-/
namespace FieldRules

/-! ### Gaps -/

theorem gap_pos (units : Nat) : 0 < gap units := Nat.pow_pos (by decide)

theorem gap_le {units : Nat} (h : 0 < units) : gap units ≤ units := by
  have hlog : Nat.pow 2 units.log2 ≤ units := Nat.log2_self_le (Nat.pos_iff_ne_zero.mp h)
  exact Nat.le_trans (Nat.pow_le_pow_right (by decide) (Nat.sub_le ..)) hlog

theorem gap_eq {units exponent : Nat} (hlow : 2 ^ exponent ≤ units)
    (hhigh : units < 2 ^ (exponent + 1)) : gap units = 2 ^ (exponent - 52) := by
  have hne : units ≠ 0 := Nat.pos_iff_ne_zero.mp (Nat.lt_of_lt_of_le (Nat.two_pow_pos _) hlow)
  have hlog : units.log2 = exponent := (Nat.log2_eq_iff hne).mpr ⟨hlow, hhigh⟩
  rw [gap, hlog]
  rfl

theorem gap_eq_one {units : Nat} (h : units < 2 ^ 53) : gap units = 1 := by
  have hlog : units.log2 ≤ 52 := by
    rcases Nat.eq_zero_or_pos units with rfl | hpos
    · decide
    · exact Nat.le_of_lt_succ ((Nat.log2_lt (Nat.pos_iff_ne_zero.mp hpos)).mpr h)
  rw [gap, Nat.sub_eq_zero_of_le hlog]

theorem mul_gap_le {units : Nat} (h : 2 ^ 52 ≤ units) : 2 ^ 52 * gap units ≤ units := by
  have hne : units ≠ 0 := Nat.pos_iff_ne_zero.mp (Nat.lt_of_lt_of_le (Nat.two_pow_pos _) h)
  have hlog : 52 ≤ units.log2 := (Nat.le_log2 hne).mpr h
  have hpow : 2 ^ 52 * 2 ^ (units.log2 - 52) = 2 ^ units.log2 := by
    rw [← Nat.pow_add, Nat.add_sub_cancel' hlog]
  exact Nat.le_trans (Nat.le_of_eq hpow) (Nat.log2_self_le hne)

/-! ### The nearest multiple -/

section Nearest

variable {number step : Nat}

/-- Rounding goes down only if the rest is at most half a step, and up only if it is at least that.
-/
theorem nearest_cases (tie : Tie) (number step : Nat) :
    nearest tie number step = number / step ∧ 2 * (number % step) ≤ step ∨
      nearest tie number step = number / step + 1 ∧ step ≤ 2 * (number % step) := by
  unfold nearest
  split
  · omega
  · split
    · omega
    · cases tie with
      | up => exact Or.inr ⟨rfl, by omega⟩
      | even =>
        dsimp only
        omega

/-- The nearest multiple is at most half a step away. -/
theorem nearest_near (tie : Tie) (number : Nat) (hstep : 0 < step) :
    2 * number ≤ 2 * (nearest tie number step * step) + step ∧
      2 * (nearest tie number step * step) ≤ 2 * number + step := by
  have hsplit : number / step * step + number % step = number := Nat.div_add_mod' number step
  have hrest : number % step < step := Nat.mod_lt number hstep
  rcases nearest_cases tie number step with ⟨heq, hle⟩ | ⟨heq, hle⟩
  · rw [heq]
    omega
  · rw [heq, Nat.add_mul, Nat.one_mul]
    omega

/-- Only the ratio of number and step matters. -/
theorem nearest_mul (tie : Tie) {k : Nat} (hk : 0 < k) :
    nearest tie (k * number) (k * step) = nearest tie number step := by
  have hdiv : k * number / (k * step) = number / step := Nat.mul_div_mul_left number step hk
  have hmod : k * number % (k * step) = k * (number % step) := Nat.mul_mod_mul_left k number step
  have hbelow : 2 * (k * (number % step)) < k * step ↔ 2 * (number % step) < step := by
    rw [Nat.mul_left_comm, Nat.mul_lt_mul_left hk]
  have habove : k * step < 2 * (k * (number % step)) ↔ step < 2 * (number % step) := by
    rw [Nat.mul_left_comm, Nat.mul_lt_mul_left hk]
  unfold nearest
  simp only [hdiv, hmod, hbelow, habove]

theorem nearest_mul_self (tie : Tie) (k : Nat) (hstep : 0 < step) :
    nearest tie (k * step) step = k := by
  unfold nearest
  rw [Nat.mul_mod_left, Nat.mul_div_cancel k hstep, if_pos hstep]

/-- A multiple at most half a step away is the nearest one, if it is even or nearer than that. -/
theorem nearest_eq {k : Nat} (hstep : 0 < step) (hlow : 2 * (k * step) ≤ 2 * number + step)
    (hhigh : 2 * number ≤ 2 * (k * step) + step)
    (htie : k % 2 = 0 ∨ 2 * (k * step) < 2 * number + step ∧ 2 * number < 2 * (k * step) + step) :
    nearest .even number step = k := by
  have hsplit : number / step * step + number % step = number := Nat.div_add_mod' number step
  have hrest : number % step < step := Nat.mod_lt number hstep
  have hbelow : number / step ≤ k := by
    by_contra hlt
    have hmul : (k + 1) * step ≤ number / step * step := Nat.mul_le_mul_right step (by omega)
    rw [Nat.add_mul, Nat.one_mul] at hmul
    omega
  have habove : k ≤ number / step + 1 := by
    by_contra hlt
    have hmul : (number / step + 2) * step ≤ k * step := Nat.mul_le_mul_right step (by omega)
    rw [Nat.add_mul] at hmul
    omega
  unfold nearest
  rcases (by omega : k = number / step ∨ k = number / step + 1) with hk | hk
  · rw [hk] at hlow hhigh htie
    split
    · exact hk.symm
    · rw [if_neg (by omega)]
      simp only
      omega
  · rw [hk, Nat.add_mul, Nat.one_mul] at hlow hhigh htie
    rw [if_neg (by omega)]
    split
    · exact hk.symm
    · simp only
      omega

end Nearest

/-! ### Rounding -/

namespace Double

variable {num den : Nat}

theorem roundUnits_mul_left {k : Nat} (hk : 0 < k) :
    roundUnits (k * num) (k * den) = roundUnits num den := by
  rw [roundUnits, roundUnits, Nat.mul_div_mul_left num den hk, Nat.mul_left_comm,
    nearest_mul .even hk]

/-- A multiple of the gap that lies within half a gap of the number is what the number is rounded
to; at half a gap it has to be an even one. -/
theorem roundUnits_of_near {width k : Nat} (hden : 0 < den) (hgap : gap (num / den) = width)
    (hlow : 2 * (k * width * den) ≤ 2 * num + width * den)
    (hhigh : 2 * num ≤ 2 * (k * width * den) + width * den)
    (htie : k % 2 = 0 ∨ 2 * (k * width * den) < 2 * num + width * den ∧
      2 * num < 2 * (k * width * den) + width * den) :
    roundUnits num den = k * width := by
  have hstep : 0 < width * den := Nat.mul_pos (hgap ▸ gap_pos _) hden
  rw [Nat.mul_assoc] at hlow hhigh htie
  rw [roundUnits, hgap, nearest_eq hstep hlow hhigh htie]

/-- A number that a double can have is not changed. -/
theorem roundUnits_of_representable {units : Nat} (hden : 0 < den) (h : Representable units) :
    roundUnits (units * den) den = units := by
  have hmul : units / gap units * gap units = units := Nat.div_mul_cancel h.2
  have hstep : 0 < gap units * den := Nat.mul_pos (gap_pos units) hden
  have hround : roundUnits (units * den) den = units / gap units * gap units :=
    roundUnits_of_near hden (by rw [Nat.mul_div_cancel units hden]) (by rw [hmul]; omega)
      (by rw [hmul]; omega) (by rw [hmul]; omega)
  rw [hround, hmul]

end Double

/-! ### Basins -/

namespace Basin

/-- A point of a basin lies between its ends, and on one of them only if the basin is closed. -/
theorem contains_bounds {b : Basin} {scale point : Nat} (h : b.contains scale point = true) :
    b.low * scale ≤ point ∧ point ≤ b.high * scale ∧
      (b.closed = false → b.low * scale < point ∧ point < b.high * scale) := by
  unfold contains at h
  cases hclosed : b.closed with
  | true =>
    simp only [hclosed, if_true, Bool.and_eq_true, decide_eq_true_eq] at h
    exact ⟨h.1, h.2, nofun⟩
  | false =>
    simp only [hclosed, Bool.false_eq_true, if_false, Bool.and_eq_true, decide_eq_true_eq] at h
    exact ⟨Nat.le_of_lt h.1, Nat.le_of_lt h.2, fun _ => h⟩

theorem contains_of_lt {b : Basin} {scale point : Nat} (hlow : b.low * scale < point)
    (hhigh : point < b.high * scale) : b.contains scale point = true := by
  unfold contains
  split
  · simp only [Bool.and_eq_true, decide_eq_true_eq]
    exact ⟨Nat.le_of_lt hlow, Nat.le_of_lt hhigh⟩
  · simp only [Bool.and_eq_true, decide_eq_true_eq]
    exact ⟨hlow, hhigh⟩

theorem contains_mul_left {b : Basin} {scale point k : Nat} (hk : 0 < k) :
    b.contains (k * scale) (k * point) = b.contains scale point := by
  unfold contains
  simp only [Nat.mul_left_comm _ k, Nat.mul_le_mul_left_iff hk, Nat.mul_lt_mul_left hk]

section OfUnits

variable {units scale point : Nat}

theorem ofUnits_centre (units : Nat) : (ofUnits units).centre = 4 * units := rfl

theorem ofUnits_high (units : Nat) : (ofUnits units).high = 4 * units + 2 * gap units := rfl

/-- The double is a power of two with a narrower gap below it. -/
def IsEdge (units : Nat) : Prop := units = 2 ^ 52 * gap units ∧ 1 < gap units

theorem ofUnits_low_of_edge (hedge : IsEdge units) :
    (ofUnits units).low = 4 * units - gap units := by
  unfold ofUnits
  exact congrArg (4 * units - ·) (if_pos hedge)

theorem ofUnits_low_of_not_edge (hedge : ¬ IsEdge units) :
    (ofUnits units).low = 4 * units - 2 * gap units := by
  unfold ofUnits
  exact congrArg (4 * units - ·) (if_neg hedge)

theorem ofUnits_closed (units : Nat) :
    (ofUnits units).closed = false ∨ units / gap units % 2 = 0 := by
  unfold ofUnits
  cases hclosed : units / gap units % 2 == 0 with
  | false => exact Or.inl rfl
  | true => exact Or.inr (of_decide_eq_true hclosed)

/-- The ends of the basin, with a point that lies between them. -/
theorem ofUnits_reach (hpos : 0 < units) (hcontains : (ofUnits units).contains scale point = true) :
    4 * (units * scale) ≤ point + 2 * (gap units * scale) ∧
      (IsEdge units → 4 * (units * scale) ≤ point + gap units * scale) ∧
      point ≤ 4 * (units * scale) + 2 * (gap units * scale) ∧
      (units / gap units % 2 = 0 ∨ 4 * (units * scale) < point + 2 * (gap units * scale) ∧
        point < 4 * (units * scale) + 2 * (gap units * scale)) := by
  obtain ⟨hlow, hhigh, hstrict⟩ := contains_bounds hcontains
  have hgap : gap units * scale ≤ units * scale := Nat.mul_le_mul_right scale (gap_le hpos)
  rw [ofUnits_high, Nat.add_mul, Nat.mul_assoc, Nat.mul_assoc] at hhigh hstrict
  by_cases hedge : IsEdge units
  · rw [ofUnits_low_of_edge hedge, Nat.sub_mul, Nat.mul_assoc] at hlow hstrict
    refine ⟨by omega, fun _ => by omega, hhigh, ?_⟩
    rcases ofUnits_closed units with hopen | heven
    · have hpoint := hstrict hopen
      exact Or.inr ⟨by omega, hpoint.2⟩
    · exact Or.inl heven
  · rw [ofUnits_low_of_not_edge hedge, Nat.sub_mul, Nat.mul_assoc, Nat.mul_assoc] at hlow hstrict
    refine ⟨by omega, fun h => absurd h hedge, hhigh, ?_⟩
    rcases ofUnits_closed units with hopen | heven
    · have hpoint := hstrict hopen
      exact Or.inr ⟨by omega, hpoint.2⟩
    · exact Or.inl heven

end OfUnits

end Basin

section Binade

variable {units : Nat}

theorem add_gap_le (h : Representable units) : units + gap units ≤ 2 ^ (units.log2 + 1) := by
  have hlt : units < 2 ^ (units.log2 + 1) := Nat.lt_log2_self
  have hpow : gap units ∣ 2 ^ (units.log2 + 1) := Nat.pow_dvd_pow 2 (by omega)
  have hle : gap units ≤ 2 ^ (units.log2 + 1) - units :=
    Nat.le_of_dvd (by omega) (Nat.dvd_sub hpow h.2)
  omega

/-- Two to the binary exponent, in gaps. -/
theorem pow_log2_eq (hgap : 1 < gap units) : 2 ^ units.log2 = 2 ^ 52 * gap units := by
  have hlog : 52 ≤ units.log2 := by
    by_contra hlt
    rw [gap, Nat.sub_eq_zero_of_le (by omega)] at hgap
    exact absurd hgap (by decide)
  have hsum : 2 ^ 52 * 2 ^ (units.log2 - 52) = 2 ^ units.log2 := by
    rw [← Nat.pow_add, Nat.add_sub_cancel' hlog]
  exact hsum.symm

theorem pow_add_gap_le (hpos : 0 < units) (h : Representable units) (hgap : 1 < gap units)
    (hedge : ¬ Basin.IsEdge units) : 2 ^ units.log2 + gap units ≤ units := by
  have hle : 2 ^ units.log2 ≤ units := Nat.log2_self_le (Nat.pos_iff_ne_zero.mp hpos)
  have hne : units ≠ 2 ^ units.log2 := by
    rw [pow_log2_eq hgap]
    exact fun heq => hedge ⟨heq, hgap⟩
  have hpow : gap units ∣ 2 ^ units.log2 := Nat.pow_dvd_pow 2 (by omega)
  have hdiff : gap units ≤ units - 2 ^ units.log2 :=
    Nat.le_of_dvd (by omega) (Nat.dvd_sub h.2 hpow)
  omega

/-- A power of two with more than one unit to the next double. -/
theorem exists_half_of_isEdge (hedge : Basin.IsEdge units) :
    ∃ low, units = 2 ^ (low + 53) ∧ gap units = 2 ^ (low + 1) := by
  have hpow : 2 ^ units.log2 = units := (pow_log2_eq hedge.2).trans hedge.1.symm
  have hlog : 53 ≤ units.log2 := by
    by_contra hne
    have hgap : gap units = 1 := by rw [gap, Nat.sub_eq_zero_of_le (by omega)]
    exact absurd hedge.2 (by omega)
  refine ⟨units.log2 - 53, ?_, ?_⟩
  · rw [Nat.sub_add_cancel hlog, hpow]
  · rw [gap]
    congr 1
    omega

end Binade

namespace Double

section Basins

variable {units scale point : Nat}

theorem roundUnits_of_reach {width k : Nat} (hscale : 0 < scale)
    (hgap : gap (point / (4 * scale)) = width)
    (hlow : 4 * (k * width * scale) ≤ point + 2 * (width * scale))
    (hhigh : point ≤ 4 * (k * width * scale) + 2 * (width * scale))
    (htie : k % 2 = 0 ∨ 4 * (k * width * scale) < point + 2 * (width * scale) ∧
      point < 4 * (k * width * scale) + 2 * (width * scale)) :
    roundUnits point (4 * scale) = k * width := by
  have hquarters (n : Nat) : n * (4 * scale) = 4 * (n * scale) := Nat.mul_left_comm n 4 scale
  apply roundUnits_of_near (by omega) hgap
  all_goals
    rw [hquarters, hquarters]
    omega

variable (hpos : 0 < units) (h : Representable units) (hscale : 0 < scale)
  (hcontains : (Basin.ofUnits units).contains scale point = true)
include hpos h hscale hcontains

/-- No point of a basin reaches the next power of two. -/
theorem div_lt_of_contains : point / (4 * scale) < 2 ^ (units.log2 + 1) := by
  obtain ⟨-, -, hhigh, -⟩ := Basin.ofUnits_reach hpos hcontains
  have hnext : (units + gap units) * scale ≤ 2 ^ (units.log2 + 1) * scale :=
    Nat.mul_le_mul_right scale (add_gap_le h)
  have hwidth : 0 < gap units * scale := Nat.mul_pos (gap_pos units) hscale
  rw [Nat.add_mul] at hnext
  rw [Nat.div_lt_iff_lt_mul (by omega), Nat.mul_left_comm]
  omega

/-- Away from the powers of two the whole basin has one gap. -/
theorem gap_of_contains (hedge : ¬ Basin.IsEdge units) : gap (point / (4 * scale)) = gap units := by
  have hlt := div_lt_of_contains hpos h hscale hcontains
  by_cases hgap : 1 < gap units
  · obtain ⟨hlow, -⟩ := Basin.ofUnits_reach hpos hcontains
    have habove : (2 ^ units.log2 + gap units) * scale ≤ units * scale :=
      Nat.mul_le_mul_right scale (pow_add_gap_le hpos h hgap hedge)
    rw [Nat.add_mul] at habove
    refine gap_eq ?_ hlt
    rw [Nat.le_div_iff_mul_le (by omega), Nat.mul_left_comm]
    omega
  · have hone : gap units = 1 := Nat.le_antisymm (by omega) (gap_pos units)
    have hlog : units.log2 ≤ 52 := by
      by_contra hlt
      have htwo : 2 ^ 1 ≤ gap units := Nat.pow_le_pow_right (by decide) (by omega)
      omega
    have hpow : 2 ^ (units.log2 + 1) ≤ 2 ^ 53 := Nat.pow_le_pow_right (by decide) (by omega)
    rw [hone, gap_eq_one (Nat.lt_of_lt_of_le hlt hpow)]

omit h in
/-- Below a power of two the gap is half as wide, and on that finer grid the power is the even
point 2⁵³. -/
theorem roundUnits_of_contains_below (hedge : Basin.IsEdge units)
    (hbelow : point / (4 * scale) < units) : roundUnits point (4 * scale) = units := by
  obtain ⟨low, hunits, hwide⟩ := exists_half_of_isEdge hedge
  obtain ⟨hlow, hnear, -, -⟩ := Basin.ofUnits_reach hpos hcontains
  have hclose := hnear hedge
  have hhalf : 2 ^ (low + 52) ≤ point / (4 * scale) := by
    have htwice : 2 ^ (low + 52) * 2 = units := by
      rw [← Nat.pow_succ, hunits]
    have hscaled : gap units * scale ≤ units * scale := Nat.mul_le_mul_right scale (gap_le hpos)
    have hfour : 4 * (units * scale) = 2 * (2 ^ (low + 52) * (4 * scale)) := by
      rw [← htwice]
      ring
    rw [Nat.le_div_iff_mul_le (by omega)]
    omega
  have hgap : gap (point / (4 * scale)) = 2 ^ low := by
    apply gap_eq hhalf
    rw [hunits] at hbelow
    exact hbelow
  have hpoint : point < units * (4 * scale) := by
    rw [← Nat.div_lt_iff_lt_mul (by omega)]
    exact hbelow
  have hround := roundUnits_of_reach (k := 2 ^ 53) hscale hgap
  have hmul : 2 ^ 53 * 2 ^ low = units := by
    rw [← Nat.pow_add, Nat.add_comm, hunits]
  rw [hmul] at hround
  rw [hwide, Nat.pow_succ', Nat.mul_assoc] at hclose
  rw [Nat.mul_left_comm] at hpoint
  exact hround hclose (by omega) (Or.inl (Nat.pow_mod 2 53 2))

/-- A power of two is found again from both sides. -/
theorem roundUnits_of_contains_edge (hedge : Basin.IsEdge units) :
    roundUnits point (4 * scale) = units := by
  rcases Nat.lt_or_ge (point / (4 * scale)) units with hbelow | habove
  · exact roundUnits_of_contains_below hpos hscale hcontains hedge hbelow
  · obtain ⟨hlow, -, hhigh, -⟩ := Basin.ofUnits_reach hpos hcontains
    have hlt := div_lt_of_contains hpos h hscale hcontains
    have hpow : 2 ^ units.log2 = units := (pow_log2_eq hedge.2).trans hedge.1.symm
    have hgap : gap (point / (4 * scale)) = gap units := gap_eq (hpow.le.trans habove) hlt
    have hround := roundUnits_of_reach (k := 2 ^ 52) hscale hgap
    rw [← hedge.1] at hround
    exact hround hlow hhigh (Or.inl (Nat.pow_mod 2 52 2))

/-- Every number in the basin of a double is rounded to it. -/
theorem roundUnits_of_contains : roundUnits point (4 * scale) = units := by
  by_cases hedge : Basin.IsEdge units
  · exact roundUnits_of_contains_edge hpos h hscale hcontains hedge
  · obtain ⟨hlow, -, hhigh, htie⟩ := Basin.ofUnits_reach hpos hcontains
    have hgap := gap_of_contains hpos h hscale hcontains hedge
    have hmul : units / gap units * gap units = units := Nat.div_mul_cancel h.2
    have hround : roundUnits point (4 * scale) = units / gap units * gap units := by
      apply roundUnits_of_reach hscale hgap
      all_goals
        rw [hmul]
        assumption
    rw [hround, hmul]

end Basins

end Double

end FieldRules
