import FieldRules.Proofs.DoubleRounding

/-!
The shortest decimal of a double lies in its basin. A grid that is finer than the way from the
double to the nearer end of the basin has a point in it, and the twentieth grid that is tried is
always so fine, as one comparison of powers for each binary exponent shows. The same grid bounds the
number of digits. Main statement: `shortest_spec`.
-/
namespace FieldRules

theorem unitsPerOne_pos : 0 < unitsPerOne := by decide +kernel

namespace Basin

theorem step_pos (exponent : Int) : 0 < 4 * unitsPerOne * Nat.pow 10 exponent.toNat :=
  Nat.mul_pos (Nat.mul_pos (by decide) unitsPerOne_pos) (Nat.pow_pos (by decide))

def Holds (b : Basin) (d : Decimal) : Prop :=
  b.contains (Nat.pow 10 (-d.exponent).toNat)
    (d.digits * (4 * unitsPerOne * Nat.pow 10 d.exponent.toNat)) = true

/-- What is found on a grid has its exponent and rounds to the double. -/
theorem holds_of_onGrid? {b : Basin} {tie : Tie} {exponent : Int} {d : Decimal}
    (h : b.onGrid? tie exponent = some d) : d.exponent = exponent ∧ b.Holds d := by
  unfold onGrid? at h
  unfold Holds
  dsimp only at h
  split at h
  · rename_i hcontains
    obtain rfl := Option.some.inj h
    dsimp only
    exact ⟨rfl, hcontains⟩
  · split at h
    · rename_i hcontains
      obtain rfl := Option.some.inj h
      dsimp only
      exact ⟨rfl, hcontains⟩
    · cases h

/-- A fine grid has a point in the basin. -/
theorem onGrid?_isSome {b : Basin} (tie : Tie) {exponent : Int} {reach : Nat}
    (hlow : b.low + reach ≤ b.centre) (hhigh : b.centre + reach ≤ b.high)
    (hfine : 4 * unitsPerOne * Nat.pow 10 exponent.toNat <
      2 * (reach * Nat.pow 10 (-exponent).toNat)) :
    (b.onGrid? tie exponent).isSome = true := by
  have hstep := step_pos exponent
  unfold onGrid?
  dsimp only
  generalize Nat.pow 10 (-exponent).toNat = scale at hfine ⊢
  generalize 4 * unitsPerOne * Nat.pow 10 exponent.toNat = step at hfine hstep ⊢
  have hnear := nearest_near tie (b.centre * scale) hstep
  have hbelow : b.low * scale + reach * scale ≤ b.centre * scale := by
    rw [← Nat.add_mul]
    exact Nat.mul_le_mul_right scale hlow
  have habove : b.centre * scale + reach * scale ≤ b.high * scale := by
    rw [← Nat.add_mul]
    exact Nat.mul_le_mul_right scale hhigh
  have hcontains : b.contains scale (nearest tie (b.centre * scale) step * step) = true :=
    contains_of_lt (by omega) (by omega)
  rw [if_pos hcontains]
  rfl

section Digits

variable {units : Nat} (hpos : 0 < units)
include hpos

/-- The way from the double to either end is a quarter of its gap at least. -/
theorem ofUnits_gap_le : (ofUnits units).low + gap units ≤ (ofUnits units).centre ∧
    (ofUnits units).centre + gap units ≤ (ofUnits units).high := by
  have hgap := gap_le hpos
  rw [ofUnits_centre, ofUnits_high]
  refine ⟨?_, by omega⟩
  by_cases hedge : IsEdge units
  · rw [ofUnits_low_of_edge hedge]
    omega
  · rw [ofUnits_low_of_not_edge hedge]
    omega

theorem digits_pos_of_holds {d : Decimal} (h : (ofUnits units).Holds d) : 0 < d.digits := by
  obtain ⟨hlow, -⟩ := ofUnits_reach hpos h
  have hscale : 0 < Nat.pow 10 (-d.exponent).toNat := Nat.pow_pos (by decide)
  have hgap := Nat.mul_le_mul_right (Nat.pow 10 (-d.exponent).toNat) (gap_le hpos)
  have hunits := Nat.mul_pos hpos hscale
  by_contra hzero
  rw [Nat.eq_zero_of_not_pos hzero, Nat.zero_mul] at hlow
  omega

/-- Six times the double is beyond its basin, so a grid on which that has less than 2⁶⁴ steps bounds
the digits of the decimals of all wider grids. -/
theorem digits_lt_of_holds {d : Decimal} (h : (ofUnits units).Holds d) {exponent : Int}
    (hle : exponent ≤ d.exponent) {bound : Nat}
    (hbound : 6 * units * Nat.pow 10 (-exponent).toNat <
      bound * (4 * unitsPerOne * Nat.pow 10 exponent.toNat)) : d.digits < bound := by
  obtain ⟨-, -, hhigh, -⟩ := ofUnits_reach hpos h
  have hgap := Nat.mul_le_mul_right (Nat.pow 10 (-d.exponent).toNat) (gap_le hpos)
  have hsix : d.digits * (4 * unitsPerOne * Nat.pow 10 d.exponent.toNat) ≤
      6 * units * Nat.pow 10 (-d.exponent).toNat := by
    rw [Nat.mul_assoc 6]
    omega
  have hpow : Nat.pow 10 (-d.exponent).toNat * Nat.pow 10 exponent.toNat ≤
      Nat.pow 10 (-exponent).toNat * Nat.pow 10 d.exponent.toNat := by
    rw [Nat.pow_eq, Nat.pow_eq, Nat.pow_eq, Nat.pow_eq, ← Nat.pow_add, ← Nat.pow_add]
    exact Nat.pow_le_pow_right (by decide) (by omega)
  have hstep := step_pos exponent
  have hwide : 0 < Nat.pow 10 d.exponent.toNat := Nat.pow_pos (by decide)
  generalize Nat.pow 10 (-d.exponent).toNat = scale' at *
  generalize Nat.pow 10 d.exponent.toNat = power' at *
  generalize Nat.pow 10 (-exponent).toNat = scale at *
  generalize Nat.pow 10 exponent.toNat = power at *
  refine Nat.lt_of_mul_lt_mul_right (a := 4 * unitsPerOne * power' * power) ?_
  calc
    d.digits * (4 * unitsPerOne * power' * power) =
        d.digits * (4 * unitsPerOne * power') * power := by ring
    _ ≤ 6 * units * scale' * power := Nat.mul_le_mul_right power hsix
    _ = 6 * units * (scale' * power) := Nat.mul_assoc ..
    _ ≤ 6 * units * (scale * power') := Nat.mul_le_mul_left _ hpow
    _ = 6 * units * scale * power' := (Nat.mul_assoc ..).symm
    _ < bound * (4 * unitsPerOne * power) * power' := Nat.mul_lt_mul_of_pos_right hbound hwide
    _ = bound * (4 * unitsPerOne * power' * power) := by ring

end Digits

end Basin

/-! ### The grid that is always fine enough -/

/-- The exponent of the twentieth grid. -/
def finestExponent (log : Nat) : Int := ((log : Int) - 1073) * 30103 / 100000 + 2 - 19

/-- The twentieth grid is finer than the way to the nearer end of the basin, and a double has less
than 2⁶⁴ of its steps. A list is evaluated three times faster than a bounded quantifier. -/
theorem finestExponent_fits : ∀ log ∈ List.range 2098,
    4 * unitsPerOne * Nat.pow 10 (finestExponent log).toNat <
        2 * (Nat.pow 2 (log - 52) * Nat.pow 10 (-finestExponent log).toNat) ∧
      6 * Nat.pow 2 (log + 1) * Nat.pow 10 (-finestExponent log).toNat <
        UInt64.size * (4 * unitsPerOne * Nat.pow 10 (finestExponent log).toNat) := by
  decide +kernel

/-- The shortest decimal is found on the first grid that has a point in the basin. -/
theorem exists_onGrid?_of_isSome {tie : Tie} {units i : Nat} (hi : i < 24)
    (h : ((Basin.ofUnits units).onGrid? tie (topExponent units - i)).isSome = true) :
    ∃ exponent, topExponent units - i ≤ exponent ∧
      (Basin.ofUnits units).onGrid? tie exponent = some (shortest tie units) := by
  have hsplit : List.range 24 = List.range (i + 1) ++ (List.range (23 - i)).map (i + 1 + ·) := by
    rw [← List.range_add]
    congr 1
    omega
  obtain ⟨d, hfound⟩ : ∃ d, (List.range (i + 1)).findSome? (fun i : Nat =>
      (Basin.ofUnits units).onGrid? tie (topExponent units - i)) = some d :=
    Option.isSome_iff_exists.mp (List.findSome?_isSome_iff.mpr ⟨i, by simp, h⟩)
  have hshortest : shortest tie units = d := by
    unfold shortest
    dsimp only
    rw [hsplit, List.findSome?_append, hfound]
    rfl
  obtain ⟨j, hj, hsome⟩ := List.exists_of_findSome?_eq_some hfound
  have hle : j ≤ i := Nat.le_of_lt_succ (List.mem_range.mp hj)
  exact ⟨topExponent units - j, by omega, hshortest ▸ hsome⟩

/-- The search over the grids always ends, with a point of the first one that has some. -/
theorem exists_onGrid?_shortest (tie : Tie) {units : Nat} (hpos : 0 < units)
    (h : Representable units) : ∃ exponent, finestExponent units.log2 ≤ exponent ∧
      (Basin.ofUnits units).onGrid? tie exponent = some (shortest tie units) := by
  obtain ⟨hlow, hhigh⟩ := Basin.ofUnits_gap_le hpos
  have hfits := (finestExponent_fits units.log2 (List.mem_range.mpr h.1)).1
  have htwentieth : ((Basin.ofUnits units).onGrid? tie (topExponent units - (19 : Nat))).isSome =
      true := Basin.onGrid?_isSome tie hlow hhigh hfits
  exact exists_onGrid?_of_isSome (by decide) htwentieth

theorem finestExponent_le_exponent (tie : Tie) {units : Nat} (hpos : 0 < units)
    (h : Representable units) : finestExponent units.log2 ≤ (shortest tie units).exponent := by
  obtain ⟨exponent, hle, hgrid⟩ := exists_onGrid?_shortest tie hpos h
  rw [(Basin.holds_of_onGrid? hgrid).1]
  exact hle

/-- The shortest decimal of a double rounds to it, and its digits fit in 64 bits. -/
theorem shortest_spec (tie : Tie) {units : Nat} (hpos : 0 < units) (h : Representable units) :
    (Basin.ofUnits units).Holds (shortest tie units) ∧ 0 < (shortest tie units).digits ∧
      (shortest tie units).digits < UInt64.size := by
  obtain ⟨exponent, hle, hgrid⟩ := exists_onGrid?_shortest tie hpos h
  obtain ⟨hexponent, hholds⟩ := Basin.holds_of_onGrid? hgrid
  refine ⟨hholds, Basin.digits_pos_of_holds hpos hholds, ?_⟩
  refine Basin.digits_lt_of_holds hpos hholds (hexponent ▸ hle) ?_
  have hunits : units ≤ Nat.pow 2 (units.log2 + 1) := Nat.le_of_lt Nat.lt_log2_self
  refine Nat.lt_of_le_of_lt ?_ (finestExponent_fits units.log2 (List.mem_range.mpr h.1)).2
  exact Nat.mul_le_mul_right _ (Nat.mul_le_mul_left 6 hunits)

end FieldRules
