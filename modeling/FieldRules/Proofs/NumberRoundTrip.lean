import FieldRules.Proofs.ScaledReading

/-!
Numbers that are written and read back. A finite number is read again, with its sign and less than
twelve gaps away. It is the same number if the digits of its text and their power of ten are doubles
themselves, as they are for the whole numbers up to a tenth of 2⁵³. Main statements:
`isNear_reread`, `reread_eq_self` and `reread_ofInt`.
-/
namespace FieldRules

open Json (NumberText)

namespace Double

/-! ### Rereading -/

def reread (d : Double) : Double := (d.numberText?.bind NumberText.toDouble?).getD d

theorem sign_ofUnits (negative : Bool) {units : ℕ} (h : Representable units) :
    NumberText.sign negative (ofUnits false units) = .finite negative units h := by
  rw [ofUnits_eq false h]
  cases negative <;> rfl

theorem toDouble?_zero (negative : Bool) :
    (⟨negative, ['0'], some ['0'], none⟩ : NumberText).toDouble? =
      some (.finite negative 0 (by decide)) := by
  cases negative <;> decide +kernel

/-- A finite number is read again, with its sign, and less than twelve gaps away. -/
theorem reread_finite (negative : Bool) {units : ℕ} (h : Representable units) :
    ∃ (r : ℕ) (hr : Representable r), |(r : ℚ) - units| < 12 * gap units ∧
      (Double.finite negative units h).numberText?.bind NumberText.toDouble? =
        some (.finite negative r hr) := by
  rcases Nat.eq_zero_or_pos units with rfl | hpos
  · refine ⟨0, by decide, ?_, ?_⟩
    · have hgap : (0 : ℚ) < gap 0 := Nat.cast_pos.mpr (gap_pos 0)
      rw [Nat.cast_zero, sub_self, abs_zero]
      linarith
    · exact toDouble?_zero negative
  · obtain ⟨r, hr, hread, hclose⟩ := isClose_shortest hpos h
    obtain ⟨-, -, hfits⟩ := shortest_spec .even hpos h
    refine ⟨r, hr, hclose, ?_⟩
    unfold numberText?
    dsimp only
    rw [if_neg (Nat.pos_iff_ne_zero.mp hpos), Option.bind_some,
      Decimal.toDouble?_numberText negative hfits, hread, Option.map_some, sign_ofUnits]

theorem toDouble?_reread {d : Double} (h : d.isFinite = true) :
    d.numberText?.bind NumberText.toDouble? = some d.reread := by
  cases d with
  | nan => cases h
  | infinite negative => cases h
  | finite negative units fits =>
    obtain ⟨r, hr, -, hread⟩ := reread_finite negative fits
    rw [reread, hread]
    rfl

/-- The same sign, and less than twelve gaps apart. -/
def IsNear : Double → Double → Prop
  | .finite negative m _, .finite sign n _ => sign = negative ∧ |(n : ℚ) - m| < 12 * gap m
  | _, _ => False

/-- A finite number is read back from its text less than twelve gaps away. -/
theorem isNear_reread {d : Double} (h : d.isFinite = true) : d.IsNear d.reread := by
  cases d with
  | nan => cases h
  | infinite negative => cases h
  | finite negative units fits =>
    obtain ⟨r, hr, hclose, hread⟩ := reread_finite negative fits
    rw [reread, hread, Option.getD_some]
    exact ⟨rfl, hclose⟩

/-- The digits of the number's text and their power of ten are doubles themselves. -/
def HasExactText : Double → Prop
  | .finite _ units _ => units = 0 ∨
    Representable ((shortest .even units).shown.digits * unitsPerOne) ∧
      (shortest .even units).shown.exponent.natAbs ≤ 22
  | _ => False

instance : DecidablePred HasExactText
  | .nan => inferInstanceAs (Decidable False)
  | .infinite _ => inferInstanceAs (Decidable False)
  | .finite .. => inferInstanceAs (Decidable (_ ∨ _))

theorem reread_zero (negative : Bool) (h : Representable 0) :
    reread (.finite negative 0 h) = .finite negative 0 h := by
  unfold reread numberText?
  dsimp only
  rw [if_pos rfl, Option.bind_some, toDouble?_zero]
  rfl

/-- If digits and power of ten are exact, the one operation of the reader rounds to the double
itself. -/
theorem reread_eq_self {d : Double} (h : d.HasExactText) : d.reread = d := by
  cases d with
  | nan => cases h
  | infinite negative => cases h
  | finite negative units fits =>
    rcases Nat.eq_zero_or_pos units with rfl | hpos
    · exact reread_zero negative fits
    · have hne := Nat.pos_iff_ne_zero.mp hpos
      obtain ⟨hdigits, hexponent⟩ := h.resolve_left hne
      obtain ⟨hholds, -, hfits⟩ := shortest_spec .even hpos fits
      have hread := scaled?_of_exact hpos fits (Basin.holds_shown hholds) hdigits hexponent 4
      unfold reread numberText?
      dsimp only
      rw [if_neg hne, Option.bind_some, Decimal.toDouble?_numberText negative hfits, hread,
        Option.map_some, sign_ofUnits]
      rfl

/-! ### Whole numbers -/

theorem log2_mul_unitsPerOne {n k : ℕ} (hpos : 0 < n) (h : n < 2 ^ k) :
    1074 ≤ (n * unitsPerOne).log2 ∧ (n * unitsPerOne).log2 < k + 1074 := by
  have hne : n * unitsPerOne ≠ 0 := Nat.pos_iff_ne_zero.mp (Nat.mul_pos hpos unitsPerOne_pos)
  have hone := unitsPerOne_pos
  unfold unitsPerOne at hne hone ⊢
  generalize 1074 = one at hne hone ⊢
  constructor
  · exact (Nat.le_log2 hne).mpr (Nat.le_mul_of_pos_left _ hpos)
  · rw [Nat.log2_lt hne, Nat.pow_add]
    exact Nat.mul_lt_mul_of_pos_right h hone

theorem representable_mul_unitsPerOne {n : ℕ} (h : n < 2 ^ 53) :
    Representable (n * unitsPerOne) := by
  rcases Nat.eq_zero_or_pos n with rfl | hpos
  · rw [Nat.zero_mul]
    decide
  · obtain ⟨-, hlog⟩ := log2_mul_unitsPerOne hpos h
    have hgap : gap (n * unitsPerOne) ∣ unitsPerOne := by
      have hle : (n * unitsPerOne).log2 - 52 ≤ 1074 := by omega
      unfold gap
      generalize (n * unitsPerOne).log2 - 52 = low at hle ⊢
      unfold unitsPerOne
      generalize 1074 = high at hle ⊢
      exact Nat.pow_dvd_pow 2 hle
    exact ⟨by omega, Nat.dvd_mul_left_of_dvd hgap n⟩

section Whole

variable {n : ℕ} (hpos : 0 < n) (h : n < 2 ^ 50)
include hpos h

theorem topExponent_whole : 0 ≤ topExponent (n * unitsPerOne) ∧
    topExponent (n * unitsPerOne) < 24 := by
  obtain ⟨hlow, hhigh⟩ := log2_mul_unitsPerOne hpos h
  unfold topExponent
  omega

theorem gap_whole_lt : gap (n * unitsPerOne) < unitsPerOne := by
  obtain ⟨-, hlog⟩ := log2_mul_unitsPerOne hpos h
  have hlt : (n * unitsPerOne).log2 - 52 < 1074 := by omega
  unfold gap
  generalize (n * unitsPerOne).log2 - 52 = low at hlt ⊢
  unfold unitsPerOne
  generalize 1074 = high at hlt ⊢
  exact Nat.pow_lt_pow_right (by decide) hlt

omit h in
/-- The number itself stands on the grid of the whole numbers. -/
theorem onGrid?_whole (tie : Tie) :
    ((Basin.ofUnits (n * unitsPerOne)).onGrid? tie 0).isSome = true := by
  have hunits : 0 < n * unitsPerOne := Nat.mul_pos hpos unitsPerOne_pos
  have hgap := gap_pos (n * unitsPerOne)
  obtain ⟨hlow, hhigh⟩ := Basin.ofUnits_gap_le hunits
  have hcentre : (Basin.ofUnits (n * unitsPerOne)).centre * Nat.pow 10 (-(0 : ℤ)).toNat =
      n * (4 * unitsPerOne * Nat.pow 10 (0 : ℤ).toNat) := by
    have hscale : Nat.pow 10 (-(0 : ℤ)).toNat = 1 := rfl
    have hpower : Nat.pow 10 (0 : ℤ).toNat = 1 := rfl
    rw [Basin.ofUnits_centre, hscale, hpower, Nat.mul_one, Nat.mul_one, Nat.mul_left_comm]
  have hscale : 0 < Nat.pow 10 (-(0 : ℤ)).toNat := Nat.pow_pos (by decide)
  unfold Basin.onGrid?
  dsimp only
  rw [hcentre, nearest_mul_self tie n (Basin.step_pos 0), if_pos]
  · rfl
  · rw [← hcentre]
    exact Basin.contains_of_lt (Nat.mul_lt_mul_of_pos_right (by omega) hscale)
      (Nat.mul_lt_mul_of_pos_right (by omega) hscale)

/-- The shortest decimal of a whole number is that number, since the next one is a unit away, which
is more than a gap. -/
theorem shortest_whole (tie : Tie) : 0 ≤ (shortest tie (n * unitsPerOne)).exponent ∧
    (shortest tie (n * unitsPerOne)).digits *
      10 ^ (shortest tie (n * unitsPerOne)).exponent.toNat = n := by
  have hunits : 0 < n * unitsPerOne := Nat.mul_pos hpos unitsPerOne_pos
  have hgap := gap_whole_lt hpos h
  obtain ⟨htopLow, htopHigh⟩ := topExponent_whole hpos h
  have hindex : topExponent (n * unitsPerOne) -
      ((topExponent (n * unitsPerOne)).toNat : ℤ) = 0 := by omega
  have hsome := onGrid?_whole hpos tie
  rw [← hindex] at hsome
  obtain ⟨exponent, hle, hgrid⟩ := exists_onGrid?_of_isSome (by omega) hsome
  obtain ⟨hexponent, hholds⟩ := Basin.holds_of_onGrid? hgrid
  rw [hindex, ← hexponent] at hle
  generalize shortest tie (n * unitsPerOne) = d at hle hholds
  refine ⟨hle, ?_⟩
  have hzero : (-d.exponent).toNat = 0 := by omega
  obtain ⟨hlow, -, hhigh, -⟩ := Basin.ofUnits_reach hunits hholds
  have hpoint (u power : ℕ) : d.digits * (4 * u * power) = 4 * (d.digits * power * u) := by ring
  have hone : Nat.pow 10 0 = 1 := rfl
  rw [hpoint, hzero, hone, Nat.mul_one, Nat.mul_one] at hlow hhigh
  change d.digits * Nat.pow 10 d.exponent.toNat = n
  generalize d.digits * Nat.pow 10 d.exponent.toNat = whole at hlow hhigh ⊢
  apply Nat.le_antisymm
  · by_contra hlt
    have hmul := Nat.mul_le_mul_right unitsPerOne (show n + 1 ≤ whole by omega)
    rw [Nat.add_mul, Nat.one_mul] at hmul
    omega
  · by_contra hlt
    have hmul := Nat.mul_le_mul_right unitsPerOne (show whole + 1 ≤ n by omega)
    rw [Nat.add_mul, Nat.one_mul] at hmul
    omega

theorem shown_whole (tie : Tie) : (shortest tie (n * unitsPerOne)).shown = ⟨n * 10, -1⟩ := by
  obtain ⟨hexponent, hvalue⟩ := shortest_whole hpos h tie
  generalize shortest tie (n * unitsPerOne) = d at hexponent hvalue
  have hdigits : 0 < d.digits := by
    by_contra hzero
    rw [Nat.eq_zero_of_not_pos hzero, Nat.zero_mul] at hvalue
    omega
  have hleading : d.leading < 16 := by
    have hpow : 10 ^ ((Nat.toDigits 10 d.digits).length - 1 + d.exponent.toNat) < 10 ^ 16 := by
      rw [Nat.pow_add]
      have hle := Nat.mul_le_mul_right (10 ^ d.exponent.toNat) (Decimal.pow_le_digits hdigits)
      rw [hvalue] at hle
      exact lt_of_le_of_lt hle (h.trans (by decide))
    have hlt := (Nat.pow_lt_pow_iff_right (by decide)).mp hpow
    unfold Decimal.leading
    omega
  unfold Decimal.shown
  rw [if_pos ⟨hexponent, hleading⟩, Nat.pow_succ, ← Nat.mul_assoc, hvalue]

end Whole

/-- Integers below 2⁵³ are doubles. -/
theorem ofInt_eq {n : ℤ} (h : n.natAbs < 2 ^ 53) :
    ofInt n = .finite (decide (n < 0)) (n.natAbs * unitsPerOne)
      (representable_mul_unitsPerOne h) := by
  rw [← ofUnits_eq, ← wholeUnits_of_representable (representable_mul_unitsPerOne h)]
  rfl

/-- Whole numbers up to a tenth of 2⁵³ come back as they were. -/
theorem reread_ofInt {n : ℤ} (h : n.natAbs ≤ 2 ^ 53 / 10) : reread (ofInt n) = ofInt n := by
  rw [ofInt_eq (show n.natAbs < 2 ^ 53 by omega)]
  apply reread_eq_self
  rcases Nat.eq_zero_or_pos n.natAbs with hzero | hpos
  · left
    rw [hzero, Nat.zero_mul]
  · right
    have hten := representable_mul_unitsPerOne (show n.natAbs * 10 < 2 ^ 53 by omega)
    rw [shown_whole hpos (by omega)]
    exact ⟨hten, (by decide : (-1 : ℤ).natAbs ≤ 22)⟩

end Double

end FieldRules
