import FieldRules.Proofs.NumberRoundTrip

/-!
The text of numbers in rules and messages. A whole number below 10¹⁵ in size is written as an
integer of 64 bits; its own text has the same digits, since the shortest decimal of such a number is
the number itself. All other numbers are written as their own text. So the two ways of writing only
differ on zero, which has no sign as an integer. Main statement: `ruleText_eq`.
-/
namespace FieldRules

open Decimal (signChars)

/-! ### Digits of whole numbers -/

theorem toList_repr (n : ℤ) :
    n.repr.toList = signChars (decide (n < 0)) ++ Nat.toDigits 10 n.natAbs := by
  cases n with
  | ofNat m => simp [Int.repr, Nat.repr, signChars]
  | negSucc m => simp [Int.repr, Nat.repr, signChars, Int.negSucc_lt_zero]

theorem toDigits_mul_pow {n : ℕ} (h : 0 < n) (k : ℕ) :
    Nat.toDigits 10 (n * 10 ^ k) = Nat.toDigits 10 n ++ List.replicate k '0' := by
  induction k with
  | zero => rw [Nat.pow_zero, Nat.mul_one, List.replicate_zero, List.append_nil]
  | succ k ih =>
    have hzero : Nat.toDigits 10 0 = ['0'] := rfl
    have hmul : n * 10 ^ (k + 1) = 10 * (n * 10 ^ k) + 0 := by
      rw [Nat.pow_succ]
      ring
    have hpos : 0 < n * 10 ^ k := Nat.mul_pos h (Nat.pow_pos (by decide))
    rw [hmul, ← Nat.toDigits_append_toDigits (by decide) hpos (by decide), ih, hzero,
      List.append_assoc, List.replicate_succ']

namespace Decimal

theorem positional_of_nonneg {d : Decimal} (hexponent : 0 ≤ d.exponent) (hdigits : 0 < d.digits) :
    d.positional = Nat.toDigits 10 (d.digits * 10 ^ d.exponent.toNat) := by
  unfold positional
  dsimp only
  rw [if_pos hexponent, toDigits_mul_pow hdigits]

end Decimal

namespace Double

/-- The shortest decimal of a whole number below 2⁵⁰ is written as its digits. -/
theorem positional_shortest_whole {n : ℕ} (hpos : 0 < n) (h : n < 2 ^ 50) (tie : Tie) :
    (shortest tie (n * unitsPerOne)).positional = Nat.toDigits 10 n := by
  obtain ⟨hexponent, hvalue⟩ := shortest_whole hpos h tie
  have hunits := Nat.mul_pos hpos unitsPerOne_pos
  have hrep := representable_mul_unitsPerOne (h.trans (by decide))
  rw [Decimal.positional_of_nonneg hexponent (shortest_spec tie hunits hrep).2.1, hvalue]

/-! ### The two ways of writing -/

def IsShortWhole (d : Double) : Prop := d.isWhole = true ∧ d.abs.lt integerLimit = true

theorem finite_lt_ofNat_iff {units n : ℕ} (h : Representable units) (hn : n < 2 ^ 53) :
    (finite false units h).lt (ofNat n) = true ↔ units < n * unitsPerOne := by
  have hrep := representable_mul_unitsPerOne hn
  rw [ofNat_eq, wholeUnits_of_representable hrep, ofUnits_eq false hrep]
  change decide ((units : ℤ) < (n * unitsPerOne : ℕ)) = true ↔ _
  rw [decide_eq_true_iff, Int.ofNat_lt]

/-- The numbers written as integers are the whole ones below 10¹⁵. -/
theorem isShortWhole_finite_iff (negative : Bool) {units : ℕ} (h : Representable units) :
    IsShortWhole (.finite negative units h) ↔ ∃ n < 10 ^ 15, units = n * unitsPerOne := by
  have hone := unitsPerOne_pos
  have hlt {limit : ℕ} (hlimit : limit < 2 ^ 53) :
      (finite negative units h).abs.lt (ofNat limit) = true ↔ units < limit * unitsPerOne :=
    finite_lt_ofNat_iff h hlimit
  have htests : IsShortWhole (.finite negative units h) ↔
      units % unitsPerOne = 0 ∧ units < Nat.pow 10 15 * unitsPerOne := by
    unfold IsShortWhole integerLimit
    rw [hlt (by decide)]
    exact and_congr_left' beq_iff_eq
  rw [htests, ← Nat.dvd_iff_mod_eq_zero]
  clear hlt htests
  generalize unitsPerOne = one at hone
  constructor
  · rintro ⟨⟨n, rfl⟩, hbelow⟩
    rw [Nat.mul_comm] at hbelow
    exact ⟨n, Nat.lt_of_mul_lt_mul_right hbelow, Nat.mul_comm ..⟩
  · rintro ⟨n, hbelow, rfl⟩
    exact ⟨Nat.dvd_mul_left .., Nat.mul_lt_mul_of_pos_right hbelow hone⟩

theorem IsShortWhole.exists_finite {d : Double} (h : d.IsShortWhole) :
    ∃ negative n hrep, n < 10 ^ 15 ∧ d = .finite negative (n * unitsPerOne) hrep := by
  cases d with
  | nan => cases h.1
  | infinite negative => cases h.1
  | finite negative units fits =>
    obtain ⟨n, hn, hunits⟩ := (isShortWhole_finite_iff negative fits).mp h
    exact ⟨negative, n, hunits ▸ fits, hn, by simp only [hunits]⟩

/-- Such a number is the integer it is cast to. -/
theorem toInt64_of_short (negative : Bool) {n : ℕ} (h : n < 10 ^ 15)
    (hrep : Representable (n * unitsPerOne)) :
    (finite negative (n * unitsPerOne) hrep).toInt64 = if negative then -(n : ℤ) else n := by
  have hmin : Int64.minValue.toInt = -2 ^ 63 := rfl
  have hmax : Int64.maxValue.toInt = 2 ^ 63 - 1 := rfl
  have hwhole : n * unitsPerOne / unitsPerOne = n := Nat.mul_div_cancel n unitsPerOne_pos
  unfold toInt64
  dsimp only
  rw [hwhole, hmin, hmax]
  cases negative with
  | true =>
    simp only [if_true]
    omega
  | false =>
    simp only [Bool.false_eq_true, if_false]
    omega

theorem ruleText_of_short {d : Double} (h : d.IsShortWhole) : d.ruleText = d.toInt64.repr := by
  unfold ruleText
  rw [h.1, h.2]
  rfl

theorem ruleText_of_not_short {d : Double} (h : ¬ d.IsShortWhole) : d.ruleText = d.toText := by
  unfold ruleText
  rw [if_neg]
  rwa [Bool.and_eq_true]

theorem ruleText_zero (negative : Bool) (h : Representable 0) :
    (finite negative 0 h).ruleText = "0" := by
  have hshort : (finite negative 0 h).IsShortWhole :=
    (isShortWhole_finite_iff negative h).mpr ⟨0, by decide, (Nat.zero_mul _).symm⟩
  rw [ruleText_of_short hshort, toInt64]
  rw [Nat.zero_div]
  cases negative <;> rfl

theorem finite_eq_zero_iff (negative : Bool) {units : ℕ} (h : Representable units) :
    (finite negative units h).eq zero = true ↔ units = 0 := by
  cases negative <;> simp [eq, zero, signedUnits]

/-- The integer has the digits of the number's own text. -/
theorem ruleText_of_ne_zero {d : Double} (h : d.eq .zero = false) : d.ruleText = d.toText := by
  by_cases hshort : d.IsShortWhole
  · obtain ⟨negative, n, hrep, hn, rfl⟩ := hshort.exists_finite
    have hne : n * unitsPerOne ≠ 0 := by
      rw [← Bool.not_eq_true, finite_eq_zero_iff] at h
      exact h
    have hpos : 0 < n := Nat.pos_of_mul_pos_right (Nat.pos_of_ne_zero hne)
    have hbelow : n < 2 ^ 50 := hn.trans (by decide)
    have hint := toInt64_of_short negative hn hrep
    have hsign : decide ((if negative then -(n : ℤ) else n) < 0) = negative := by
      cases negative
      · simp
      · simpa using hpos
    have hsize : (if negative then -(n : ℤ) else n).natAbs = n := by
      cases negative <;> simp
    rw [ruleText_of_short hshort, hint, ← String.toList_inj, toList_repr, hsign, hsize]
    unfold toText toChars
    dsimp only
    rw [String.toList_ofList, if_neg hne, positional_shortest_whole hpos hbelow]
    rfl
  · exact ruleText_of_not_short hshort

/-- The text is that of the number, but zero has no sign. -/
theorem ruleText_eq (d : Double) :
    d.ruleText = if d.eq .zero = true then "0" else d.toText := by
  cases hzero : d.eq .zero with
  | false => exact ruleText_of_ne_zero hzero
  | true =>
    cases d with
    | nan | infinite => cases hzero
    | finite negative units fits =>
      obtain rfl := (finite_eq_zero_iff negative fits).mp hzero
      exact ruleText_zero negative fits

end Double

end FieldRules
