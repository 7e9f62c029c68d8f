import FieldRules.Json.Reader
import FieldRules.Proofs.NumberText

/-!
What a written number is read as. The digits before and after the point are one whole number, which
fits in 64 bits for the shortest decimal of a double, and the places behind the point lower the
exponent. A whole number has gained a zero behind the point, so its digits are read ten times as
large. Main statement: `toDouble?_numberText`.
-/
namespace FieldRules

open Json (NumberText absorb scaled?)

/-! ### Digits -/

theorem le_ofDigitChars (digits : List Char) (number : Nat) :
    number ≤ Nat.ofDigitChars 10 digits number := by
  induction digits generalizing number with
  | nil => exact Nat.le_refl number
  | cons d digits ih =>
    rw [Nat.ofDigitChars_cons]
    exact Nat.le_trans (by omega) (ih _)

theorem ofDigitChars_toDigits (n : Nat) : Nat.ofDigitChars 10 (Nat.toDigits 10 n) 0 = n :=
  Nat.ofDigitChars_toDigits (by decide) (by decide)

/-- All digits are taken if their number fits in 64 bits. -/
theorem absorb_eq {number : Nat} {digits : List Char}
    (h : Nat.ofDigitChars 10 digits number < UInt64.size) :
    absorb number digits = (Nat.ofDigitChars 10 digits number, []) := by
  induction digits generalizing number with
  | nil => rfl
  | cons d digits ih =>
    rw [Nat.ofDigitChars_cons, Nat.mul_comm 10] at h ⊢
    have hfits := Nat.lt_of_le_of_lt (le_ofDigitChars digits _) h
    rw [absorb, if_pos hfits, ih h]

namespace Json.NumberText

def decimal (n : NumberText) : Decimal :=
  ⟨Nat.ofDigitChars 10 (n.whole ++ n.fraction.getD []) 0,
    n.exponentValue - (n.fraction.getD []).length⟩

def sign (negative : Bool) (d : Double) : Double := if negative then d.negate else d

/-- As long as the digits fit in 64 bits, reading computes with all of them. -/
theorem toDouble?_eq {n : NumberText} (h : n.decimal.digits < UInt64.size) :
    n.toDouble? =
      (scaled? 4 (.ofNat n.decimal.digits) n.decimal.exponent).map (sign n.negative) := by
  have hdigits : n.decimal.digits =
      Nat.ofDigitChars 10 (n.fraction.getD []) (Nat.ofDigitChars 10 n.whole 0) :=
    Nat.ofDigitChars_append 0
  have hwhole :=
    absorb_eq (Nat.lt_of_le_of_lt (le_ofDigitChars (n.fraction.getD []) _) (hdigits ▸ h))
  have hall := absorb_eq (hdigits ▸ h)
  have hexponent : (([] : List Char).length : Int) -
      (((n.fraction.getD []).length - ([] : List Char).length : Nat) : Int) + n.exponentValue =
      n.decimal.exponent := by
    simp only [List.length_nil, decimal]
    omega
  unfold toDouble?
  simp only [hwhole, hall]
  rw [hexponent, hdigits]
  rfl

end Json.NumberText

/-! ### The decimals that are read -/

namespace Decimal

/-- The decimal as its text has it: a whole number gets one more digit behind the point. -/
def shown (d : Decimal) : Decimal :=
  if 0 ≤ d.exponent ∧ d.leading < 16 then ⟨d.digits * 10 ^ (d.exponent.toNat + 1), -1⟩ else d

theorem digits_lt_pow (d : Decimal) : d.digits < 10 ^ (Nat.toDigits 10 d.digits).length :=
  (Nat.length_toDigits_le_iff (by decide) Nat.length_toDigits_pos).mp (Nat.le_refl _)

theorem pow_le_digits {d : Decimal} (h : 0 < d.digits) :
    10 ^ ((Nat.toDigits 10 d.digits).length - 1) ≤ d.digits := by
  by_contra hlt
  rcases Nat.eq_zero_or_pos ((Nat.toDigits 10 d.digits).length - 1) with hzero | hpos
  · rw [hzero, Nat.pow_zero] at hlt
    omega
  · have hlength := (Nat.length_toDigits_le_iff (by decide) hpos).mpr (not_le.mp hlt)
    omega

theorem shown_digits_lt {d : Decimal} (h : d.digits < UInt64.size) :
    d.shown.digits < UInt64.size := by
  unfold shown
  split
  · rename_i hwhole
    have hlength : (Nat.toDigits 10 d.digits).length + (d.exponent.toNat + 1) ≤ 17 := by
      have hlast := hwhole.2
      unfold leading at hlast
      omega
    calc
      d.digits * 10 ^ (d.exponent.toNat + 1) <
          10 ^ (Nat.toDigits 10 d.digits).length * 10 ^ (d.exponent.toNat + 1) :=
        Nat.mul_lt_mul_of_pos_right d.digits_lt_pow (Nat.pow_pos (by decide))
      _ = 10 ^ ((Nat.toDigits 10 d.digits).length + (d.exponent.toNat + 1)) :=
        (Nat.pow_add ..).symm
      _ ≤ 10 ^ 17 := Nat.pow_le_pow_right (by decide) hlength
      _ ≤ UInt64.size := by decide
  · exact h

theorem decimal_scientificText (negative : Bool) (d : Decimal) :
    (d.scientificText negative).decimal = d := by
  have hvalue : (if decide (d.leading < 0) then -(d.leading.natAbs : Int) else d.leading.natAbs) =
      d.leading := by
    by_cases hneg : d.leading < 0
    · simp only [hneg, decide_true, if_true]
      omega
    · simp only [hneg, decide_false, Bool.false_eq_true, if_false]
      omega
  have hdigits := ofDigitChars_toDigits d.digits
  have hexponent : d.leading - ((Nat.toDigits 10 d.digits).length - 1 : Nat) = d.exponent := by
    have hlength : 0 < (Nat.toDigits 10 d.digits).length := Nat.length_toDigits_pos
    unfold leading
    omega
  unfold scientificText
  dsimp only
  split
  · rename_i first second rest heq
    rw [heq] at hdigits hexponent
    simp only [NumberText.decimal, NumberText.exponentValue, ofDigitChars_toDigits, hvalue,
      Option.getD_some, List.cons_append, List.nil_append, hdigits]
    exact congrArg (Decimal.mk d.digits) hexponent
  · rename_i hone
    have hlength : (Nat.toDigits 10 d.digits).length - 1 = 0 := by
      match hlist : Nat.toDigits 10 d.digits with
      | [] => rfl
      | [_] => rfl
      | first :: second :: rest => exact absurd hlist (hone first second rest)
    rw [hlength] at hexponent
    simp only [NumberText.decimal, NumberText.exponentValue, ofDigitChars_toDigits, hvalue,
      Option.getD_none, List.append_nil, List.length_nil]
    exact congrArg (Decimal.mk d.digits) hexponent

theorem decimal_positionalText (negative : Bool) {d : Decimal} (h : d.exponent < 0) :
    (d.positionalText negative).decimal = d := by
  have hdigits := ofDigitChars_toDigits d.digits
  unfold positionalText
  dsimp only
  split
  · rename_i hlt
    have hexponent : 0 - ((Nat.toDigits 10 d.digits).length -
        ((Nat.toDigits 10 d.digits).length - (-d.exponent).toNat) : Nat) = d.exponent := by omega
    simp only [NumberText.decimal, NumberText.exponentValue, Option.getD_some,
      List.take_append_drop, List.length_drop, hdigits]
    exact congrArg (Decimal.mk d.digits) hexponent
  · rename_i hle
    have hvalue : Nat.ofDigitChars 10 (List.replicate ((-d.exponent).toNat -
        (Nat.toDigits 10 d.digits).length) '0') 0 = 0 := by
      rw [Nat.ofDigitChars_replicate_zero, Nat.mul_zero]
    have hexponent : 0 - (((-d.exponent).toNat - (Nat.toDigits 10 d.digits).length +
        (Nat.toDigits 10 d.digits).length : Nat) : Int) = d.exponent := by omega
    have hzero : 10 * 0 + ('0'.toNat - '0'.toNat) = 0 := rfl
    simp only [NumberText.decimal, NumberText.exponentValue, Option.getD_some, List.cons_append,
      List.nil_append, Nat.ofDigitChars_cons, Nat.ofDigitChars_append, List.length_append,
      List.length_replicate, hzero, hvalue, hdigits]
    exact congrArg (Decimal.mk d.digits) hexponent

/-- The text of a decimal is read as that decimal, up to one zero. -/
theorem decimal_numberText (negative : Bool) (d : Decimal) :
    (d.numberText negative).decimal = d.shown := by
  unfold numberText shown
  split
  · have hzero : 10 * (10 ^ d.exponent.toNat * d.digits) + ('0'.toNat - '0'.toNat) =
        d.digits * 10 ^ (d.exponent.toNat + 1) := by
      change 10 * (10 ^ d.exponent.toNat * d.digits) + 0 = _
      rw [Nat.pow_succ]
      ring
    simp only [NumberText.decimal, NumberText.exponentValue, Option.getD_some,
      Nat.ofDigitChars_append, ofDigitChars_toDigits, Nat.ofDigitChars_replicate_zero,
      Nat.ofDigitChars_cons, hzero]
    rfl
  · rename_i hwhole
    split
    · exact decimal_positionalText negative (by omega)
    · exact decimal_scientificText negative d

theorem negative_numberText (negative : Bool) (d : Decimal) :
    (d.numberText negative).negative = negative := by
  unfold numberText
  split
  · rfl
  · split
    · unfold positionalText
      dsimp only
      split <;> rfl
    · unfold scientificText
      dsimp only
      split <;> rfl

theorem toDouble?_numberText (negative : Bool) {d : Decimal} (h : d.digits < UInt64.size) :
    (d.numberText negative).toDouble? =
      (scaled? 4 (.ofNat d.shown.digits) d.shown.exponent).map (NumberText.sign negative) := by
  have hfits : (d.numberText negative).decimal.digits < UInt64.size := by
    rw [decimal_numberText]
    exact shown_digits_lt h
  rw [NumberText.toDouble?_eq hfits, decimal_numberText, negative_numberText]

end Decimal

end FieldRules
