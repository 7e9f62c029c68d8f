import FieldRules.Double.Exponential
import FieldRules.Proofs.JsonToken
import FieldRules.Proofs.ShortestDecimal
import Mathlib.Data.List.Basic

/-!
The parts of a written number: which digits stand before the point, which after it, and which make
the exponent. They are what a reader takes for a number, since no zero comes before other digits.
Main statements: `toJsonChars?_eq` and `wellFormed_of_numberText?`.
-/
namespace FieldRules

open Json (NumberText IsDigits)

/-! ### Digits -/

theorem isDigits_toDigits (n : Nat) : IsDigits (Nat.toDigits 10 n) :=
  ⟨Nat.toDigits_ne_nil, fun _ h => Nat.isDigit_of_mem_toDigits (by decide) (by decide) h⟩

theorem isDigits_zero : IsDigits ['0'] := isDigits_toDigits 0

theorem isDigits_append {s t : List Char} (hs : IsDigits s) (ht : ∀ c ∈ t, c.isDigit = true) :
    IsDigits (s ++ t) := by
  refine ⟨List.append_ne_nil_of_left_ne_nil hs.1 t, fun c hc => ?_⟩
  rcases List.mem_append.mp hc with hc | hc
  · exact hs.2 c hc
  · exact ht c hc

theorem isDigit_of_mem_zeros {n : Nat} {c : Char} (h : c ∈ List.replicate n '0') :
    c.isDigit = true := by
  rw [List.eq_of_mem_replicate h]
  decide

theorem head?_toDigits_ne {n : Nat} (h : 0 < n) : (Nat.toDigits 10 n).head? ≠ some '0' := by
  induction n using Nat.strong_induction_on with
  | _ n ih =>
    by_cases hlt : n < 10
    · have hdigit : ∀ m < 10, 0 < m → m.digitChar ≠ '0' := by decide
      rw [Nat.toDigits_of_lt_base hlt]
      exact fun heq => hdigit n hlt h (Option.some.inj heq)
    · rw [Nat.toDigits_of_base_le (by decide) (by omega),
        List.head?_append_of_ne_nil _ Nat.toDigits_ne_nil]
      exact ih (n / 10) (by omega) (by omega)

/-! ### The parts of a decimal -/

namespace Decimal

/-- The power of ten that the first digit counts. -/
def leading (d : Decimal) : Int := d.exponent + (Nat.toDigits 10 d.digits).length - 1

def scientificText (negative : Bool) (d : Decimal) : NumberText :=
  let exponent := some (decide (d.leading < 0), Nat.toDigits 10 d.leading.natAbs)
  match Nat.toDigits 10 d.digits with
  | first :: second :: rest => ⟨negative, [first], some (second :: rest), exponent⟩
  | digits => ⟨negative, digits, none, exponent⟩

def positionalText (negative : Bool) (d : Decimal) : NumberText :=
  let digits := Nat.toDigits 10 d.digits
  let places := (-d.exponent).toNat
  if places < digits.length then
    ⟨negative, digits.take (digits.length - places), some (digits.drop (digits.length - places)),
      none⟩
  else ⟨negative, ['0'], some (List.replicate (places - digits.length) '0' ++ digits), none⟩

/-- The parts of the text of a positive number in JSON. -/
def numberText (negative : Bool) (d : Decimal) : NumberText :=
  if 0 ≤ d.exponent ∧ d.leading < 16 then
    ⟨negative, Nat.toDigits 10 d.digits ++ List.replicate d.exponent.toNat '0', some ['0'], none⟩
  else if -6 < d.leading ∧ d.leading < 16 then d.positionalText negative
  else d.scientificText negative

def signChars (negative : Bool) : List Char := if negative then ['-'] else []

theorem toChars_scientificText (negative : Bool) (d : Decimal) :
    (d.scientificText negative).toChars = signChars negative ++ d.scientific := by
  have hexponent : (if d.leading < 0 then '-' else '+') =
      if decide (d.leading < 0) = true then '-' else '+' := by simp only [decide_eq_true_eq]
  unfold scientificText scientific
  dsimp only
  cases hdigits : Nat.toDigits 10 d.digits with
  | nil => exact absurd hdigits Nat.toDigits_ne_nil
  | cons first rest =>
    have hleading : d.leading = d.exponent + (first :: rest).length - 1 := by
      rw [leading, hdigits]
    rw [← hleading]
    unfold exponentText
    rw [hexponent]
    cases rest with
    | nil => rfl
    | cons second rest =>
      simp [NumberText.toChars, NumberText.fractionChars, NumberText.exponentChars, signChars]

theorem toChars_positionalText (negative : Bool) {d : Decimal} (h : d.exponent < 0) :
    (d.positionalText negative).toChars = signChars negative ++ d.positional := by
  unfold positionalText positional
  dsimp only
  rw [if_neg (show ¬ 0 ≤ d.exponent by omega)]
  by_cases hlt : (-d.exponent).toNat < (Nat.toDigits 10 d.digits).length
  · rw [if_pos hlt, if_pos hlt]
    simp [NumberText.toChars, NumberText.fractionChars, NumberText.exponentChars, signChars]
  · rw [if_neg hlt, if_neg hlt]
    simp [NumberText.toChars, NumberText.fractionChars, NumberText.exponentChars, signChars]

theorem toChars_numberText (negative : Bool) (d : Decimal) :
    (d.numberText negative).toChars = signChars negative ++ d.json := by
  have hpoint : d.exponent + (Nat.toDigits 10 d.digits).length = d.leading + 1 := by
    unfold leading
    omega
  have hwholeIff : 0 ≤ d.exponent ∧ d.leading + 1 ≤ 16 ↔ 0 ≤ d.exponent ∧ d.leading < 16 := by
    omega
  have hnearIff : -5 < d.leading + 1 ∧ d.leading + 1 ≤ 16 ↔ -6 < d.leading ∧ d.leading < 16 := by
    omega
  unfold numberText json
  dsimp only
  simp only [hpoint, hwholeIff, hnearIff]
  by_cases hwhole : 0 ≤ d.exponent ∧ d.leading < 16
  · rw [if_pos hwhole, if_pos hwhole, positional]
    dsimp only
    rw [if_pos hwhole.1]
    simp [NumberText.toChars, NumberText.fractionChars, NumberText.exponentChars, signChars]
  · rw [if_neg hwhole, if_neg hwhole]
    by_cases hnear : -6 < d.leading ∧ d.leading < 16
    · rw [if_pos hnear, if_pos hnear]
      exact toChars_positionalText negative (by omega)
    · rw [if_neg hnear, if_neg hnear]
      exact toChars_scientificText negative d

section WellFormed

variable {d : Decimal} (h : 0 < d.digits) (negative : Bool)
include h

theorem wellFormed_scientificText : (d.scientificText negative).WellFormed := by
  have hdigits := isDigits_toDigits d.digits
  have hexponent : ∀ s digits, some (decide (d.leading < 0), Nat.toDigits 10 d.leading.natAbs) =
      some (s, digits) → IsDigits digits := by
    rintro s digits ⟨⟩
    exact isDigits_toDigits _
  have hhead := head?_toDigits_ne h
  unfold scientificText
  dsimp only
  split
  · rename_i first second rest heq
    rw [heq] at hdigits hhead
    refine ⟨⟨by simp, ?_⟩, fun hzero => absurd hzero hhead, ?_, hexponent⟩
    · simpa using hdigits.2 first List.mem_cons_self
    · rintro digits ⟨⟩
      exact ⟨by simp, fun c hc => hdigits.2 c (List.mem_cons_of_mem _ hc)⟩
  · exact ⟨hdigits, fun hzero => absurd hzero hhead, nofun, hexponent⟩

theorem wellFormed_positionalText (hexponent : d.exponent < 0) :
    (d.positionalText negative).WellFormed := by
  have hdigits := isDigits_toDigits d.digits
  have hhead := head?_toDigits_ne h
  unfold positionalText
  dsimp only
  split
  · rename_i hlt
    generalize Nat.toDigits 10 d.digits = digits at *
    refine ⟨⟨?_, fun c hc => hdigits.2 c (List.mem_of_mem_take hc)⟩, fun hzero => ?_, ?_, nofun⟩
    · rw [← List.length_pos_iff, List.length_take]
      omega
    · rw [List.head?_take, if_neg (by omega)] at hzero
      exact absurd hzero hhead
    · rintro fraction ⟨⟩
      refine ⟨?_, fun c hc => hdigits.2 c (List.mem_of_mem_drop hc)⟩
      rw [← List.length_pos_iff, List.length_drop]
      omega
  · refine ⟨isDigits_zero, fun _ => rfl, ?_, nofun⟩
    rintro fraction ⟨⟩
    refine ⟨by simp [Nat.toDigits_ne_nil], fun c hc => ?_⟩
    rcases List.mem_append.mp hc with hc | hc
    · exact isDigit_of_mem_zeros hc
    · exact hdigits.2 c hc

theorem wellFormed_numberText : (d.numberText negative).WellFormed := by
  unfold numberText
  split
  · have hhead := head?_toDigits_ne h
    refine ⟨isDigits_append (isDigits_toDigits _) fun c hc => isDigit_of_mem_zeros hc,
      fun hzero => ?_, ?_, nofun⟩
    · rw [List.head?_append_of_ne_nil _ Nat.toDigits_ne_nil] at hzero
      exact absurd hzero hhead
    · rintro fraction ⟨⟩
      exact isDigits_zero
  · rename_i hwhole
    split
    · exact wellFormed_positionalText h negative (by omega)
    · exact wellFormed_scientificText h negative

end WellFormed

end Decimal

/-! ### Doubles -/

namespace Double

def numberText? : Double → Option NumberText
  | .finite negative units _ =>
    some (if units = 0 then ⟨negative, ['0'], some ['0'], none⟩
      else (shortest .even units).numberText negative)
  | _ => none

/-- A number is written as its parts. -/
theorem toJsonChars?_eq (d : Double) : d.toJsonChars? = d.numberText?.map NumberText.toChars := by
  cases d with
  | nan => rfl
  | infinite negative => rfl
  | finite negative units fits =>
    unfold toJsonChars? numberText?
    dsimp only
    rw [Option.map_some]
    by_cases hzero : units = 0
    · rw [if_pos hzero, if_pos hzero]
      cases negative <;> rfl
    · rw [if_neg hzero, if_neg hzero, Decimal.toChars_numberText]
      rfl

theorem wellFormed_of_numberText? {d : Double} {text : NumberText} (h : d.numberText? = some text) :
    text.WellFormed := by
  cases d with
  | nan => cases h
  | infinite negative => cases h
  | finite negative units fits =>
    rw [← Option.some.inj h]
    split
    · refine ⟨isDigits_zero, fun _ => rfl, ?_, nofun⟩
      rintro digits ⟨⟩
      exact isDigits_zero
    · rename_i hne
      exact Decimal.wellFormed_numberText
        (shortest_spec .even (Nat.pos_of_ne_zero hne) fits).2.1 negative

end Double

end FieldRules
