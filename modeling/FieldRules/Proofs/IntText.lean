import FieldRules.Builtin.Interval
import FieldRules.Proofs.Padding

/-!
Integers as decimal text. The reader of date bounds takes digits after at most one sign, and all
integers of 64 bits that are written so; leading zeros do not count. No such text has blanks.
-/
namespace FieldRules

namespace Text

theorem not_isBlank_of_isDigit {c : Char} (h : c.isDigit = true) : isBlank c = false := by
  simp only [Char.isDigit, Bool.and_eq_true, decide_eq_true_eq, UInt32.le_iff_toNat_le] at h
  simp only [isBlank, blankRanges, List.any_cons, List.any_nil, ← Char.toNat_val]
  simp at h ⊢
  omega

end Text

/-- The integer that a text writes: ASCII digits, with a sign or without. -/
inductive IntText : List Char → Int → Prop
  | unsigned {digits : List Char} (nonempty : digits ≠ []) (all : ∀ c ∈ digits, c.isDigit = true) :
      IntText digits (Nat.ofDigitChars 10 digits 0)
  | plus {digits : List Char} (nonempty : digits ≠ []) (all : ∀ c ∈ digits, c.isDigit = true) :
      IntText ('+' :: digits) (Nat.ofDigitChars 10 digits 0)
  | minus {digits : List Char} (nonempty : digits ≠ []) (all : ∀ c ∈ digits, c.isDigit = true) :
      IntText ('-' :: digits) (-(Nat.ofDigitChars 10 digits 0 : Int))

theorem IntText.ne_nil {s : List Char} {n : Int} (h : IntText s n) : s ≠ [] := by
  cases h with
  | unsigned nonempty => exact nonempty
  | plus => exact List.cons_ne_nil _ _
  | minus => exact List.cons_ne_nil _ _

theorem IntText.isDigit_or_sign {s : List Char} {n : Int} (h : IntText s n) :
    ∀ c ∈ s, c.isDigit = true ∨ c = '+' ∨ c = '-' := by
  intro c hc
  cases h with
  | unsigned _ all => exact Or.inl (all c hc)
  | plus _ all =>
    rcases List.mem_cons.mp hc with rfl | hc
    · exact Or.inr (Or.inl rfl)
    · exact Or.inl (all c hc)
  | minus _ all =>
    rcases List.mem_cons.mp hc with rfl | hc
    · exact Or.inr (Or.inr rfl)
    · exact Or.inl (all c hc)

theorem IntText.trimChars_eq {s : List Char} {n : Int} (h : IntText s n) :
    Text.trimChars s = s := by
  refine Text.trimChars_of_not_isBlank fun c hc => ?_
  rcases h.isDigit_or_sign c hc with hdigit | rfl | rfl
  · exact Text.not_isBlank_of_isDigit hdigit
  · rfl
  · rfl

namespace Builtin

def boundedInt? (negative : Bool) (digits : List Char) : Option Int :=
  if digits.isEmpty || !digits.all Char.isDigit then none
  else
    let size : Int := Nat.ofDigitChars 10 digits 0
    let n := if negative then -size else size
    if Int64.minValue.toInt ≤ n ∧ n ≤ Int64.maxValue.toInt then some n else none

theorem boundedInt?_eq_some_iff (negative : Bool) (digits : List Char) (n : Int) :
    boundedInt? negative digits = some n ↔
      (digits ≠ [] ∧ ∀ c ∈ digits, c.isDigit = true) ∧
        (n = if negative then -(Nat.ofDigitChars 10 digits 0 : Int)
          else Nat.ofDigitChars 10 digits 0) ∧
        Int64.minValue.toInt ≤ n ∧ n ≤ Int64.maxValue.toInt := by
  have htest : (digits.isEmpty || !digits.all Char.isDigit) = false ↔
      digits ≠ [] ∧ ∀ c ∈ digits, c.isDigit = true := by
    rw [Bool.or_eq_false_iff, Bool.not_eq_false', List.all_eq_true, ← Bool.not_eq_true,
      List.isEmpty_iff]
  rw [← htest]
  unfold boundedInt?
  cases digits.isEmpty || !digits.all Char.isDigit with
  | true => simp
  | false =>
    simp only [Bool.false_eq_true, if_false, true_and, Option.ite_none_right_eq_some,
      Option.some.injEq]
    constructor
    · rintro ⟨hfits, rfl⟩
      exact ⟨rfl, hfits⟩
    · rintro ⟨rfl, hfits⟩
      exact ⟨hfits, rfl⟩

/-- Without a sign in front, digits are read up to the limits of 64 bits. -/
theorem readInt?_unsigned {s : List Char} (hminus : ∀ rest, s ≠ '-' :: rest)
    (hplus : ∀ rest, s ≠ '+' :: rest) : readInt? s = boundedInt? false s := by
  cases s with
  | nil => rfl
  | cons c rest =>
    simp [readInt?, boundedInt?]

/-- Reading accepts the integers of 64 bits and nothing else. -/
theorem readInt?_eq_some_iff (s : List Char) (n : Int) :
    readInt? s = some n ↔
      IntText s n ∧ Int64.minValue.toInt ≤ n ∧ n ≤ Int64.maxValue.toInt := by
  constructor
  · intro h
    by_cases hminus : ∃ rest, s = '-' :: rest
    · obtain ⟨rest, rfl⟩ := hminus
      obtain ⟨⟨hne, hall⟩, rfl, hfits⟩ := (boundedInt?_eq_some_iff true rest n).mp h
      exact ⟨.minus hne hall, hfits⟩
    · by_cases hplus : ∃ rest, s = '+' :: rest
      · obtain ⟨rest, rfl⟩ := hplus
        obtain ⟨⟨hne, hall⟩, rfl, hfits⟩ := (boundedInt?_eq_some_iff false rest n).mp h
        exact ⟨.plus hne hall, hfits⟩
      · rw [not_exists] at hminus hplus
        rw [readInt?_unsigned hminus hplus] at h
        obtain ⟨⟨hne, hall⟩, rfl, hfits⟩ := (boundedInt?_eq_some_iff false s n).mp h
        exact ⟨.unsigned hne hall, hfits⟩
  · rintro ⟨htext, hfits⟩
    cases htext with
    | minus hne hall => exact (boundedInt?_eq_some_iff true _ _).mpr ⟨⟨hne, hall⟩, rfl, hfits⟩
    | plus hne hall => exact (boundedInt?_eq_some_iff false _ _).mpr ⟨⟨hne, hall⟩, rfl, hfits⟩
    | unsigned hne hall =>
      have hsign : ∀ c rest, c.isDigit = false → s ≠ c :: rest := by
        rintro c rest hc rfl
        rw [hall c List.mem_cons_self] at hc
        cases hc
      rw [readInt?_unsigned (fun rest => hsign '-' rest (by decide))
        (fun rest => hsign '+' rest (by decide))]
      exact (boundedInt?_eq_some_iff false s _).mpr ⟨⟨hne, hall⟩, rfl, hfits⟩

end Builtin

end FieldRules
