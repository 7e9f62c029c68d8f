import FieldRules.Proofs.IntText
import FieldRules.Proofs.RuleText
import FieldRules.Proofs.TruthValue

/-!
Doubles that are integers. They are compared as the integers are, cutting off a fraction leaves them
alone, and every integer below 2⁵³ in size is one, made from the integer or read from its decimal
text. Zero is one with either sign. Main statements: `IsInt.eq_iff`, `IsInt.lt_iff`, `isInt_ofInt`
and `readNumber?_intText`.
-/
namespace FieldRules

namespace Double

def IsInt (d : Double) (n : ℤ) : Prop := d.isFinite = true ∧ d.signedUnits = n * unitsPerOne

theorem unitsPerOne_posZ : (0 : ℤ) < unitsPerOne := Int.natCast_pos.mpr unitsPerOne_pos

theorem signedUnits_finite (negative : Bool) {units : ℕ} (h : Representable units) :
    (finite negative units h).signedUnits = if negative then -(units : ℤ) else units := rfl

/-- Finite doubles are compared by their units. -/
theorem eq_iff_signedUnits {a b : Double} (ha : a.isFinite = true) (hb : b.isFinite = true) :
    a.eq b = true ↔ a.signedUnits = b.signedUnits := by
  cases a with
  | nan | infinite => cases ha
  | finite s m hm =>
    cases b with
    | nan | infinite => cases hb
    | finite t n hn => exact beq_iff_eq

theorem lt_iff_signedUnits {a b : Double} (ha : a.isFinite = true) (hb : b.isFinite = true) :
    a.lt b = true ↔ a.signedUnits < b.signedUnits := by
  cases a with
  | nan | infinite => cases ha
  | finite s m hm =>
    cases b with
    | nan | infinite => cases hb
    | finite t n hn => exact decide_eq_true_iff

/-- Numbers that are equal have the same text in rules and messages; their signs differ only if both
are zero. -/
theorem ruleText_congr {a b : Double} (h : a.eq b = true) : a.ruleText = b.ruleText := by
  cases a with
  | nan => cases h
  | infinite s =>
    cases b with
    | nan | finite => cases h
    | infinite t => rw [beq_iff_eq.mp h]
  | finite s k hk =>
    cases b with
    | nan | infinite => cases h
    | finite t l hl =>
      have hunits := beq_iff_eq.mp h
      rw [signedUnits_finite, signedUnits_finite] at hunits
      obtain rfl : k = l := by
        split at hunits <;> split at hunits <;> omega
      rcases Nat.eq_zero_or_pos k with rfl | hpos
      · rw [ruleText_zero, ruleText_zero]
      · have hsign (r : Bool) : (if r then -(k : ℤ) else k) < 0 ↔ r = true := by
          cases r with
          | true => simpa using hpos
          | false => simp
        obtain rfl : s = t := by
          rw [Bool.eq_iff_iff, ← hsign s, ← hsign t, hunits]
        rfl

def wholePart (d : Double) : ℤ := d.signedUnits.tdiv unitsPerOne

theorem truncate?_eq {d : Double} (h : d.isFinite = true) : d.truncate? = some d.wholePart := by
  cases d with
  | nan | infinite => cases h
  | finite negative units fits =>
    unfold truncate? wholePart signedUnits
    cases negative with
    | true =>
      simp only [if_true]
      rw [Int.neg_tdiv, Int.ofNat_tdiv]
    | false => exact congrArg some (Int.ofNat_tdiv units unitsPerOne)

namespace IsInt

variable {a b d : Double} {m n : ℤ}

theorem eq_iff (ha : a.IsInt m) (hb : b.IsInt n) : a.eq b = true ↔ m = n := by
  rw [eq_iff_signedUnits ha.1 hb.1, ha.2, hb.2]
  exact Int.mul_eq_mul_right_iff unitsPerOne_posZ.ne'

theorem lt_iff (ha : a.IsInt m) (hb : b.IsInt n) : a.lt b = true ↔ m < n := by
  rw [lt_iff_signedUnits ha.1 hb.1, ha.2, hb.2]
  exact Int.mul_lt_mul_right unitsPerOne_posZ

theorem unique (hm : d.IsInt m) (hn : d.IsInt n) : m = n :=
  Int.eq_of_mul_eq_mul_right unitsPerOne_posZ.ne' (hm.2.symm.trans hn.2)

theorem wholePart_eq (h : d.IsInt n) : d.wholePart = n := by
  unfold wholePart
  rw [h.2]
  exact Int.mul_tdiv_cancel n unitsPerOne_posZ.ne'

/-- The texts that messages show of an integer are the same, as zero shows no sign. -/
theorem ruleText_eq (ha : a.IsInt n) (hb : b.IsInt n) : a.ruleText = b.ruleText :=
  ruleText_congr ((ha.eq_iff hb).mpr rfl)

end IsInt

theorem isInt_finite (negative : Bool) {n : ℕ} (h : n < 2 ^ 53) :
    (finite negative (n * unitsPerOne) (representable_mul_unitsPerOne h)).IsInt
      (if negative then -(n : ℤ) else n) := by
  refine ⟨rfl, ?_⟩
  rw [signedUnits_finite, Nat.cast_mul]
  cases negative with
  | true => rw [if_pos rfl, if_pos rfl, Int.neg_mul]
  | false => rw [if_neg Bool.false_ne_true, if_neg Bool.false_ne_true]

/-- The double of an integer below 2⁵³ in size is that integer. -/
theorem isInt_ofInt {n : ℤ} (h : n.natAbs < 2 ^ 53) : (ofInt n).IsInt n := by
  have hsign : (if decide (n < 0) = true then -(n.natAbs : ℤ) else n.natAbs) = n := by
    simp only [decide_eq_true_eq]
    split <;> omega
  have hint := isInt_finite (decide (n < 0)) h
  rwa [← ofInt_eq h, hsign] at hint

/-! ### Integers as text -/

/-- A text with a digit is no word. -/
theorem isWord_of_mem {word : String} (hword : word.toList.all (!·.isDigit) = true)
    {s : List Char} {c : Char} (hc : c ∈ s) (hdigit : c.isDigit = true) :
    isWord word s = false := by
  rw [← Bool.not_eq_true]
  intro hmatch
  have hlower : c.toLower ∈ word.toList := by
    rw [← beq_iff_eq.mp hmatch]
    exact List.mem_map_of_mem hc
  rw [toLower_of_isDigit hdigit] at hlower
  have hletter := List.all_eq_true.mp hword c hlower
  rw [hdigit] at hletter
  cases hletter

/-- Whole numbers below 2⁵³ are read exactly. -/
theorem ofDecimal_whole (negative : Bool) {n : ℕ} (h : n < 2 ^ 53) :
    ofDecimal negative n 0 =
      .finite negative (n * unitsPerOne) (representable_mul_unitsPerOne h) := by
  have hrep := representable_mul_unitsPerOne h
  rw [← ofUnits_eq negative hrep]
  rcases Nat.eq_zero_or_pos n with rfl | hpos
  · rw [Nat.zero_mul]
    exact if_pos rfl
  · have hlog : n.log2 < 53 := (Nat.log2_lt (by omega)).mpr h
    have hpower : Nat.pow 10 (0 : ℤ).toNat = 1 := rfl
    unfold ofDecimal
    rw [if_neg (by omega), if_neg (by omega), if_neg (by omega), if_pos (Int.le_refl 0), hpower,
      Nat.mul_one]
    exact congrArg (ofUnits negative) (wholeUnits_of_representable hrep)

/-- Digits before the point and after it are read as one number with an exponent. -/
theorem ofUnsigned?_parts (negative : Bool) {n : Json.NumberText} (hwhole : Json.IsDigits n.whole)
    (hfraction : ∀ c ∈ n.fraction.getD [], c.isDigit = true) :
    ofUnsigned? negative (n.whole ++ n.fractionChars) =
      some (ofDecimal negative (Nat.ofDigitChars 10 (n.whole ++ n.fraction.getD []) 0)
        (0 - (n.fraction.getD []).length)) := by
  obtain ⟨c, hc⟩ := List.exists_mem_of_ne_nil n.whole hwhole.1
  have hword {word : String} (hword : word.toList.all (!·.isDigit) = true) :
      isWord word (n.whole ++ n.fractionChars) = false :=
    isWord_of_mem hword (List.mem_append_left _ hc) (hwhole.2 c hc)
  have hhead : ∀ c, n.fractionChars.head? = some c → c.isDigit = false := by
    unfold Json.NumberText.fractionChars
    cases n.fraction with
    | none => exact nofun
    | some digits =>
      rintro _ ⟨⟩
      decide
  have hrun : digitRun (n.whole ++ n.fractionChars) = (n.whole, n.fractionChars) :=
    Json.digitRun_append hwhole.2 hhead
  have hempty : n.whole.isEmpty = false := by simpa using hwhole.1
  unfold ofUnsigned?
  rw [hword (by decide), hword (by decide), hword (by decide), hrun]
  unfold Json.NumberText.fractionChars
  cases hparts : n.fraction with
  | none => simp [hempty, exponentOf?]
  | some digits =>
    rw [hparts] at hfraction
    have hdigits : digitRun digits = (digits, []) :=
      Prod.ext (List.takeWhile_eq_self_iff.mpr hfraction) (List.dropWhile_eq_nil_iff.mpr hfraction)
    simp [hempty, hdigits, exponentOf?]

theorem ofUnsigned?_digits (negative : Bool) {digits : List Char} (h : Json.IsDigits digits) :
    ofUnsigned? negative digits =
      some (ofDecimal negative (Nat.ofDigitChars 10 digits 0) 0) := by
  have hparts := ofUnsigned?_parts negative (n := ⟨negative, digits, none, none⟩) h nofun
  simpa [Json.NumberText.fractionChars] using hparts

/-- A sign and digits are read as the integer that they write. -/
theorem isInt_of_digits (negative : Bool) {digits : List Char} (h : Json.IsDigits digits)
    (hlt : Nat.ofDigitChars 10 digits 0 < 2 ^ 53) :
    ∃ d, ofUnsigned? negative digits = some d ∧
      d.IsInt (if negative then -(Nat.ofDigitChars 10 digits 0 : ℤ)
        else Nat.ofDigitChars 10 digits 0) := by
  rw [ofUnsigned?_digits negative h, ofDecimal_whole negative hlt]
  exact ⟨_, rfl, isInt_finite negative hlt⟩

/-- Integers of less than 2⁵³ are read exactly. -/
theorem ofChars?_intText {s : List Char} {n : ℤ} (h : IntText s n) (hn : n.natAbs < 2 ^ 53) :
    ∃ d, ofChars? s = some d ∧ d.IsInt n := by
  cases h with
  | minus nonempty all => exact isInt_of_digits true ⟨nonempty, all⟩ (by omega)
  | plus nonempty all => exact isInt_of_digits false ⟨nonempty, all⟩ (by omega)
  | unsigned nonempty all =>
    have hunsigned : ofChars? s = ofUnsigned? false s := by
      cases s with
      | nil => rfl
      | cons c rest =>
        have hdigit := all c List.mem_cons_self
        have hminus : c ≠ '-' := by rintro rfl; cases hdigit
        have hplus : c ≠ '+' := by rintro rfl; cases hdigit
        simp [ofChars?, hminus, hplus]
    rw [hunsigned]
    exact isInt_of_digits false ⟨nonempty, all⟩ (by omega)

end Double

/-- The decimal text of an integer below 2⁵³ in size is read as that integer. -/
theorem readNumber?_intText {s : String} {n : ℤ} (h : IntText s.toList n)
    (hn : n.natAbs < 2 ^ 53) : ∃ d, readNumber? s = some d ∧ d.IsInt n := by
  obtain ⟨d, hread, hint⟩ := Double.ofChars?_intText h hn
  refine ⟨d, ?_, hint⟩
  unfold readNumber?
  rw [h.trimChars_eq, hread]
  exact if_pos hint.1

end FieldRules
