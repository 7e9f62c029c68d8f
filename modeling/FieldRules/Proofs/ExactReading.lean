import FieldRules.Proofs.StrictEquality
import FieldRules.Proofs.TextRules
import FieldRules.Proofs.WholeNumber

/-!
The text of a number is read back exactly. It is positional and its digits are those of the shortest
decimal, which lies in the basin of the number; reading rounds to the nearest double, so it finds
the number again. Rules and messages see this text, only that zero has no sign there: numbers that
differ are therefore told apart by their texts, and a number is loosely equal to its text. Main
statements: `Double.ofChars?_toChars` and `number_text_faithful`.
-/
namespace FieldRules

open Json (NumberText)

/-! ### Positional notation -/

namespace Decimal

/-- The decimal as positional notation has it: a whole number has no exponent left. -/
def spelled (d : Decimal) : Decimal :=
  if 0 ≤ d.exponent then ⟨d.digits * 10 ^ d.exponent.toNat, 0⟩ else d

def spelledText (negative : Bool) (d : Decimal) : NumberText :=
  if 0 ≤ d.exponent then ⟨negative, Nat.toDigits 10 (d.digits * 10 ^ d.exponent.toNat), none, none⟩
  else d.positionalText negative

section Spelled

variable (negative : Bool) (d : Decimal)

theorem decimal_spelledText : (d.spelledText negative).decimal = d.spelled := by
  unfold spelledText spelled
  split
  · simp [NumberText.decimal, NumberText.exponentValue]
  · exact decimal_positionalText negative (by omega)

theorem negative_spelledText : (d.spelledText negative).negative = negative := by
  unfold spelledText positionalText
  dsimp only
  split
  · rfl
  · split <;> rfl

theorem exponent_spelledText : (d.spelledText negative).exponent = none := by
  unfold spelledText positionalText
  dsimp only
  split
  · rfl
  · split <;> rfl

variable {d} (h : 0 < d.digits)
include h

theorem toChars_spelledText :
    (d.spelledText negative).toChars = signChars negative ++ d.positional := by
  unfold spelledText
  split
  · rename_i hexponent
    rw [positional_of_nonneg hexponent h]
    simp [NumberText.toChars, NumberText.fractionChars, NumberText.exponentChars, signChars]
  · exact toChars_positionalText negative (by omega)

theorem wellFormed_spelledText : (d.spelledText negative).WellFormed := by
  unfold spelledText
  split
  · have hpos : 0 < d.digits * 10 ^ d.exponent.toNat := Nat.mul_pos h (Nat.pow_pos (by decide))
    have hhead := head?_toDigits_ne hpos
    exact ⟨isDigits_toDigits _, fun hzero => absurd hzero hhead, nofun, nofun⟩
  · exact wellFormed_positionalText h negative (by omega)

end Spelled

end Decimal

/-- Zeros behind a decimal do not move it out of its basin. -/
theorem Basin.holds_spelled {b : Basin} {d : Decimal} (h : b.Holds d) : b.Holds d.spelled := by
  unfold Decimal.spelled
  split
  · have hzero : (-d.exponent).toNat = 0 := by omega
    have hscale : Nat.pow 10 (-(0 : ℤ)).toNat = Nat.pow 10 0 := rfl
    have hone : Nat.pow 10 (0 : ℤ).toNat = 1 := rfl
    have hpoint (u power : ℕ) : d.digits * power * (4 * u * 1) = d.digits * (4 * u * power) := by
      ring
    unfold Holds at h ⊢
    dsimp only
    rw [hscale, hone, hpoint]
    rwa [hzero] at h
  · exact h

namespace Double

/-! ### Reading -/

/-- A text in positional notation is read as the double nearest to what it writes. -/
theorem ofChars?_numberText {n : NumberText} (h : n.WellFormed) (hexponent : n.exponent = none) :
    ofChars? n.toChars = some (ofDecimal n.negative n.decimal.digits n.decimal.exponent) := by
  have hfraction : ∀ c ∈ n.fraction.getD [], c.isDigit = true := by
    cases hparts : n.fraction with
    | none => exact nofun
    | some digits => exact (h.fraction digits hparts).2
  have hread := ofUnsigned?_parts n.negative h.whole hfraction
  have hvalue : n.exponentValue = 0 := by
    unfold NumberText.exponentValue
    rw [hexponent]
  have hchars : n.toChars = Decimal.signChars n.negative ++ (n.whole ++ n.fractionChars) := by
    unfold NumberText.toChars NumberText.exponentChars
    rw [hexponent, List.append_nil]
    rfl
  unfold NumberText.decimal
  rw [hchars, hvalue, ← hread]
  cases n.negative with
  | true => rfl
  | false =>
    obtain ⟨c, whole, hwhole⟩ := List.exists_cons_of_ne_nil h.whole.1
    have hdigit : c.isDigit = true := h.whole.2 c (hwhole ▸ List.mem_cons_self)
    have hminus : c ≠ '-' := by rintro rfl; cases hdigit
    have hplus : c ≠ '+' := by rintro rfl; cases hdigit
    rw [hwhole]
    simp [Decimal.signChars, ofChars?, hminus, hplus]

/-- A decimal in the basin of a double is read as this double, unless it is so large or so small
that its size alone decides. -/
theorem ofDecimal_of_holds (negative : Bool) {units : ℕ} (hpos : 0 < units)
    (h : Representable units) {d : Decimal} (hholds : (Basin.ofUnits units).Holds d)
    (hhigh : d.digits.log2 * 3 / 10 + d.exponent ≤ 400)
    (hlow : -400 ≤ d.digits.log2 * 31 / 100 + 1 + d.exponent) :
    ofDecimal negative d.digits d.exponent = .finite negative units h := by
  have hdigits := Basin.digits_pos_of_holds hpos hholds
  have hscale : 0 < Nat.pow 10 (-d.exponent).toNat := Nat.pow_pos (by decide)
  have hround := roundUnits_of_contains hpos h hscale hholds
  rw [roundUnits_quarters] at hround
  unfold ofDecimal
  rw [if_neg (Nat.pos_iff_ne_zero.mp hdigits), if_neg (not_lt.mpr hhigh), if_neg (not_lt.mpr hlow),
    ← ofUnits_eq negative h]
  have hpower : Nat.pow 10 0 = 1 := rfl
  unfold ofRatio
  split
  · have hzero : (-d.exponent).toNat = 0 := by omega
    rw [hzero, hpower, Nat.mul_right_comm] at hround
    rw [hround]
  · have hzero : d.exponent.toNat = 0 := by omega
    rw [hzero, hpower, Nat.mul_one] at hround
    rw [hround]

section Shortest

variable (tie : Tie) {units : ℕ} (hpos : 0 < units) (h : Representable units)
include hpos h

/-- A whole number is less than twice the double in whose basin it lies. -/
theorem log2_digits_lt {d : Decimal} (hholds : (Basin.ofUnits units).Holds d)
    (hexponent : d.exponent = 0) : d.digits.log2 < 1026 := by
  have hdigits := Basin.digits_pos_of_holds hpos hholds
  have hlog : units.log2 < 2098 := h.1
  have hwide : 6 * 2 ^ 2098 ≤ 2 ^ 1026 * (4 * unitsPerOne) := by decide +kernel
  generalize 2098 = top at hlog hwide
  generalize 1026 = bits at hwide ⊢
  have hunits : units < 2 ^ top := (Nat.log2_lt (Nat.pos_iff_ne_zero.mp hpos)).mp hlog
  have hscale : Nat.pow 10 (-(0 : ℤ)).toNat = 1 := rfl
  have hpower : Nat.pow 10 (0 : ℤ).toNat = 1 := rfl
  rw [Nat.log2_lt (Nat.pos_iff_ne_zero.mp hdigits)]
  refine Basin.digits_lt_of_holds hpos hholds (Int.le_of_eq hexponent.symm) ?_
  rw [hscale, hpower, Nat.mul_one, Nat.mul_one]
  exact (Nat.mul_lt_mul_of_pos_left hunits (by decide)).trans_le hwide

/-- Rounding the shortest decimal of a double gives the double back, for either kind of tie. -/
theorem ofDecimal_spelled_shortest (negative : Bool) :
    ofDecimal negative (shortest tie units).spelled.digits (shortest tie units).spelled.exponent =
      .finite negative units h := by
  obtain ⟨hholds, hdigits, hfits⟩ := shortest_spec tie hpos h
  have hfinest := finestExponent_le_exponent tie hpos h
  have hspelled := Basin.holds_spelled hholds
  generalize shortest tie units = d at *
  apply ofDecimal_of_holds negative hpos h hspelled
  all_goals
    by_cases hexponent : 0 ≤ d.exponent
    · have hzero : d.spelled.exponent = 0 := by
        unfold Decimal.spelled
        rw [if_pos hexponent]
      have hlog := log2_digits_lt hpos h hspelled hzero
      omega
    · have hsame : d.spelled = d := if_neg hexponent
      have hlog : d.digits.log2 < 64 := (Nat.log2_lt (Nat.pos_iff_ne_zero.mp hdigits)).mpr hfits
      unfold finestExponent at hfinest
      rw [hsame]
      omega

theorem ofChars?_positional (negative : Bool) :
    ofChars? (Decimal.signChars negative ++ (shortest tie units).positional) =
      some (.finite negative units h) := by
  have hdigits := (shortest_spec tie hpos h).2.1
  rw [← Decimal.toChars_spelledText negative hdigits,
    ofChars?_numberText (Decimal.wellFormed_spelledText negative hdigits)
      (Decimal.exponent_spelledText negative _),
    Decimal.decimal_spelledText, Decimal.negative_spelledText,
    ofDecimal_spelled_shortest tie hpos h negative]

end Shortest

/-- Every number is read back from its text, the sign of zero included. -/
theorem ofChars?_toChars (d : Double) : ofChars? d.toChars = some d := by
  cases d with
  | nan => rfl
  | infinite negative => cases negative <;> rfl
  | finite negative units fits =>
    unfold toChars
    dsimp only
    rcases Nat.eq_zero_or_pos units with rfl | hpos
    · cases negative <;> rfl
    · rw [if_neg (Nat.pos_iff_ne_zero.mp hpos)]
      exact ofChars?_positional .up hpos fits negative

/-- Written as an integer, a number is the integer it is cast to, and the cast is far from its
limits. -/
theorem isInt_toInt64 {d : Double} (h : d.IsShortWhole) :
    d.IsInt d.toInt64 ∧ d.toInt64.natAbs < 10 ^ 15 := by
  obtain ⟨negative, n, hrep, hn, rfl⟩ := h.exists_finite
  have hint := isInt_finite negative (n := n) (hn.trans (by decide))
  rw [toInt64_of_short negative hn hrep]
  refine ⟨hint, ?_⟩
  cases negative <;> simpa using hn

/-- Of the two zeros only the negative one has another text than rules see. -/
theorem ruleText_eq_toText (d : Double) :
    d.ruleText = if d = zero.negate then "0" else d.toText := by
  have hzeros : d.eq zero = true → d = zero ∨ d = zero.negate := by
    intro h
    cases d with
    | nan | infinite => cases h
    | finite negative units fits =>
      obtain rfl := (finite_eq_zero_iff negative fits).mp h
      cases negative
      · exact Or.inl rfl
      · exact Or.inr rfl
  rw [ruleText_eq]
  by_cases hnegative : d = zero.negate
  · subst hnegative
    rfl
  · rw [if_neg hnegative]
    split
    · rename_i hzero
      rw [(hzeros hzero).resolve_right hnegative]
      rfl
    · rfl

end Double

theorem not_isBlank_of_isNumeralChar {c : Char} (h : isNumeralChar c = true) :
    Text.isBlank c = false := by
  have hranges : ((0x41 ≤ c.toNat ∧ c.toNat ≤ 0x5A) ∨ (0x61 ≤ c.toNat ∧ c.toNat ≤ 0x7A) ∨
      0x30 ≤ c.toNat ∧ c.toNat ≤ 0x39) ∨ c.toNat = 0x2D ∨ c.toNat = 0x2E := by
    unfold isNumeralChar Char.isAlphanum at h
    simp only [Bool.or_eq_true, isAlpha_iff_toNat, Char.isDigit_iff_toNat, beq_iff_eq,
      ← Char.toNat_inj, or_assoc] at h ⊢
    exact h
  simp only [Text.isBlank, Text.blankRanges, List.any_cons, List.any_nil]
  simp
  omega

/-- What rules see of a finite number is read as this number again; only zero loses its sign. -/
theorem readNumber?_ruleText {d : Double} (h : d.isFinite = true) :
    ∃ m, readNumber? d.ruleText = some m ∧ m.eq d = true := by
  have htrim : Text.trimChars d.ruleText.toList = d.ruleText.toList :=
    Text.trimChars_of_not_isBlank fun c hc =>
      not_isBlank_of_isNumeralChar (d.isNumeralChar_ruleText c hc)
  unfold readNumber?
  rw [htrim]
  cases hzero : d.eq .zero with
  | true =>
    have hread : Double.ofChars? ("0" : String).toList = some .zero := rfl
    rw [Double.ruleText_eq, hzero, if_pos rfl, hread]
    exact ⟨.zero, rfl, by rw [Double.eq_comm, hzero]⟩
  | false =>
    have hread := d.ofChars?_toChars
    rw [Double.ruleText_of_ne_zero hzero, Double.toText, String.toList_ofList, hread]
    exact ⟨d, if_pos h, Double.eq_self h⟩

theorem Double.eq_trans {a b c : Double} (hab : a.eq b = true) (hbc : b.eq c = true)
    (hb : b.isFinite = true) : a.eq c = true := by
  have ha := isFinite_of_eq hb (Double.eq_comm a b ▸ hab)
  have hc := isFinite_of_eq hb hbc
  rw [eq_iff_signedUnits ha hb] at hab
  rw [eq_iff_signedUnits hb hc] at hbc
  rw [eq_iff_signedUnits ha hc]
  exact hab.trans hbc

/-- Finite numbers have the same text exactly if they are equal. -/
theorem ruleText_eq_ruleText_iff {a b : Double} (ha : a.isFinite = true) (hb : b.isFinite = true) :
    a.ruleText = b.ruleText ↔ a.eq b = true := by
  refine ⟨fun htext => ?_, Double.ruleText_congr⟩
  obtain ⟨m, hm, hma⟩ := readNumber?_ruleText ha
  obtain ⟨n, hn, hnb⟩ := readNumber?_ruleText hb
  rw [htext, hn] at hm
  obtain rfl := Option.some.inj hm
  rw [Double.eq_comm] at hma
  exact Double.eq_trans hma hnb (Double.isFinite_of_eq ha hma)

/-- A number is loosely equal to its text. -/
theorem looseEq_ruleText {d : Double} (h : d.isFinite = true) :
    (Value.number d).looseEq (.string d.ruleText) = true := by
  obtain ⟨m, hread, heq⟩ := readNumber?_ruleText h
  have hstring : (Value.string d.ruleText).toNumber? = some m := hread
  change (Value.number d).numbersEq (.string d.ruleText) = true
  unfold Value.numbersEq
  rw [Value.toNumber?_number h, hstring]
  dsimp only
  rw [Double.eq_comm, heq]

/-- What rules and messages see of a number is its own text, but for the sign of negative zero. The
numbers that are written as integers are below the limits of 64 bits and written as the integers
they are. Every finite number is read back from its text, so that numbers have the same text only if
they are equal, and a number is loosely equal to its text. -/
theorem number_text_faithful :
    (∀ d : Double, d.ruleText = if d = Double.zero.negate then "0" else d.toText) ∧
    (∀ d : Double, d.IsShortWhole → d.ruleText = d.toInt64.repr ∧ d.IsInt d.toInt64 ∧
      Int64.minValue.toInt < d.toInt64 ∧ d.toInt64 < Int64.maxValue.toInt) ∧
    (∀ d : Double, d.isFinite = true →
      ∃ m, readNumber? d.ruleText = some m ∧ m.eq d = true) ∧
    (∀ a b : Double, a.isFinite = true → b.isFinite = true →
      (a.ruleText = b.ruleText ↔ a.eq b = true)) ∧
    (∀ d : Double, d.isFinite = true → ∃ text, (Value.number d).toText? = some text ∧
      (Value.number d).looseEq (.string text) = true) := by
  refine ⟨Double.ruleText_eq_toText, ?_, fun d => readNumber?_ruleText,
    fun a b => ruleText_eq_ruleText_iff, fun d hd => ⟨d.ruleText, rfl, looseEq_ruleText hd⟩⟩
  intro d hd
  obtain ⟨hint, hsize⟩ := Double.isInt_toInt64 hd
  have hmin : Int64.minValue.toInt = -2 ^ 63 := rfl
  have hmax : Int64.maxValue.toInt = 2 ^ 63 - 1 := rfl
  refine ⟨Double.ruleText_of_short hd, hint, ?_, ?_⟩
  · omega
  · omega

/-- Minus seven is written as an integer. The least positive number has more than three hundred
zeros behind the point, and is read back from them. -/
theorem number_text_faithful_of_both :
    (Double.ofInt (-7)).IsShortWhole ∧
      (Double.ofInt (-7)).ruleText = (Double.ofInt (-7)).toInt64.repr ∧
      (Double.finite false 1 (by decide)).isFinite = true ∧
      ∃ m, readNumber? (Double.finite false 1 (by decide)).ruleText = some m ∧
        m.eq (.finite false 1 (by decide)) = true := by
  have hshort : (Double.ofInt (-7)).IsShortWhole := ⟨by decide +kernel, by decide +kernel⟩
  exact ⟨hshort, (number_text_faithful.2.1 _ hshort).1, rfl, number_text_faithful.2.2.1 _ rfl⟩

end FieldRules
