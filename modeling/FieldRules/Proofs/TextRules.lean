import FieldRules.Builtin.Language
import FieldRules.Proofs.Presence
import FieldRules.Proofs.RuleText

/-!
Rules for the text of a value. Beside strings, numbers and truth values have a text, in which there
are only letters, digits, points and hyphens. So a pattern that needs another character matches no
value but strings. Main statement: `judgeText_eq_pass_iff`.
-/
namespace FieldRules

theorem isAlpha_iff_toNat (c : Char) : c.isAlpha = true ↔
    (0x41 ≤ c.toNat ∧ c.toNat ≤ 0x5A) ∨ (0x61 ≤ c.toNat ∧ c.toNat ≤ 0x7A) := by
  have halpha : c.isAlpha = (c.isUpper || c.isLower) := rfl
  have hupper : c.isUpper = decide ('A'.val ≤ c.val ∧ c.val ≤ 'Z'.val) := rfl
  have hlower : c.isLower = (decide ('a'.val ≤ c.val) && decide (c.val ≤ 'z'.val)) := rfl
  rw [halpha, hupper, hlower]
  simp [UInt32.le_iff_toNat_le, ← Char.toNat_val]

def isNumeralChar (c : Char) : Bool := c.isAlphanum || c == '-' || c == '.'

theorem isNumeralChar_of_isDigit {c : Char} (h : c.isDigit = true) : isNumeralChar c = true := by
  simp [isNumeralChar, Char.isAlphanum, h]

theorem Decimal.isNumeralChar_positional (d : Decimal) :
    ∀ c ∈ d.positional, isNumeralChar c = true := by
  have hdigits : ∀ c ∈ Nat.toDigits 10 d.digits, isNumeralChar c = true := fun c hc =>
    isNumeralChar_of_isDigit (Nat.isDigit_of_mem_toDigits (by decide) (by decide) hc)
  have hzeros : ∀ n, ∀ c ∈ List.replicate n '0', isNumeralChar c = true := by
    intro n c hc
    rw [List.eq_of_mem_replicate hc]
    decide
  intro c hc
  unfold positional at hc
  dsimp only at hc
  split at hc
  · rcases List.mem_append.mp hc with hc | hc
    · exact hdigits c hc
    · exact hzeros _ c hc
  · split at hc
    · rcases List.mem_append.mp hc with hc | hc
      · exact hdigits c (List.mem_of_mem_take hc)
      · rcases List.mem_cons.mp hc with rfl | hc
        · decide
        · exact hdigits c (List.mem_of_mem_drop hc)
    · rw [List.cons_append, List.cons_append, List.mem_cons, List.mem_cons, List.mem_append] at hc
      rcases hc with rfl | rfl | hc | hc
      · decide
      · decide
      · exact hzeros _ c hc
      · exact hdigits c hc

theorem Double.isNumeralChar_toChars (d : Double) : ∀ c ∈ d.toChars, isNumeralChar c = true := by
  cases d with
  | nan => exact List.all_eq_true.mp (by decide)
  | infinite negative => cases negative <;> exact List.all_eq_true.mp (by decide)
  | finite negative units fits =>
    intro c hc
    unfold toChars at hc
    rcases List.mem_append.mp hc with hc | hc
    · cases negative <;> simp at hc
      subst hc
      decide
    · split at hc
      · obtain rfl := List.mem_singleton.mp hc
        decide
      · exact Decimal.isNumeralChar_positional _ c hc

theorem Double.isNumeralChar_ruleText (d : Double) :
    ∀ c ∈ d.ruleText.toList, isNumeralChar c = true := by
  rw [ruleText_eq]
  split
  · exact List.all_eq_true.mp (by decide)
  · unfold toText
    rw [String.toList_ofList]
    exact d.isNumeralChar_toChars

/-- A value that is no string has no other characters in its text. -/
theorem Value.string_or_numeral {v : Value} {text : String} (h : v.toText? = some text) :
    v = .string text ∨ ∀ c ∈ text.toList, isNumeralChar c = true := by
  cases v with
  | string s =>
    obtain rfl := Option.some.inj h
    exact Or.inl rfl
  | number d =>
    obtain rfl := Option.some.inj h
    exact Or.inr d.isNumeralChar_ruleText
  | bool b =>
    obtain rfl := Option.some.inj h
    right
    cases b <;> exact List.all_eq_true.mp (by decide)
  | null | array | object | date => cases h

theorem Focus.content?_eq_some_iff (f : Focus) (v : Value) :
    f.content? = some v ↔ f.value? = some v ∧ f.isEmpty = false := by
  unfold content? isEmpty isEmptyField
  rw [Option.filter_eq_some_iff]
  constructor
  · intro ⟨hv, hcontent⟩
    rw [hv]
    exact ⟨rfl, by simpa using hcontent⟩
  · intro ⟨hv, hcontent⟩
    rw [hv] at hcontent
    exact ⟨hv, by simpa using hcontent⟩

theorem Focus.content?_of_value {f : Focus} {v : Value} (h : f.value? = some v)
    (hcontent : v.isEmpty = false) : f.content? = some v := by
  unfold content?
  rw [h, Option.filter_some, hcontent]
  rfl

namespace Builtin

open Pattern

section JudgeText

variable (p : Pattern Atom) (f : Focus) (message : String)

theorem judgeText_cases :
    judgeText p f message = .pass ∨ judgeText p f message = .fail message := by
  unfold judgeText
  split
  · exact Or.inl rfl
  · split
    · exact Or.inl rfl
    · exact Or.inr rfl

theorem judgeText_eq_pass_iff_matchesText :
    judgeText p f message = .pass ↔ ∀ v, f.content? = some v → matchesText p v = true := by
  unfold judgeText
  cases f.content? with
  | none => simp
  | some v => simp

/-- A pattern that needs a character which is in no numeral accepts strings alone. -/
theorem judgeText_eq_pass_iff {needed : Char} (hneeded : isNumeralChar needed = false)
    (hp : ∀ text, p.occursIn text = true → needed ∈ text) :
    judgeText p f message = .pass ↔
      f.isEmpty = true ∨ ∃ s, f.value? = some (.string s) ∧ p.occursIn s.toList = true := by
  rw [judgeText_eq_pass_iff_matchesText]
  simp only [f.content?_eq_some_iff]
  cases hempty : f.isEmpty with
  | true => simp
  | false =>
    simp only [and_true, Bool.false_eq_true, false_or]
    constructor
    · intro h
      cases hvalue : f.value? with
      | none =>
        rw [Focus.isEmpty, hvalue] at hempty
        cases hempty
      | some v =>
        have hmatches := h v hvalue
        unfold matchesText at hmatches
        obtain ⟨text, htext, hoccurs⟩ := (Option.any_eq_true ..).mp hmatches
        rcases Value.string_or_numeral htext with rfl | hnumeral
        · exact ⟨text, rfl, hoccurs⟩
        · have hchar := hnumeral needed (hp _ hoccurs)
          rw [hneeded] at hchar
          cases hchar
    · intro ⟨s, hs, hoccurs⟩ v hv
      obtain rfl := Option.some.inj (hs.symm.trans hv)
      simpa [matchesText, Value.toText?] using hoccurs

end JudgeText

end Builtin

end FieldRules
