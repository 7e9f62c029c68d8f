import FieldRules.Proofs.Normalization

/-!
Values that stand for truth values: the truth values themselves, the words for them in any case, and
numbers or numerals that equal one or zero. Neither word is a numeral and one is not zero, so that a
value stands for at most one truth value, and reading finds it. Main statement:
`readBool?_eq_some_iff`.
-/
namespace FieldRules

theorem toLower_of_isDigit {c : Char} (h : c.isDigit = true) : c.toLower = c := by
  have hdigit := (Char.isDigit_iff_toNat.mp h).2
  unfold Char.toLower
  rw [dif_neg]
  rintro ⟨hupper, -⟩
  have hlow : 'A'.toNat ≤ c.toNat := UInt32.le_iff_toNat_le.mp hupper
  exact absurd (hlow.trans hdigit) (by decide)

namespace Double

def ofBool (t : Bool) : Double := if t then .one else .zero

theorem signedUnits_eq_of_eq {a b : Double} (h : a.eq b = true) :
    a.signedUnits = b.signedUnits := by
  cases a with
  | nan => simp [eq] at h
  | infinite s => cases b <;> first | rfl | simp [eq] at h
  | finite s m hm =>
    cases b with
    | nan | infinite => simp [eq] at h
    | finite t n hn => exact beq_iff_eq.mp h

theorem not_eq_one_and_zero (d : Double) : ¬ (d.eq one = true ∧ d.eq zero = true) := by
  rintro ⟨hone, hzero⟩
  have hsame : one.signedUnits = zero.signedUnits :=
    (signedUnits_eq_of_eq hone).symm.trans (signedUnits_eq_of_eq hzero)
  exact absurd hsame (by decide +kernel)

/-- A word of letters that names no special number is no number. -/
theorem ofChars?_of_isWord {t : Bool} {s : List Char}
    (h : isWord (if t then "true" else "false") s = true) : ofChars? s = none := by
  have hmap : s.map Char.toLower = (if t then "true" else "false" : String).toList := by
    simpa [isWord] using h
  cases s with
  | nil => cases t <;> simp at hmap
  | cons c rest =>
    have hc : c.toLower = 't' ∨ c.toLower = 'f' := by
      cases t
      · exact Or.inr (List.cons.inj hmap).1
      · exact Or.inl (List.cons.inj hmap).1
    have hdigit : c.isDigit = false := by
      by_contra hd
      rw [Bool.not_eq_false] at hd
      rw [toLower_of_isDigit hd] at hc
      rcases hc with rfl | rfl <;> simp at hd
    have hminus : c ≠ '-' := by rintro rfl; revert hc; decide
    have hplus : c ≠ '+' := by rintro rfl; revert hc; decide
    have hpoint : c ≠ '.' := by rintro rfl; revert hc; decide
    have hspecial : ∀ word ∈ ["nan", "inf", "infinity"], isWord word (c :: rest) = false := by
      intro word hword
      unfold isWord
      rw [hmap]
      revert word
      cases t <;> decide
    have hsign : ofChars? (c :: rest) = ofUnsigned? false (c :: rest) := by
      simp [ofChars?, hminus, hplus]
    rw [hsign]
    unfold ofUnsigned?
    rw [hspecial "nan" (by simp), hspecial "inf" (by simp), hspecial "infinity" (by simp)]
    simp [digitRun, hdigit, hpoint]

end Double

namespace Value

/-- The truth value that a value stands for. Blanks around a text and its case do not count, and
neither does the sign of zero. -/
inductive StandsFor : Value → Bool → Prop
  | bool (t : Bool) : StandsFor (.bool t) t
  | word {s : String} {t : Bool}
      (spelled : isWord (if t then "true" else "false") (Text.trimChars s.toList) = true) :
      StandsFor (.string s) t
  | numeral {s : String} {n : Double} {t : Bool} (reading : (string s).toNumber? = some n)
      (equal : n.eq (.ofBool t) = true) : StandsFor (.string s) t
  | number {d n : Double} {t : Bool} (reading : (number d).toNumber? = some n)
      (equal : n.eq (.ofBool t) = true) : StandsFor (.number d) t

end Value

namespace Builtin

theorem boolOfNumber?_eq_some_iff (d : Double) (t : Bool) :
    boolOfNumber? d = some t ↔ d.eq (.ofBool t) = true := by
  have hexcl := d.not_eq_one_and_zero
  unfold boolOfNumber?
  cases hone : d.eq .one with
  | true =>
    have hzero : d.eq .zero = false := by
      rw [← Bool.not_eq_true]
      exact fun hzero => hexcl ⟨hone, hzero⟩
    cases t <;> simp [Double.ofBool, hone, hzero]
  | false =>
    cases hzero : d.eq .zero <;> cases t <;> simp [Double.ofBool, hone, hzero]

/-- A text that is one of the two words has no reading as a number. -/
theorem readNumber?_of_isWord {s : String} {t : Bool}
    (h : isWord (if t then "true" else "false") (Text.trimChars s.toList) = true) :
    readNumber? s = none := by
  unfold readNumber?
  rw [Double.ofChars?_of_isWord h]

theorem not_isWord_false_of_true {s : List Char} (h : isWord "true" s = true) :
    isWord "false" s = false := by
  unfold isWord at *
  rw [beq_iff_eq.mp h]
  decide

/-- A text is read as a truth value by its word, or by the number that it writes. -/
theorem readBool?_string (s : String) (t : Bool) :
    readBool? (.string s) = some t ↔
      isWord (if t then "true" else "false") (Text.trimChars s.toList) = true ∨
        ∃ n, readNumber? s = some n ∧ n.eq (.ofBool t) = true := by
  unfold readBool?
  simp only
  by_cases htrue : isWord "true" (Text.trimChars s.toList) = true
  · have hread : readNumber? s = none := readNumber?_of_isWord (t := true) htrue
    have hfalse := not_isWord_false_of_true htrue
    cases t <;> simp [htrue, hread, hfalse]
  · by_cases hfalse : isWord "false" (Text.trimChars s.toList) = true
    · have hread : readNumber? s = none := readNumber?_of_isWord (t := false) hfalse
      cases t <;> simp [htrue, hfalse, hread]
    · have hword : ¬ isWord (if t then "true" else "false") (Text.trimChars s.toList) = true := by
        cases t
        · exact hfalse
        · exact htrue
      rw [if_neg htrue, if_neg hfalse, Option.bind_eq_some_iff]
      simp only [boolOfNumber?_eq_some_iff]
      exact (or_iff_right hword).symm

/-- Reading finds the truth value that a value stands for, and nothing else. -/
theorem readBool?_eq_some_iff (v : Value) (t : Bool) : readBool? v = some t ↔ v.StandsFor t := by
  cases v with
  | bool b =>
    constructor
    · intro h
      cases h
      exact .bool t
    · intro h
      cases h
      rfl
  | string s =>
    rw [readBool?_string]
    constructor
    · rintro (hword | ⟨n, hn, heq⟩)
      · exact .word hword
      · exact .numeral hn heq
    · intro h
      cases h with
      | word spelled => exact Or.inl spelled
      | numeral reading equal => exact Or.inr ⟨_, reading, equal⟩
  | number d =>
    change (Value.number d).toNumber?.bind boolOfNumber? = some t ↔ _
    rw [Option.bind_eq_some_iff]
    constructor
    · rintro ⟨n, hn, heq⟩
      exact .number hn ((boolOfNumber?_eq_some_iff n t).mp heq)
    · intro h
      cases h with
      | number reading equal =>
        exact ⟨_, reading, (boolOfNumber?_eq_some_iff _ t).mpr equal⟩
  | null | array | object | date => exact iff_of_false nofun nofun

theorem truth?_eq_some_iff (record : Record) (field : String) (t : Bool) :
    truth? record field = some t ↔
      ∃ v, record.find? field = some v ∧ v.isEmpty = false ∧ v.StandsFor t := by
  unfold truth? Focus.content? Focus.value?
  rw [Option.bind_eq_some_iff]
  constructor
  · rintro ⟨v, hv, hread⟩
    rw [Option.filter_eq_some_iff] at hv
    exact ⟨v, hv.1, by simpa using hv.2, (readBool?_eq_some_iff v t).mp hread⟩
  · rintro ⟨v, hfind, hcontent, hstands⟩
    refine ⟨v, ?_, (readBool?_eq_some_iff v t).mpr hstands⟩
    rw [Option.filter_eq_some_iff]
    exact ⟨hfind, by simp [hcontent]⟩

end Builtin

end FieldRules
