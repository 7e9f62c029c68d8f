import FieldRules.Proofs.LooseEquality
import FieldRules.Proofs.TextRules

/-!
Rules that compare a field with another one. Of the field itself they ask that it has content, of
the other one only that the record has it. An empty other field makes no difference to the rule
`different`, since nothing with content is equal to it; for the same reason the rule `sameAs` always
finds fault then. The field and the other one may change places. Main statements:
`comparison_faults` and `comparison_symmetric`.
-/
namespace FieldRules

theorem Focus.exists_content {f : Focus} (h : f.isEmpty = false) : ∃ v, f.content? = some v := by
  rw [← Option.ne_none_iff_exists', ne_eq, f.content?_eq_none_iff, h]
  decide

def Passes (record : Record) (field token : String) : Prop :=
  Catalogue.builtins.judge? ⟨record, field⟩ token = some (.ok .pass)

theorem Passes.not_findsFault {record : Record} {field token : String}
    (h : Passes record field token) : ¬ FindsFault record field token := by
  intro ⟨message, hfault⟩
  cases h.symm.trans hfault

namespace Builtin

def comparisons : List Builtin := [sameAs, different]

/-- A field is compared if it has content and the other one is a key of the record, be its value
empty or not. -/
theorem comparison?_eq_some_iff (f : Focus) (other : String) (equal : Bool) :
    comparison? f other = some equal ↔ ∃ v w,
      f.content? = some v ∧ f.record.find? other = some w ∧ v.looseEq w = equal := by
  unfold comparison?
  cases f.content? with
  | none => simp
  | some v => cases f.record.find? other <;> simp

/-- The two rules ask for opposite answers of one comparison. -/
theorem judge?_comparison {b : Builtin} (hb : b ∈ comparisons) (f : Focus) {other : String}
    (hother : other ≠ "") : ∃ message,
      Catalogue.builtins.judge? f (b.name ++ ":" ++ other) =
        some (.ok (if comparison? f other = some (decide (b = different)) then .fail message
          else .pass)) := by
  have hargument : argument? [other] 0 = some other :=
    (argument?_eq_some_iff [other] 0 other).mpr ⟨rfl, hother⟩
  rcases List.mem_pair.mp hb with rfl | rfl
  · refine ⟨s!"Field `{f.field}` must match field {other}.", ?_⟩
    rw [judge?_of_name rfl (by decide)]
    simp only [validator, checkSameAs, hargument]
    rfl
  · refine ⟨s!"Field `{f.field}` must not match field {other}.", ?_⟩
    rw [judge?_of_name rfl (by decide)]
    simp only [validator, checkDifferent, hargument]
    rfl

/-- Without a name there is no comparison. -/
theorem judge?_comparison_of_empty {b : Builtin} (hb : b ∈ comparisons) (f : Focus) :
    Catalogue.builtins.judge? f (b.name ++ ":") =
      some (.error (.missingArgument b.name "fieldname")) := by
  rw [← String.append_empty (s := b.name ++ ":")]
  rcases List.mem_pair.mp hb with rfl | rfl
  · exact judge?_of_name rfl (by decide) f ""
  · exact judge?_of_name rfl (by decide) f ""

end Builtin

open Builtin

section Comparison

variable {record : Record} {field other : String} {b : Builtin}

/-- The two comparisons differ only in the outcome that they find fault with. -/
theorem findsFault_comparison_iff (hb : b ∈ comparisons) (hother : other ≠ "") :
    FindsFault record field (b.name ++ ":" ++ other) ↔
      comparison? ⟨record, field⟩ other = some (decide (b = different)) := by
  obtain ⟨message, hjudge⟩ := judge?_comparison hb ⟨record, field⟩ hother
  unfold FindsFault
  rw [hjudge]
  by_cases hfault : comparison? ⟨record, field⟩ other = some (decide (b = different))
  · rw [if_pos hfault]
    exact iff_of_true ⟨message, rfl⟩ hfault
  · rw [if_neg hfault]
    exact iff_of_false (fun ⟨_, heq⟩ => nomatch heq) hfault

theorem passes_comparison_iff (hb : b ∈ comparisons) (hother : other ≠ "") :
    Passes record field (b.name ++ ":" ++ other) ↔
      ¬ FindsFault record field (b.name ++ ":" ++ other) := by
  constructor
  · exact Passes.not_findsFault
  · intro hfault
    rw [findsFault_comparison_iff hb hother] at hfault
    obtain ⟨message, hjudge⟩ := judge?_comparison hb ⟨record, field⟩ hother
    rw [if_neg hfault] at hjudge
    exact hjudge

theorem findsFault_sameAs_iff (hother : other ≠ "") :
    FindsFault record field ("sameAs:" ++ other) ↔
      comparison? ⟨record, field⟩ other = some false :=
  findsFault_comparison_iff (b := sameAs) (by decide) hother

theorem findsFault_different_iff (hother : other ≠ "") :
    FindsFault record field ("different:" ++ other) ↔
      comparison? ⟨record, field⟩ other = some true :=
  findsFault_comparison_iff (b := different) (by decide) hother

theorem passes_sameAs_iff (hother : other ≠ "") :
    Passes record field ("sameAs:" ++ other) ↔ comparison? ⟨record, field⟩ other ≠ some false :=
  (passes_comparison_iff (b := sameAs) (by decide) hother).trans
    (not_congr (findsFault_sameAs_iff hother))

theorem passes_different_iff (hother : other ≠ "") :
    Passes record field ("different:" ++ other) ↔ comparison? ⟨record, field⟩ other ≠ some true :=
  (passes_comparison_iff (b := different) (by decide) hother).trans
    (not_congr (findsFault_different_iff hother))

theorem comparison?_of_missing (h : (Focus.mk record field).isEmpty = true ∨
    record.contains other = false) : comparison? ⟨record, field⟩ other = none := by
  rcases h with h | h
  · exact comparison?_of_none ((Focus.content?_eq_none_iff _).mpr h) other
  · unfold Dict.contains at h
    unfold comparison?
    rw [Option.isSome_eq_false_iff, Option.isNone_iff_eq_none] at h
    rw [h]
    cases (Focus.mk record field).content? <;> rfl

/-- Against an empty value the comparison of a value with content comes out unequal. -/
theorem comparison?_of_isEmpty (hfield : (Focus.mk record field).isEmpty = false)
    (hcontains : record.contains other = true) (hother : (Focus.mk record other).isEmpty = true) :
    comparison? ⟨record, field⟩ other = some false := by
  obtain ⟨v, hv⟩ := Focus.exists_content hfield
  obtain ⟨w, hw⟩ := Option.isSome_iff_exists.mp hcontains
  have hcontent := (Option.filter_eq_some_iff.mp hv).2
  have hempty : w.isEmpty = true := by
    unfold Focus.isEmpty Focus.value? at hother
    rw [hw] at hother
    exact hother
  rw [comparison?_eq_some_iff]
  exact ⟨v, w, hv, hw, Value.looseEq_of_isEmpty (by simpa using hcontent) hempty⟩

/-- Between two fields with content the comparison has an answer. -/
theorem comparison?_of_content (hfield : (Focus.mk record field).isEmpty = false)
    (hother : (Focus.mk record other).isEmpty = false) :
    ∃ v w, (Focus.mk record field).content? = some v ∧
      (Focus.mk record other).content? = some w ∧
      comparison? ⟨record, field⟩ other = some (v.looseEq w) := by
  obtain ⟨v, hv⟩ := Focus.exists_content hfield
  obtain ⟨w, hw⟩ := Focus.exists_content hother
  have hfind := ((Focus.content?_eq_some_iff _ w).mp hw).1
  exact ⟨v, w, hv, hw, (comparison?_eq_some_iff _ other _).mpr ⟨v, w, hv, hfind, rfl⟩⟩

/-- Equal values are both empty or both not. -/
theorem comparison?_eq_some_true_iff : comparison? ⟨record, field⟩ other = some true ↔
    ∃ v w, (Focus.mk record field).content? = some v ∧
      (Focus.mk record other).content? = some w ∧ v.looseEq w = true := by
  rw [comparison?_eq_some_iff]
  constructor
  · intro ⟨v, w, hv, hw, hequal⟩
    have hcontent : (Focus.mk record other).isEmpty = false := by
      rw [← Bool.not_eq_true]
      intro hempty
      have hunequal := comparison?_of_isEmpty (((Focus.content?_eq_some_iff _ v).mp hv).2)
        (Option.isSome_iff_exists.mpr ⟨w, hw⟩) hempty
      have hanswer := (comparison?_eq_some_iff _ other true).mpr ⟨v, w, hv, hw, hequal⟩
      cases hunequal.symm.trans hanswer
    exact ⟨v, w, hv, (Focus.content?_eq_some_iff _ w).mpr ⟨hw, hcontent⟩, hequal⟩
  · intro ⟨v, w, hv, hw, hequal⟩
    exact ⟨v, w, hv, ((Focus.content?_eq_some_iff _ w).mp hw).1, hequal⟩

end Comparison

/-- With the name of another field, `sameAs` finds fault with a field that has content if the record
has the other field and the two values are not equal, `different` if they are equal and the other
field has content as well. So of two fields with content exactly one of the rules finds fault, and
without content or without the other field neither does; but an empty other field that the record
has is compared, and `sameAs` finds fault with it. -/
theorem comparison_faults {record : Record} {field other : String} (hother : other ≠ "") :
    (FindsFault record field ("sameAs:" ++ other) ↔
      ∃ v w, (Focus.mk record field).content? = some v ∧ record.find? other = some w ∧
        v.looseEq w = false) ∧
    (FindsFault record field ("different:" ++ other) ↔
      ∃ v w, (Focus.mk record field).content? = some v ∧
        (Focus.mk record other).content? = some w ∧ v.looseEq w = true) ∧
    ((Focus.mk record field).isEmpty = false → (Focus.mk record other).isEmpty = false →
      Xor (FindsFault record field ("sameAs:" ++ other))
        (FindsFault record field ("different:" ++ other))) ∧
    ((Focus.mk record field).isEmpty = true ∨ record.contains other = false →
      Passes record field ("sameAs:" ++ other) ∧ Passes record field ("different:" ++ other)) ∧
    ((Focus.mk record field).isEmpty = false → record.contains other = true →
      (Focus.mk record other).isEmpty = true →
        FindsFault record field ("sameAs:" ++ other) ∧
          Passes record field ("different:" ++ other)) := by
  rw [findsFault_sameAs_iff hother, findsFault_different_iff hother, passes_sameAs_iff hother,
    passes_different_iff hother]
  refine ⟨comparison?_eq_some_iff _ other false, comparison?_eq_some_true_iff, ?_, ?_, ?_⟩
  · intro hfield hcontent
    obtain ⟨v, w, _, _, hanswer⟩ := comparison?_of_content hfield hcontent
    rw [hanswer]
    cases v.looseEq w
    · exact Or.inl ⟨rfl, by decide⟩
    · exact Or.inr ⟨rfl, by decide⟩
  · intro h
    rw [comparison?_of_missing h]
    decide
  · intro hfield hcontains hempty
    rw [comparison?_of_isEmpty hfield hcontains hempty]
    decide

theorem comparison_faults_of_null :
    FindsFault (.ofList [("f", .string "x"), ("o", .null)]) "f" ("sameAs:" ++ "o") ∧
      Passes (.ofList [("f", .string "x"), ("o", .null)]) "f" ("different:" ++ "o") := by
  have hname : "o" ≠ "" := by decide
  obtain ⟨-, -, -, -, hempty⟩ :=
    @comparison_faults (.ofList [("f", .string "x"), ("o", .null)]) "f" "o" hname
  apply hempty
  all_goals decide

/-- So `sameAs` does not only compare fields with content. -/
theorem not_sameAs_of_set_fields :
    ¬ ∀ (record : Record) (field other : String), other ≠ "" →
      (FindsFault record field ("sameAs:" ++ other) ↔
        ∃ v w, (Focus.mk record field).content? = some v ∧
          (Focus.mk record other).content? = some w ∧ v.looseEq w = false) := by
  intro hall
  have hfault : FindsFault (.ofList [("f", .string "x"), ("o", .null)]) "f" ("sameAs:" ++ "o") := by
    rw [findsFault_sameAs_iff (by decide)]
    decide
  obtain ⟨v, w, _, hw, _⟩ := (hall _ "f" "o" (by decide)).mp hfault
  have hempty : (Focus.mk (.ofList [("f", .string "x"), ("o", .null)]) "o").isEmpty = true := by
    decide
  rw [(Focus.content?_eq_none_iff _).mpr hempty] at hw
  cases hw

/-- Two fields with content may change places in a rule that compares them. The rule needs a name,
though: a field with the empty name can be compared, but nothing can be compared with it. -/
theorem comparison_symmetric :
    (∀ a b : Value, a.looseEq b = b.looseEq a) ∧
    (∀ (record : Record) (x y : String), x ≠ "" → y ≠ "" →
      (Focus.mk record x).isEmpty = false → (Focus.mk record y).isEmpty = false →
        (FindsFault record x ("sameAs:" ++ y) ↔ FindsFault record y ("sameAs:" ++ x)) ∧
        (FindsFault record x ("different:" ++ y) ↔ FindsFault record y ("different:" ++ x))) ∧
    (∀ f : Focus,
      Catalogue.builtins.judge? f "sameAs:" =
        some (.error (.missingArgument "sameAs" "fieldname")) ∧
      Catalogue.builtins.judge? f "different:" =
        some (.error (.missingArgument "different" "fieldname"))) := by
  refine ⟨Value.looseEq_comm, ?_, ?_⟩
  · intro record x y hx hy hxcontent hycontent
    have hswap : comparison? ⟨record, x⟩ y = comparison? ⟨record, y⟩ x := by
      obtain ⟨v, w, hv, hw, hxy⟩ := comparison?_of_content hxcontent hycontent
      obtain ⟨w', v', hw', hv', hyx⟩ := comparison?_of_content hycontent hxcontent
      obtain rfl := Option.some.inj (hv.symm.trans hv')
      obtain rfl := Option.some.inj (hw.symm.trans hw')
      rw [hxy, hyx, Value.looseEq_comm]
    rw [findsFault_sameAs_iff hy, findsFault_sameAs_iff hx, findsFault_different_iff hy,
      findsFault_different_iff hx, hswap]
    exact ⟨Iff.rfl, Iff.rfl⟩
  · intro f
    exact ⟨judge?_comparison_of_empty (b := sameAs) (by decide) f,
      judge?_comparison_of_empty (b := different) (by decide) f⟩

/-- So a field with the empty name cannot change places. -/
theorem not_comparison_symmetric_of_empty_name :
    ¬ ∀ (record : Record) (x y : String),
      (Focus.mk record x).isEmpty = false → (Focus.mk record y).isEmpty = false →
        (FindsFault record x ("sameAs:" ++ y) ↔ FindsFault record y ("sameAs:" ++ x)) := by
  intro hall
  have hswap := hall (.ofList [("", .string "a"), ("b", .string "c")]) "" "b" (by decide)
    (by decide)
  obtain ⟨message, hfault⟩ := hswap.mp ((findsFault_sameAs_iff (by decide)).mpr (by decide))
  have hmissing := judge?_comparison_of_empty (b := sameAs) (by decide)
    ⟨.ofList [("", .string "a"), ("b", .string "c")], "b"⟩
  cases hmissing.symm.trans hfault

end FieldRules
