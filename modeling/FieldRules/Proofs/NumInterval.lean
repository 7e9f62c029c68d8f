import FieldRules.Proofs.EpochInterval

/-!
Numbers between bounds. Only finite numbers are ever read, from values and from arguments alike, and
on these the order of doubles is total; so a number passes its check exactly if it lies between the
bounds that are given, at a bound included, and an argument that is no number bounds nothing. Blanks
around a number do not count. Main statement: `num_interval`.
-/
namespace FieldRules

/-! ### The order of doubles -/

namespace Double

/-- Below or equal; `nan` is neither to anything. -/
instance : LE Double := ⟨fun a b => a.lt b = true ∨ a.eq b = true⟩

theorem le_iff_signedUnits {a b : Double} (ha : a.isFinite = true) (hb : b.isFinite = true) :
    a ≤ b ↔ a.signedUnits ≤ b.signedUnits := by
  rw [Int.le_iff_lt_or_eq, ← lt_iff_signedUnits ha hb, ← eq_iff_signedUnits ha hb]
  exact Iff.rfl

theorem not_nan_le (b : Double) : ¬ nan ≤ b := by
  rintro (h | h) <;> cases h

theorem not_le_nan (a : Double) : ¬ a ≤ nan := by
  rintro (h | h) <;> cases a <;> cases h

theorem infinite_le_iff {negative : Bool} {b : Double} :
    infinite negative ≤ b ↔ b = infinite negative ∨ negative = true ∧ b ≠ nan := by
  change (_ ∨ _) ↔ _
  cases b with
  | nan | finite => cases negative <;> simp [lt, eq]
  | infinite t => cases negative <;> cases t <;> simp [lt, eq]

theorem le_infinite_iff {negative : Bool} {a : Double} :
    a ≤ infinite negative ↔ a = infinite negative ∨ negative = false ∧ a ≠ nan := by
  change (_ ∨ _) ↔ _
  cases a <;> cases negative <;> simp [lt, eq]

/-- Infinities lie beyond the finite numbers, which are ordered as their units. -/
instance : IsTrans Double (· ≤ ·) where
  trans a b c hab hbc := by
    cases b with
    | nan => exact absurd hab (not_le_nan a)
    | infinite negative =>
      rcases le_infinite_iff.mp hab with rfl | ⟨rfl, ha⟩
      · exact hbc
      · rcases infinite_le_iff.mp hbc with rfl | ⟨h, -⟩
        · exact hab
        · cases h
    | finite t l hl =>
      cases a with
      | nan => exact absurd hab (not_nan_le _)
      | infinite negative =>
        rcases infinite_le_iff.mp hab with h | ⟨rfl, -⟩
        · cases h
        · refine infinite_le_iff.mpr (Or.inr ⟨rfl, ?_⟩)
          rintro rfl
          exact not_le_nan _ hbc
      | finite s k hk =>
        cases c with
        | nan => exact absurd hbc (not_le_nan _)
        | infinite negative =>
          rcases le_infinite_iff.mp hbc with h | ⟨rfl, -⟩
          · cases h
          · exact le_infinite_iff.mpr (Or.inr ⟨rfl, nofun⟩)
        | finite u m hm =>
          rw [le_iff_signedUnits rfl rfl] at hab hbc ⊢
          exact hab.trans hbc

theorem lt_eq_false_iff_le {a b : Double} (ha : a.isFinite = true) (hb : b.isFinite = true) :
    a.lt b = false ↔ b ≤ a := by
  rw [← Bool.not_eq_true, lt_iff_signedUnits ha hb, le_iff_signedUnits hb ha, not_lt]

end Double

/-! ### The readings of numbers -/

/-- A text is read as a number without the blanks around it, and only if the number is finite. -/
theorem readNumber?_eq_some_iff (s : String) (d : Double) :
    readNumber? s = some d ↔
      Double.ofChars? (Text.trimChars s.toList) = some d ∧ d.isFinite = true := by
  unfold readNumber?
  cases Double.ofChars? (Text.trimChars s.toList) with
  | none => simp
  | some n =>
    dsimp only
    rw [Option.ite_none_right_eq_some, Option.some.injEq]
    constructor
    · rintro ⟨hfinite, rfl⟩
      exact ⟨rfl, hfinite⟩
    · rintro ⟨rfl, hfinite⟩
      exact ⟨hfinite, rfl⟩

theorem readNumber?_of_padded {s t : String} (h : Text.Padded s.toList t.toList) :
    readNumber? t = readNumber? s := by
  unfold readNumber?
  rw [Text.trimChars_of_padded h]

theorem Value.isFinite_of_toNumber? {v : Value} {d : Double} (h : v.toNumber? = some d) :
    d.isFinite = true := by
  cases v with
  | number n =>
    obtain ⟨hfinite, hsome⟩ := Option.ite_none_right_eq_some.mp h
    exact Option.some.inj hsome ▸ hfinite
  | bool b =>
    obtain rfl := Option.some.inj h
    cases b with
    | false => rfl
    | true => decide +kernel
  | string s => exact ((readNumber?_eq_some_iff s d).mp h).2
  | null | array | object | date => cases h

namespace Builtin

/-- A bound is what its argument is read as; the word that stands for no bound is no number. -/
theorem numberBound?_eq (args : List String) (i : ℕ) :
    numberBound? args i = args[i]?.bind readNumber? := by
  unfold numberBound?
  cases args[i]? with
  | none => rw [Option.bind_none, Option.bind_none]
  | some arg =>
    have hread : readNumber? (Text.trim arg) = readNumber? arg := by
      unfold readNumber? Text.trim
      rw [String.toList_ofList, Text.trimChars_trimChars]
    simp only [Option.bind_some, hread]
    split
    · rename_i hword
      rw [← hread]
      rcases hword with hempty | hnull
      · rw [String.isEmpty_iff.mp hempty]
        decide
      · rw [hnull]
        decide
    · rfl

theorem isFinite_of_numberBound? {args : List String} {i : ℕ} {d : Double}
    (h : numberBound? args i = some d) : d.isFinite = true := by
  rw [numberBound?_eq] at h
  obtain ⟨arg, -, hread⟩ := Option.bind_eq_some_iff.mp h
  exact ((readNumber?_eq_some_iff arg d).mp hread).2

theorem numberBound?_of_padded {args args' : List String}
    (h : List.Forall₂ (fun s t => Text.Padded s.toList t.toList) args args') (i : ℕ) :
    numberBound? args' i = numberBound? args i := by
  rw [numberBound?_eq, numberBound?_eq]
  induction h generalizing i with
  | nil => rfl
  | cons hpadded _ ih =>
    cases i with
    | zero => exact readNumber?_of_padded hpadded
    | succ i => exact ih i

/-! ### The check -/

def numberInterval (args : List String) : Interval Double :=
  ⟨numberBound? args 0, numberBound? args 1⟩

theorem checkNum_eq_pass_iff (f : Focus) (args : List String) :
    checkNum f args = .ok .pass ↔ (numberInterval args).Admits Value.toNumber? f := by
  rw [checkNum_eq, Except.ok.injEq]
  refine Interval.judge_eq_pass_iff (numVerdict_eq_pass_iff f.field) fun v n hread => ?_
  have hn := Value.isFinite_of_toNumber? hread
  exact ⟨fun least h => Double.lt_eq_false_iff_le hn (isFinite_of_numberBound? h),
    fun greatest h => Double.lt_eq_false_iff_le (isFinite_of_numberBound? h) hn⟩

/-- The check neither errs nor puts another value in place of the number. -/
theorem checkNum_cases (f : Focus) (args : List String) : checkNum f args = .ok .pass ∨
    ∃ message, checkNum f args = .ok (.fail message) := by
  rw [checkNum_eq]
  simp only [Except.ok.injEq]
  refine Interval.judge_cases fun breach => ?_
  rcases breach with _ | _ | _
  · exact Or.inl rfl
  · exact Or.inr ⟨_, rfl⟩
  · exact Or.inr ⟨_, rfl⟩

/-- Two bounds ask for what each of them asks for alone. -/
theorem checkNum_pair (f : Focus) (least greatest : String) :
    checkNum f [least, greatest] = .ok .pass ↔
      checkNum f [least] = .ok .pass ∧ checkNum f ["", greatest] = .ok .pass := by
  simp only [checkNum_eq_pass_iff]
  exact Interval.admits_iff_both

theorem checkNum_of_padded_args (f : Focus) {args args' : List String}
    (h : List.Forall₂ (fun s t => Text.Padded s.toList t.toList) args args') :
    checkNum f args' = checkNum f args := by
  simp only [checkNum_eq, numberBound?_of_padded h]

theorem checkNum_of_padded_value {record : Record} {field s t : String}
    (hvalue : record.find? field = some (.string s)) (hne : s ≠ "")
    (h : Text.Padded s.toList t.toList) (args : List String) :
    checkNum ⟨record.insert field (.string t), field⟩ args = checkNum ⟨record, field⟩ args := by
  have ht : t ≠ "" := by
    rintro rfl
    exact hne (String.toList_eq_nil_iff.mp (Text.Padded.eq_nil h))
  have hcontent : (Focus.mk record field).content? = some (.string s) :=
    Focus.content?_of_value hvalue (by simpa [Value.isEmpty] using hne)
  have hcontent' : (Focus.mk (record.insert field (.string t)) field).content? =
      some (.string t) :=
    Focus.content?_of_value (Dict.find?_insert_self ..) (by simpa [Value.isEmpty] using ht)
  have hread : (Focus.mk (record.insert field (.string t)) field).content?.map Value.toNumber? =
      (Focus.mk record field).content?.map Value.toNumber? := by
    rw [hcontent, hcontent', Option.map_some, Option.map_some]
    exact congrArg some (readNumber?_of_padded h)
  rw [checkNum_eq, checkNum_eq, Interval.judge_congr hread]

/-- Text that is no finite number is no number of a value and bounds nothing. -/
theorem unread_of_not_finite {s : String}
    (h : ∀ d, Double.ofChars? (Text.trimChars s.toList) = some d → d.isFinite = false) :
    (Value.string s).toNumber? = none ∧
      ∀ args i, args[i]? = some s → numberBound? args i = none := by
  have hread : readNumber? s = none := by
    rw [Option.eq_none_iff_forall_ne_some]
    intro d hd
    obtain ⟨hchars, hfinite⟩ := (readNumber?_eq_some_iff s d).mp hd
    rw [h d hchars] at hfinite
    cases hfinite
  refine ⟨hread, fun args i hget => ?_⟩
  rw [numberBound?_eq, hget, Option.bind_some, hread]

end Builtin

open Builtin

/-- Values and arguments are only ever read as finite numbers; other text, like an infinity or a
number too large, is no number and bounds nothing. The check passes exactly if the field is empty or
its value is read as a number between the bounds that are read, which belong to the interval, and
fails otherwise; it neither errs nor replaces a value. So two bounds are checked as each is on its
own, bounds that are moved outward let pass all that passed, and blanks around a bound or around a
string that is not empty make no difference. -/
theorem num_interval :
    (∀ v n, Value.toNumber? v = some n → n.isFinite = true) ∧
    (∀ args i bound, numberBound? args i = some bound → bound.isFinite = true) ∧
    (∀ s, (∀ d, Double.ofChars? (Text.trimChars s.toList) = some d → d.isFinite = false) →
      (Value.string s).toNumber? = none ∧
        ∀ args i, args[i]? = some s → numberBound? args i = none) ∧
    (∀ s ∈ ["inf", "NaN", "1e999"], (Value.string s).toNumber? = none ∧
      ∀ args i, args[i]? = some s → numberBound? args i = none) ∧
    (∀ f args, num.validator.check f args = .ok .pass ∨
      ∃ message, num.validator.check f args = .ok (.fail message)) ∧
    (∀ f args, num.validator.check f args = .ok .pass ↔ f.isEmpty = true ∨
      ∃ v n, f.value? = some v ∧ v.toNumber? = some n ∧
        (∀ least ∈ args[0]?.bind readNumber?, least ≤ n) ∧
          ∀ greatest ∈ args[1]?.bind readNumber?, n ≤ greatest) ∧
    (∀ f least greatest, num.validator.check f [least, greatest] = .ok .pass ↔
      num.validator.check f [least] = .ok .pass ∧
        num.validator.check f ["", greatest] = .ok .pass) ∧
    (∀ f args wider, (numberInterval args).Within (numberInterval wider) →
      num.validator.check f args = .ok .pass → num.validator.check f wider = .ok .pass) ∧
    (∀ f args args', List.Forall₂ (fun s t => Text.Padded s.toList t.toList) args args' →
      num.validator.check f args' = num.validator.check f args) ∧
    ∀ (record : Record) field s t, record.find? field = some (.string s) → s ≠ "" →
      Text.Padded s.toList t.toList → ∀ args,
        num.validator.check ⟨record.insert field (.string t), field⟩ args =
          num.validator.check ⟨record, field⟩ args := by
  refine ⟨fun v n => Value.isFinite_of_toNumber?, fun args i bound => isFinite_of_numberBound?,
    fun s => unread_of_not_finite, ?_, checkNum_cases, ?_, checkNum_pair, ?_,
    fun f args args' => checkNum_of_padded_args f,
    fun record field s t => checkNum_of_padded_value⟩
  · intro s hs
    refine unread_of_not_finite fun d hd => ?_
    have hread : ∀ s ∈ ["inf", "NaN", "1e999"],
        (Double.ofChars? (Text.trimChars s.toList)).all (!·.isFinite) = true := by decide
    have hnot := hread s hs
    rw [hd, Option.all_some, Bool.not_eq_true'] at hnot
    exact hnot
  · intro f args
    rw [← numberBound?_eq, ← numberBound?_eq]
    exact (checkNum_eq_pass_iff f args).trans (or_congr_right (exists₂_congr fun v n =>
      and_congr_right fun _ => and_congr_right fun _ =>
        ⟨fun h => ⟨h.least_le, h.le_greatest⟩, fun h => ⟨h.1, h.2⟩⟩))
  · intro f args wider hwithin h
    exact (checkNum_eq_pass_iff f wider).mpr (hwithin.admits ((checkNum_eq_pass_iff f args).mp h))

/-- A number at its lower bound passes, with an infinity for the upper one, and blanks around the
number and its bound change nothing. -/
theorem num_interval_of_blanks :
    num.validator.check ⟨.ofList [("age", .string " 18")], "age"⟩ [" 18 ", "inf"] =
      .ok .pass := by
  obtain ⟨-, -, -, hunread, -, hpass, -, -, hargs, hvalue⟩ := num_interval
  have hblank : ∀ c ∈ [' '], Text.isBlank c = true := List.all_eq_true.mp rfl
  have hnone : ∀ c ∈ ([] : List Char), Text.isBlank c = true := List.all_eq_true.mp rfl
  have hpadded : Text.Padded "18".toList " 18".toList := ⟨[' '], [], hblank, hnone, rfl⟩
  have hbounds : List.Forall₂ (fun s t => Text.Padded s.toList t.toList)
      ["18", "inf"] [" 18 ", "inf"] :=
    .cons ⟨[' '], [' '], hblank, hblank, rfl⟩ (.cons ⟨[], [], hnone, hnone, rfl⟩ .nil)
  have hfind : Dict.find? (.ofList [("age", Value.string "18")]) "age" = some (.string "18") := rfl
  have hrecord : (Dict.ofList [("age", Value.string "18")]).insert "age" (.string " 18") =
      .ofList [("age", .string " 18")] := rfl
  rw [← hrecord, hvalue _ _ _ _ hfind (by decide) hpadded, hargs _ _ _ hbounds, hpass]
  obtain ⟨n, hread, hint⟩ := readNumber?_intText (s := "18") (n := 18)
    (.unsigned (List.cons_ne_nil '1' ['8']) (List.all_eq_true.mp rfl)) (by decide)
  refine Or.inr ⟨.string "18", n, rfl, hread, ?_, ?_⟩
  · intro least hleast
    rw [List.getElem?_cons_zero, Option.bind_some, hread, Option.mem_some_iff] at hleast
    subst hleast
    exact (Double.le_iff_signedUnits hint.1 hint.1).mpr le_rfl
  · intro greatest hgreatest
    obtain ⟨hnone, -⟩ := hunread "inf" (by decide)
    change readNumber? "inf" = none at hnone
    rw [List.getElem?_cons_succ, List.getElem?_cons_zero, Option.bind_some, hnone] at hgreatest
    cases hgreatest

end FieldRules
