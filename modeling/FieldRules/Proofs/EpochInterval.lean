import FieldRules.Proofs.Containment
import FieldRules.Proofs.EpochTime

/-!
Numbers of milliseconds between bounds. The check for dates reads a bound as an integer of 64 bits
and splits it into seconds and nanoseconds, the check for numbers reads it as a double; the one
compares instants, the other doubles. Both readings keep the order of the integers, so that both
checks find fault with the same numbers, at the same end of the interval. Main statement:
`date_agrees_with_num`.
-/
namespace FieldRules

open Time (Instant)

namespace Builtin

/-! ### Intervals whose ends correspond -/

section Rel

variable {α β : Type} {R : α → β → Prop} {lt : α → α → Bool} {lt' : β → β → Bool}

inductive Breach.Rel (R : α → β → Prop) : Breach α → Breach β → Prop
  | below {a : α} {b : β} (h : R a b) : Breach.Rel R (.below a) (.below b)
  | above {a : α} {b : β} (h : R a b) : Breach.Rel R (.above a) (.above b)

/-- Values that correspond pass ends that correspond, and the greatest end counts only where the
least one is kept to. -/
theorem Interval.breach?_rel (hlt : ∀ a b x y, R a x → R b y → lt a b = lt' x y)
    {least greatest : Option α} {least' greatest' : Option β}
    (hleast : Option.Rel R least least') (hgreatest : Option.Rel R greatest greatest')
    {a : α} {x : β} (h : R a x) :
    Option.Rel (Breach.Rel R) (breach? lt ⟨least, greatest⟩ a)
      (breach? lt' ⟨least', greatest'⟩ x) := by
  have habove : Option.Rel (Breach.Rel R)
      ((greatest.filter fun g => lt g a).map .above)
      ((greatest'.filter fun g => lt' g x).map .above) := by
    cases hgreatest with
    | none => exact .none
    | some hg =>
      rw [Option.filter_some, Option.filter_some, hlt _ _ _ _ hg h]
      split
      · exact .some (.above hg)
      · exact .none
  unfold breach?
  cases hleast with
  | none => exact habove
  | some hl =>
    rw [Option.filter_some, Option.filter_some, hlt _ _ _ _ h hl]
    split
    · exact .some (.below hl)
    · exact habove

theorem exists_below_of_rel {a : α} {o : Option (Breach β)}
    (h : Option.Rel (Breach.Rel R) (some (.below a)) o) :
    ∃ b, o = some (.below b) ∧ R a b := by
  cases h with
  | some hend =>
    cases hend with
    | below hab => exact ⟨_, rfl, hab⟩

theorem exists_above_of_rel {a : α} {o : Option (Breach β)}
    (h : Option.Rel (Breach.Rel R) (some (.above a)) o) :
    ∃ b, o = some (.above b) ∧ R a b := by
  cases h with
  | some hend =>
    cases hend with
    | above hab => exact ⟨_, rfl, hab⟩

theorem eq_none_iff_of_rel {o : Option α} {p : Option β} (h : Option.Rel R o p) :
    o = none ↔ p = none := by
  cases h <;> simp

end Rel

def intBreach? (least greatest : Option ℤ) (n : ℤ) : Option (Breach ℤ) :=
  Interval.breach? (fun a b => decide (a < b)) ⟨least, greatest⟩ n

section IntBreach

variable {least greatest : Option ℤ} {m n : ℤ}

theorem intBreach?_eq_none_iff :
    intBreach? least greatest n = none ↔ (∀ m ∈ least, m ≤ n) ∧ ∀ m ∈ greatest, n ≤ m := by
  unfold intBreach? Interval.breach?
  simp [Option.filter_eq_none_iff]

theorem intBreach?_of_below (h : m ∈ least) (hlt : n < m) :
    intBreach? least greatest n = some (.below m) := by
  unfold intBreach? Interval.breach?
  rw [h]
  simp [hlt]

theorem intBreach?_of_above (hleast : ∀ l ∈ least, l ≤ n) (h : m ∈ greatest) (hlt : m < n) :
    intBreach? least greatest n = some (.above m) := by
  unfold intBreach? Interval.breach?
  have hnone : (least.filter fun l => decide (n < l)) = none := by
    simpa [Option.filter_eq_none_iff] using hleast
  dsimp only
  rw [hnone, h]
  simp [hlt]

end IntBreach

/-! ### The readings of a bound -/

/-- A bound that is left blank, or the decimal text of an integer that has an instant. -/
inductive EpochBound (arg : String) : Option ℤ → Prop
  | blank (h : Text.trim arg = "") : EpochBound arg none
  | millis {m : ℤ} (text : IntText (Text.trim arg).toList m)
      (range : earliestMillis ≤ m ∧ m ≤ latestMillis) : EpochBound arg (some m)

theorem not_isEmpty_of_intText {s : String} {m : ℤ} (h : IntText s.toList m) :
    ¬ s.isEmpty = true := by
  have hne := h.ne_nil
  simpa using hne

theorem ne_null_of_intText {s : String} {m : ℤ} (h : IntText s.toList m) : s ≠ "null" := by
  rintro rfl
  exact absurd (h.isDigit_or_sign 'n' (by decide)) (by decide)

section Bound

variable (args : List String) (i : Nat) {arg : String} {a : Option ℤ}
  (hget : args[i]? = some arg) (h : EpochBound arg a)
include hget h

/-- A bound that is blank or in range is read as the instant of its milliseconds. -/
theorem dateBound_rel (name : String) : ∃ bound, dateBound args i name = .ok bound ∧
    Option.Rel (fun m t => Instant.ofMillis? m = some t) a bound := by
  unfold dateBound
  rw [hget]
  cases h with
  | blank hblank =>
    rw [Option.map_some, hblank]
    exact ⟨none, rfl, .none⟩
  | @millis m text range =>
    have hread : readInt? (Text.trim arg).toList = some m := by
      obtain ⟨hmin, hmax⟩ := millis_within_int64
      exact (readInt?_eq_some_iff _ m).mpr ⟨text, by omega, by omega⟩
    obtain ⟨t, ht⟩ := Option.isSome_iff_exists.mp ((ofMillis?_isSome_iff m).mpr range)
    refine ⟨some t, ?_, .some ht⟩
    dsimp only [Option.map_some]
    rw [if_neg (not_isEmpty_of_intText text), hread, Option.bind_some, ht]

theorem numberBound?_rel :
    Option.Rel (fun m (d : Double) => d.IsInt m) a (numberBound? args i) := by
  unfold numberBound?
  rw [hget, Option.bind_some]
  cases h with
  | blank hblank =>
    rw [hblank]
    exact .none
  | @millis m text range =>
    have hne : ¬ ((Text.trim arg).isEmpty = true ∨ Text.trim arg = "null") :=
      not_or.mpr ⟨not_isEmpty_of_intText text, ne_null_of_intText text⟩
    obtain ⟨d, hread, hint⟩ := readNumber?_intText text
      (Instant.natAbs_lt_of_isSome ((ofMillis?_isSome_iff m).mpr range))
    dsimp only
    rw [if_neg hne, hread]
    exact .some hint

end Bound

/-! ### The checks -/

def dateVerdict (field : String) : Option (Breach Instant) → Verdict
  | none => .pass
  | some (.below after) =>
    .fail s!"Field `{field}` must be a date after `{mailText after}`."
  | some (.above before) =>
    .fail s!"Field `{field}` must be a date prior to `{mailText before}`."

def numVerdict (field : String) : Option (Breach Double) → Verdict
  | none => .pass
  | some (.below least) =>
    .fail s!"Field `{field}` is less than the minimum value of `{least.ruleText}`."
  | some (.above greatest) =>
    .fail s!"Field `{field}` is greater than the maximum value of `{greatest.ruleText}`."

theorem dateVerdict_eq_pass_iff (field : String) (breach : Option (Breach Instant)) :
    dateVerdict field breach = .pass ↔ breach = none := by
  rcases breach with _ | (_ | _) <;> simp [dateVerdict]

theorem numVerdict_eq_pass_iff (field : String) (breach : Option (Breach Double)) :
    numVerdict field breach = .pass ↔ breach = none := by
  rcases breach with _ | (_ | _) <;> simp [numVerdict]

/-- A bound shows in its text alone. -/
theorem numVerdict_congr (field : String) {x y : Double} (h : x.ruleText = y.ruleText) :
    numVerdict field (some (.below x)) = numVerdict field (some (.below y)) ∧
      numVerdict field (some (.above x)) = numVerdict field (some (.above y)) := by
  simp only [numVerdict, h, and_self]

/-- The bounds of a date are read before the date is. -/
theorem checkDate_eq (f : Focus) {args : List String} {least greatest : Option Instant}
    (hleast : dateBound args 0 "after" = .ok least)
    (hgreatest : dateBound args 1 "before" = .ok greatest) :
    checkDate f args = .ok (Interval.judge f Value.toDate?
      s!"Field `{f.field}` must be a date string or object." Instant.lt ⟨least, greatest⟩
      (dateVerdict f.field)) := by
  unfold checkDate Interval.judge
  rw [hleast, hgreatest]
  dsimp only [bind, Except.bind, pure, Except.pure]
  cases f.content? with
  | none => rfl
  | some v =>
    dsimp only
    cases v.toDate? with
    | none => rfl
    | some date =>
      dsimp only
      rcases Interval.breach? Instant.lt ⟨least, greatest⟩ date with _ | _ | _ <;> rfl

theorem checkNum_eq (f : Focus) (args : List String) :
    checkNum f args = .ok (Interval.judge f Value.toNumber?
      s!"Field `{f.field}` is not a number." Double.lt
      ⟨numberBound? args 0, numberBound? args 1⟩ (numVerdict f.field)) := by
  unfold checkNum Interval.judge
  cases f.content? with
  | none => rfl
  | some v =>
    dsimp only
    cases v.toNumber? with
    | none => rfl
    | some n =>
      dsimp only
      rcases Interval.breach? Double.lt ⟨numberBound? args 0, numberBound? args 1⟩ n with
        _ | _ | _ <;> rfl

section Checks

variable {f : Focus} {d : Double} {n : ℤ} {after before : String} {a b : Option ℤ}
  (hvalue : f.value? = some (.number d)) (hint : d.IsInt n)
  (hrange : earliestMillis ≤ n ∧ n ≤ latestMillis)
  (hafter : EpochBound after a) (hbefore : EpochBound before b)
include hvalue hint hafter hbefore

include hrange in
/-- On an integer the check of dates breaches the same end as the integers do. -/
theorem checkDate_epoch : ∃ breach,
    Option.Rel (Breach.Rel fun m t => Instant.ofMillis? m = some t) (intBreach? a b n) breach ∧
      checkDate f [after, before] = .ok (dateVerdict f.field breach) := by
  obtain ⟨least, hleast, hleastRel⟩ := dateBound_rel [after, before] 0 rfl hafter "after"
  obtain ⟨greatest, hgreatest, hgreatestRel⟩ :=
    dateBound_rel [after, before] 1 rfl hbefore "before"
  obtain ⟨t, ht⟩ := Option.isSome_iff_exists.mp ((ofMillis?_isSome_iff n).mpr hrange)
  have hlt (k l : ℤ) (x y : Instant) (hx : Instant.ofMillis? k = some x)
      (hy : Instant.ofMillis? l = some y) : decide (k < l) = x.lt y := by
    rw [Bool.eq_iff_iff, decide_eq_true_eq, Instant.lt_iff_of_ofMillis? hx hy]
  refine ⟨_, Interval.breach?_rel hlt hleastRel hgreatestRel ht, ?_⟩
  rw [checkDate_eq f hleast hgreatest]
  unfold Interval.judge
  rw [Focus.content?_of_value hvalue rfl]
  dsimp only
  rw [Value.toDate?_number hint.1, hint.wholePart_eq, ht]

theorem checkNum_epoch : ∃ breach,
    Option.Rel (Breach.Rel fun m (d : Double) => d.IsInt m) (intBreach? a b n) breach ∧
      checkNum f [after, before] = .ok (numVerdict f.field breach) := by
  have hleastRel := numberBound?_rel [after, before] 0 rfl hafter
  have hgreatestRel := numberBound?_rel [after, before] 1 rfl hbefore
  have hlt (k l : ℤ) (x y : Double) (hx : x.IsInt k) (hy : y.IsInt l) :
      decide (k < l) = x.lt y := by
    rw [Bool.eq_iff_iff, decide_eq_true_eq, hx.lt_iff hy]
  refine ⟨_, Interval.breach?_rel hlt hleastRel hgreatestRel hint, ?_⟩
  rw [checkNum_eq]
  unfold Interval.judge
  rw [Focus.content?_of_value hvalue rfl]
  dsimp only
  rw [Value.toNumber?_number hint.1]

end Checks

end Builtin

open Builtin

/-- A number of milliseconds that has an instant, and two bounds that are blank or such numbers
themselves: the check for dates passes exactly if the check for numbers does, which is if the number
lies between the bounds, at a bound included; otherwise both find fault, and at the same bound. -/
theorem date_agrees_with_num {f : Focus} {d : Double} {n : ℤ} {after before : String}
    {a b : Option ℤ} (hvalue : f.value? = some (.number d)) (hint : d.IsInt n)
    (hrange : earliestMillis ≤ n ∧ n ≤ latestMillis)
    (hafter : EpochBound after a) (hbefore : EpochBound before b) :
    (date.validator.check f [after, before] = .ok .pass ↔
      num.validator.check f [after, before] = .ok .pass) ∧
    (date.validator.check f [after, before] = .ok .pass ↔
      (∀ m ∈ a, m ≤ n) ∧ ∀ m ∈ b, n ≤ m) ∧
    (∀ m ∈ a, n < m → ∃ t, Instant.ofMillis? m = some t ∧
      date.validator.check f [after, before] = .ok (dateVerdict f.field (some (.below t))) ∧
      num.validator.check f [after, before] =
        .ok (numVerdict f.field (some (.below (.ofInt m))))) ∧
    ((∀ m ∈ a, m ≤ n) → ∀ m ∈ b, m < n → ∃ t, Instant.ofMillis? m = some t ∧
      date.validator.check f [after, before] = .ok (dateVerdict f.field (some (.above t))) ∧
      num.validator.check f [after, before] =
        .ok (numVerdict f.field (some (.above (.ofInt m))))) := by
  obtain ⟨dateBreach, hdateRel, hdate⟩ := checkDate_epoch hvalue hint hrange hafter hbefore
  obtain ⟨numBreach, hnumRel, hnum⟩ := checkNum_epoch hvalue hint hafter hbefore
  have hdatePass : checkDate f [after, before] = .ok .pass ↔ intBreach? a b n = none := by
    rw [hdate, Except.ok.injEq, dateVerdict_eq_pass_iff, eq_none_iff_of_rel hdateRel]
  have hnumPass : checkNum f [after, before] = .ok .pass ↔ intBreach? a b n = none := by
    rw [hnum, Except.ok.injEq, numVerdict_eq_pass_iff, eq_none_iff_of_rel hnumRel]
  have htext {m : ℤ} {t : Instant} {bound : Double} (ht : Instant.ofMillis? m = some t)
      (hbound : bound.IsInt m) : bound.ruleText = (Double.ofInt m).ruleText := by
    have hlt := Instant.natAbs_lt_of_isSome (Option.isSome_of_eq_some ht)
    exact hbound.ruleText_eq (Double.isInt_ofInt hlt)
  refine ⟨hdatePass.trans hnumPass.symm, hdatePass.trans intBreach?_eq_none_iff, ?_, ?_⟩
  · intro m hm hlt
    rw [intBreach?_of_below hm hlt] at hdateRel hnumRel
    obtain ⟨t, rfl, ht⟩ := exists_below_of_rel hdateRel
    obtain ⟨bound, rfl, hbound⟩ := exists_below_of_rel hnumRel
    rw [(numVerdict_congr f.field (htext ht hbound)).1] at hnum
    exact ⟨t, ht, hdate, hnum⟩
  · intro hleast m hm hlt
    rw [intBreach?_of_above hleast hm hlt] at hdateRel hnumRel
    obtain ⟨t, rfl, ht⟩ := exists_above_of_rel hdateRel
    obtain ⟨bound, rfl, hbound⟩ := exists_above_of_rel hnumRel
    rw [(numVerdict_congr f.field (htext ht hbound)).2] at hnum
    exact ⟨t, ht, hdate, hnum⟩

/-- Before 1970, too, a number that is itself the bound passes both checks. -/
theorem date_agrees_with_num_before_1970 :
    date.validator.check ⟨.ofList [("born", .number (.ofInt (-1)))], "born"⟩ ["-1", ""] =
        .ok .pass ∧
      num.validator.check ⟨.ofList [("born", .number (.ofInt (-1)))], "born"⟩ ["-1", ""] =
        .ok .pass := by
  have hafter : EpochBound "-1" (some (-1)) :=
    .millis (.minus (List.cons_ne_nil '1' []) (List.forall_mem_singleton.mpr rfl)) (by decide)
  have hbefore : EpochBound "" none := .blank rfl
  have hvalue : (Focus.mk (.ofList [("born", .number (.ofInt (-1)))]) "born").value? =
      some (.number (.ofInt (-1))) := rfl
  have hint : (Double.ofInt (-1)).IsInt (-1) := Double.isInt_ofInt (by decide)
  have h := date_agrees_with_num hvalue hint (by decide) hafter hbefore
  have hdate := h.2.1.mpr ⟨by simp, by simp⟩
  exact ⟨hdate, h.1.mp hdate⟩

end FieldRules
