import FieldRules.Proofs.EpochInterval
import Mathlib.Data.Prod.Lex

/-!
Dates between bounds. Instants are ordered by seconds and then by nanoseconds, in full, and a date
passes its check exactly if it lies between the bounds that are given, at a bound included. What
follows are the laws of intervals: two bounds are two checks, bounds that are moved outward lose
nothing, and crossed bounds leave nothing. Main statement: `date_interval`.
-/
namespace FieldRules

namespace Time.Instant

/-- Seconds first, then nanoseconds. -/
instance : LinearOrder Instant :=
  LinearOrder.lift' (fun i => toLex (i.seconds, i.nanos)) fun i j h => by
    obtain ⟨hseconds, hnanos⟩ := Prod.mk.inj (toLex.injective h)
    exact Instant.ext hseconds hnanos

theorem le_iff (i j : Instant) :
    i ≤ j ↔ i.seconds < j.seconds ∨ i.seconds = j.seconds ∧ i.nanos ≤ j.nanos :=
  Prod.Lex.toLex_le_toLex

theorem lt_eq_false_iff_le (i j : Instant) : i.lt j = false ↔ j ≤ i := by
  rw [lt_eq_false_iff, le_iff, eq_comm]

end Time.Instant

open Time (Instant)

namespace Builtin

/-- The bound that an argument sets: none if it is missing or blank, and otherwise the instant of
the milliseconds it writes. -/
inductive SetsBound (args : List String) (i : Nat) : Option Instant → Prop
  | missing (h : args[i]? = none) : SetsBound args i none
  | blank {arg : String} (h : args[i]? = some arg) (hblank : EpochBound arg none) :
      SetsBound args i none
  | millis {arg : String} {n : ℤ} {t : Instant} (h : args[i]? = some arg)
      (hmillis : EpochBound arg (some n)) (ht : Instant.ofMillis? n = some t) :
      SetsBound args i (some t)

theorem SetsBound.dateBound_eq {args : List String} {i : Nat} {bound : Option Instant}
    (h : SetsBound args i bound) (name : String) : dateBound args i name = .ok bound := by
  cases h with
  | missing h =>
    unfold dateBound
    rw [h]
    rfl
  | blank h hblank =>
    obtain ⟨bound, hbound, hrel⟩ := dateBound_rel args i h hblank name
    cases hrel
    exact hbound
  | millis h hmillis ht =>
    obtain ⟨bound, hbound, hrel⟩ := dateBound_rel args i h hmillis name
    cases hrel with
    | some ht' =>
      obtain rfl := Option.some.inj (ht.symm.trans ht')
      exact hbound

theorem nanos_lt_of_dateBound {args : List String} {i : ℕ} {name : String} {bound : Instant}
    (h : dateBound args i name = .ok (some bound)) : bound.nanos < Time.nanosPerSecond := by
  unfold dateBound at h
  cases harg : args[i]?.map Text.trim with
  | none =>
    rw [harg] at h
    cases h
  | some text =>
    rw [harg] at h
    dsimp only at h
    split at h
    · cases h
    · split at h
      · rename_i date hdate
        cases h
        obtain ⟨n, -, hn⟩ := Option.bind_eq_some_iff.mp hdate
        exact ((Instant.ofMillis?_eq_some_iff n bound).mp hn).1
      · cases h

/-- The check passes if both bounds are right and the date, if there is one, lies between them. -/
theorem checkDate_eq_pass_iff (f : Focus) (args : List String) :
    checkDate f args = .ok .pass ↔ ∃ least greatest, dateBound args 0 "after" = .ok least ∧
      dateBound args 1 "before" = .ok greatest ∧
        Interval.Admits ⟨least, greatest⟩ Value.toDate? f := by
  rcases checkDate_error_or_bounds args with ⟨err, herr⟩ | ⟨least, greatest, hleast, hgreatest⟩
  · rw [herr f]
    refine iff_of_false nofun ?_
    rintro ⟨least, greatest, hleast, hgreatest, -⟩
    cases (herr f).symm.trans (checkDate_eq f hleast hgreatest)
  · rw [checkDate_eq f hleast hgreatest, Except.ok.injEq, hleast, hgreatest,
      Interval.judge_eq_pass_iff (dateVerdict_eq_pass_iff f.field) fun v d _ =>
        ⟨fun a _ => d.lt_eq_false_iff_le a, fun b _ => b.lt_eq_false_iff_le d⟩]
    simp only [Except.ok.injEq, exists_and_left, exists_eq_left']

/-- Two bounds are checked as each of them is on its own. -/
theorem checkDate_pair (f : Focus) (after before : String) :
    checkDate f [after, before] = .ok .pass ↔
      checkDate f [after] = .ok .pass ∧ checkDate f ["", before] = .ok .pass := by
  have hnone : dateBound [after] 1 "before" = .ok none := rfl
  have hblank : dateBound ["", before] 0 "after" = .ok none := rfl
  have hafter : dateBound [after, before] 0 "after" = dateBound [after] 0 "after" := rfl
  have hbefore : dateBound [after, before] 1 "before" = dateBound ["", before] 1 "before" := rfl
  simp only [checkDate_eq_pass_iff, hnone, hblank, hafter, hbefore]
  constructor
  · rintro ⟨least, greatest, hleast, hgreatest, hadmits⟩
    obtain ⟨habove, hbelow⟩ := Interval.admits_iff_both.mp hadmits
    exact ⟨⟨least, none, hleast, rfl, habove⟩, ⟨none, greatest, rfl, hgreatest, hbelow⟩⟩
  · rintro ⟨⟨least, other, hleast, hother, habove⟩, other', greatest, hother', hgreatest, hbelow⟩
    cases hother
    cases hother'
    exact ⟨least, greatest, hleast, hgreatest, Interval.admits_iff_both.mpr ⟨habove, hbelow⟩⟩

theorem checkDate_take (f : Focus) (args : List String) :
    checkDate f (args.take 2) = checkDate f args := by
  have hget (i : ℕ) (hi : i < 2) (name : String) :
      dateBound (args.take 2) i name = dateBound args i name := by
    unfold dateBound
    rw [List.getElem?_take_of_lt hi]
  unfold checkDate
  rw [hget 0 (by decide), hget 1 (by decide)]

/-- Two fields of one name whose values are read as the same date are judged alike. -/
theorem checkDate_congr {f g : Focus} (hfield : f.field = g.field)
    (hread : f.content?.map Value.toDate? = g.content?.map Value.toDate?) (args : List String) :
    checkDate f args = checkDate g args := by
  rcases checkDate_error_or_bounds args with ⟨err, herr⟩ | ⟨least, greatest, hleast, hgreatest⟩
  · rw [herr, herr]
  · rw [checkDate_eq f hleast hgreatest, checkDate_eq g hleast hgreatest,
      Interval.judge_congr hread, hfield]

/-- The faults that the check finds with a date name the bound. -/
theorem message_of_checkDate {f : Focus} {args : List String} {message : String}
    (h : checkDate f args = .ok (.fail message)) :
    message = s!"Field `{f.field}` must be a date string or object." ∨ ∃ bound,
      (dateBound args 0 "after" = .ok (some bound) ∧
        message = s!"Field `{f.field}` must be a date after `{mailText bound}`.") ∨
      (dateBound args 1 "before" = .ok (some bound) ∧
        message = s!"Field `{f.field}` must be a date prior to `{mailText bound}`.") := by
  rcases checkDate_error_or_bounds args with ⟨err, herr⟩ | ⟨least, greatest, hleast, hgreatest⟩
  · rw [herr] at h
    cases h
  · rw [checkDate_eq f hleast hgreatest, Except.ok.injEq] at h
    unfold Interval.judge at h
    cases hcontent : f.content? with
    | none =>
      rw [hcontent] at h
      cases h
    | some v =>
      rw [hcontent] at h
      dsimp only at h
      cases hdate : v.toDate? with
      | none =>
        rw [hdate] at h
        exact Or.inl (Verdict.fail.inj h).symm
      | some date =>
        rw [hdate] at h
        dsimp only at h
        right
        rcases hbreach : Interval.breach? Instant.lt ⟨least, greatest⟩ date with _ | bound | bound
        · rw [hbreach] at h
          cases h
        · rw [hbreach] at h
          obtain rfl : least = some bound := Interval.least_of_breach? hbreach
          exact ⟨bound, Or.inl ⟨hleast, (Verdict.fail.inj h).symm⟩⟩
        · rw [hbreach] at h
          obtain rfl : greatest = some bound := Interval.greatest_of_breach? hbreach
          exact ⟨bound, Or.inr ⟨hgreatest, (Verdict.fail.inj h).symm⟩⟩

section Bounds

variable (f : Focus) {args : List String} {least greatest : Option Instant}
  (hleast : SetsBound args 0 least) (hgreatest : SetsBound args 1 greatest)
include hleast hgreatest

/-- A date passes exactly if it lies in the closed interval between its bounds. -/
theorem checkDate_eq_pass_iff_admits :
    checkDate f args = .ok .pass ↔ Interval.Admits ⟨least, greatest⟩ Value.toDate? f := by
  rw [checkDate_eq_pass_iff, hleast.dateBound_eq, hgreatest.dateBound_eq]
  simp only [Except.ok.injEq, exists_and_left, exists_eq_left']

/-- With right bounds the check neither errs nor puts another value in place of the date. -/
theorem checkDate_cases : checkDate f args = .ok .pass ∨
    ∃ message, checkDate f args = .ok (.fail message) := by
  rw [checkDate_eq f (hleast.dateBound_eq "after") (hgreatest.dateBound_eq "before")]
  simp only [Except.ok.injEq]
  refine Interval.judge_cases fun breach => ?_
  rcases breach with _ | _ | _
  · exact Or.inl rfl
  · exact Or.inr ⟨_, rfl⟩
  · exact Or.inr ⟨_, rfl⟩

end Bounds

end Builtin

open Builtin

/-- Bounds that are blank or milliseconds make an interval, whose ends belong to it. The check
passes exactly if the field is empty or its value is read as an instant between the bounds, which
are compared in full, and fails otherwise; it never replaces a value. So crossed bounds fail all
values, a value at a bound passes, bounds that are moved outward let pass all that passed, two
bounds are checked as each is on its own, and what follows the two does not count. -/
theorem date_interval (f : Focus) :
    (∀ args least greatest, SetsBound args 0 least → SetsBound args 1 greatest →
      (date.validator.check f args = .ok .pass ∨
        ∃ message, date.validator.check f args = .ok (.fail message)) ∧
      (date.validator.check f args = .ok .pass ↔ f.isEmpty = true ∨
        ∃ v d, f.value? = some v ∧ v.toDate? = some d ∧
          (∀ a ∈ least, a ≤ d) ∧ ∀ b ∈ greatest, d ≤ b) ∧
      (∀ a ∈ least, ∀ b ∈ greatest, b < a → f.isEmpty = false →
        ∃ message, date.validator.check f args = .ok (.fail message)) ∧
      ((∀ a ∈ least, ∀ b ∈ greatest, a ≤ b) → ∀ v d, f.value? = some v → v.toDate? = some d →
        d ∈ least ∨ d ∈ greatest → date.validator.check f args = .ok .pass) ∧
      ∀ wider least' greatest', SetsBound wider 0 least' → SetsBound wider 1 greatest' →
        Interval.Within ⟨least, greatest⟩ ⟨least', greatest'⟩ →
          date.validator.check f args = .ok .pass → date.validator.check f wider = .ok .pass) ∧
    (∀ after before, date.validator.check f [after, before] = .ok .pass ↔
      date.validator.check f [after] = .ok .pass ∧
        date.validator.check f ["", before] = .ok .pass) ∧
    ∀ args, date.validator.check f (args.take 2) = date.validator.check f args := by
  refine ⟨?_, checkDate_pair f, checkDate_take f⟩
  intro args least greatest hleast hgreatest
  have hpass := checkDate_eq_pass_iff_admits f hleast hgreatest
  have hcases := checkDate_cases f hleast hgreatest
  refine ⟨hcases, ?_, ?_, ?_, ?_⟩
  · exact hpass.trans (or_congr_right (exists₂_congr fun v d => and_congr_right fun _ =>
      and_congr_right fun _ => ⟨fun h => ⟨h.least_le, h.le_greatest⟩, fun h => ⟨h.1, h.2⟩⟩))
  · intro a ha b hb hcrossed hempty
    refine hcases.resolve_left fun h => ?_
    rcases hpass.mp h with hempty' | ⟨v, d, -, -, hd⟩
    · rw [hempty] at hempty'
      cases hempty'
    · exact Interval.not_contains_of_crossed ha hb hcrossed d hd
  · intro hordered v d hvalue hread hend
    exact hpass.mpr (Or.inr ⟨v, d, hvalue, hread, Interval.contains_of_end hordered hend⟩)
  · intro wider least' greatest' hleast' hgreatest' hwithin h
    exact (checkDate_eq_pass_iff_admits f hleast' hgreatest').mpr (hwithin.admits (hpass.mp h))

/-- At its bounds a date passes, and a nanosecond later it does not. -/
theorem date_interval_of_nanosecond :
    let start : Instant := { seconds := 0, nanos := 0 }
    let next : Instant := { seconds := 0, nanos := 1 }
    date.validator.check ⟨.ofList [("born", .date start)], "born"⟩ ["0", "0"] = .ok .pass ∧
      ∃ message, date.validator.check ⟨.ofList [("born", .date next)], "born"⟩ ["0", "0"] =
        .ok (.fail message) := by
  intro start next
  have hzero : EpochBound "0" (some 0) :=
    .millis (.unsigned (List.cons_ne_nil '0' []) (List.forall_mem_singleton.mpr rfl)) (by decide)
  have hleast : SetsBound ["0", "0"] 0 (some start) := .millis rfl hzero (by decide)
  have hgreatest : SetsBound ["0", "0"] 1 (some start) := .millis rfl hzero (by decide)
  constructor
  · obtain ⟨-, -, -, hend, -⟩ := (date_interval _).1 _ _ _ hleast hgreatest
    exact hend (by simp) (.date start) start rfl rfl (Or.inl rfl)
  · obtain ⟨hcases, hpass, -⟩ := (date_interval _).1 _ _ _ hleast hgreatest
    refine hcases.resolve_left fun h => ?_
    rcases hpass.mp h with hempty | ⟨v, d, hvalue, hread, -, hbefore⟩
    · cases hempty
    · obtain rfl : Value.date next = v := Option.some.inj hvalue
      obtain rfl : next = d := Option.some.inj hread
      exact absurd (hbefore start rfl) (by decide)

end FieldRules
