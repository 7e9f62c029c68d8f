import FieldRules.Proofs.Settlement
import FieldRules.Proofs.ReportContents
import FieldRules.Proofs.TokenText
import Mathlib.Logic.Basic

/-!
Presence and content. Three built-ins ask whether a field has a value, and fail only if it is empty;
all others judge the value, and let an empty field pass as it is. No token makes an empty field
non-empty or the other way round, so the failures of a field are all of the one kind or all of the
other, and what the field held at the start decides which. Main statement: `presence_or_content`.
-/
namespace FieldRules

theorem Focus.content?_eq_none_iff (f : Focus) : f.content? = none ↔ f.isEmpty = true := by
  unfold content? isEmpty isEmptyField
  cases f.value? with
  | none => simp
  | some v => simp [Option.filter_eq_none_iff]

/-- A field is empty if it is missing, null or an empty text. -/
theorem Focus.isEmpty_iff (f : Focus) : f.isEmpty = true ↔
    f.value? = none ∨ f.value? = some .null ∨ f.value? = some (.string "") := by
  unfold isEmpty isEmptyField
  cases f.value? with
  | none => simp
  | some v => cases v <;> simp [Value.isEmpty]

namespace Builtin

def presenceChecks : List Builtin := [required, requiredWith, requiredWithout]

/-- The answer of a check that names another field is its judgement by this name. -/
theorem named_cases {validator : String} {judge : String → Verdict} {args : List String}
    {verdict : Verdict}
    (h : (match argument? args 0 with
      | none => .error (.missingArgument validator "fieldname")
      | some other => .ok (judge other) : Except RuleError Verdict) = .ok verdict) :
    ∃ other, verdict = judge other := by
  cases harg : argument? args 0 with
  | none =>
    rw [harg] at h
    cases h
  | some other =>
    rw [harg] at h
    exact ⟨other, (Except.ok.inj h).symm⟩

/-- A built-in that asks for a value finds fault with empty fields only. -/
theorem isEmpty_of_presence {b : Builtin} (hb : b ∈ presenceChecks) {f : Focus}
    {args : List String} {message : String}
    (h : b.validator.check f args = .ok (.fail message)) : f.isEmpty = true := by
  have hask : ∀ (asked : Bool) (text : String),
      Verdict.fail message = (if (asked && f.isEmpty) = true then .fail text else .pass) →
        f.isEmpty = true := by
    intro asked text heq
    by_cases hempty : (asked && f.isEmpty) = true
    · exact (Bool.and_eq_true_iff.mp hempty).2
    · rw [if_neg hempty] at heq
      cases heq
  simp only [presenceChecks, List.mem_cons, List.not_mem_nil, or_false] at hb
  rcases hb with rfl | rfl | rfl
  · have heq : checkRequired f args = .ok (.fail message) := h
    unfold checkRequired at heq
    exact hask true _ (Except.ok.inj heq).symm
  · obtain ⟨other, heq⟩ := named_cases h
    exact hask _ _ heq
  · obtain ⟨other, heq⟩ := named_cases h
    exact hask _ _ heq

section NoContent

variable {f : Focus} (hcontent : f.content? = none) {args : List String} {verdict : Verdict}
include hcontent

theorem judgeText_of_none (p : Pattern Pattern.Atom) (message : String) :
    judgeText p f message = .pass := by
  unfold judgeText
  rw [hcontent]

theorem comparison?_of_none (other : String) : comparison? f other = none := by
  unfold comparison?
  rw [hcontent]

theorem checkRegex_of_none (h : checkRegex f args = .ok verdict) : verdict = .pass := by
  unfold checkRegex at h
  simp only [judgeText_of_none hcontent] at h
  split at h
  · cases h
  · split at h
    · cases h
    · exact (Except.ok.inj h).symm

/-- The bounds of a date are read even if there is none. -/
theorem checkDate_of_none (h : checkDate f args = .ok verdict) : verdict = .pass := by
  rcases checkDate_error_or_bounds args with ⟨err, herr⟩ | ⟨after, before, hafter, hbefore⟩
  · rw [herr] at h
    cases h
  · unfold checkDate at h
    rw [hafter, hbefore] at h
    simp only [hcontent] at h
    exact (Except.ok.inj h).symm

end NoContent

/-- On an empty field the other checks look no further. -/
theorem passes_of_isEmpty {b : Builtin} (hb : b ∉ presenceChecks) {f : Focus}
    (hempty : f.isEmpty = true) {args : List String} {verdict : Verdict}
    (h : b.validator.check f args = .ok verdict) : verdict = .pass := by
  have hcontent := f.content?_eq_none_iff.mpr hempty
  cases b with
  | required | requiredWith | requiredWithout => simp [presenceChecks] at hb
  | array =>
    have heq : checkArray f args = .ok verdict := h
    unfold checkArray at heq
    rw [hcontent] at heq
    exact (Except.ok.inj heq).symm
  | num =>
    have heq : checkNum f args = .ok verdict := h
    unfold checkNum at heq
    rw [hcontent] at heq
    exact (Except.ok.inj heq).symm
  | bool =>
    have heq : checkBool f args = .ok verdict := h
    unfold checkBool at heq
    rw [hcontent] at heq
    exact (Except.ok.inj heq).symm
  | sameAs | different =>
    obtain ⟨other, heq⟩ := named_cases h
    rw [comparison?_of_none hcontent] at heq
    exact heq
  | url | email =>
    rw [← Except.ok.inj h]
    exact judgeText_of_none hcontent _ _
  | regex => exact checkRegex_of_none hcontent h
  | date => exact checkDate_of_none hcontent h

/-- The name of a token with one argument, which may hold colons. -/
theorem arguments_of_name {b : Builtin} (hmax : b.validator.maxArgs = some 1)
    (hname : ':' ∉ b.name.toList) (other : String) :
    RuleToken.nameOf (b.name ++ ":" ++ other) = b.name ∧
      b.arguments (b.name ++ ":" ++ other) = [other] := by
  have htoken := RuleToken.ofText_append (some 1) hname other
  constructor
  · exact congrArg RuleToken.name htoken
  · unfold arguments
    rw [hmax, htoken]
    simp [RuleToken.arguments, RuleToken.pieces]

theorem judge?_of_name {b : Builtin} (hmax : b.validator.maxArgs = some 1)
    (hname : ':' ∉ b.name.toList) (f : Focus) (other : String) :
    Catalogue.builtins.judge? f (b.name ++ ":" ++ other) = some (b.validator.check f [other]) := by
  obtain ⟨hnameOf, harguments⟩ := arguments_of_name hmax hname other
  rw [Catalogue.judge?_builtins, hnameOf, (ofName?_eq_some_iff b.name b).mpr rfl,
    Option.map_some, harguments]

end Builtin

open Builtin

def FindsFault (record : Record) (field token : String) : Prop :=
  ∃ message, Catalogue.builtins.judge? ⟨record, field⟩ token = some (.ok (.fail message))

def Failure.AsksForValue (f : Failure) : Prop := ∃ b ∈ presenceChecks, b.name = f.kind

namespace Catalogue

/-- Whether a field is empty stays as it was in a run over the built-ins. -/
theorem isEmpty_of_mem_trace {record : Record} {calls : List Call} {s : Step}
    (hs : s ∈ builtins.trace record calls) (field : String) :
    (Focus.mk s.record field).isEmpty = (Focus.mk record field).isEmpty := by
  obtain ⟨first, hfirst⟩ := exists_settle_of_mem_trace hs
  rw [hfirst]
  exact isEmpty_settle_builtins record first field

/-- The failure of a step comes from a built-in of the kind that fits the field. -/
theorem kind_of_failure? {record : Record} {calls : List Call} {s : Step} {f : Failure}
    (hs : s ∈ builtins.trace record calls) (hf : s.failure? = some f) :
    (f.AsksForValue ∧ (Focus.mk record s.call.field).isEmpty = true) ∨
      (¬ f.AsksForValue ∧ (Focus.mk record s.call.field).isEmpty = false) := by
  have hempty := isEmpty_of_mem_trace hs s.call.field
  obtain ⟨hkind, hverdict⟩ := (Step.failure?_eq_some_iff s f).mp hf
  rw [eq_step_of_mem_trace hs] at hverdict
  obtain ⟨b, hb, hcheck⟩ := (judge?_builtins_eq_some_iff _ _ _).mp hverdict
  have hname : b.name = f.kind := hb.trans hkind.symm
  by_cases hpresence : b ∈ presenceChecks
  · have hfocus := isEmpty_of_presence hpresence hcheck
    exact Or.inl ⟨⟨b, hpresence, hname⟩, hempty.symm.trans hfocus⟩
  · have hother : ¬ f.AsksForValue := by
      rintro ⟨asking, hasking, hsame⟩
      exact hpresence (name_injective (hsame.trans hname.symm) ▸ hasking)
    refine Or.inr ⟨hother, ?_⟩
    rw [← hempty, ← Bool.not_eq_true]
    intro hfocus
    have hpass := passes_of_isEmpty hpresence hfocus hcheck
    cases hpass

/-- On an empty field the tokens of the other built-ins do nothing. -/
theorem idle_of_isEmpty {record : Record} {field : String} {tokens : List String} {s : Step}
    (hempty : (Focus.mk record field).isEmpty = true)
    (htokens : ∀ token ∈ tokens, ∀ b ∈ presenceChecks, b.name ≠ RuleToken.nameOf token)
    (hs : s ∈ builtins.trace record (tokens.map (Call.mk field))) :
    s.failure? = none ∧ s.write? = none := by
  obtain ⟨token, htoken, hcall⟩ := List.mem_map.mp (call_mem_of_mem_trace hs)
  have hfocus : (Focus.mk s.record s.call.field).isEmpty = true := by
    rw [isEmpty_of_mem_trace hs, ← hcall]
    exact hempty
  have hpass : ∀ verdict, s.verdict? = some (.ok verdict) → verdict = .pass := by
    intro verdict hverdict
    rw [eq_step_of_mem_trace hs] at hverdict
    obtain ⟨b, hb, hcheck⟩ := (judge?_builtins_eq_some_iff _ _ _).mp hverdict
    refine passes_of_isEmpty (fun hpresence => ?_) hfocus hcheck
    rw [← hcall] at hb
    exact htokens token htoken b hpresence hb
  constructor
  · rw [Option.eq_none_iff_forall_ne_some]
    intro f hf
    have hverdict := ((Step.failure?_eq_some_iff s f).mp hf).2
    cases hpass _ hverdict
  · rw [Option.eq_none_iff_forall_ne_some]
    intro value hvalue
    have hverdict := (Step.write?_eq_some_iff s value).mp hvalue
    cases hpass _ hverdict

end Catalogue

/-- On an empty field no other token finds a fault. -/
theorem evaluate_of_isEmpty (policy : Policy) {record : Record} {field : String}
    {tokens : List String} (hempty : (Focus.mk record field).isEmpty = true)
    (htokens : ∀ token ∈ tokens, ∀ b ∈ presenceChecks, b.name ≠ RuleToken.nameOf token) :
    (Engine.evaluate ⟨.builtins, policy⟩ field record tokens).record = record ∧
      ((∃ err, (Engine.evaluate ⟨.builtins, policy⟩ field record tokens).result = .error err) ∨
        (Engine.evaluate ⟨.builtins, policy⟩ field record tokens).result = .ok []) := by
  have hidle := fun s hs => Catalogue.idle_of_isEmpty (s := s) hempty htokens hs
  rw [Engine.evaluate_eq_ofSteps]
  unfold Run.ofSteps
  constructor
  · have hwrites : Step.writes (Step.untilError policy
        (Catalogue.builtins.trace record (tokens.map (Call.mk field)))) = [] := by
      unfold Step.writes
      rw [List.filterMap_eq_nil_iff]
      intro s hs
      rw [(hidle s (List.takeWhile_subset _ hs)).2]
      rfl
    simp only [hwrites, Dict.writeAll_nil]
  · have hfailures : (Catalogue.builtins.trace record
        (tokens.map (Call.mk field))).filterMap Step.failure? = [] :=
      List.filterMap_eq_nil_iff.mpr fun s hs => (hidle s hs).1
    simp only [hfailures]
    cases (Catalogue.builtins.trace record (tokens.map (Call.mk field))).findSome?
        (Step.error? policy) with
    | some err => exact Or.inl ⟨err, rfl⟩
    | none => exact Or.inr rfl

/-- A token with the name of another field is judged by whether the record has that field. -/
theorem findsFault_iff {b : Builtin} (hb : b ∈ [requiredWith, requiredWithout]) (record : Record)
    (field : String) {other : String} (hother : other ≠ "") :
    FindsFault record field (b.name ++ ":" ++ other) ↔
      record.contains other = decide (b = requiredWith) ∧
        (Focus.mk record field).isEmpty = true := by
  have hjudge : Catalogue.builtins.judge? ⟨record, field⟩ (b.name ++ ":" ++ other) =
      some (b.validator.check ⟨record, field⟩ [other]) := by
    rcases List.mem_pair.mp hb with rfl | rfl
    · exact judge?_of_name rfl (by decide) _ other
    · exact judge?_of_name rfl (by decide) _ other
  have hargument : argument? [other] 0 = some other :=
    (argument?_eq_some_iff [other] 0 other).mpr ⟨rfl, hother⟩
  have hask : ∀ (asked : Bool) (text : String),
      (∃ message, (.ok (if (asked && (Focus.mk record field).isEmpty) = true then
        .fail text else .pass) : Except RuleError Verdict) = .ok (.fail message)) ↔
        asked = true ∧ (Focus.mk record field).isEmpty = true := by
    intro asked text
    rw [← Bool.and_eq_true_iff]
    by_cases hasked : (asked && (Focus.mk record field).isEmpty) = true
    · rw [if_pos hasked]
      exact iff_of_true ⟨text, rfl⟩ hasked
    · rw [if_neg hasked]
      exact iff_of_false (fun ⟨_, heq⟩ => nomatch heq) hasked
  unfold FindsFault
  rw [hjudge]
  simp only [Option.some.injEq]
  rcases List.mem_pair.mp hb with rfl | rfl
  · simp only [validator, checkRequiredWith, hargument, hask]
    simp
  · simp only [validator, checkRequiredWithout, hargument, hask]
    simp

section Other

variable {record : Record} {field other : String}

/-- Of the two conditions on another field, an empty field always fails exactly one. -/
theorem xor_findsFault (hempty : (Focus.mk record field).isEmpty = true) (hother : other ≠ "") :
    Xor (FindsFault record field ("requiredWith:" ++ other))
      (FindsFault record field ("requiredWithout:" ++ other)) := by
  have hwith := findsFault_iff (b := requiredWith) (by decide) record field hother
  have hwithout := findsFault_iff (b := requiredWithout) (by decide) record field hother
  rw [hempty] at hwith hwithout
  cases hcontains : record.contains other with
  | true =>
    rw [hcontains] at hwith hwithout
    exact Or.inl ⟨hwith.mpr (by decide), fun h => absurd (hwithout.mp h).1 (by decide)⟩
  | false =>
    rw [hcontains] at hwith hwithout
    exact Or.inr ⟨hwithout.mpr (by decide), fun h => absurd (hwith.mp h).1 (by decide)⟩

theorem not_findsFault_of_content (hcontent : (Focus.mk record field).isEmpty = false)
    (hother : other ≠ "") : ¬ FindsFault record field ("requiredWith:" ++ other) ∧
      ¬ FindsFault record field ("requiredWithout:" ++ other) := by
  have hwith := findsFault_iff (b := requiredWith) (by decide) record field hother
  have hwithout := findsFault_iff (b := requiredWithout) (by decide) record field hother
  rw [hcontent] at hwith hwithout
  exact ⟨fun h => absurd (hwith.mp h).2 (by decide), fun h => absurd (hwithout.mp h).2 (by decide)⟩

end Other

/-- What the field held at the start decides the kind of all its failures. -/
theorem report_of_one_kind {policy : Policy} {record : Record} {rules : RuleSet} {report : Report}
    {field : String} {failures : List Failure}
    (hok : (Engine.validate ⟨.builtins, policy⟩ record rules).result = .ok (some report))
    (hfind : report.find? field = some failures) :
    ((Focus.mk record field).isEmpty = true ∧ ∀ f ∈ failures, f.AsksForValue) ∨
      ((Focus.mk record field).isEmpty = false ∧ ∀ f ∈ failures, ¬ f.AsksForValue) := by
  have hanswer := Engine.find?_answer hok field
  rw [Option.bind_some, hfind] at hanswer
  have hkinds : ∀ f ∈ failures,
      (f.AsksForValue ∧ (Focus.mk record field).isEmpty = true) ∨
        (¬ f.AsksForValue ∧ (Focus.mk record field).isEmpty = false) := by
    intro f hf
    split at hanswer
    · cases hanswer
    · rw [Option.some.inj hanswer, Step.mem_failuresOf] at hf
      obtain ⟨s, hs, rfl, hfail⟩ := hf
      exact Catalogue.kind_of_failure? hs hfail
  cases hempty : (Focus.mk record field).isEmpty with
  | true =>
    refine Or.inl ⟨rfl, fun f hf => ?_⟩
    rcases hkinds f hf with ⟨hasks, -⟩ | ⟨-, hcontent⟩
    · exact hasks
    · rw [hempty] at hcontent
      cases hcontent
  | false =>
    refine Or.inr ⟨rfl, fun f hf => ?_⟩
    rcases hkinds f hf with ⟨-, hnone⟩ | ⟨hjudges, -⟩
    · rw [hempty] at hnone
      cases hnone
    · exact hjudges

/-- Over the built-ins a field fails for want of a value only while it is empty, and for its value
only while it is not. So the failures that a report lists for a field are all of the one kind or all
of the other; tokens that do not ask for a value have nothing to say of an empty field and leave the
record as it is; and an empty field fails either with another field or without it. -/
theorem presence_or_content (policy : Policy) :
    (∀ f : Focus, f.isEmpty = true ↔
      f.value? = none ∨ f.value? = some .null ∨ f.value? = some (.string "")) ∧
    (∀ b ∈ presenceChecks, ∀ f args message,
      b.validator.check f args = .ok (.fail message) → f.isEmpty = true) ∧
    (∀ b, b ∉ presenceChecks → ∀ f args verdict,
      b.validator.check f args = .ok verdict → verdict ≠ .pass → f.isEmpty = false) ∧
    (∀ record rules report field failures,
      (Engine.validate ⟨.builtins, policy⟩ record rules).result = .ok (some report) →
      report.find? field = some failures →
        ((Focus.mk record field).isEmpty = true ∧ ∀ f ∈ failures, f.AsksForValue) ∨
        ((Focus.mk record field).isEmpty = false ∧ ∀ f ∈ failures, ¬ f.AsksForValue)) ∧
    (∀ record field tokens, (Focus.mk record field).isEmpty = true →
      (∀ token ∈ tokens, ∀ b ∈ presenceChecks, b.name ≠ RuleToken.nameOf token) →
        (Engine.evaluate ⟨.builtins, policy⟩ field record tokens).record = record ∧
        ((∃ err, (Engine.evaluate ⟨.builtins, policy⟩ field record tokens).result = .error err) ∨
          (Engine.evaluate ⟨.builtins, policy⟩ field record tokens).result = .ok [])) ∧
    (∀ record field other, other ≠ "" →
      ((Focus.mk record field).isEmpty = true →
        Xor (FindsFault record field ("requiredWith:" ++ other))
          (FindsFault record field ("requiredWithout:" ++ other))) ∧
      ((Focus.mk record field).isEmpty = false →
        ¬ FindsFault record field ("requiredWith:" ++ other) ∧
          ¬ FindsFault record field ("requiredWithout:" ++ other))) := by
  refine ⟨Focus.isEmpty_iff, fun b hb f args message => isEmpty_of_presence hb, ?_, ?_,
    fun record field tokens => evaluate_of_isEmpty policy, ?_⟩
  · intro b hb f args verdict hcheck hverdict
    rw [← Bool.not_eq_true]
    intro hempty
    exact hverdict (passes_of_isEmpty hb hempty hcheck)
  · exact fun record rules report field failures hok hfind => report_of_one_kind hok hfind
  · intro record field other hother
    exact ⟨fun hempty => xor_findsFault hempty hother,
      fun hempty => not_findsFault_of_content hempty hother⟩

end FieldRules
