import FieldRules.Proofs.Report
import FieldRules.Proofs.Trace

/-!
Runs read off their traces. A run that goes through leaves the record with all writes of its steps
and collects their failures; one that is ended by an error stops before the first step that has one.
Validation puts the failures together field by field, and in case of an error gives back the record
that it was given. Main statements: `evaluate_eq_ofSteps`, `evaluateAll_eq_ofSteps`,
`validate_of_error` and `validate_of_no_error`.
-/
namespace FieldRules

namespace Run

variable {α β : Type}

/-- What steps leave behind; the answer stands unless one of them is an error. -/
def ofSteps (policy : Policy) (record : Record) (steps : List Step) (answer : α) : Run α where
  record := record.writeAll (Step.writes (Step.untilError policy steps))
  warnings := (Step.untilError policy steps).filterMap (Step.warning? policy)
  result := match steps.findSome? (Step.error? policy) with
    | some err => .error err
    | none => .ok answer

theorem ofSteps_cons_of_error {policy : Policy} {s : Step} {err : RuleError}
    (h : s.error? policy = some err) (record : Record) (rest : List Step) (answer : α) :
    ofSteps policy record (s :: rest) answer = ⟨record, [], .error err⟩ := by
  simp [ofSteps, Step.untilError, Step.writes, h]

def follow (policy : Policy) (s : Step) (r : Run (List Failure)) : Run (List Failure) where
  record := r.record
  warnings := (s.warning? policy).toList ++ r.warnings
  result := r.result.map (s.failure?.toList ++ ·)

theorem follow_ofSteps {policy : Policy} {s : Step} (h : s.error? policy = none)
    (rest : List Step) :
    follow policy s (ofSteps policy s.next rest (rest.filterMap Step.failure?)) =
      ofSteps policy s.record (s :: rest) ((s :: rest).filterMap Step.failure?) := by
  have hfirst : [s].findSome? (Step.error? policy) = none := by simp [h]
  have huntil : Step.untilError policy (s :: rest) = [s] ++ Step.untilError policy rest :=
    Step.untilError_append hfirst rest
  have hfailures : (s :: rest).filterMap Step.failure? =
      s.failure?.toList ++ rest.filterMap Step.failure? := by
    cases hf : s.failure? <;> simp [hf]
  have hwarnings : ((s :: Step.untilError policy rest).filterMap (Step.warning? policy)) =
      (s.warning? policy).toList ++ (Step.untilError policy rest).filterMap
        (Step.warning? policy) := by
    cases hw : s.warning? policy <;> simp [hw]
  unfold follow ofSteps
  rw [huntil, Step.writes_append, Dict.writeAll_append, ← Step.next_eq_writeAll,
    List.singleton_append, hwarnings, List.findSome?_cons, h, hfailures]
  cases rest.findSome? (Step.error? policy) <;> rfl

theorem map_ofSteps (f : α → β) (policy : Policy) (record : Record) (steps : List Step)
    (answer : α) : (ofSteps policy record steps answer).map f =
      ofSteps policy record steps (f answer) := by
  unfold ofSteps map
  cases steps.findSome? (Step.error? policy) <;> rfl

/-- Going on after a run is going on with its steps, unless it has ended. -/
theorem ofSteps_andThen {policy : Policy} {record : Record} {first second : List Step} {a : α}
    {b : β} {next : Record → α → Run β}
    (h : next (record.writeAll (Step.writes first)) a =
      ofSteps policy (record.writeAll (Step.writes first)) second b) :
    (ofSteps policy record first a).andThen next =
      ofSteps policy record (first ++ second) b := by
  cases herr : first.findSome? (Step.error? policy) with
  | some err =>
    unfold ofSteps andThen
    rw [Step.untilError_append_of_error herr, List.findSome?_append, herr]
    rfl
  | none =>
    have hright : ofSteps policy record (first ++ second) b =
        { ofSteps policy (record.writeAll (Step.writes first)) second b with
          warnings := first.filterMap (Step.warning? policy) ++
            (ofSteps policy (record.writeAll (Step.writes first)) second b).warnings } := by
      unfold ofSteps
      rw [Step.untilError_append herr, Step.writes_append, Dict.writeAll_append,
        List.filterMap_append, List.findSome?_append, herr]
      rfl
    rw [hright, ← h]
    unfold ofSteps andThen
    rw [Step.untilError_eq_self herr, herr]

end Run

namespace Catalogue

def findings (c : Catalogue) : Record → List (String × List String) →
    List (String × List Failure)
  | _, [] => []
  | record, (field, tokens) :: rest =>
    let calls := tokens.map (Call.mk field)
    (field, (c.trace record calls).filterMap Step.failure?) ::
      findings c (c.settle record calls) rest

theorem map_fst_findings (c : Catalogue) (record : Record) (l : List (String × List String)) :
    (c.findings record l).map (·.1) = l.map (·.1) := by
  induction l generalizing record with
  | nil => rfl
  | cons entry rest ih => exact congrArg (entry.1 :: ·) (ih _)

theorem trace_callsOf_cons (c : Catalogue) (record : Record) (field : String)
    (tokens : List String) (rest : List (String × List String)) :
    c.trace record (callsOf ((field, tokens) :: rest)) =
      c.trace record (tokens.map (Call.mk field)) ++
        c.trace (c.settle record (tokens.map (Call.mk field))) (callsOf rest) := by
  rw [callsOf_cons, trace_append]

/-- Field by field or token by token, the failures are the same. -/
theorem flatMap_findings (c : Catalogue) (record : Record) (l : List (String × List String)) :
    (c.findings record l).flatMap (·.2) =
      (c.trace record (callsOf l)).filterMap Step.failure? := by
  induction l generalizing record with
  | nil => rfl
  | cons entry rest ih =>
    obtain ⟨field, tokens⟩ := entry
    rw [trace_callsOf_cons, List.filterMap_append, findings, List.flatMap_cons, ih]

/-- The findings hold for a field what its steps found, wherever the steps stand. -/
theorem collected_findings (c : Catalogue) (record : Record) (l : List (String × List String))
    (field : String) : Report.collected (c.findings record l) field =
      Step.failuresOf field (c.trace record (callsOf l)) := by
  induction l generalizing record with
  | nil => rfl
  | cons entry rest ih =>
    obtain ⟨f, tokens⟩ := entry
    have hblock : ∀ s ∈ c.trace record (tokens.map (Call.mk f)), s.call.field = f :=
      fun s hs => field_of_mem_map (call_mem_of_mem_trace hs)
    rw [trace_callsOf_cons, findings]
    unfold Step.failuresOf Report.collected at *
    rw [List.filter_append, List.filterMap_append, ← ih, filter_of_forall_eq hblock]
    by_cases hf : f = field <;> simp [hf]

end Catalogue

namespace Engine

/-- Judging a token first is taking its step: an error ends the run, and otherwise the run goes on
with the record after the step. -/
theorem evaluate_cons (e : Engine) (field : String) (record : Record) (token : String)
    (rest : List String) :
    e.evaluate field record (token :: rest) =
      match (e.catalogue.step record ⟨field, token⟩).error? e.policy with
      | some err => ⟨record, [], .error err⟩
      | none => Run.follow e.policy (e.catalogue.step record ⟨field, token⟩)
          (e.evaluate field (e.catalogue.step record ⟨field, token⟩).next rest) := by
  have hself : ∀ r : Run (List Failure),
      (⟨r.record, r.warnings, r.result.map ([] ++ ·)⟩ : Run (List Failure)) = r := by
    rintro ⟨_, _, _ | _⟩ <;> rfl
  simp only [evaluate, Catalogue.step, Step.error?, Step.next, Step.write?, Step.failure?,
    Step.warning?, Step.name, Run.follow]
  cases e.catalogue.judge? ⟨record, field⟩ token with
  | none =>
    cases e.policy with
    | ignore => exact (hself _).symm
    | warn => exact congrArg (Run.warn _) (hself _).symm
    | error => rfl
  | some verdict =>
    cases verdict with
    | error err => rfl
    | ok verdict =>
      cases verdict with
      | pass => exact (hself _).symm
      | replace value => exact (hself _).symm
      | fail message =>
        obtain ⟨_, _, _ | _⟩ := e.evaluate field record rest <;> rfl

/-- Judging a field is taking the steps of its tokens. -/
theorem evaluate_eq_ofSteps (e : Engine) (field : String) (record : Record)
    (tokens : List String) :
    e.evaluate field record tokens =
      Run.ofSteps e.policy record (e.catalogue.trace record (tokens.map (Call.mk field)))
        ((e.catalogue.trace record (tokens.map (Call.mk field))).filterMap Step.failure?) := by
  induction tokens generalizing record with
  | nil => rfl
  | cons token rest ih =>
    rw [evaluate_cons, List.map_cons, Catalogue.trace]
    cases herr : (e.catalogue.step record ⟨field, token⟩).error? e.policy with
    | some err => rw [Run.ofSteps_cons_of_error herr]
    | none =>
      rw [ih]
      exact Run.follow_ofSteps herr _

/-- The answer for a field that no error stops are the failures of its steps. -/
theorem evaluate_result_eq_ok_iff (e : Engine) (field : String) (record : Record)
    (tokens : List String) (failures : List Failure) :
    (e.evaluate field record tokens).result = .ok failures ↔
      (e.catalogue.trace record (tokens.map (Call.mk field))).findSome?
          (Step.error? e.policy) = none ∧
        (e.catalogue.trace record (tokens.map (Call.mk field))).filterMap Step.failure? =
          failures := by
  rw [evaluate_eq_ofSteps]
  unfold Run.ofSteps
  cases herr : (e.catalogue.trace record (tokens.map (Call.mk field))).findSome?
      (Step.error? e.policy) with
  | some err => simp
  | none => simp

/-- Judging the fields is taking the steps of all their tokens. -/
theorem evaluateAll_eq_ofSteps (e : Engine) (record : Record)
    (l : List (String × List String)) :
    e.evaluateAll record l =
      Run.ofSteps e.policy record (e.catalogue.trace record (callsOf l))
        (e.catalogue.findings record l) := by
  induction l generalizing record with
  | nil => rfl
  | cons entry rest ih =>
    obtain ⟨field, tokens⟩ := entry
    rw [evaluateAll, evaluate_eq_ofSteps, Catalogue.trace_callsOf_cons]
    refine Run.ofSteps_andThen ?_
    rw [ih, Run.map_ofSteps]
    rfl

def steps (e : Engine) (record : Record) (rules : RuleSet) : List Step :=
  e.catalogue.trace record rules.calls

def firstError? (e : Engine) (record : Record) (rules : RuleSet) : Option RuleError :=
  (e.steps record rules).findSome? (Step.error? e.policy)

theorem validate_of_error {e : Engine} {record : Record} {rules : RuleSet} {err : RuleError}
    (h : e.firstError? record rules = some err) :
    (e.validate record rules).record = record ∧
      (e.validate record rules).result = .error err := by
  unfold firstError? steps RuleSet.calls at h
  unfold validate
  rw [evaluateAll_eq_ofSteps, Run.map_ofSteps]
  simp [Run.ofSteps, h]

theorem validate_of_no_error {e : Engine} {record : Record} {rules : RuleSet}
    (h : e.firstError? record rules = none) :
    (e.validate record rules).record =
        record.writeAll (Step.writes (e.steps record rules)) ∧
      (e.validate record rules).result =
        .ok (Report.ofList (e.catalogue.findings record rules.entries)).toOption := by
  unfold firstError? at h
  have huntil := Step.untilError_eq_self h
  unfold steps RuleSet.calls at *
  unfold validate
  rw [evaluateAll_eq_ofSteps, Run.map_ofSteps]
  simp [Run.ofSteps, h, huntil]

/-- The warnings are those of the steps before the first error. -/
theorem validate_warnings (e : Engine) (record : Record) (rules : RuleSet) :
    (e.validate record rules).warnings =
      (Step.untilError e.policy (e.steps record rules)).filterMap (Step.warning? e.policy) := by
  unfold validate
  rw [evaluateAll_eq_ofSteps, Run.map_ofSteps]
  simp only
  split <;> rfl

/-- Validation fails exactly with the first error among its steps. -/
theorem validate_error_iff (e : Engine) (record : Record) (rules : RuleSet) (err : RuleError) :
    (e.validate record rules).result = .error err ↔ e.firstError? record rules = some err := by
  constructor
  · intro hres
    cases herr : e.firstError? record rules with
    | some other =>
      rw [(validate_of_error herr).2] at hres
      rw [Except.error.inj hres]
    | none =>
      rw [(validate_of_no_error herr).2] at hres
      cases hres
  · exact fun h => (validate_of_error h).2

theorem no_error_of_validate_ok {e : Engine} {record : Record} {rules : RuleSet}
    {answer : Option Report} (h : (e.validate record rules).result = .ok answer) :
    e.firstError? record rules = none := by
  cases herr : e.firstError? record rules with
  | none => rfl
  | some err =>
    rw [(validate_of_error herr).2] at h
    cases h

/-- A validation that goes through leaves the record with all writes of its calls. -/
theorem record_of_validate_ok {e : Engine} {record : Record} {rules : RuleSet}
    {answer : Option Report} (h : (e.validate record rules).result = .ok answer) :
    (e.validate record rules).record = e.catalogue.settle record rules.calls :=
  (validate_of_no_error (no_error_of_validate_ok h)).1

/-- The result of a validation depends on the first error and on the failures of each field. -/
theorem result_congr {e e' : Engine} {record record' : Record} {rules rules' : RuleSet}
    (herror : e.firstError? record rules = e'.firstError? record' rules')
    (hfailures : ∀ field, Step.failuresOf field (e.steps record rules) =
      Step.failuresOf field (e'.steps record' rules')) :
    (e.validate record rules).result = (e'.validate record' rules').result := by
  cases herr : e.firstError? record rules with
  | some err =>
    rw [(validate_of_error herr).2, (validate_of_error (herror ▸ herr)).2]
  | none =>
    have hreport : Report.ofList (e.catalogue.findings record rules.entries) =
        Report.ofList (e'.catalogue.findings record' rules'.entries) := by
      apply Report.ofList_congr
      intro field
      rw [Catalogue.collected_findings, Catalogue.collected_findings]
      exact hfailures field
    rw [(validate_of_no_error herr).2, (validate_of_no_error (herror ▸ herr)).2, hreport]

/-- What is seen of the record after a validation depends on whether there is an error, on what was
seen before and on what the calls leave. -/
theorem record_congr {α : Type} (view : Record → α) {e e' : Engine} {record record' : Record}
    {rules rules' : RuleSet}
    (herror : e.firstError? record rules = e'.firstError? record' rules')
    (hbefore : view record = view record')
    (hsettle : view (e.catalogue.settle record rules.calls) =
      view (e'.catalogue.settle record' rules'.calls)) :
    view (e.validate record rules).record = view (e'.validate record' rules').record := by
  cases herr : e.firstError? record rules with
  | some err =>
    rw [(validate_of_error herr).1, (validate_of_error (herror ▸ herr)).1, hbefore]
  | none =>
    rw [(validate_of_no_error herr).1, (validate_of_no_error (herror ▸ herr)).1]
    exact hsettle

end Engine

end FieldRules
