import FieldRules.Proofs.Run

/-!
What a report says. When validation goes through, the report lists a field exactly if one of its
tokens fails, with one entry for each failing token in the order of the tokens, whatever passes, is
replaced or is skipped in between. Main statement: `validate_report`.
-/
namespace FieldRules

/-- Steps that are the tokens of a rule set, in ascending order of the fields and within a field in
the order of the tokens, each judged on the record that all steps before it left. -/
structure StepsOf (c : Catalogue) (record : Record) (rules : RuleSet) (steps : List Step) :
    Prop where
  calls_eq : steps.map Step.call = rules.calls
  ascending : steps.Pairwise fun s t => s.call.field ≤ t.call.field
  tokens_eq : ∀ field, (steps.filter fun s => s.call.field = field).map (fun s => s.call.token) =
    (rules.find? field).getD []
  judged : ∀ before s after, steps = before ++ s :: after →
    s.record = record.writeAll (Step.writes before) ∧
      s.verdict? = c.judge? ⟨s.record, s.call.field⟩ s.call.token

/-- The steps of an engine are its rules in order, each judged on what the steps before it left. -/
theorem Engine.steps_stepsOf (e : Engine) (record : Record) (rules : RuleSet) :
    StepsOf e.catalogue record rules (e.steps record rules) where
  calls_eq := Catalogue.map_call_trace e.catalogue record rules.calls
  ascending := by
    have hcalls := rules.calls_ascending
    rw [← Catalogue.map_call_trace e.catalogue record rules.calls, List.pairwise_map] at hcalls
    exact hcalls
  tokens_eq field := by
    have hfilter := rules.filter_calls field
    rw [← Catalogue.map_call_trace e.catalogue record rules.calls, List.filter_map] at hfilter
    have htokens := congrArg (List.map Call.token) hfilter
    rw [List.map_map, List.map_map] at htokens
    simpa [steps, Function.comp_def] using htokens
  judged before s after h := by
    have hs := Catalogue.step_of_trace_split h
    have hrecord : s.record = record.writeAll (Step.writes before) := congrArg Step.record hs
    refine ⟨hrecord, ?_⟩
    rw [hrecord]
    exact congrArg Step.verdict? hs

/-- A step fails exactly if a validator with the name of its token finds fault. -/
theorem Catalogue.failure?_step_iff (c : Catalogue) (record : Record) (call : Call)
    (f : Failure) : (c.step record call).failure? = some f ↔
      f.kind = RuleToken.nameOf call.token ∧ ∃ v, c.find? (RuleToken.nameOf call.token) = some v ∧
        v.check ⟨record, call.field⟩ (RuleToken.ofText v.maxArgs call.token).args =
          .ok (.fail f.message) := by
  rw [Step.failure?_eq_some_iff]
  exact and_congr_right fun _ =>
    c.judge?_eq_some_iff ⟨record, call.field⟩ call.token (.ok (.fail f.message))

theorem Step.mem_failuresOf {field : String} {steps : List Step} {f : Failure} :
    f ∈ Step.failuresOf field steps ↔
      ∃ s ∈ steps, s.call.field = field ∧ s.failure? = some f := by
  simp [Step.failuresOf, and_assoc]

theorem Step.failuresOf_eq_nil_iff {field : String} {steps : List Step} :
    Step.failuresOf field steps = [] ↔
      ∀ s ∈ steps, s.call.field = field → s.failure? = none := by
  rw [List.eq_nil_iff_forall_not_mem]
  simp only [Step.mem_failuresOf]
  constructor
  · intro h s hs hf
    cases hfail : s.failure? with
    | none => rfl
    | some f => exact absurd ⟨s, hs, hf, hfail⟩ (h f)
  · rintro h f ⟨s, hs, hf, hfail⟩
    rw [h s hs hf] at hfail
    cases hfail

namespace Engine

variable {e : Engine} {record : Record} {rules : RuleSet} {answer : Option Report}

/-- The answer collects the failures of the fields in their order, and is none if there are none. -/
theorem answer_eq (h : (e.validate record rules).result = .ok answer) :
    answer = (Report.ofList (e.catalogue.findings record rules.entries)).toOption := by
  have hres := (validate_of_no_error (no_error_of_validate_ok h)).2
  rw [h] at hres
  exact Except.ok.inj hres

/-- An overall pass answers for every field like the empty report. -/
theorem find?_answer (h : (e.validate record rules).result = .ok answer) (field : String) :
    answer.bind (·.find? field) =
      if Step.failuresOf field (e.steps record rules) = [] then none
      else some (Step.failuresOf field (e.steps record rules)) := by
  have hfind := Report.find?_ofList (e.catalogue.findings record rules.entries) field
  rw [Catalogue.collected_findings] at hfind
  rw [answer_eq h]
  cases hopt : (Report.ofList (e.catalogue.findings record rules.entries)).toOption with
  | none =>
    rw [(Report.toOption_eq_none_iff _).mp hopt field] at hfind
    exact hfind
  | some report =>
    rw [Report.toOption_eq_some hopt]
    exact hfind

theorem answer_eq_none_iff (h : (e.validate record rules).result = .ok answer) :
    answer = none ↔ ∀ s ∈ e.steps record rules, s.failure? = none := by
  rw [answer_eq h, Report.toOption_eq_none_iff]
  simp only [Report.find?_ofList, Catalogue.collected_findings, ite_eq_left_iff,
    reduceCtorEq, imp_false, not_not]
  constructor
  · intro hall s hs
    exact Step.failuresOf_eq_nil_iff.mp (hall s.call.field) s hs rfl
  · intro hall field
    exact Step.failuresOf_eq_nil_iff.mpr fun s hs _ => hall s hs

theorem field_mem_keys {s : Step} (hs : s ∈ e.steps record rules) : s.call.field ∈ rules.keys := by
  obtain ⟨tokens, htokens, -⟩ := (rules.mem_calls s.call).mp (Catalogue.call_mem_of_mem_trace hs)
  exact (Dict.mem_keys_iff rules _).mpr ⟨tokens, htokens⟩

/-- The bounds of a report: no more fields than the rules have, no more failures than tokens. -/
theorem report_bounds {report : Report}
    (h : (e.validate record rules).result = .ok (some report)) :
    (∀ entry ∈ report.toList, entry.2 ≠ []) ∧ report.size ≤ rules.size ∧
      report.failureCount ≤ rules.calls.length := by
  have hreport := Report.toOption_eq_some (answer_eq h).symm
  refine ⟨?_, ?_, ?_⟩
  · rintro ⟨field, failures⟩ hmem rfl
    have hsolid : report.Solid := hreport ▸ Report.ofList_solid _
    exact hsolid field ((Dict.mem_entries_iff _ _ _).mp hmem)
  · have hlen := congrArg List.length
      (Catalogue.map_fst_findings e.catalogue record rules.entries)
    rw [List.length_map, List.length_map] at hlen
    rw [hreport]
    exact (Report.size_ofList_le _).trans (Nat.le_of_eq hlen)
  · rw [hreport, Report.failureCount_ofList, Catalogue.flatMap_findings]
    have hlen := congrArg List.length
      (Catalogue.map_call_trace e.catalogue record rules.calls)
    rw [List.length_map] at hlen
    exact hlen ▸ List.length_filterMap_le _ _

/-- When validation goes through, the steps of its tokens decide the report. A field is listed if
and only if one of its tokens fails, with the failures in the order of the tokens. -/
theorem validate_report (h : (e.validate record rules).result = .ok answer) :
    StepsOf e.catalogue record rules (e.steps record rules) ∧
    (∀ s ∈ e.steps record rules, ∀ f, s.failure? = some f ↔
      f.kind = RuleToken.nameOf s.call.token ∧
        ∃ v, e.catalogue.find? (RuleToken.nameOf s.call.token) = some v ∧
          v.check ⟨s.record, s.call.field⟩ (RuleToken.ofText v.maxArgs s.call.token).args =
            .ok (.fail f.message)) ∧
    (∀ field, answer.bind (·.find? field) =
      if Step.failuresOf field (e.steps record rules) = [] then none
      else some (Step.failuresOf field (e.steps record rules))) ∧
    (∀ field, answer.any (·.contains field) = true ↔
      field ∈ rules.keys ∧
        ∃ s ∈ e.steps record rules, s.call.field = field ∧ s.failure? ≠ none) ∧
    (answer = none ↔ ∀ s ∈ e.steps record rules, s.failure? = none) ∧
    (∀ report, answer = some report →
      (∀ entry ∈ report.toList, entry.2 ≠ []) ∧ report.size ≤ rules.size ∧
        report.failureCount ≤ rules.calls.length) := by
  refine ⟨steps_stepsOf e record rules, ?_, find?_answer h, ?_, answer_eq_none_iff h, ?_⟩
  · intro s hs f
    have hiff := Catalogue.failure?_step_iff e.catalogue s.record s.call f
    rw [← Catalogue.eq_step_of_mem_trace hs] at hiff
    exact hiff
  · intro field
    have hcontains : answer.any (·.contains field) = (answer.bind (·.find? field)).isSome := by
      cases answer <;> rfl
    rw [hcontains, find?_answer h]
    constructor
    · intro hsome
      have hne : Step.failuresOf field (e.steps record rules) ≠ [] := by
        intro hnil
        simp [hnil] at hsome
      obtain ⟨f, hf⟩ := List.exists_mem_of_ne_nil _ hne
      obtain ⟨s, hs, rfl, hfail⟩ := Step.mem_failuresOf.mp hf
      exact ⟨field_mem_keys hs, s, hs, rfl, by simp [hfail]⟩
    · rintro ⟨-, s, hs, rfl, hfail⟩
      have hne : Step.failuresOf s.call.field (e.steps record rules) ≠ [] := by
        intro hnil
        exact hfail (Step.failuresOf_eq_nil_iff.mp hnil s hs rfl)
      simp [hne]
  · rintro report rfl
    exact report_bounds h

/-- The sibling is compared with what was put in the place of the field before it, twice. -/
theorem validate_report_of_replaced_sibling :
    (standard.validate (.ofList [("a", .string "TRUE"), ("b", .string "TRUE")])
        (.ofList [("a", ["bool"]), ("b", ["sameAs:a", "unheard:of", "sameAs:a"])])).result =
      .ok (some (.ofList [("b", [⟨"sameAs", "Field `b` must match field a."⟩,
        ⟨"sameAs", "Field `b` must match field a."⟩])])) ∧
    Step.failuresOf "b" (standard.steps (.ofList [("a", .string "TRUE"), ("b", .string "TRUE")])
        (.ofList [("a", ["bool"]), ("b", ["sameAs:a", "unheard:of", "sameAs:a"])])) ≠ [] := by
  have h : (standard.validate (.ofList [("a", .string "TRUE"), ("b", .string "TRUE")])
        (.ofList [("a", ["bool"]), ("b", ["sameAs:a", "unheard:of", "sameAs:a"])])).result =
      .ok (some (.ofList [("b", [⟨"sameAs", "Field `b` must match field a."⟩,
        ⟨"sameAs", "Field `b` must match field a."⟩])])) := by decide
  refine ⟨h, fun hnil => ?_⟩
  have hfind := (validate_report h).2.2.1 "b"
  rw [if_pos hnil] at hfind
  exact absurd hfind (by decide)

end Engine

end FieldRules
