import FieldRules.Proofs.Footprint
import FieldRules.Proofs.ReportContents
import FieldRules.Proofs.RuleOrder
import FieldRules.Proofs.Settlement

/-!
Fields by themselves. The tokens of a field are judged on a record in which only fields before it
may have become truth values. Unless they compare with such a field, they find what they would find
on the original record; tokens that depend on the presence of another field always do. Fields after
a field have no influence on it at all. Main statement: `validate_fields_independent`.
-/
namespace FieldRules

open Builtin

namespace RuleSet

/-- The calls of the fields before a field come before its own, and all others after them. -/
theorem calls_split {rules : RuleSet} {field : String} {tokens : List String}
    (h : rules.find? field = some tokens) :
    ∃ above, rules.calls = RuleSet.calls (rules.below field) ++
        (tokens.map (Call.mk field) ++ callsOf above) ∧
      ∀ e ∈ above, field < e.1 := by
  obtain ⟨above, hsplit, habove⟩ := Dict.entries_split h
  refine ⟨above, ?_, habove⟩
  unfold calls callsOf
  rw [hsplit, List.flatMap_append, List.flatMap_cons]

theorem field_lt_of_mem_calls_below {rules : RuleSet} {field : String} {c : Call}
    (h : c ∈ RuleSet.calls (rules.below field)) : c.field < field := by
  obtain ⟨tokens, htokens, -⟩ := (mem_calls (rules.below field) c).mp h
  rw [Dict.find?_below] at htokens
  by_contra hnot
  rw [if_neg hnot] at htokens
  cases htokens

theorem hasBool_of_below {rules : RuleSet} {field key : String}
    (h : RuleSet.HasBool (rules.below field) key) : key < field ∧ rules.HasBool key := by
  obtain ⟨tokens, htokens, hbool⟩ := h
  rw [Dict.find?_below] at htokens
  by_cases hkey : key < field
  · rw [if_pos hkey] at htokens
    exact ⟨hkey, tokens, htokens, hbool⟩
  · rw [if_neg hkey] at htokens
    cases htokens

end RuleSet

namespace Step

theorem failuresOf_append (field : String) (first second : List Step) :
    failuresOf field (first ++ second) = failuresOf field first ++ failuresOf field second := by
  unfold failuresOf
  rw [List.filter_append, List.filterMap_append]

end Step

namespace Catalogue

variable (c : Catalogue) (record : Record) (field : String)

theorem failuresOf_trace_of_ne {calls : List Call} (h : ∀ d ∈ calls, d.field ≠ field) :
    Step.failuresOf field (c.trace record calls) = [] := by
  rw [Step.failuresOf_eq_nil_iff]
  intro s hs hfield
  exact absurd hfield (h s.call (call_mem_of_mem_trace hs))

theorem failuresOf_trace_of_eq (tokens : List String) :
    Step.failuresOf field (c.trace record (tokens.map (Call.mk field))) =
      (c.trace record (tokens.map (Call.mk field))).filterMap Step.failure? := by
  unfold Step.failuresOf
  rw [List.filter_eq_self.mpr]
  intro s hs
  exact decide_eq_true (field_of_mem_map (call_mem_of_mem_trace hs))

end Catalogue

namespace Engine

/-- The failures of a field are those that its tokens find on the record that the fields before it
leave. -/
theorem failuresOf_steps (e : Engine) (record : Record) {rules : RuleSet} {field : String}
    {tokens : List String} (h : rules.find? field = some tokens) :
    Step.failuresOf field (e.steps record rules) =
      (e.catalogue.trace (e.catalogue.settle record (RuleSet.calls (rules.below field)))
        (tokens.map (Call.mk field))).filterMap Step.failure? := by
  obtain ⟨above, hcalls, habove⟩ := RuleSet.calls_split h
  have hbefore : ∀ d ∈ RuleSet.calls (rules.below field), d.field ≠ field := fun d hd =>
    ne_of_lt (RuleSet.field_lt_of_mem_calls_below hd)
  have hafter : ∀ d ∈ callsOf above, d.field ≠ field := by
    intro d hd
    obtain ⟨others, hmem, -⟩ := mem_callsOf.mp hd
    exact ne_of_gt (habove _ hmem)
  unfold steps
  rw [hcalls, Catalogue.trace_append, Catalogue.trace_append, Step.failuresOf_append,
    Step.failuresOf_append, Catalogue.failuresOf_trace_of_ne _ _ _ hbefore,
    Catalogue.failuresOf_trace_of_ne _ _ _ hafter, Catalogue.failuresOf_trace_of_eq,
    List.nil_append, List.append_nil]

/-- A field without rules has no failures. -/
theorem failuresOf_steps_of_none (e : Engine) (record : Record) {rules : RuleSet} {field : String}
    (h : rules.find? field = none) : Step.failuresOf field (e.steps record rules) = [] := by
  refine Catalogue.failuresOf_trace_of_ne _ _ _ ?_
  rintro d hd rfl
  obtain ⟨tokens, htokens, -⟩ := (rules.mem_calls d).mp hd
  rw [h] at htokens
  cases htokens

/-- The failures of a field depend on its rules and on those of the fields before it. -/
theorem failuresOf_steps_congr (e : Engine) (record : Record) {rules rules' : RuleSet}
    {field : String} (h : ∀ key, key ≤ field → rules'.find? key = rules.find? key) :
    Step.failuresOf field (e.steps record rules') =
      Step.failuresOf field (e.steps record rules) := by
  have hfield := h field le_rfl
  cases htokens : rules.find? field with
  | none =>
    rw [htokens] at hfield
    rw [failuresOf_steps_of_none e record htokens, failuresOf_steps_of_none e record hfield]
  | some tokens =>
    have hbelow : rules'.below field = rules.below field := by
      apply Dict.ext_find?
      intro key
      rw [Dict.find?_below, Dict.find?_below]
      by_cases hkey : key < field
      · rw [if_pos hkey, if_pos hkey, h key (le_of_lt hkey)]
      · rw [if_neg hkey, if_neg hkey]
    rw [htokens] at hfield
    rw [failuresOf_steps e record htokens, failuresOf_steps e record hfield, hbelow]

end Engine

/-- Fields that have no token for truth values before the field are found as they were. -/
theorem find?_settle_below (record : Record) (rules : RuleSet) {field key : String}
    (h : key < field → ¬ rules.HasBool key) :
    (Catalogue.builtins.settle record (RuleSet.calls (rules.below field))).find? key =
      record.find? key := by
  rw [Catalogue.find?_settle_builtins, if_neg]
  rw [normalizes_calls_iff (rules.below field)]
  intro hbool
  obtain ⟨hlt, hhas⟩ := RuleSet.hasBool_of_below hbool
  exact h hlt hhas

/-- Tokens that compare with no field before theirs that may have become a truth value find the same
on the original record. -/
theorem failuresInOrder_settle_below (record : Record) {rules : RuleSet} {field : String}
    {tokens : List String}
    (h : ∀ token ∈ tokens, ∀ other, (Call.mk field token).Compares other → other < field →
      ¬ rules.HasBool other) :
    failuresInOrder (Catalogue.builtins.settle record (RuleSet.calls (rules.below field))) field
      tokens = failuresInOrder record field tokens := by
  have halike : Alike
      (fun key => key = field ∨ ∃ token ∈ tokens, (Call.mk field token).Compares key)
      (fun _ => True)
      (Catalogue.builtins.settle record (RuleSet.calls (rules.below field))) record := by
    refine ⟨?_, fun key _ => Catalogue.contains_settle_builtins record _ key⟩
    rintro key (rfl | ⟨token, htoken, hcompares⟩)
    · exact find?_settle_below record rules fun hlt => absurd hlt (lt_irrefl key)
    · exact find?_settle_below record rules (h token htoken key hcompares)
  have hwithin : ∀ d ∈ tokens.map (Call.mk field), d.Within
      (fun key => key = field ∨ ∃ token ∈ tokens, (Call.mk field token).Compares key)
      (fun _ => True) := by
    intro d hd
    obtain ⟨token, htoken, rfl⟩ := List.mem_map.mp hd
    exact ⟨Or.inl rfl, fun key hkey => Or.inr ⟨token, htoken, hkey⟩, fun _ _ => trivial⟩
  obtain ⟨htrace, -⟩ := Catalogue.trace_congr halike hwithin
  unfold failuresInOrder
  rw [← Step.failures_map_ruling, htrace, Step.failures_map_ruling]

/-- What depends on the presence of another field is judged as on the original record. -/
theorem verdict?_of_presence {record : Record} {calls : List Call} {s : Step}
    (hs : s ∈ Catalogue.builtins.trace record calls) {b : Builtin}
    (hb : b ∈ [requiredWith, requiredWithout]) (hname : b.name = RuleToken.nameOf s.call.token) :
    s.verdict? = Catalogue.builtins.judge? ⟨record, s.call.field⟩ s.call.token := by
  obtain ⟨first, hfirst⟩ := Catalogue.exists_settle_of_mem_trace hs
  have hverdict : s.verdict? =
      Catalogue.builtins.judge? ⟨s.record, s.call.field⟩ s.call.token :=
    congrArg Step.verdict? (Catalogue.eq_step_of_mem_trace hs)
  rw [hverdict, hfirst, Catalogue.judge?_builtins, Catalogue.judge?_builtins,
    (ofName?_eq_some_iff _ b).mpr hname]
  refine congrArg some (check_congr_of_presence hb ?_ ?_)
  · exact Catalogue.isEmpty_settle_builtins record first s.call.field
  · intro other _
    exact Catalogue.contains_settle_builtins record first other

/-- A field whose tokens compare with no field before it that has a token for truth values gets the
failures that it gets by itself on the original record. What depends on the presence of another
field is always judged as on the original record, and rules of later fields make no difference. -/
theorem validate_fields_independent (policy : Policy) (record : Record) (rules : RuleSet)
    (answer : Option Report)
    (h : (Engine.validate ⟨.builtins, policy⟩ record rules).result = .ok answer) :
    (∀ field tokens, rules.find? field = some tokens →
      (∀ token ∈ tokens, ∀ other, (Call.mk field token).Compares other → other < field →
        ¬ rules.HasBool other) →
      ∃ failures,
        (Engine.evaluate ⟨.builtins, policy⟩ field record tokens).result = .ok failures ∧
        answer.bind (·.find? field) = if failures = [] then none else some failures) ∧
    (∀ s ∈ Engine.steps ⟨.builtins, policy⟩ record rules,
      ∀ b ∈ [requiredWith, requiredWithout], b.name = RuleToken.nameOf s.call.token →
        s.verdict? = Catalogue.builtins.judge? ⟨record, s.call.field⟩ s.call.token) ∧
    (∀ rules' answer' field, (∀ key, key ≤ field → rules'.find? key = rules.find? key) →
      (Engine.validate ⟨.builtins, policy⟩ record rules').result = .ok answer' →
        answer'.bind (·.find? field) = answer.bind (·.find? field)) := by
  refine ⟨?_, fun s hs b hb hname => verdict?_of_presence hs hb hname, ?_⟩
  · intro field tokens htokens hfree
    refine ⟨failuresInOrder record field tokens, ?_, ?_⟩
    · rw [evaluate_builtins_result_iff]
      refine ⟨fun token htoken => ?_, rfl⟩
      have hnone := Engine.no_error_of_validate_ok h
      rw [Engine.firstError?_builtins, List.findSome?_eq_none_iff] at hnone
      exact hnone _ ((rules.mem_calls ⟨field, token⟩).mpr ⟨tokens, htokens, htoken⟩)
    · rw [Engine.find?_answer h, Engine.failuresOf_steps _ record htokens,
        ← failuresInOrder_settle_below record hfree]
      rfl
  · intro rules' answer' field hsame hok
    rw [Engine.find?_answer h, Engine.find?_answer hok,
      Engine.failuresOf_steps_congr _ record hsame]

/-- The sibling is still a text when the field is compared with it, and else it stays out of it. -/
theorem validate_fields_independent_of_later_sibling :
    (Engine.validate ⟨.builtins, .ignore⟩
        (.ofList [("a", .string "1"), ("b", .string "true"), ("c", .string "TRUE")])
        (.ofList [("a", ["bool"]), ("b", ["requiredWith:a", "sameAs:c"]),
          ("c", ["bool"])])).result =
      .ok (some (.ofList [("b", [⟨"sameAs", "Field `b` must match field c."⟩])])) ∧
    (Engine.evaluate ⟨.builtins, .ignore⟩ "b"
        (.ofList [("a", .string "1"), ("b", .string "true"), ("c", .string "TRUE")])
        ["requiredWith:a", "sameAs:c"]).result =
      .ok [⟨"sameAs", "Field `b` must match field c."⟩] := by
  have h : (Engine.validate ⟨.builtins, .ignore⟩
        (.ofList [("a", .string "1"), ("b", .string "true"), ("c", .string "TRUE")])
        (.ofList [("a", ["bool"]), ("b", ["requiredWith:a", "sameAs:c"]),
          ("c", ["bool"])])).result =
      .ok (some (.ofList [("b", [⟨"sameAs", "Field `b` must match field c."⟩])])) := by
    decide +kernel
  have hnamed : ∀ token ∈ ["requiredWith:a", "sameAs:c"], ∀ b ∈ [sameAs, different],
      b.name = RuleToken.nameOf token → (b.arguments token)[0]? = some "c" := by decide
  have hfree : ∀ token ∈ ["requiredWith:a", "sameAs:c"], ∀ other,
      (Call.mk "b" token).Compares other → other < "b" → ¬ RuleSet.HasBool
        (.ofList [("a", ["bool"]), ("b", ["requiredWith:a", "sameAs:c"]), ("c", ["bool"])])
        other := by
    rintro token htoken other ⟨b, hb, hcalled, hother⟩ hlt
    rw [hnamed token htoken b hb hcalled] at hother
    cases hother
    exact absurd hlt (by decide)
  obtain ⟨failures, hok, hentries⟩ := (validate_fields_independent _ _ _ _ h).1 "b" _ rfl hfree
  have hfound : (some (Report.ofList
      [("b", [⟨"sameAs", "Field `b` must match field c."⟩])])).bind (·.find? "b") =
        some [⟨"sameAs", "Field `b` must match field c."⟩] := by decide
  refine ⟨h, ?_⟩
  rw [hfound] at hentries
  by_cases hnil : failures = []
  · rw [if_pos hnil] at hentries
    cases hentries
  · rw [if_neg hnil] at hentries
    rw [hok, Option.some.inj hentries]

end FieldRules
