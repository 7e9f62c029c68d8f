import FieldRules.Engine
import FieldRules.Proofs.Dict
import Mathlib.Data.List.TakeWhile

/-!
Traces of runs. A rule set is a list of calls of tokens on their fields, in ascending order of the
fields and within a field in the order of the tokens. The trace of a list of calls are the steps
that the calls take, each judged on the record that all steps before it left; a step with an error
changes nothing. The trace does not depend on the policy: this only decides which steps are errors,
and an error has no influence on the steps before it.
-/
namespace FieldRules

structure Call where
  field : String
  token : String
deriving DecidableEq

def callsOf (l : List (String × List String)) : List Call :=
  l.flatMap fun e => e.2.map (Call.mk e.1)

def RuleSet.calls (rules : RuleSet) : List Call := callsOf rules.entries

theorem mem_callsOf {l : List (String × List String)} {c : Call} :
    c ∈ callsOf l ↔ ∃ tokens, (c.field, tokens) ∈ l ∧ c.token ∈ tokens := by
  unfold callsOf
  rw [List.mem_flatMap]
  constructor
  · rintro ⟨⟨field, tokens⟩, hmem, hc⟩
    obtain ⟨token, htoken, rfl⟩ := List.mem_map.mp hc
    exact ⟨tokens, hmem, htoken⟩
  · rintro ⟨tokens, hmem, htoken⟩
    exact ⟨(c.field, tokens), hmem, List.mem_map.mpr ⟨c.token, htoken, rfl⟩⟩

theorem callsOf_cons (field : String) (tokens : List String)
    (rest : List (String × List String)) :
    callsOf ((field, tokens) :: rest) = tokens.map (Call.mk field) ++ callsOf rest :=
  List.flatMap_cons

/-- Where all entries have one key, asking for a key keeps all of them or none. -/
theorem filter_of_forall_eq {α : Type} {f : α → String} {l : List α} {k : String}
    (h : ∀ a ∈ l, f a = k) (key : String) :
    l.filter (fun a => f a = key) = if k = key then l else [] := by
  by_cases hk : k = key
  · rw [if_pos hk, List.filter_eq_self]
    intro a ha
    simpa [hk] using h a ha
  · rw [if_neg hk, List.filter_eq_nil_iff]
    intro a ha
    simpa [h a ha] using hk

theorem field_of_mem_map {field : String} {tokens : List String} {c : Call}
    (h : c ∈ tokens.map (Call.mk field)) : c.field = field := by
  obtain ⟨token, -, rfl⟩ := List.mem_map.mp h
  rfl

theorem filter_callsOf (l : List (String × List String)) (field : String) :
    (callsOf l).filter (fun c => c.field = field) =
      (Dict.valuesAt field l).flatten.map (Call.mk field) := by
  induction l with
  | nil => rfl
  | cons entry rest ih =>
    obtain ⟨f, tokens⟩ := entry
    rw [callsOf_cons, List.filter_append, ih, filter_of_forall_eq fun c => field_of_mem_map]
    by_cases hf : f = field <;> simp [Dict.valuesAt, hf]

namespace RuleSet

theorem mem_calls (rules : RuleSet) (c : Call) :
    c ∈ rules.calls ↔ ∃ tokens, rules.find? c.field = some tokens ∧ c.token ∈ tokens := by
  unfold calls
  simp only [mem_callsOf, Dict.mem_entries_iff]

theorem calls_ascending (rules : RuleSet) :
    rules.calls.Pairwise fun a b => a.field ≤ b.field := by
  unfold calls callsOf
  rw [List.pairwise_flatMap]
  constructor
  · intro entry _
    refine List.pairwise_of_forall_mem_list fun a ha b hb => ?_
    rw [field_of_mem_map ha, field_of_mem_map hb]
  · refine rules.ascending.imp fun {first second} hlt a ha b hb => ?_
    rw [field_of_mem_map ha, field_of_mem_map hb]
    exact le_of_lt hlt

/-- The calls of a field are its tokens, in their order. -/
theorem filter_calls (rules : RuleSet) (field : String) :
    rules.calls.filter (fun c => c.field = field) =
      ((rules.find? field).getD []).map (Call.mk field) := by
  unfold calls
  rw [filter_callsOf, Dict.valuesAt_entries]
  cases rules.find? field <;> simp

end RuleSet

/-- A call, the record that it found, and the verdict; there is none if no validator has the name of
the token. -/
structure Step where
  call : Call
  record : Record
  verdict? : Option (Except RuleError Verdict)

namespace Step

def name (s : Step) : String := RuleToken.nameOf s.call.token

def write? (s : Step) : Option Value :=
  match s.verdict? with
  | some (.ok (.replace value)) => some value
  | _ => none

def failure? (s : Step) : Option Failure :=
  match s.verdict? with
  | some (.ok (.fail message)) => some ⟨s.name, message⟩
  | _ => none

def error? (policy : Policy) (s : Step) : Option RuleError :=
  match s.verdict? with
  | none => if policy = .error then some (.unknownValidator s.name s.call.field) else none
  | some (.error err) => some err
  | some (.ok _) => none

def warning? (policy : Policy) (s : Step) : Option Warning :=
  match s.verdict? with
  | none => if policy = .warn then some ⟨s.name, s.call.field⟩ else none
  | some _ => none

def next (s : Step) : Record :=
  match s.write? with
  | some value => s.record.insert s.call.field value
  | none => s.record

theorem write?_eq_some_iff (s : Step) (value : Value) :
    s.write? = some value ↔ s.verdict? = some (.ok (.replace value)) := by
  unfold write?
  split <;> simp_all

theorem failure?_eq_some_iff (s : Step) (f : Failure) :
    s.failure? = some f ↔ f.kind = s.name ∧ s.verdict? = some (.ok (.fail f.message)) := by
  obtain ⟨kind, message⟩ := f
  unfold failure?
  split <;> simp_all [eq_comm]

def writes (steps : List Step) : List (String × Value) :=
  steps.filterMap fun s => s.write?.map (s.call.field, ·)

def writesTo (field : String) (steps : List Step) : List Value :=
  (steps.filter fun s => s.call.field = field).filterMap write?

def failuresOf (field : String) (steps : List Step) : List Failure :=
  (steps.filter fun s => s.call.field = field).filterMap failure?

def untilError (policy : Policy) (steps : List Step) : List Step :=
  steps.takeWhile fun s => (s.error? policy).isNone

/-- What a step decides: all of it but the record that it found. -/
def ruling (s : Step) : Step := { s with record := .empty }

theorem failuresOf_map_ruling (field : String) (steps : List Step) :
    failuresOf field (steps.map ruling) = failuresOf field steps := by
  unfold failuresOf
  rw [List.filter_map, List.filterMap_map]
  rfl

theorem failures_map_ruling (steps : List Step) :
    (steps.map ruling).filterMap failure? = steps.filterMap failure? := by
  rw [List.filterMap_map]
  rfl

theorem warnings_map_ruling (policy : Policy) (steps : List Step) :
    (untilError policy (steps.map ruling)).filterMap (warning? policy) =
      (untilError policy steps).filterMap (warning? policy) := by
  unfold untilError
  rw [List.takeWhile_map, List.filterMap_map]
  rfl

theorem writes_append (first second : List Step) :
    writes (first ++ second) = writes first ++ writes second := List.filterMap_append

theorem next_eq_writeAll (s : Step) : s.next = s.record.writeAll (writes [s]) := by
  unfold next writes
  cases h : s.write? <;> simp [h]

theorem valuesAt_writes (field : String) (steps : List Step) :
    Dict.valuesAt field (writes steps) = writesTo field steps := by
  induction steps with
  | nil => rfl
  | cons s rest ih =>
    unfold Dict.valuesAt writes writesTo at *
    by_cases hf : s.call.field = field
    · cases hw : s.write? <;> simp [hf, hw, ih]
    · cases hw : s.write? <;> simp [hf, hw, ih]

theorem mem_writesTo {field : String} {steps : List Step} {value : Value} :
    value ∈ writesTo field steps ↔
      ∃ s ∈ steps, s.call.field = field ∧ s.write? = some value := by
  simp [writesTo, and_assoc]

theorem untilError_eq_self {policy : Policy} {steps : List Step}
    (h : steps.findSome? (error? policy) = none) : untilError policy steps = steps := by
  unfold untilError
  rw [List.takeWhile_eq_self_iff]
  intro s hs
  rw [List.findSome?_eq_none_iff.mp h s hs]
  rfl

/-- An error ends the steps before it, whatever follows. -/
theorem untilError_append_of_error {policy : Policy} {first : List Step} {err : RuleError}
    (h : first.findSome? (error? policy) = some err) (second : List Step) :
    untilError policy (first ++ second) = untilError policy first := by
  obtain ⟨before, s, after, rfl, hs, hbefore⟩ := List.findSome?_eq_some_iff.mp h
  have hall : ∀ t ∈ before, ((t.error? policy).isNone) = true := by
    intro t ht
    rw [hbefore t ht]
    rfl
  unfold untilError
  rw [List.append_assoc, List.takeWhile_append_of_pos hall, List.takeWhile_append_of_pos hall]
  simp [hs]

theorem untilError_append {policy : Policy} {first : List Step}
    (h : first.findSome? (error? policy) = none) (second : List Step) :
    untilError policy (first ++ second) = first ++ untilError policy second := by
  unfold untilError
  refine List.takeWhile_append_of_pos ?_
  intro s hs
  rw [List.findSome?_eq_none_iff.mp h s hs]
  rfl

end Step

namespace Catalogue

def step (c : Catalogue) (record : Record) (call : Call) : Step :=
  ⟨call, record, c.judge? ⟨record, call.field⟩ call.token⟩

/-- A verdict is that of the validator with the name of the token on the arguments cut for it. -/
theorem judge?_eq_some_iff (c : Catalogue) (f : Focus) (token : String)
    (verdict : Except RuleError Verdict) :
    c.judge? f token = some verdict ↔ ∃ v, c.find? (RuleToken.nameOf token) = some v ∧
      v.check f (RuleToken.ofText v.maxArgs token).args = verdict := by
  unfold judge?
  exact Option.map_eq_some_iff

def trace (c : Catalogue) : Record → List Call → List Step
  | _, [] => []
  | record, call :: rest => c.step record call :: trace c (c.step record call).next rest

def settle (c : Catalogue) (record : Record) (calls : List Call) : Record :=
  record.writeAll (Step.writes (c.trace record calls))

theorem map_call_trace (c : Catalogue) (record : Record) (calls : List Call) :
    (c.trace record calls).map Step.call = calls := by
  induction calls generalizing record with
  | nil => rfl
  | cons call rest ih => exact congrArg (call :: ·) (ih _)

theorem call_mem_of_mem_trace {c : Catalogue} {record : Record} {calls : List Call} {s : Step}
    (h : s ∈ c.trace record calls) : s.call ∈ calls := by
  have hcall := List.mem_map_of_mem (f := Step.call) h
  rwa [map_call_trace] at hcall

theorem settle_cons (c : Catalogue) (record : Record) (call : Call) (rest : List Call) :
    c.settle record (call :: rest) = c.settle (c.step record call).next rest := by
  unfold settle
  rw [trace, ← List.singleton_append, Step.writes_append, Dict.writeAll_append,
    Step.next_eq_writeAll]
  rfl

/-- The second calls find the record that the first ones leave. -/
theorem trace_append (c : Catalogue) (record : Record) (first second : List Call) :
    c.trace record (first ++ second) =
      c.trace record first ++ c.trace (c.settle record first) second := by
  induction first generalizing record with
  | nil => rfl
  | cons call rest ih =>
    rw [List.cons_append, trace, trace, settle_cons, ih, List.cons_append]

/-- A step of a trace is judged on the record that the steps before it left. -/
theorem step_of_trace_split {c : Catalogue} {record : Record} {calls : List Call}
    {before after : List Step} {s : Step} (h : c.trace record calls = before ++ s :: after) :
    s = c.step (record.writeAll (Step.writes before)) s.call := by
  have hcalls : calls = before.map Step.call ++ (s.call :: after.map Step.call) := by
    rw [← map_call_trace c record calls, h, List.map_append, List.map_cons]
  rw [hcalls, trace_append] at h
  have hlen : (c.trace record (before.map Step.call)).length = before.length := by
    rw [← List.length_map (f := Step.call), map_call_trace, List.length_map]
  obtain ⟨hfirst, hsecond⟩ := List.append_inj h hlen
  rw [trace] at hsecond
  have hs := (List.cons.inj hsecond).1
  rw [← hs]
  unfold settle
  rw [hfirst]
  rfl

/-- A step is that of its call on the record that it found. -/
theorem eq_step_of_mem_trace {c : Catalogue} {record : Record} {calls : List Call} {s : Step}
    (h : s ∈ c.trace record calls) : s = c.step s.record s.call := by
  obtain ⟨before, after, hsplit⟩ := List.append_of_mem h
  have hstep := step_of_trace_split hsplit
  rw [hstep]
  rfl

/-- A step finds the record that some of the calls have left. -/
theorem exists_settle_of_mem_trace {c : Catalogue} {record : Record} {calls : List Call} {s : Step}
    (h : s ∈ c.trace record calls) : ∃ first, s.record = c.settle record first := by
  induction calls generalizing record with
  | nil => cases h
  | cons call rest ih =>
    rcases List.mem_cons.mp h with rfl | h
    · exact ⟨[], rfl⟩
    · obtain ⟨first, hfirst⟩ := ih h
      exact ⟨call :: first, by rw [hfirst, settle_cons]⟩

end Catalogue

end FieldRules
