import FieldRules.Proofs.Run

/-!
Tokens that no validator has the name of. Where they are skipped, validation does what it does on
the rules without them. Where they are errors, the first one ends the run, unless a validator raised
an error before it. Only one policy warns of them, of each that the run gets to. All of this holds
for every catalogue. Main statement: `validate_policies`.
-/
namespace FieldRules

def Catalogue.knows (c : Catalogue) (token : String) : Bool := c.contains (RuleToken.nameOf token)

/-- The rules without the tokens that the catalogue does not know. Their fields stay, if need be
without tokens. -/
def RuleSet.known (rules : RuleSet) (c : Catalogue) : RuleSet :=
  rules.map fun tokens => tokens.filter c.knows

def Call.warning (d : Call) : Warning := ⟨RuleToken.nameOf d.token, d.field⟩

namespace Step

def raised? (s : Step) : Option RuleError :=
  match s.verdict? with
  | some (.error err) => some err
  | _ => none

theorem error?_of_ne_error {policy : Policy} (h : policy ≠ .error) (s : Step) :
    s.error? policy = s.raised? := by
  unfold error? raised?
  cases s.verdict? with
  | none => exact if_neg h
  | some verdict => cases verdict <;> rfl

/-- The policy has no say in what a validator decides. -/
theorem error?_of_judged {s : Step} (h : s.verdict?.isSome = true) (policy : Policy) :
    s.error? policy = s.raised? := by
  unfold error? raised?
  cases hverdict : s.verdict? with
  | none => simp [hverdict] at h
  | some verdict => cases verdict <;> rfl

theorem failuresOf_eq_filterMap (field : String) (steps : List Step) :
    failuresOf field steps =
      steps.filterMap fun s => if s.call.field = field then s.failure? else none := by
  unfold failuresOf
  rw [List.filterMap_filter]
  simp only [decide_eq_true_eq]

end Step

/-- What is asked of each element may be replaced by what is the same on each. -/
theorem findSome?_congr {α β : Type} {f g : α → Option β} {l : List α}
    (h : ∀ a ∈ l, f a = g a) : l.findSome? f = l.findSome? g := by
  rw [← List.head?_filterMap, ← List.head?_filterMap, List.filterMap_congr h]

namespace RuleSet

theorem calls_known (rules : RuleSet) (c : Catalogue) :
    RuleSet.calls (rules.known c) = rules.calls.filter fun d => c.knows d.token := by
  have hcalls : ∀ l : List (String × List String),
      callsOf (l.map fun e => (e.1, e.2.filter c.knows)) =
        (callsOf l).filter fun d => c.knows d.token := by
    intro l
    induction l with
    | nil => rfl
    | cons entry rest ih =>
      obtain ⟨field, tokens⟩ := entry
      rw [List.map_cons, callsOf_cons, callsOf_cons, List.filter_append, List.filter_map, ih]
      rfl
  exact hcalls rules.entries

theorem known_eq_self {rules : RuleSet} {c : Catalogue}
    (h : ∀ d ∈ rules.calls, c.knows d.token = true) : rules.known c = rules := by
  apply Dict.ext_find?
  intro field
  unfold known
  rw [Dict.find?_map]
  cases htokens : rules.find? field with
  | none => rfl
  | some tokens =>
    rw [Option.map_some, List.filter_eq_self.mpr]
    intro token htoken
    exact h ⟨field, token⟩ ((rules.mem_calls _).mpr ⟨tokens, htokens, htoken⟩)

end RuleSet

namespace Catalogue

theorem verdict?_isSome_step (c : Catalogue) (record : Record) (d : Call) :
    (c.step record d).verdict?.isSome = c.knows d.token := by
  unfold step judge?
  exact Option.isSome_map

theorem verdict?_isSome_of_mem_trace {c : Catalogue} {record : Record} {calls : List Call}
    {s : Step} (h : s ∈ c.trace record calls) : s.verdict?.isSome = c.knows s.call.token := by
  have hstep := c.verdict?_isSome_step s.record s.call
  rwa [← eq_step_of_mem_trace h] at hstep

theorem verdict?_step_of_unknown {c : Catalogue} {d : Call} (h : c.knows d.token = false)
    (record : Record) : (c.step record d).verdict? = none := by
  have hverdict := c.verdict?_isSome_step record d
  rwa [h, Option.isSome_eq_false_iff, Option.isNone_iff_eq_none] at hverdict

/-- An unknown token changes nothing. -/
theorem next_step_of_unknown {c : Catalogue} {d : Call} (h : c.knows d.token = false)
    (record : Record) : (c.step record d).next = record := by
  unfold Step.next Step.write?
  rw [verdict?_step_of_unknown h]
  rfl

/-- Whatever is read off the verdicts alone, reading it off the calls of known tokens is enough. The
induction is on the calls: an unknown one leaves the record to those after it as it was. -/
theorem filterMap_trace_known {α : Type} {f : Step → Option α}
    (hf : ∀ s : Step, s.verdict? = none → f s = none) (c : Catalogue) (record : Record)
    (calls : List Call) :
    (c.trace record (calls.filter fun d => c.knows d.token)).filterMap f =
      (c.trace record calls).filterMap f := by
  induction calls generalizing record with
  | nil => rfl
  | cons d rest ih =>
    cases hknown : c.knows d.token with
    | true =>
      have hfilter : (d :: rest).filter (fun d => c.knows d.token) =
          d :: rest.filter fun d => c.knows d.token := by simp [hknown]
      rw [hfilter, trace, trace, List.filterMap_cons, List.filterMap_cons, ih]
    | false =>
      have hskip := hf _ (verdict?_step_of_unknown hknown record)
      have hfilter : (d :: rest).filter (fun d => c.knows d.token) =
          rest.filter fun d => c.knows d.token := by simp [hknown]
      rw [hfilter, trace, next_step_of_unknown hknown, List.filterMap_cons_none hskip, ih]

/-- Tokens that nobody knows write nothing. -/
theorem settle_known (c : Catalogue) (record : Record) (calls : List Call) :
    c.settle record (calls.filter fun d => c.knows d.token) = c.settle record calls := by
  unfold settle Step.writes
  rw [filterMap_trace_known]
  intro s hs
  unfold Step.write?
  rw [hs]
  rfl

theorem failuresOf_trace_known (c : Catalogue) (record : Record) (calls : List Call)
    (field : String) :
    Step.failuresOf field (c.trace record (calls.filter fun d => c.knows d.token)) =
      Step.failuresOf field (c.trace record calls) := by
  rw [Step.failuresOf_eq_filterMap, Step.failuresOf_eq_filterMap, filterMap_trace_known]
  intro s hs
  unfold Step.failure?
  rw [hs]
  exact ite_self none

def firstRaised? (c : Catalogue) (record : Record) (calls : List Call) : Option RuleError :=
  (c.trace record calls).findSome? Step.raised?

theorem firstRaised?_known (c : Catalogue) (record : Record) (calls : List Call) :
    c.firstRaised? record (calls.filter fun d => c.knows d.token) =
      c.firstRaised? record calls := by
  unfold firstRaised?
  rw [← List.head?_filterMap, ← List.head?_filterMap, filterMap_trace_known]
  intro s hs
  unfold Step.raised?
  rw [hs]

theorem findSome?_error?_of_known {c : Catalogue} {calls : List Call}
    (h : ∀ d ∈ calls, c.knows d.token = true) (policy : Policy) (record : Record) :
    (c.trace record calls).findSome? (Step.error? policy) = c.firstRaised? record calls := by
  refine findSome?_congr fun s hs => Step.error?_of_judged ?_ policy
  rw [verdict?_isSome_of_mem_trace hs]
  exact h s.call (call_mem_of_mem_trace hs)

def reached (c : Catalogue) (record : Record) (calls : List Call) : List Call :=
  ((c.trace record calls).takeWhile fun s => s.raised?.isNone).map Step.call

theorem filterMap_warning?_warn {c : Catalogue} {steps : List Step}
    (h : ∀ s ∈ steps, s.verdict?.isSome = c.knows s.call.token) :
    steps.filterMap (Step.warning? .warn) =
      ((steps.map Step.call).filter fun d => !c.knows d.token).map Call.warning := by
  induction steps with
  | nil => rfl
  | cons s rest ih =>
    have hs := h s List.mem_cons_self
    have hrest := ih fun t ht => h t (List.mem_cons_of_mem _ ht)
    cases hverdict : s.verdict? with
    | none =>
      have hwarning : s.warning? .warn = some s.call.warning := by
        unfold Step.warning?
        rw [hverdict]
        rfl
      rw [hverdict] at hs
      rw [List.filterMap_cons_some hwarning, hrest, List.map_cons,
        List.filter_cons_of_pos (by simp [← hs]), List.map_cons]
    | some verdict =>
      have hwarning : s.warning? .warn = none := by
        unfold Step.warning?
        rw [hverdict]
      rw [hverdict] at hs
      rw [List.filterMap_cons_none hwarning, hrest, List.map_cons,
        List.filter_cons_of_neg (by simp [← hs])]

end Catalogue

namespace Engine

variable (c : Catalogue) (record : Record) (rules : RuleSet)

/-- Unless the policy is strict, only validators raise errors. -/
theorem firstError?_of_ne_error {policy : Policy} (h : policy ≠ .error) :
    firstError? ⟨c, policy⟩ record rules = c.firstRaised? record rules.calls :=
  findSome?_congr fun s _ => Step.error?_of_ne_error h s

theorem firstError?_known (policy : Policy) :
    firstError? ⟨c, policy⟩ record (rules.known c) = c.firstRaised? record rules.calls := by
  unfold firstError? steps
  rw [Catalogue.findSome?_error?_of_known ?_ policy record, RuleSet.calls_known,
    Catalogue.firstRaised?_known]
  intro d hd
  rw [RuleSet.calls_known] at hd
  exact (List.mem_filter.mp hd).2

/-- Skipping unknown tokens is leaving them out. -/
theorem validate_known {p : Policy} (h : p ≠ .error) (q : Policy) :
    (validate ⟨c, p⟩ record rules).result = (validate ⟨c, q⟩ record (rules.known c)).result ∧
      (validate ⟨c, p⟩ record rules).record = (validate ⟨c, q⟩ record (rules.known c)).record := by
  have herror : firstError? ⟨c, p⟩ record rules = firstError? ⟨c, q⟩ record (rules.known c) := by
    rw [firstError?_of_ne_error c record rules h, firstError?_known]
  constructor
  · refine result_congr herror fun field => ?_
    unfold steps
    rw [RuleSet.calls_known]
    exact (Catalogue.failuresOf_trace_known c record rules.calls field).symm
  · refine record_congr (fun left => left) herror rfl ?_
    rw [RuleSet.calls_known]
    exact (Catalogue.settle_known c record rules.calls).symm

/-- The first unknown token is an error unless a validator raises one before. -/
theorem firstError?_of_unknown {before after : List Call} {d : Call}
    (hcalls : rules.calls = before ++ d :: after)
    (hbefore : ∀ b ∈ before, c.knows b.token = true) (hd : c.knows d.token = false) :
    firstError? ⟨c, .error⟩ record rules = some ((c.firstRaised? record before).getD
      (.unknownValidator (RuleToken.nameOf d.token) d.field)) := by
  have herror : (c.step (c.settle record before) d).error? .error =
      some (.unknownValidator (RuleToken.nameOf d.token) d.field) := by
    unfold Step.error?
    rw [Catalogue.verdict?_step_of_unknown hd]
    rfl
  unfold firstError? steps
  rw [hcalls, Catalogue.trace_append, List.findSome?_append,
    Catalogue.findSome?_error?_of_known hbefore, Catalogue.trace, List.findSome?_cons, herror]
  cases c.firstRaised? record before <;> rfl

theorem warnings_of_ne_warn {policy : Policy} (h : policy ≠ .warn) :
    (validate ⟨c, policy⟩ record rules).warnings = [] := by
  rw [validate_warnings, List.filterMap_eq_nil_iff]
  intro s _
  unfold Step.warning?
  cases s.verdict? with
  | none => exact if_neg h
  | some verdict => rfl

/-- There is a warning for each unknown token before the first error, in the order of the calls. -/
theorem warnings_of_warn :
    (validate ⟨c, .warn⟩ record rules).warnings =
      ((c.reached record rules.calls).filter fun d => !c.knows d.token).map Call.warning := by
  have huntil : Step.untilError .warn (c.trace record rules.calls) =
      (c.trace record rules.calls).takeWhile fun s => s.raised?.isNone := by
    have herror : ∀ s : Step, s.error? .warn = s.raised? := Step.error?_of_ne_error nofun
    unfold Step.untilError
    simp only [herror]
  rw [validate_warnings]
  unfold steps
  simp only
  rw [huntil, Catalogue.filterMap_warning?_warn]
  · rfl
  · intro s hs
    exact Catalogue.verdict?_isSome_of_mem_trace (List.takeWhile_subset _ hs)

end Engine

/-- Under the policies that skip unknown tokens, validation gives what it gives under any policy on
the rules without them. Under the policy that does not, it gives the same if there are none, and an
error otherwise: that of the first unknown token, or one that a validator raised before it. There is
one warning for each unknown token that the run gets to, under the policy that warns. -/
theorem validate_policies (c : Catalogue) (record : Record) (rules : RuleSet) :
    (∀ p ∈ [Policy.ignore, .warn], ∀ q : Policy,
      (Engine.validate ⟨c, p⟩ record rules).result =
          (Engine.validate ⟨c, q⟩ record (rules.known c)).result ∧
        (Engine.validate ⟨c, p⟩ record rules).record =
          (Engine.validate ⟨c, q⟩ record (rules.known c)).record) ∧
    ((∀ d ∈ rules.calls, c.knows d.token = true) →
      (Engine.validate ⟨c, .error⟩ record rules).result =
          (Engine.validate ⟨c, .ignore⟩ record rules).result ∧
        (Engine.validate ⟨c, .error⟩ record rules).record =
          (Engine.validate ⟨c, .ignore⟩ record rules).record) ∧
    ((∃ d ∈ rules.calls, c.knows d.token = false) → ∃ before d after,
      rules.calls = before ++ d :: after ∧ (∀ b ∈ before, c.knows b.token = true) ∧
        c.knows d.token = false ∧
        (Engine.validate ⟨c, .error⟩ record rules).result =
          .error ((c.firstRaised? record before).getD
            (.unknownValidator (RuleToken.nameOf d.token) d.field)) ∧
        (Engine.validate ⟨c, .error⟩ record rules).record = record) ∧
    (∀ p : Policy, p ≠ .warn → (Engine.validate ⟨c, p⟩ record rules).warnings = []) ∧
    (Engine.validate ⟨c, .warn⟩ record rules).warnings =
      ((c.reached record rules.calls).filter fun d => !c.knows d.token).map Call.warning := by
  refine ⟨?_, ?_, ?_, fun p hp => Engine.warnings_of_ne_warn c record rules hp,
    Engine.warnings_of_warn c record rules⟩
  · intro p hp q
    refine Engine.validate_known c record rules ?_ q
    rintro rfl
    exact absurd hp (by decide)
  · intro hknown
    obtain ⟨hresult, hrecord⟩ :=
      Engine.validate_known c record rules (p := .ignore) nofun .error
    rw [RuleSet.known_eq_self hknown] at hresult hrecord
    exact ⟨hresult.symm, hrecord.symm⟩
  · rintro ⟨d, hd, hunknown⟩
    have hfound : (rules.calls.find? fun d => !c.knows d.token).isSome = true :=
      List.find?_isSome.mpr ⟨d, hd, by simp [hunknown]⟩
    obtain ⟨first, hfirst⟩ := Option.isSome_iff_exists.mp hfound
    obtain ⟨hfirst, before, after, hcalls, hbefore⟩ := List.find?_eq_some_iff_append.mp hfirst
    have hfirst : c.knows first.token = false := by simpa using hfirst
    have hbefore : ∀ b ∈ before, c.knows b.token = true := by simpa using hbefore
    obtain ⟨hrecord, hresult⟩ := Engine.validate_of_error
      (Engine.firstError?_of_unknown c record rules hcalls hbefore hfirst)
    exact ⟨before, first, after, hcalls, hbefore, hfirst, hresult, hrecord⟩

/-- The run warns before it ends in an error, and does not get to what stands behind. -/
example : (Engine.validate ⟨.builtins, .warn⟩ .empty
    (.ofList [("a", ["early"]), ("b", ["sameAs", "late"])])).warnings = [⟨"early", "a"⟩] := by
  decide

end FieldRules
