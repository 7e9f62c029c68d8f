import FieldRules.Proofs.Misconfiguration

/-!
What the built-ins read. Every check looks at the value of its own field. A comparison looks at the
value of the field that it names besides, and a check of presence that depends on another field asks
only whether the record has it. So on records that are alike in all of this the same calls are
judged alike, and leave records that are alike again. Main statement: `trace_congr`.
-/
namespace FieldRules

/-- Records that agree on the values of some fields and on the presence of some. -/
structure Alike (values present : String → Prop) (first second : Record) : Prop where
  find?_eq : ∀ key, values key → first.find? key = second.find? key
  contains_eq : ∀ key, present key → first.contains key = second.contains key

namespace Call

def Names (kinds : List Builtin) (c : Call) (key : String) : Prop :=
  ∃ b ∈ kinds, b.name = RuleToken.nameOf c.token ∧ (b.arguments c.token)[0]? = some key

theorem Names.mono {kinds kinds' : List Builtin} (hkinds : ∀ b ∈ kinds, b ∈ kinds') {c : Call}
    {key : String} (h : c.Names kinds key) : c.Names kinds' key := by
  obtain ⟨b, hb, hcalled, hkey⟩ := h
  exact ⟨b, hkinds b hb, hcalled, hkey⟩

def Compares (c : Call) (key : String) : Prop := c.Names [.sameAs, .different] key

def AsksFor (c : Call) (key : String) : Prop := c.Names [.requiredWith, .requiredWithout] key

structure Within (values present : String → Prop) (c : Call) : Prop where
  own : values c.field
  compared : ∀ key, c.Compares key → values key
  asked : ∀ key, c.AsksFor key → present key

end Call

namespace Alike

variable {values present : String → Prop} {first second : Record}

theorem insert (h : Alike values present first second) (key : String) (value : Value) :
    Alike values present (first.insert key value) (second.insert key value) where
  find?_eq k hk := by
    rw [Dict.find?_insert, Dict.find?_insert, h.find?_eq k hk]
  contains_eq k hk := by
    have hsame := h.contains_eq k hk
    unfold Dict.contains at *
    rw [Dict.find?_insert, Dict.find?_insert]
    by_cases heq : k = key
    · rw [if_pos heq, if_pos heq]
    · rw [if_neg heq, if_neg heq, hsame]

/-- A verdict decides what is written. -/
theorem next (h : Alike values present first second) {c : Catalogue} {call : Call}
    (hsame : (c.step first call).verdict? = (c.step second call).verdict?) :
    Alike values present (c.step first call).next (c.step second call).next := by
  have hwrite : (c.step first call).write? = (c.step second call).write? := by
    unfold Step.write?
    rw [hsame]
  unfold Step.next
  rw [hwrite]
  cases (c.step second call).write? with
  | none => exact h
  | some value => exact h.insert call.field value

end Alike

namespace Builtin

variable {first second : Record} {field : String}

theorem content?_congr (h : first.find? field = second.find? field) :
    (Focus.mk first field).content? = (Focus.mk second field).content? := by
  unfold Focus.content? Focus.value?
  rw [h]

theorem isEmpty_congr (h : first.find? field = second.find? field) :
    (Focus.mk first field).isEmpty = (Focus.mk second field).isEmpty := by
  unfold Focus.isEmpty Focus.value?
  rw [h]

theorem named_congr {validator : String} {judge judge' : String → Verdict} {args : List String}
    (h : ∀ other, args[0]? = some other → judge other = judge' other) :
    (match argument? args 0 with
      | none => .error (.missingArgument validator "fieldname")
      | some other => .ok (judge other) : Except RuleError Verdict) =
    match argument? args 0 with
      | none => .error (.missingArgument validator "fieldname")
      | some other => .ok (judge' other) := by
  cases harg : argument? args 0 with
  | none => rfl
  | some other =>
    have hfirst := ((argument?_eq_some_iff args 0 other).mp harg).1
    exact congrArg Except.ok (h other hfirst)

/-- A check of presence sees no values, only which fields are empty and which are there. -/
theorem check_congr_of_presence {b : Builtin} (hb : b ∈ [requiredWith, requiredWithout])
    {args : List String}
    (hempty : (Focus.mk first field).isEmpty = (Focus.mk second field).isEmpty)
    (hasked : ∀ other, args[0]? = some other → first.contains other = second.contains other) :
    b.validator.check ⟨first, field⟩ args = b.validator.check ⟨second, field⟩ args := by
  rcases List.mem_pair.mp hb with rfl | rfl
  · refine named_congr fun other hother => ?_
    simp only
    rw [hempty, hasked other hother]
  · refine named_congr fun other hother => ?_
    simp only
    rw [hempty, hasked other hother]

theorem comparison?_congr {other : String} (hfield : first.find? field = second.find? field)
    (hother : first.find? other = second.find? other) :
    comparison? ⟨first, field⟩ other = comparison? ⟨second, field⟩ other := by
  unfold comparison?
  rw [content?_congr hfield]
  simp only
  rw [hother]

theorem check_congr_of_comparison {b : Builtin} (hb : b ∈ [sameAs, different])
    {args : List String} (hcompared : ∀ other, args[0]? = some other →
      comparison? ⟨first, field⟩ other = comparison? ⟨second, field⟩ other) :
    b.validator.check ⟨first, field⟩ args = b.validator.check ⟨second, field⟩ args := by
  rcases List.mem_pair.mp hb with rfl | rfl
  · refine named_congr fun other hother => ?_
    rw [hcompared other hother]
  · refine named_congr fun other hother => ?_
    rw [hcompared other hother]

/-- The checks that name no other field see their own field only. -/
theorem check_congr_of_own {b : Builtin}
    (hb : b ∉ [requiredWith, requiredWithout, sameAs, different])
    (args : List String) (hfield : first.find? field = second.find? field) :
    b.validator.check ⟨first, field⟩ args = b.validator.check ⟨second, field⟩ args := by
  have hcontent := content?_congr hfield
  have htext : ∀ (p : Pattern Pattern.Atom) (message : String),
      judgeText p ⟨first, field⟩ message = judgeText p ⟨second, field⟩ message := by
    intro p message
    unfold judgeText
    rw [hcontent]
  cases b with
  | requiredWith | requiredWithout | sameAs | different => simp at hb
  | required =>
    change checkRequired ⟨first, field⟩ args = checkRequired ⟨second, field⟩ args
    unfold checkRequired
    rw [isEmpty_congr hfield]
  | array =>
    change checkArray ⟨first, field⟩ args = checkArray ⟨second, field⟩ args
    unfold checkArray
    rw [hcontent]
  | num =>
    change checkNum ⟨first, field⟩ args = checkNum ⟨second, field⟩ args
    unfold checkNum
    rw [hcontent]
  | bool =>
    change checkBool ⟨first, field⟩ args = checkBool ⟨second, field⟩ args
    unfold checkBool
    rw [hcontent]
  | date =>
    change checkDate ⟨first, field⟩ args = checkDate ⟨second, field⟩ args
    unfold checkDate
    rw [hcontent]
  | url => exact congrArg Except.ok (htext _ _)
  | email => exact congrArg Except.ok (htext _ _)
  | regex =>
    change checkRegex ⟨first, field⟩ args = checkRegex ⟨second, field⟩ args
    unfold checkRegex
    simp only [htext]

end Builtin

namespace Catalogue

variable {values present : String → Prop} {first second : Record}

/-- Alike records are judged alike. -/
theorem verdict?_step_congr (h : Alike values present first second) {c : Call}
    (hc : c.Within values present) :
    (builtins.step first c).verdict? = (builtins.step second c).verdict? := by
  unfold step
  simp only [judge?_builtins]
  cases hname : Builtin.ofName? (RuleToken.nameOf c.token) with
  | none => rfl
  | some b =>
    have hb := (Builtin.ofName?_eq_some_iff _ b).mp hname
    have hown := h.find?_eq c.field hc.own
    refine congrArg some ?_
    by_cases hpresence : b ∈ [Builtin.requiredWith, Builtin.requiredWithout]
    · refine Builtin.check_congr_of_presence hpresence (Builtin.isEmpty_congr hown) ?_
      intro other hother
      exact h.contains_eq other (hc.asked other ⟨b, hpresence, hb, hother⟩)
    · by_cases hcomparison : b ∈ [Builtin.sameAs, Builtin.different]
      · refine Builtin.check_congr_of_comparison hcomparison fun other hother => ?_
        exact Builtin.comparison?_congr hown
          (h.find?_eq other (hc.compared other ⟨b, hcomparison, hb, hother⟩))
      · refine Builtin.check_congr_of_own ?_ _ hown
        intro hmem
        simp only [List.mem_cons, List.not_mem_nil, or_false] at hmem hpresence hcomparison
        rcases hmem with hb | hb | hb | hb <;> simp [hb] at hpresence hcomparison

/-- On alike records calls take the same steps and leave alike records. The induction is on the
calls: each step keeps the records alike. -/
theorem trace_congr (h : Alike values present first second) {calls : List Call}
    (hcalls : ∀ c ∈ calls, c.Within values present) :
    (builtins.trace first calls).map Step.ruling =
        (builtins.trace second calls).map Step.ruling ∧
      Alike values present (builtins.settle first calls) (builtins.settle second calls) := by
  induction calls generalizing first second with
  | nil => exact ⟨rfl, h⟩
  | cons c rest ih =>
    have hsame := verdict?_step_congr h (hcalls c List.mem_cons_self)
    have hruling : (builtins.step first c).ruling = (builtins.step second c).ruling := by
      unfold Step.ruling
      rw [hsame]
      rfl
    obtain ⟨htrace, hsettle⟩ :=
      ih (h.next hsame) fun d hd => hcalls d (List.mem_cons_of_mem _ hd)
    rw [settle_cons, settle_cons, trace, trace, List.map_cons, List.map_cons, hruling, htrace]
    exact ⟨rfl, hsettle⟩

end Catalogue

end FieldRules
