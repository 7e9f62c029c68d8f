import FieldRules.Proofs.Run
import FieldRules.Request

/-!
What validation does to a record. If a rule is wrong the record stays as it was, wherever the run
had got to. Otherwise no field is lost, and a field is added or changed only by its own tokens: it
ends up with the last value that one of their validators put in its place. The same holds for
validation with a callback and for the parts of a request. Main statement: `validation_framed`.
-/
namespace FieldRules

def Step.Replaces (c : Catalogue) (s : Step) (value : Value) : Prop :=
  ∃ v, c.find? (RuleToken.nameOf s.call.token) = some v ∧
    v.check ⟨s.record, s.call.field⟩ (RuleToken.ofText v.maxArgs s.call.token).args =
      .ok (.replace value)

/-- How a run may leave the record on which it started. -/
structure Framed {α : Type} (c : Catalogue) (rules : RuleSet) (before : Record) (run : Run α) :
    Prop where
  restored : ∀ err, run.result = .error err → run.record = before
  kept : ∀ a, run.result = .ok a → ∀ key ∈ before.keys, key ∈ run.record.keys
  /-- The last write of a field counts. -/
  settled : ∀ a, run.result = .ok a → ∀ key, run.record.find? key =
    (Step.writesTo key (c.trace before rules.calls)).getLast?.or (before.find? key)
  changed : ∀ a, run.result = .ok a → ∀ key, run.record.find? key ≠ before.find? key →
    ∃ tokens value, rules.find? key = some tokens ∧ run.record.find? key = some value ∧
      ∃ s ∈ c.trace before rules.calls,
        s.call.field = key ∧ s.call.token ∈ tokens ∧ s.Replaces c value

theorem Catalogue.write?_step_iff (c : Catalogue) (record : Record) (call : Call) (value : Value) :
    (c.step record call).write? = some value ↔ (c.step record call).Replaces c value := by
  rw [Step.write?_eq_some_iff]
  exact c.judge?_eq_some_iff ⟨record, call.field⟩ call.token (.ok (.replace value))

/-- Each value written under a key comes from a token of this key. -/
theorem exists_writer {c : Catalogue} {rules : RuleSet} {before : Record} {key : String}
    {value : Value} (h : value ∈ Step.writesTo key (c.trace before rules.calls)) :
    ∃ tokens, rules.find? key = some tokens ∧ ∃ s ∈ c.trace before rules.calls,
      s.call.field = key ∧ s.call.token ∈ tokens ∧ s.Replaces c value := by
  obtain ⟨s, hs, rfl, hwrite⟩ := Step.mem_writesTo.mp h
  obtain ⟨tokens, htokens, hmem⟩ :=
    (rules.mem_calls s.call).mp (Catalogue.call_mem_of_mem_trace hs)
  have hiff := Catalogue.write?_step_iff c s.record s.call value
  rw [← Catalogue.eq_step_of_mem_trace hs] at hiff
  exact ⟨tokens, htokens, s, hs, rfl, hmem, hiff.mp hwrite⟩

/-- It is enough that the record is restored on errors and holds all writes otherwise. -/
theorem Framed.of_writeAll {α : Type} {c : Catalogue} {rules : RuleSet} {before : Record}
    {run : Run α} (herror : ∀ err, run.result = .error err → run.record = before)
    (hok : ∀ a, run.result = .ok a →
      run.record = before.writeAll (Step.writes (c.trace before rules.calls))) :
    Framed c rules before run := by
  have hsettled : ∀ a, run.result = .ok a → ∀ key, run.record.find? key =
      (Step.writesTo key (c.trace before rules.calls)).getLast?.or (before.find? key) := by
    intro a ha key
    rw [hok a ha, Dict.find?_writeAll, Step.valuesAt_writes]
  refine ⟨herror, ?_, hsettled, ?_⟩
  · intro a ha key hkey
    obtain ⟨value, hvalue⟩ := (Dict.mem_keys_iff before key).mp hkey
    rw [Dict.mem_keys_iff, hsettled a ha key, hvalue]
    cases (Step.writesTo key (c.trace before rules.calls)).getLast? with
    | none => exact ⟨value, rfl⟩
    | some last => exact ⟨last, rfl⟩
  · intro a ha key hne
    rw [hsettled a ha key] at hne ⊢
    cases hlast : (Step.writesTo key (c.trace before rules.calls)).getLast? with
    | none => simp [hlast] at hne
    | some value =>
      obtain ⟨tokens, htokens, hwriter⟩ := exists_writer (List.mem_of_getLast? hlast)
      exact ⟨tokens, value, htokens, rfl, hwriter⟩

/-- An error takes back every write; without one each field keeps what was last written to it. -/
theorem Engine.validate_framed (e : Engine) (record : Record) (rules : RuleSet) :
    Framed e.catalogue rules record (e.validate record rules) := by
  apply Framed.of_writeAll
  · intro err herr
    exact (validate_of_error ((validate_error_iff e record rules err).mp herr)).1
  · intro answer hok
    exact (validate_of_no_error (no_error_of_validate_ok hok)).1

/-- Fields without rules keep their values. -/
theorem Engine.find?_validate_of_not_mem_keys (e : Engine) (record : Record) (rules : RuleSet)
    {key : String} (h : key ∉ rules.keys) :
    (e.validate record rules).record.find? key = record.find? key := by
  have hframed := e.validate_framed record rules
  cases hres : (e.validate record rules).result with
  | error err => rw [hframed.restored err hres]
  | ok answer =>
    by_contra hne
    obtain ⟨tokens, -, htokens, -⟩ := hframed.changed answer hres key hne
    exact h ((Dict.mem_keys_iff rules key).mpr ⟨tokens, htokens⟩)

/-- A run whose answer is mapped leaves the same record. -/
theorem Framed.map {α β : Type} {c : Catalogue} {rules : RuleSet} {before : Record} {run : Run α}
    (h : Framed c rules before run) (f : α → β) : Framed c rules before (run.map f) := by
  obtain ⟨record, warnings, result⟩ := run
  cases result with
  | error err =>
    exact ⟨fun _ _ => h.restored err rfl, nofun, nofun, nofun⟩
  | ok a =>
    exact ⟨nofun, fun _ _ => h.kept a rfl, fun _ _ => h.settled a rfl, fun _ _ => h.changed a rfl⟩

namespace Request

@[simp] theorem part_setPart_self (r : Request) (part : RequestPart) (record : Record) :
    (r.setPart part record).part part = record := by
  cases part <;> rfl

theorem part_setPart_of_ne (r : Request) {part other : RequestPart} (record : Record)
    (h : other ≠ part) : (r.setPart part record).part other = r.part other := by
  cases part <;> cases other <;> first | rfl | exact absurd rfl h

end Request

/-- Validation is atomic and changes nothing but what the tokens of a field put in its place, on a
record by itself, with a callback, and in a part of a request. The callback gets the report of a run
that goes through, once; the other parts of a request stay as they are. -/
theorem validation_framed (e : Engine) (rules : RuleSet) :
    (∀ record, Framed e.catalogue rules record (e.validate record rules)) ∧
    (∀ record (σ : Type) (callback : Option Report → σ → σ) (state : σ),
      Framed e.catalogue rules record (e.validateWith record rules callback state).1 ∧
      (∀ answer, (e.validate record rules).result = .ok answer →
        (e.validateWith record rules callback state).1.result = .ok () ∧
          (e.validateWith record rules callback state).2 = callback answer state) ∧
      (∀ err, (e.validate record rules).result = .error err →
        (e.validateWith record rules callback state).1.result = .error err ∧
          (e.validateWith record rules callback state).2 = state)) ∧
    (∀ (request : Request) (part : RequestPart),
      (request.validate part e rules).2.result = (e.validate (request.part part) rules).result ∧
      Framed e.catalogue rules (request.part part)
        { (request.validate part e rules).2 with
          record := (request.validate part e rules).1.part part } ∧
      ∀ other, other ≠ part →
        (request.validate part e rules).1.part other = request.part other) := by
  refine ⟨fun record => e.validate_framed record rules, ?_, ?_⟩
  · intro record σ callback state
    refine ⟨(e.validate_framed record rules).map _, ?_, ?_⟩
    · intro answer hok
      simp [Engine.validateWith, Run.map, hok]
    · intro err herr
      simp [Engine.validateWith, Run.map, herr]
  · intro request part
    refine ⟨rfl, ?_, ?_⟩
    · simp only [Request.validate, Request.part_setPart_self]
      exact e.validate_framed (request.part part) rules
    · intro other hne
      exact request.part_setPart_of_ne _ hne

end FieldRules
