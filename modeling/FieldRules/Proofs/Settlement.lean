import FieldRules.Proofs.Misconfiguration
import FieldRules.Proofs.TruthValue

/-!
What validation over the built-ins leaves in a record. Of a field with a token for truth values, a
value that stands for a truth value is replaced by it; every other value stays, and no field comes
or goes. So the place and the number of these tokens do not matter, nor do the other tokens, and
validating what validation left changes nothing. Main statement: `validate_settles`.
-/
namespace FieldRules

def RuleSet.HasBool (rules : RuleSet) (field : String) : Prop :=
  ∃ tokens, rules.find? field = some tokens ∧ ∃ token ∈ tokens, RuleToken.nameOf token = "bool"

/-- How the rules change a record. -/
structure Settled (rules : RuleSet) (before after : Record) : Prop where
  keys_eq : after.keys = before.keys
  replaced : ∀ key value t, before.find? key = some value →
    rules.HasBool key → value.isEmpty = false → value.StandsFor t →
      after.find? key = some (.bool t)
  untouched : ∀ key value, before.find? key = some value →
    (¬ ∃ t, rules.HasBool key ∧ value.isEmpty = false ∧ value.StandsFor t) →
      after.find? key = some value

/-- A value stands for one truth value at most. -/
theorem Value.StandsFor.unique {v : Value} {t u : Bool} (ht : v.StandsFor t)
    (hu : v.StandsFor u) : t = u := by
  rw [← Builtin.readBool?_eq_some_iff] at ht hu
  exact Option.some.inj (ht.symm.trans hu)

namespace Settled

variable {rules rules' : RuleSet} {before after after' : Record}

theorem find?_eq_none (h : Settled rules before after) {key : String}
    (hkey : before.find? key = none) : after.find? key = none := by
  have hkeys : key ∈ after.keys ↔ key ∈ before.keys := by rw [h.keys_eq]
  rw [Dict.mem_keys_iff, Dict.mem_keys_iff] at hkeys
  rw [Option.eq_none_iff_forall_ne_some]
  intro value hvalue
  obtain ⟨old, hold⟩ := hkeys.mp ⟨value, hvalue⟩
  rw [hkey] at hold
  cases hold

/-- The rules matter only by the fields for which they have a token for truth values. -/
theorem unique (h : Settled rules before after) (h' : Settled rules' before after')
    (hsame : ∀ key ∈ before.keys, rules'.HasBool key ↔ rules.HasBool key) : after' = after := by
  apply Dict.ext_find?
  intro key
  cases hkey : before.find? key with
  | none => rw [h.find?_eq_none hkey, h'.find?_eq_none hkey]
  | some value =>
    have hbool := hsame key ((Dict.mem_keys_iff before key).mpr ⟨value, hkey⟩)
    by_cases hstands : ∃ t, rules.HasBool key ∧ value.isEmpty = false ∧ value.StandsFor t
    · obtain ⟨t, hhas, hcontent, ht⟩ := hstands
      rw [h.replaced key value t hkey hhas hcontent ht,
        h'.replaced key value t hkey (hbool.mpr hhas) hcontent ht]
    · have hstands' : ¬ ∃ t, rules'.HasBool key ∧ value.isEmpty = false ∧ value.StandsFor t := by
        rintro ⟨t, hhas, hrest⟩
        exact hstands ⟨t, hbool.mp hhas, hrest⟩
      rw [h.untouched key value hkey hstands, h'.untouched key value hkey hstands']

/-- Truth values stand for themselves. -/
theorem again (h : Settled rules before after) : Settled rules after after := by
  refine ⟨rfl, ?_, fun key value hvalue _ => hvalue⟩
  intro key value t hvalue hhas hcontent ht
  cases hkey : before.find? key with
  | none =>
    rw [h.find?_eq_none hkey] at hvalue
    cases hvalue
  | some old =>
    by_cases hstands : ∃ t, rules.HasBool key ∧ old.isEmpty = false ∧ old.StandsFor t
    · obtain ⟨u, -, holdContent, hu⟩ := hstands
      have hnew := h.replaced key old u hkey hhas holdContent hu
      rw [hvalue] at hnew
      cases hnew
      rw [hvalue, ht.unique (.bool u)]
    · have hsame := h.untouched key old hkey hstands
      rw [hvalue] at hsame
      cases hsame
      exact absurd ⟨t, hhas, hcontent, ht⟩ hstands

end Settled

namespace Builtin

theorem find?_normalized (record : Record) (field key : String) :
    (normalized record field).find? key =
      if key = field then ((truth? record field).map Value.bool).or (record.find? field)
      else record.find? key := by
  unfold normalized
  cases truth? record field with
  | none =>
    by_cases hk : key = field <;> simp [hk]
  | some t => exact Dict.find?_insert record field (.bool t) key

theorem truth?_congr {record record' : Record} {field : String}
    (h : record.find? field = record'.find? field) :
    truth? record field = truth? record' field := by
  unfold truth? Focus.content? Focus.value?
  rw [h]

/-- What a token for truth values leaves in its field depends on this field alone. -/
theorem find?_normalized_congr {record record' : Record} {field : String}
    (h : record.find? field = record'.find? field) :
    (normalized record field).find? field = (normalized record' field).find? field := by
  rw [find?_normalized, find?_normalized, truth?_congr h, h]

def normalizes (calls : List Call) (field : String) : Bool :=
  calls.any fun c => c.field == field && callsBool c.token

theorem normalizes_calls_iff (rules : RuleSet) (field : String) :
    normalizes rules.calls field = true ↔ rules.HasBool field := by
  unfold normalizes RuleSet.HasBool
  simp only [List.any_eq_true, Bool.and_eq_true, beq_iff_eq, callsBool_iff, RuleSet.mem_calls]
  constructor
  · rintro ⟨c, ⟨tokens, htokens, hmem⟩, rfl, hname⟩
    exact ⟨tokens, htokens, c.token, hmem, hname.symm⟩
  · rintro ⟨tokens, htokens, token, hmem, hname⟩
    exact ⟨⟨field, token⟩, ⟨tokens, htokens, hmem⟩, rfl, hname.symm⟩

end Builtin

namespace Catalogue

open Builtin

/-- All the tokens for truth values of a field together do what one of them does. -/
theorem find?_settle_builtins (record : Record) (calls : List Call) (key : String) :
    (builtins.settle record calls).find? key =
      if normalizes calls key then (normalized record key).find? key else record.find? key := by
  induction calls generalizing record with
  | nil => rfl
  | cons c rest ih =>
    rw [settle_cons, next_step_builtins, ih]
    by_cases hbool : callsBool c.token = true
    · rw [if_pos hbool]
      by_cases hfield : c.field = key
      · subst hfield
        have hall : normalizes (c :: rest) c.field = true := by simp [normalizes, hbool]
        rw [normalized_normalized, ite_self, if_pos hall]
      · have hall : normalizes (c :: rest) key = normalizes rest key := by
          simp [normalizes, hfield]
        have hother : (normalized record c.field).find? key = record.find? key := by
          rw [find?_normalized, if_neg (Ne.symm hfield)]
        rw [hall, hother, find?_normalized_congr hother]
    · have hall : normalizes (c :: rest) key = normalizes rest key := by
        simp [normalizes, hbool]
      rw [if_neg hbool, hall]

/-- A field keeps its value, or a truth value takes the place of one that was not empty. -/
theorem find?_settle_cases (record : Record) (calls : List Call) (key : String) :
    (builtins.settle record calls).find? key = record.find? key ∨
      ∃ v t, record.find? key = some v ∧ v.isEmpty = false ∧
        (builtins.settle record calls).find? key = some (.bool t) := by
  rw [find?_settle_builtins]
  by_cases hcalls : normalizes calls key = true
  · rw [if_pos hcalls, find?_normalized, if_pos rfl]
    cases htruth : truth? record key with
    | none => exact Or.inl rfl
    | some t =>
      obtain ⟨v, hv, hcontent, -⟩ := (truth?_eq_some_iff record key t).mp htruth
      exact Or.inr ⟨v, t, hv, hcontent, rfl⟩
  · rw [if_neg hcalls]
    exact Or.inl rfl

theorem contains_settle_builtins (record : Record) (calls : List Call) (key : String) :
    (builtins.settle record calls).contains key = record.contains key := by
  unfold Dict.contains
  rcases find?_settle_cases record calls key with hsame | ⟨v, t, hv, -, ht⟩
  · rw [hsame]
  · rw [hv, ht]
    rfl

/-- No run of built-ins makes a field empty or fills one. -/
theorem isEmpty_settle_builtins (record : Record) (calls : List Call) (field : String) :
    (Focus.mk (builtins.settle record calls) field).isEmpty = (Focus.mk record field).isEmpty := by
  unfold Focus.isEmpty Focus.value?
  rcases find?_settle_cases record calls field with hsame | ⟨v, t, hv, hcontent, ht⟩
  · rw [hsame]
  · rw [hv, ht]
    exact hcontent.symm

/-- What the calls leave depends only on which fields have a token for truth values. -/
theorem settled_settle (record : Record) (rules : RuleSet) :
    Settled rules record (builtins.settle record rules.calls) where
  keys_eq := Dict.keys_eq_of_contains (contains_settle_builtins record rules.calls)
  replaced := by
    intro key value t hkey hhas hcontent ht
    have hcalls := (normalizes_calls_iff rules key).mpr hhas
    have htruth := (truth?_eq_some_iff record key t).mpr ⟨value, hkey, hcontent, ht⟩
    rw [find?_settle_builtins, if_pos hcalls, find?_normalized, if_pos rfl, htruth]
    rfl
  untouched := by
    intro key value hkey hnot
    rw [find?_settle_builtins]
    by_cases hcalls : normalizes rules.calls key = true
    · rw [if_pos hcalls, find?_normalized, if_pos rfl]
      cases htruth : truth? record key with
      | none => exact hkey
      | some t =>
        obtain ⟨v, hv, hcontent, ht⟩ := (truth?_eq_some_iff record key t).mp htruth
        rw [hkey] at hv
        cases hv
        exact absurd ⟨t, (normalizes_calls_iff rules key).mp hcalls, hcontent, ht⟩ hnot
    · rw [if_neg hcalls]
      exact hkey

end Catalogue

/-- Which tokens are wrong does not depend on the record, so what goes through once goes through
on every record. -/
theorem validate_ok_of_ok {policy : Policy} {record : Record} {rules : RuleSet}
    {answer : Option Report}
    (h : (Engine.validate ⟨.builtins, policy⟩ record rules).result = .ok answer) (other : Record) :
    ∃ answer', (Engine.validate ⟨.builtins, policy⟩ other rules).result = .ok answer' := by
  have hnone := Engine.no_error_of_validate_ok h
  rw [Engine.firstError?_builtins, ← Engine.firstError?_builtins policy other] at hnone
  exact ⟨_, (Engine.validate_of_no_error hnone).2⟩

/-- A validation that goes through over the built-ins leaves the truth values in the place of the
values that stand for them, and all else as it was. It does so whatever the other tokens are and
find, and has nothing left to do on the record that it leaves. -/
theorem validate_settles (policy : Policy) (record : Record) (rules : RuleSet)
    (answer : Option Report)
    (h : (Engine.validate ⟨.builtins, policy⟩ record rules).result = .ok answer) :
    Settled rules record (Engine.validate ⟨.builtins, policy⟩ record rules).record ∧
    (∀ policy' rules' answer', (∀ key ∈ record.keys, rules'.HasBool key ↔ rules.HasBool key) →
      (Engine.validate ⟨.builtins, policy'⟩ record rules').result = .ok answer' →
        (Engine.validate ⟨.builtins, policy'⟩ record rules').record =
          (Engine.validate ⟨.builtins, policy⟩ record rules).record) ∧
    (∃ answer', (Engine.validate ⟨.builtins, policy⟩
      (Engine.validate ⟨.builtins, policy⟩ record rules).record rules).result = .ok answer') ∧
    (Engine.validate ⟨.builtins, policy⟩
      (Engine.validate ⟨.builtins, policy⟩ record rules).record rules).record =
        (Engine.validate ⟨.builtins, policy⟩ record rules).record := by
  have hsettled : ∀ policy record rules answer,
      (Engine.validate ⟨.builtins, policy⟩ record rules).result = .ok answer →
        Settled rules record (Engine.validate ⟨.builtins, policy⟩ record rules).record := by
    intro policy record rules answer h
    rw [Engine.record_of_validate_ok h]
    exact Catalogue.settled_settle record rules
  have hfirst := hsettled policy record rules answer h
  obtain ⟨answer', hagain⟩ :=
    validate_ok_of_ok h (Engine.validate ⟨.builtins, policy⟩ record rules).record
  refine ⟨hfirst, ?_, ⟨answer', hagain⟩, ?_⟩
  · intro policy' rules' other hsame hok
    exact hfirst.unique (hsettled policy' record rules' other hok) hsame
  · exact hfirst.again.unique (hsettled policy _ rules answer' hagain) fun _ _ => Iff.rfl

/-- A numeral is replaced although another token finds fault with it. -/
theorem validate_settles_of_numeral :
    (Engine.validate ⟨.builtins, .ignore⟩ (.ofList [("f", .string " 1.0 ")])
      (.ofList [("f", ["num:2", "bool"])])).result =
        .ok (some (.ofList [
          ("f", [⟨"num", "Field `f` is less than the minimum value of `2`."⟩])])) ∧
    (Engine.validate ⟨.builtins, .ignore⟩ (.ofList [("f", .string " 1.0 ")])
      (.ofList [("f", ["num:2", "bool"])])).record.find? "f" = some (.bool true) := by
  have h : (Engine.validate ⟨.builtins, .ignore⟩ (.ofList [("f", .string " 1.0 ")])
      (.ofList [("f", ["num:2", "bool"])])).result =
        .ok (some (.ofList [
          ("f", [⟨"num", "Field `f` is less than the minimum value of `2`."⟩])])) := by
    decide +kernel
  have hhas : RuleSet.HasBool (.ofList [("f", ["num:2", "bool"])]) "f" :=
    ⟨["num:2", "bool"], rfl, "bool", by decide, by decide⟩
  have hstands : (Value.string " 1.0 ").StandsFor true :=
    (Builtin.readBool?_eq_some_iff _ _).mp (by decide +kernel)
  obtain ⟨hsettled, -⟩ := validate_settles _ _ _ _ h
  exact ⟨h, hsettled.replaced "f" _ true rfl hhas rfl hstands⟩

end FieldRules
