import FieldRules.Proofs.Trace

/-!
The catalogue of the twelve built-in validators. A token calls the built-in whose name stands before
its first colon, and none if there is no such built-in.
-/
namespace FieldRules

namespace Builtin

theorem mem_all (b : Builtin) : b ∈ all := by
  cases b <;> decide

theorem name_injective : Function.Injective name := by
  intro a b h
  cases a <;> cases b <;> first | rfl | exact absurd h (by decide)

theorem ofName?_eq_some_iff (n : String) (b : Builtin) : ofName? n = some b ↔ b.name = n := by
  unfold ofName?
  constructor
  · intro h
    simpa using List.find?_some h
  · rintro rfl
    cases h : all.find? (fun c => c.name == b.name) with
    | none =>
      have hb := List.find?_eq_none.mp h b (mem_all b)
      simp at hb
    | some c =>
      have hc : c.name = b.name := by simpa using List.find?_some h
      rw [name_injective hc]

theorem ofName?_eq_none_iff (n : String) : ofName? n = none ↔ ∀ b : Builtin, b.name ≠ n := by
  constructor
  · intro h b hb
    rw [(ofName?_eq_some_iff n b).mpr hb] at h
    cases h
  · intro h
    cases hn : ofName? n with
    | none => rfl
    | some b => exact absurd ((ofName?_eq_some_iff n b).mp hn) (h b)

def arguments (b : Builtin) (token : String) : List String :=
  (RuleToken.ofText b.validator.maxArgs token).args

end Builtin

namespace Catalogue

theorem find?_builtins (n : String) :
    builtins.find? n = (Builtin.ofName? n).map Builtin.validator := by
  have hmem : ∀ v, v ∈ Dict.valuesAt n (Builtin.all.map fun b => (b.name, b.validator)) ↔
      ∃ b : Builtin, b.name = n ∧ b.validator = v := by
    intro v
    rw [Dict.mem_valuesAt, List.mem_map]
    simp only [Prod.mk.injEq, Builtin.mem_all, true_and]
  have hfind : builtins.find? n =
      (Dict.valuesAt n (Builtin.all.map fun b => (b.name, b.validator))).getLast? := by
    change (Dict.ofList _).find? n = _
    rw [Dict.ofList_eq_writeAll, Dict.find?_writeAll, Dict.find?_empty, Option.or_none]
  rw [hfind]
  cases hlast : (Dict.valuesAt n (Builtin.all.map fun b => (b.name, b.validator))).getLast? with
  | none =>
    rw [List.getLast?_eq_none_iff] at hlast
    have hnone : Builtin.ofName? n = none := by
      rw [Builtin.ofName?_eq_none_iff]
      intro b hb
      have hin := (hmem b.validator).mpr ⟨b, hb, rfl⟩
      rw [hlast] at hin
      exact absurd hin List.not_mem_nil
    rw [hnone]
    rfl
  | some v =>
    obtain ⟨b, hb, rfl⟩ := (hmem v).mp (List.mem_of_getLast? hlast)
    rw [(Builtin.ofName?_eq_some_iff n b).mpr hb]
    rfl

theorem judge?_builtins (f : Focus) (token : String) :
    builtins.judge? f token = (Builtin.ofName? (RuleToken.nameOf token)).map fun b =>
      b.validator.check f (b.arguments token) := by
  unfold judge?
  rw [find?_builtins, Option.map_map]
  rfl

theorem judge?_builtins_eq_none_iff (f : Focus) (token : String) :
    builtins.judge? f token = none ↔ ∀ b : Builtin, b.name ≠ RuleToken.nameOf token := by
  rw [judge?_builtins, Option.map_eq_none_iff, Builtin.ofName?_eq_none_iff]

theorem judge?_builtins_eq_some_iff (f : Focus) (token : String)
    (verdict : Except RuleError Verdict) :
    builtins.judge? f token = some verdict ↔ ∃ b : Builtin,
      b.name = RuleToken.nameOf token ∧ b.validator.check f (b.arguments token) = verdict := by
  rw [judge?_builtins, Option.map_eq_some_iff]
  simp only [Builtin.ofName?_eq_some_iff]

end Catalogue

end FieldRules
