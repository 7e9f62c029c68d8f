import FieldRules.Proofs.Atomicity
import FieldRules.Proofs.Footprint

/-!
Validation reads only what the rules name: their fields, and those with which a token compares or
for which it asks. Two records that agree there cannot be told apart, whatever else they hold, and
agree there again afterwards. Main statement: `validate_eq_of_agree`.
-/
namespace FieldRules

def RuleSet.Mentions (rules : RuleSet) (key : String) : Prop :=
  key ∈ rules.keys ∨ ∃ c ∈ rules.calls,
    c.Names [.sameAs, .different, .requiredWith, .requiredWithout] key

/-- No call looks at a field that the rules do not mention. -/
theorem RuleSet.calls_within_mentions (rules : RuleSet) :
    ∀ c ∈ rules.calls, c.Within rules.Mentions rules.Mentions := by
  intro c hc
  refine ⟨?_, ?_, ?_⟩
  · obtain ⟨tokens, htokens, -⟩ := (rules.mem_calls c).mp hc
    exact Or.inl ((Dict.mem_keys_iff rules c.field).mpr ⟨tokens, htokens⟩)
  · intro key hkey
    exact Or.inr ⟨c, hc, hkey.mono (by simp)⟩
  · intro key hkey
    exact Or.inr ⟨c, hc, hkey.mono (by simp)⟩

/-- Records that agree on all that the rules name get the same result and the same warnings. They
agree on it afterwards, and all else stays as it was in each. -/
theorem validate_eq_of_agree (policy : Policy) (rules : RuleSet) (first second : Record)
    (h : ∀ key, rules.Mentions key → first.find? key = second.find? key) :
    (Engine.validate ⟨.builtins, policy⟩ first rules).result =
      (Engine.validate ⟨.builtins, policy⟩ second rules).result ∧
    (Engine.validate ⟨.builtins, policy⟩ first rules).warnings =
      (Engine.validate ⟨.builtins, policy⟩ second rules).warnings ∧
    (∀ key, rules.Mentions key →
      (Engine.validate ⟨.builtins, policy⟩ first rules).record.find? key =
        (Engine.validate ⟨.builtins, policy⟩ second rules).record.find? key) ∧
    (∀ key, ¬ rules.Mentions key →
      (Engine.validate ⟨.builtins, policy⟩ first rules).record.find? key = first.find? key ∧
        (Engine.validate ⟨.builtins, policy⟩ second rules).record.find? key =
          second.find? key) := by
  have halike : Alike rules.Mentions rules.Mentions first second := by
    refine ⟨h, fun key hkey => ?_⟩
    unfold Dict.contains
    rw [h key hkey]
  obtain ⟨htrace, hsettle⟩ := Catalogue.trace_congr halike rules.calls_within_mentions
  have herror : Engine.firstError? ⟨.builtins, policy⟩ first rules =
      Engine.firstError? ⟨.builtins, policy⟩ second rules := by
    rw [Engine.firstError?_builtins, Engine.firstError?_builtins]
  refine ⟨?_, ?_, ?_, ?_⟩
  · refine Engine.result_congr herror fun field => ?_
    unfold Engine.steps
    rw [← Step.failuresOf_map_ruling, htrace, Step.failuresOf_map_ruling]
  · rw [Engine.validate_warnings, Engine.validate_warnings]
    unfold Engine.steps
    rw [← Step.warnings_map_ruling, htrace, Step.warnings_map_ruling]
  · intro key hkey
    exact Engine.record_congr (Dict.find? · key) herror (h key hkey) (hsettle.find?_eq key hkey)
  · intro key hkey
    have hother : key ∉ rules.keys := fun hmem => hkey (Or.inl hmem)
    exact ⟨Engine.find?_validate_of_not_mem_keys _ first rules hother,
      Engine.find?_validate_of_not_mem_keys _ second rules hother⟩

/-- A field that no token names may come and go. -/
theorem validate_eq_of_agree_of_unnamed :
    (∀ key, RuleSet.Mentions (.ofList [("a", ["bool", "sameAs:b"])]) key →
      (Dict.insert (.ofList [("a", .string "TRUE"), ("b", .bool true)]) "z" .null).find? key =
        (Dict.ofList [("a", Value.string "TRUE"), ("b", .bool true)]).find? key) ∧
    (Engine.validate ⟨.builtins, .ignore⟩
        (Dict.insert (.ofList [("a", .string "TRUE"), ("b", .bool true)]) "z" .null)
        (.ofList [("a", ["bool", "sameAs:b"])])).result =
      (Engine.validate ⟨.builtins, .ignore⟩ (.ofList [("a", .string "TRUE"), ("b", .bool true)])
        (.ofList [("a", ["bool", "sameAs:b"])])).result := by
  have hunnamed : ∀ c ∈ RuleSet.calls (.ofList [("a", ["bool", "sameAs:b"])]),
      ∀ b ∈ [Builtin.sameAs, .different, .requiredWith, .requiredWithout],
        b.name = RuleToken.nameOf c.token → (b.arguments c.token)[0]? ≠ some "z" := by
    decide
  have hmentions : ¬ RuleSet.Mentions (.ofList [("a", ["bool", "sameAs:b"])]) "z" := by
    rintro (hkey | ⟨c, hc, b, hb, hcalled, hkey⟩)
    · exact absurd hkey (by decide)
    · exact hunnamed c hc b hb hcalled hkey
  have hagree : ∀ key, RuleSet.Mentions (.ofList [("a", ["bool", "sameAs:b"])]) key →
      (Dict.insert (.ofList [("a", .string "TRUE"), ("b", .bool true)]) "z" .null).find? key =
        (Dict.ofList [("a", Value.string "TRUE"), ("b", .bool true)]).find? key := by
    intro key hkey
    rw [Dict.find?_insert, if_neg]
    rintro rfl
    exact hmentions hkey
  exact ⟨hagree, (validate_eq_of_agree .ignore _ _ _ hagree).1⟩

end FieldRules
