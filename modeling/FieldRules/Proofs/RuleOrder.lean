import FieldRules.Proofs.Misconfiguration
import FieldRules.Proofs.Normalization

/-!
The order of a field's tokens. Tokens before the first one for truth values find the field's value
as it was, those from there on find the truth value in its place. So a permutation of the tokens
permutes the failures as long as no token can tell the two values apart, and the order matters as
soon as one can. Main statement: `perm_failures_iff`.
-/
namespace FieldRules

open Builtin

def failureOf (record : Record) (field token : String) : Option Failure :=
  (Catalogue.builtins.step record ⟨field, token⟩).failure?

/-- A token that fails alike whether the field's value or the truth value in its place is judged. -/
def Indifferent (record : Record) (field token : String) : Prop :=
  failureOf record field token = failureOf (normalized record field) field token

def failuresInOrder (record : Record) (field : String) (tokens : List String) : List Failure :=
  (Catalogue.builtins.trace record (tokens.map (Call.mk field))).filterMap Step.failure?

/-- A token for truth values shows in what the tokens after it judge. -/
theorem failuresInOrder_cons (record : Record) (field token : String) (rest : List String) :
    failuresInOrder record field (token :: rest) = (failureOf record field token).toList ++
      failuresInOrder (if callsBool token then normalized record field else record) field rest := by
  unfold failuresInOrder failureOf
  rw [List.map_cons, Catalogue.trace, Catalogue.next_step_builtins]
  cases hf : (Catalogue.builtins.step record ⟨field, token⟩).failure? <;> simp [hf]

theorem filterMap_cons_toList {α β : Type} (f : α → Option β) (a : α) (l : List α) :
    (a :: l).filterMap f = (f a).toList ++ l.filterMap f := by
  cases hf : f a <;> simp [hf]

/-- A token for truth values passes where it writes. -/
theorem indifferent_of_callsBool (record : Record) (field : String) {token : String}
    (h : callsBool token = true) : Indifferent record field token := by
  have hpass : ∀ r, (truth? r field).isSome = true → failureOf r field token = none := by
    intro r hr
    obtain ⟨t, ht⟩ := Option.isSome_iff_exists.mp hr
    have hwrite := (Catalogue.write?_step_builtins r ⟨field, token⟩ (.bool t)).mpr ⟨h, t, ht, rfl⟩
    rw [Step.write?_eq_some_iff] at hwrite
    unfold failureOf Step.failure?
    rw [hwrite]
  unfold Indifferent
  cases ht : truth? record field with
  | none => simp [normalized, ht]
  | some t =>
    have hput : normalized record field = record.insert field (.bool t) := by
      simp [normalized, ht]
    rw [hpass record (by simp [ht]), hput, hpass _ (by simp [truth?_insert_bool])]

/-- Once the truth value is in its place, no token changes the record. -/
theorem failuresInOrder_of_normalized {record : Record} {field : String}
    (h : normalized record field = record) (tokens : List String) :
    failuresInOrder record field tokens = tokens.filterMap (failureOf record field) := by
  induction tokens with
  | nil => rfl
  | cons token rest ih =>
    rw [failuresInOrder_cons, h, ite_self, ih, filterMap_cons_toList]

/-- Failures of the tokens up to the first one for truth values, and of those from there on. -/
theorem failuresInOrder_eq (record : Record) (field : String) (tokens : List String) :
    failuresInOrder record field tokens =
      (tokens.takeWhile fun t => !callsBool t).filterMap (failureOf record field) ++
        (tokens.dropWhile fun t => !callsBool t).filterMap
          (failureOf (normalized record field) field) := by
  induction tokens with
  | nil => rfl
  | cons token rest ih =>
    rw [failuresInOrder_cons]
    by_cases hb : callsBool token = true
    · have hsame : failureOf record field token =
          failureOf (normalized record field) field token :=
        indifferent_of_callsBool record field hb
      rw [if_pos hb, failuresInOrder_of_normalized (normalized_normalized record field), hsame,
        ← filterMap_cons_toList]
      simp [hb]
    · rw [if_neg hb, ih, List.takeWhile_cons_of_pos (by simpa using hb),
        List.dropWhile_cons_of_pos (by simpa using hb), filterMap_cons_toList, List.append_assoc]

/-- Where the order has nothing to decide, each token can be judged by itself. -/
theorem failuresInOrder_of_indifferent {record : Record} {field : String} {tokens : List String}
    (h : (∃ t ∈ tokens, callsBool t = true) → ∀ t ∈ tokens, Indifferent record field t) :
    failuresInOrder record field tokens = tokens.filterMap (failureOf record field) := by
  have hrest : (tokens.dropWhile fun t => !callsBool t).filterMap
      (failureOf (normalized record field) field) =
      (tokens.dropWhile fun t => !callsBool t).filterMap (failureOf record field) := by
    by_cases hbool : ∃ t ∈ tokens, callsBool t = true
    · refine List.filterMap_congr fun t ht => ?_
      exact (h hbool t (List.dropWhile_subset _ ht)).symm
    · have hnil : (tokens.dropWhile fun t => !callsBool t) = [] := by
        rw [List.dropWhile_eq_nil_iff]
        intro t ht
        simpa using fun hcalls => hbool ⟨t, ht, hcalls⟩
      rw [hnil]
      rfl
  rw [failuresInOrder_eq, hrest, ← List.filterMap_append, List.takeWhile_append_dropWhile]

/-- A token that can tell the values apart fails differently before and after one for truth
values. -/
theorem not_perm_of_not_indifferent {record : Record} {field token bool : String}
    (hbool : callsBool bool = true) (h : ¬ Indifferent record field token) (rest : List String) :
    ¬ (failuresInOrder record field (token :: bool :: rest)).Perm
      (failuresInOrder record field (bool :: token :: rest)) := by
  have hother : ¬ callsBool token = true := fun hcalls =>
    h (indifferent_of_callsBool record field hcalls)
  have hafter : failuresInOrder record field (bool :: token :: rest) =
      (bool :: token :: rest).filterMap (failureOf (normalized record field) field) := by
    rw [failuresInOrder_eq]
    simp [hbool]
  have hbefore : failuresInOrder record field (token :: bool :: rest) =
      (failureOf record field token).toList ++
        (bool :: rest).filterMap (failureOf (normalized record field) field) := by
    rw [failuresInOrder_cons, if_neg hother, failuresInOrder_eq]
    simp [hbool]
  have hswap : ((bool :: token :: rest).filterMap
      (failureOf (normalized record field) field)).Perm
      ((failureOf (normalized record field) field token).toList ++
        (bool :: rest).filterMap (failureOf (normalized record field) field)) := by
    rw [← filterMap_cons_toList]
    exact (List.Perm.swap token bool rest).filterMap _
  intro hperm
  rw [hbefore, hafter] at hperm
  have hcancel := (List.perm_append_right_iff _).mp (hperm.trans hswap)
  apply h
  unfold Indifferent
  cases hr : failureOf record field token with
  | none =>
    rw [hr] at hcancel
    exact (Option.toList_eq_nil_iff.mp (List.nil_perm.mp hcancel)).symm
  | some f =>
    rw [hr] at hcancel
    exact (Option.toList_eq_singleton_iff.mp (List.singleton_perm.mp hcancel).symm).symm

/-- A field is evaluated to its failures in order exactly if none of its tokens is misconfigured. -/
theorem evaluate_builtins_result_iff (policy : Policy) (field : String) (record : Record)
    (tokens : List String) (failures : List Failure) :
    (Engine.evaluate ⟨.builtins, policy⟩ field record tokens).result = .ok failures ↔
      (∀ t ∈ tokens, Catalogue.fault? policy ⟨field, t⟩ = none) ∧
        failuresInOrder record field tokens = failures := by
  rw [Engine.evaluate_result_eq_ok_iff, Catalogue.findSome?_error?_trace,
    List.findSome?_eq_none_iff, List.forall_mem_map]
  rfl

/-- If one order of the tokens has no error, none has one. -/
theorem evaluate_builtins_of_perm {policy : Policy} {record : Record} {field : String}
    {tokens tokens' : List String} {failures : List Failure} (hperm : tokens'.Perm tokens)
    (h : (Engine.evaluate ⟨.builtins, policy⟩ field record tokens).result = .ok failures) :
    (Engine.evaluate ⟨.builtins, policy⟩ field record tokens').result =
      .ok (failuresInOrder record field tokens') := by
  have hgood := ((evaluate_builtins_result_iff policy field record tokens failures).mp h).1
  rw [evaluate_builtins_result_iff]
  exact ⟨fun t ht => hgood t (hperm.mem_iff.mp ht), rfl⟩

theorem exists_perm_cons_cons {tokens : List String} {token bool : String} (hne : bool ≠ token)
    (htoken : token ∈ tokens) (hbool : bool ∈ tokens) :
    ∃ others, (token :: bool :: others).Perm tokens := by
  have hfirst := List.perm_cons_erase htoken
  have hmem : bool ∈ tokens.erase token := (List.mem_erase_of_ne hne).mpr hbool
  have hsecond := (List.perm_cons_erase hmem).cons token
  exact ⟨_, (hfirst.trans hsecond).symm⟩

/-- On a field that the tokens can judge at all, every order of them goes through. All orders find
the same failures if and only if no token is for truth values, or each fails alike on the field's
value and on the truth value in its place. -/
theorem perm_failures_iff (policy : Policy) (record : Record) (field : String)
    (tokens : List String) (failures : List Failure)
    (h : (Engine.evaluate ⟨.builtins, policy⟩ field record tokens).result = .ok failures) :
    failures = (tokens.takeWhile fun t => !callsBool t).filterMap (failureOf record field) ++
      (tokens.dropWhile fun t => !callsBool t).filterMap
        (failureOf (normalized record field) field) ∧
    (∀ tokens' : List String, tokens'.Perm tokens → ∃ failures',
      (Engine.evaluate ⟨.builtins, policy⟩ field record tokens').result = .ok failures') ∧
    ((∀ (tokens' : List String) failures', tokens'.Perm tokens →
        (Engine.evaluate ⟨.builtins, policy⟩ field record tokens').result = .ok failures' →
          failures'.Perm failures) ↔
      ((∃ t ∈ tokens, callsBool t = true) → ∀ t ∈ tokens, Indifferent record field t)) := by
  obtain ⟨-, hfailures⟩ := (evaluate_builtins_result_iff policy field record tokens failures).mp h
  refine ⟨?_, fun tokens' hperm => ⟨_, evaluate_builtins_of_perm hperm h⟩, ?_⟩
  · rw [← hfailures]
    exact failuresInOrder_eq record field tokens
  constructor
  · rintro hall ⟨bool, hmem, hbool⟩ token htoken
    by_contra hnot
    have hne : bool ≠ token := by
      rintro rfl
      exact hnot (indifferent_of_callsBool record field hbool)
    obtain ⟨others, hbefore⟩ := exists_perm_cons_cons hne htoken hmem
    have hafter : (bool :: token :: others).Perm tokens :=
      (List.Perm.swap token bool others).trans hbefore
    have hleft := hall _ _ hbefore (evaluate_builtins_of_perm hbefore h)
    have hright := hall _ _ hafter (evaluate_builtins_of_perm hafter h)
    exact not_perm_of_not_indifferent hbool hnot others (hleft.trans hright.symm)
  · intro hcond tokens' failures' hperm hok
    have hcond' : (∃ t ∈ tokens', callsBool t = true) →
        ∀ t ∈ tokens', Indifferent record field t := by
      rintro ⟨b, hb, hbool⟩ t ht
      exact hcond ⟨b, hperm.mem_iff.mp hb, hbool⟩ t (hperm.mem_iff.mp ht)
    have hfailures' : failuresInOrder record field tokens' = failures' :=
      ((evaluate_builtins_result_iff policy field record tokens' failures').mp hok).2
    rw [← hfailures, ← hfailures', failuresInOrder_of_indifferent hcond,
      failuresInOrder_of_indifferent hcond']
    exact hperm.filterMap _

/-- A number is asked for before the text has become a truth value, and not after. -/
theorem perm_failures_iff_of_text :
    (Engine.evaluate ⟨.builtins, .ignore⟩ "f" (.ofList [("f", .string "true")])
      ["num", "bool"]).result = .ok [⟨"num", "Field `f` is not a number."⟩] ∧
    ¬ ((∃ t ∈ ["num", "bool"], callsBool t = true) →
      ∀ t ∈ ["num", "bool"], Indifferent (.ofList [("f", .string "true")]) "f" t) := by
  have h : (Engine.evaluate ⟨.builtins, .ignore⟩ "f" (.ofList [("f", .string "true")])
      ["num", "bool"]).result = .ok [⟨"num", "Field `f` is not a number."⟩] := by decide
  refine ⟨h, fun hcond => ?_⟩
  have hall := (perm_failures_iff .ignore _ "f" _ _ h).2.2.mpr hcond
  have hperm := hall ["bool", "num"] [] (List.Perm.swap _ _ _) (by decide)
  exact absurd hperm.length_eq (by decide)

/-- So the order of a field's tokens does not only order the failures. -/
theorem not_perm_failures :
    ¬ ∀ (policy : Policy) (record : Record) (field : String) (tokens tokens' : List String)
      (failures failures' : List Failure), tokens.Perm tokens' →
      (Engine.evaluate ⟨.builtins, policy⟩ field record tokens).result = .ok failures →
      (Engine.evaluate ⟨.builtins, policy⟩ field record tokens').result = .ok failures' →
        failures.Perm failures' := by
  intro hall
  have hperm := hall .ignore (.ofList [("f", .string "true")]) "f" ["num", "bool"] ["bool", "num"]
    [⟨"num", "Field `f` is not a number."⟩] [] (List.Perm.swap _ _ _) (by decide)
    (by decide)
  exact absurd hperm.length_eq (by decide)

end FieldRules
