import FieldRules.Proofs.Comparison
import FieldRules.Proofs.FiniteNumbers

/-!
Strict equality and loose equality. Two values that are strictly equal are loosely equal as well, if
their numbers are finite: a number that is not finite has no reading as a number, so that it is
equal to nothing loosely, though an infinite one is strictly equal to itself. Hence a field of a
record that is made of JSON is equal to itself: `sameAs` passes when it names its own field, and
`different` finds fault. Main statement: `comparison_reflexive`.
-/
namespace FieldRules

namespace Double

theorem eq_self {d : Double} (h : d.isFinite = true) : d.eq d = true := by
  cases d with
  | finite => exact beq_self_eq_true _
  | nan | infinite => cases h

theorem isFinite_of_eq {a b : Double} (ha : a.isFinite = true) (h : a.eq b = true) :
    b.isFinite = true := by
  cases a with
  | nan | infinite => cases ha
  | finite =>
    cases b with
    | finite => rfl
    | nan | infinite => cases h

end Double

namespace Value

theorem toNumber?_number {d : Double} (h : d.isFinite = true) : (number d).toNumber? = some d :=
  if_pos h

theorem looseEq_number {m n : Double} (hm : m.isFinite = true) (hn : n.isFinite = true) :
    (number m).looseEq (number n) = m.eq n := by
  change (number m).numbersEq (number n) = m.eq n
  unfold numbersEq
  rw [toNumber?_number hm, toNumber?_number hn]

mutual

/-- Objects are compared strictly by both equalities, arrays item by item; the numbers, which loose
equality compares by their readings, have readings since they are finite. -/
theorem looseEq_of_strictEq : ∀ {a b : Value}, a.HasFiniteNumbers → a.strictEq b = true →
    a.looseEq b = true
  | .null, b, _, h => by
    cases b with
    | null => rfl
    | _ => cases h
  | .bool p, b, _, h => by
    cases b with
    | bool q => exact h
    | _ => cases h
  | .number m, b, hfinite, h => by
    cases b with
    | number n =>
      have hm := (hasFiniteNumbers_number m).mp hfinite
      rw [looseEq_number hm (Double.isFinite_of_eq hm h)]
      exact h
    | _ => cases h
  | .string s, b, _, h => by
    cases b with
    | string t => exact h
    | _ => cases h
  | .array xs, b, hfinite, h => by
    cases b with
    | array ys => exact looseEqItems_of_strictEqItems ((hasFiniteNumbers_array xs).mp hfinite) h
    | _ => cases h
  | .object fs, b, _, h => by
    cases b with
    | object gs => exact h
    | _ => cases h
  | .date d, b, _, h => by
    cases b with
    | date e => exact h
    | _ => cases h

theorem looseEqItems_of_strictEqItems : ∀ {xs ys : List Value},
    (∀ x ∈ xs, x.HasFiniteNumbers) → strictEqItems xs ys = true → looseEqItems xs ys = true
  | [], ys, _, h => by
    cases ys with
    | nil => rfl
    | cons => cases h
  | x :: xs, [], _, h => by cases h
  | x :: xs, y :: ys, hfinite, h => by
    obtain ⟨hx, hxs⟩ := List.forall_mem_cons.mp hfinite
    obtain ⟨hhead, htail⟩ := Bool.and_eq_true_iff.mp h
    rw [looseEqItems, looseEq_of_strictEq hx hhead, looseEqItems_of_strictEqItems hxs htail]
    rfl

end

mutual

theorem strictEq_self : ∀ {a : Value}, a.HasFiniteNumbers → a.strictEq a = true
  | .null, _ => rfl
  | .bool p, _ => beq_self_eq_true p
  | .number m, hfinite => Double.eq_self ((hasFiniteNumbers_number m).mp hfinite)
  | .string s, _ => beq_self_eq_true s
  | .array xs, hfinite => strictEqItems_self ((hasFiniteNumbers_array xs).mp hfinite)
  | .object fs, hfinite => strictEqFields_self ((hasFiniteNumbers_object fs).mp hfinite)
  | .date d, _ => beq_self_eq_true d

theorem strictEqItems_self : ∀ {xs : List Value}, (∀ x ∈ xs, x.HasFiniteNumbers) →
    strictEqItems xs xs = true
  | [], _ => rfl
  | x :: xs, hfinite => by
    obtain ⟨hx, hxs⟩ := List.forall_mem_cons.mp hfinite
    rw [strictEqItems, strictEq_self hx, strictEqItems_self hxs]
    rfl

theorem strictEqFields_self : ∀ {fs : List (String × Value)},
    (∀ f ∈ fs, f.2.HasFiniteNumbers) → strictEqFields fs fs = true
  | [], _ => rfl
  | (key, x) :: fs, hfinite => by
    obtain ⟨hx, hfs⟩ := List.forall_mem_cons.mp hfinite
    rw [strictEqFields, strictEq_self hx, strictEqFields_self hfs, beq_self_eq_true]
    rfl

end

theorem looseEq_self {a : Value} (h : a.HasFiniteNumbers) : a.looseEq a = true :=
  looseEq_of_strictEq h (strictEq_self h)

end Value

section OwnField

variable {record : Record} {field : String}
  (hfinite : ∀ v, record.find? field = some v → v.HasFiniteNumbers)
include hfinite

/-- A field with content is compared with itself, and equal. -/
theorem comparison?_self (hcontent : (Focus.mk record field).isEmpty = false) :
    Builtin.comparison? ⟨record, field⟩ field = some true := by
  obtain ⟨v, hv⟩ := Focus.exists_content hcontent
  have hfind := ((Focus.content?_eq_some_iff _ v).mp hv).1
  rw [Builtin.comparison?_eq_some_iff]
  exact ⟨v, v, hv, hfind, Value.looseEq_self (hfinite v hfind)⟩

theorem passes_sameAs_self (hname : field ≠ "") : Passes record field ("sameAs:" ++ field) := by
  rw [passes_sameAs_iff hname]
  cases hempty : (Focus.mk record field).isEmpty with
  | true =>
    rw [comparison?_of_missing (Or.inl hempty)]
    nofun
  | false =>
    rw [comparison?_self hfinite hempty]
    nofun

theorem findsFault_different_self (hname : field ≠ "")
    (hcontent : (Focus.mk record field).isEmpty = false) :
    FindsFault record field ("different:" ++ field) := by
  rw [findsFault_different_iff hname]
  exact comparison?_self hfinite hcontent

end OwnField

/-- Loose equality holds wherever strict equality does, if the numbers are finite, and it holds of a
value and itself. A value made of JSON has finite numbers, so that in a record made of JSON `sameAs`
passes on the field that it names and `different` finds fault with it. The name must not be empty,
though: a rule without a name is wrong. -/
theorem comparison_reflexive :
    (∀ a b : Value, a.HasFiniteNumbers → a.strictEq b = true → a.looseEq b = true) ∧
    (∀ a : Value, a.HasFiniteNumbers → a.looseEq a = true) ∧
    (∀ (text : String) (j : Json), Json.ofText? text = some j → j.Proper) ∧
    (∀ j : Json, j.Proper → (Value.ofJson j).HasFiniteNumbers) ∧
    (∀ (j : Json) (record : Record), j.Proper → Record.ofJson? j = some record →
      ∀ field : String, field ≠ "" →
        Passes record field ("sameAs:" ++ field) ∧
        ((Focus.mk record field).isEmpty = false →
          FindsFault record field ("different:" ++ field))) ∧
    (∀ f : Focus,
      Catalogue.builtins.judge? f "sameAs:" =
        some (.error (.missingArgument "sameAs" "fieldname")) ∧
      Catalogue.builtins.judge? f "different:" =
        some (.error (.missingArgument "different" "fieldname"))) := by
  refine ⟨fun _ _ => Value.looseEq_of_strictEq, fun _ => Value.looseEq_self,
    fun _ _ => Json.proper_of_ofText?, fun _ => Value.hasFiniteNumbers_ofJson, ?_, ?_⟩
  · intro j record hproper hrecord field hname
    have hfinite (v : Value) (hv : record.find? field = some v) : v.HasFiniteNumbers :=
      Record.hasFiniteNumbers_ofJson? hproper hrecord hv
    exact ⟨passes_sameAs_self hfinite hname, findsFault_different_self hfinite hname⟩
  · intro f
    exact ⟨Builtin.judge?_comparison_of_empty (b := .sameAs) (by decide) f,
      Builtin.judge?_comparison_of_empty (b := .different) (by decide) f⟩

/-- A list with a null in it is equal to itself, too. -/
theorem comparison_reflexive_of_list :
    (Json.object [("f", .array [.bool true, .null])]).Proper ∧
      Passes (.ofList [("f", .array [.bool true, .null])]) "f" "sameAs:f" ∧
      FindsFault (.ofList [("f", .array [.bool true, .null])]) "f" "different:f" := by
  have hitems : (Json.array [.bool true, .null]).Proper := by
    refine .array fun item hitem => ?_
    rcases List.mem_pair.mp hitem with rfl | rfl
    · exact .bool
    · exact .null
  have hproper : (Json.object [("f", .array [.bool true, .null])]).Proper :=
    .object (List.forall_mem_singleton.mpr hitems)
  have h := comparison_reflexive.2.2.2.2.1 _ _ hproper rfl "f" (by decide)
  exact ⟨hproper, h.1, h.2 rfl⟩

/-- But `different` does not find fault with the field of the empty name. -/
theorem not_different_of_empty_name :
    ¬ ∀ (j : Json) (record : Record), j.Proper → Record.ofJson? j = some record →
      ∀ field : String, (Focus.mk record field).isEmpty = false →
        FindsFault record field ("different:" ++ field) := by
  intro hall
  have hproper : Json.Proper (.object [("", .string "a")]) := by
    refine .object fun m hm => ?_
    rw [List.mem_singleton.mp hm]
    exact .string
  obtain ⟨message, hfault⟩ := hall _ _ hproper rfl "" (by decide)
  have hmissing := Builtin.judge?_comparison_of_empty (b := .different) (by decide)
    ⟨.ofList [("", .string "a")], ""⟩
  cases hmissing.symm.trans hfault

end FieldRules
