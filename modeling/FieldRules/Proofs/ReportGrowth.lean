import FieldRules.Proofs.ByteOrder
import FieldRules.Proofs.ReportHistory
import Mathlib.Algebra.GroupWithZero.Nat

/-!
What insertions come to. A report that grew from the empty one, by insertions or all at once, holds
for each field the inserted lists one after another, and lists no field for which nothing but empty
lists was inserted. How the insertions for different fields take turns does not matter, and the
fields stand in ascending order of their bytes. Main statement: `accumulation`.
-/
namespace FieldRules.Report

/-- A report that holds what a list of insertions has for each field, and nothing else. -/
structure Gathers (r : Report) (l : List (String × List Failure)) : Prop where
  find?_eq : ∀ field,
    r.find? field = if collected l field = [] then none else some (collected l field)
  missing_iff : ∀ field, r.contains field = false ↔ collected l field = []
  mem_toList_iff : ∀ field failures,
    (field, failures) ∈ r.toList ↔ r.find? field = some failures
  fieldNames_eq : r.fieldNames = r.toList.map (·.1)
  ascending : r.fieldNames.Pairwise fun a b => utf8Bytes a < utf8Bytes b
  failureCount_eq : r.failureCount = (l.map fun e => e.2.length).sum
  hasFailure_iff : ∀ field kind, r.hasFailure field kind = true ↔
    ∃ e ∈ l, e.1 = field ∧ ∃ f ∈ e.2, f.kind = kind

def insertions (l : List (String × List Failure)) : List ReportOp :=
  l.map fun e => .insert e.1 e.2

theorem run_insertions (l : List (String × List Failure)) : run (insertions l) = ofList l := by
  unfold run insertions ofList
  rw [List.foldl_map]
  rfl

theorem mem_collected {l : List (String × List Failure)} {field : String} {f : Failure} :
    f ∈ collected l field ↔ ∃ e ∈ l, e.1 = field ∧ f ∈ e.2 := by
  simp [collected, and_assoc]

theorem hasFailure_iff_failuresAt (r : Report) (field kind : String) :
    r.hasFailure field kind = true ↔ ∃ f ∈ r.failuresAt field, f.kind = kind := by
  unfold hasFailure failuresAt
  cases r.find? field <;> simp

theorem hasFailure_ofList_iff (l : List (String × List Failure)) (field kind : String) :
    (ofList l).hasFailure field kind = true ↔
      ∃ e ∈ l, e.1 = field ∧ ∃ f ∈ e.2, f.kind = kind := by
  rw [hasFailure_iff_failuresAt, failuresAt_ofList]
  constructor
  · rintro ⟨f, hf, hkind⟩
    obtain ⟨e, he, hfield, hmem⟩ := mem_collected.mp hf
    exact ⟨e, he, hfield, f, hmem, hkind⟩
  · rintro ⟨e, he, hfield, f, hmem, hkind⟩
    exact ⟨f, mem_collected.mpr ⟨e, he, hfield, hmem⟩, hkind⟩

theorem contains_eq_false_iff (r : Report) (field : String) :
    r.contains field = false ↔ r.find? field = none :=
  Option.isSome_eq_false_iff.trans Option.isNone_iff_eq_none

/-- The order of the fields does not depend on how the report came about. -/
theorem fieldNames_ascending (r : Report) :
    r.fieldNames.Pairwise fun a b => utf8Bytes a < utf8Bytes b :=
  List.pairwise_map.mpr (r.fields.ascending.imp fun h => (lt_iff_utf8Bytes_lt _ _).mp h)

/-- A collected report holds its list, seen through any of its accessors. -/
theorem gathers_ofList (l : List (String × List Failure)) : (ofList l).Gathers l where
  find?_eq := find?_ofList l
  missing_iff field := by
    rw [contains_eq_false_iff, find?_ofList]
    split <;> simp_all
  mem_toList_iff := Dict.mem_entries_iff (ofList l).fields
  fieldNames_eq := rfl
  ascending := fieldNames_ascending (ofList l)
  failureCount_eq := (failureCount_ofList l).trans List.length_flatMap
  hasFailure_iff := hasFailure_ofList_iff l

/-- Inserted one by one or collected at once, the entries of a list make the same report, which
gathers them. Two lists that have the same entries for each field, in the same order, make the same
report; so do two lists just if each field has the same failures in both. -/
theorem accumulation (l : List (String × List Failure)) :
    (run (insertions l)).Gathers l ∧ (run [.collect l]).Gathers l ∧
    run [.collect l] = run (insertions l) ∧
    (∀ l', (∀ field, (l.filter fun e => e.1 = field) = l'.filter fun e => e.1 = field) →
      run (insertions l) = run (insertions l')) ∧
    ∀ l', run (insertions l) = run (insertions l') ↔
      ∀ field, collected l field = collected l' field := by
  have hcollect : run [.collect l] = ofList l := rfl
  rw [hcollect, run_insertions]
  refine ⟨gathers_ofList l, gathers_ofList l, rfl, fun l' h => ?_, fun l' => ?_⟩
  · rw [run_insertions]
    refine ofList_congr fun field => ?_
    unfold collected
    rw [h field]
  · rw [run_insertions]
    refine ⟨fun h field => ?_, ofList_congr⟩
    rw [← failuresAt_ofList, h, failuresAt_ofList]

/-- Two fields that take turns make the same report as one field after the other. -/
theorem accumulation_of_turns :
    (∀ field, ([("b", [⟨"num", "1"⟩]), ("a", [⟨"url", "2"⟩]), ("b", [⟨"num", "3"⟩])].filter
        fun e : String × List Failure => e.1 = field) =
      [("b", [⟨"num", "1"⟩]), ("b", [⟨"num", "3"⟩]), ("a", [⟨"url", "2"⟩])].filter
        fun e => e.1 = field) ∧
    run (insertions [("b", [⟨"num", "1"⟩]), ("a", [⟨"url", "2"⟩]), ("b", [⟨"num", "3"⟩])]) =
      run (insertions [("b", [⟨"num", "1"⟩]), ("b", [⟨"num", "3"⟩]), ("a", [⟨"url", "2"⟩])]) := by
  have hturns : ∀ field,
      ([("b", [⟨"num", "1"⟩]), ("a", [⟨"url", "2"⟩]), ("b", [⟨"num", "3"⟩])].filter
        fun e : String × List Failure => e.1 = field) =
      [("b", [⟨"num", "1"⟩]), ("b", [⟨"num", "3"⟩]), ("a", [⟨"url", "2"⟩])].filter
        fun e => e.1 = field := by
    intro field
    by_cases hb : "b" = field
    · subst hb
      rfl
    · simp [List.filter_cons, hb]
  exact ⟨hturns, (accumulation _).2.2.2.1 _ hturns⟩

end FieldRules.Report
