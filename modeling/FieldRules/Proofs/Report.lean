import FieldRules.Proofs.Dict
import FieldRules.Report

/-!
How reports grow. After any list of insertions a report holds for a field what was inserted for it,
one list after another, and does not list the field at all if this is empty. So no report that is
built by insertions lists a field without failures. Its failures are counted by the inserted lists,
and its fields are at most as many as these.
-/
namespace FieldRules.Report

def failuresAt (r : Report) (field : String) : List Failure := (r.find? field).getD []

def Solid (r : Report) : Prop := ∀ field, r.find? field ≠ some []

theorem empty_solid : empty.Solid := by
  intro field
  simp [empty, find?]

/-- An insertion puts failures behind those of its field; one of no failures changes nothing. -/
theorem find?_insert (r : Report) (field : String) (failures : List Failure) (k : String) :
    (r.insert field failures).find? k =
      if k = field ∧ failures ≠ [] then some (r.failuresAt field ++ failures) else r.find? k := by
  unfold insert
  cases failures with
  | nil => simp
  | cons f rest =>
    simp only [List.isEmpty_cons, Bool.false_eq_true, if_false, find?, Dict.find?_alter,
      failuresAt]
    by_cases hk : k = field <;> simp [hk]

theorem insert_solid {r : Report} (h : r.Solid) (field : String) (failures : List Failure) :
    (r.insert field failures).Solid := by
  intro k
  rw [find?_insert]
  split
  · rename_i hk
    simp [hk.2]
  · exact h k

theorem failuresAt_insert (r : Report) (field : String) (failures : List Failure) (k : String) :
    (r.insert field failures).failuresAt k =
      r.failuresAt k ++ if k = field then failures else [] := by
  unfold failuresAt
  rw [find?_insert]
  by_cases hk : k = field
  · subst hk
    by_cases hf : failures = []
    · simp [hf]
    · simp [hf, failuresAt]
  · simp [hk]

/-- In a solid report lookup and the failures of a field say the same. -/
theorem Solid.find?_eq {r : Report} (h : r.Solid) (field : String) :
    r.find? field = if r.failuresAt field = [] then none else some (r.failuresAt field) := by
  unfold failuresAt
  cases hf : r.find? field with
  | none => simp
  | some failures =>
    have hne : failures ≠ [] := fun he => h field (he ▸ hf)
    simp [hne]

def collected (l : List (String × List Failure)) (field : String) : List Failure :=
  (l.filter fun e => e.1 = field).flatMap (·.2)

/-- By induction on the insertions, for whatever report they start from. -/
theorem foldl_insert (l : List (String × List Failure)) (r : Report) (h : r.Solid) :
    (l.foldl (fun r e => r.insert e.1 e.2) r).Solid ∧
      ∀ field, (l.foldl (fun r e => r.insert e.1 e.2) r).failuresAt field =
        r.failuresAt field ++ collected l field := by
  induction l generalizing r with
  | nil => exact ⟨h, fun field => by simp [collected]⟩
  | cons e rest ih =>
    obtain ⟨hsolid, hat⟩ := ih (r.insert e.1 e.2) (insert_solid h e.1 e.2)
    refine ⟨hsolid, fun field => ?_⟩
    rw [List.foldl_cons, hat, failuresAt_insert]
    by_cases hf : e.1 = field
    · simp [collected, hf, List.append_assoc]
    · simp [collected, hf, Ne.symm hf]

theorem ofList_solid (l : List (String × List Failure)) : (ofList l).Solid :=
  (foldl_insert l empty empty_solid).1

theorem failuresAt_ofList (l : List (String × List Failure)) (field : String) :
    (ofList l).failuresAt field = collected l field :=
  (foldl_insert l empty empty_solid).2 field

/-- A report lists exactly the fields for which something was inserted, with all of it. -/
theorem find?_ofList (l : List (String × List Failure)) (field : String) :
    (ofList l).find? field =
      if collected l field = [] then none else some (collected l field) := by
  rw [(ofList_solid l).find?_eq, failuresAt_ofList]

/-- A report depends on what is inserted for each field, not on how the fields are interleaved. -/
theorem ofList_congr {l l' : List (String × List Failure)}
    (h : ∀ field, collected l field = collected l' field) : ofList l = ofList l' := by
  have hfields : (ofList l).fields = (ofList l').fields := by
    apply Dict.ext_find?
    intro field
    have hl := find?_ofList l field
    rw [h, ← find?_ofList] at hl
    exact hl
  exact congrArg Report.mk hfields

theorem length_flatMap_alterEntries (field : String) (failures : List Failure)
    (l : List (String × List Failure)) :
    ((Dict.alterEntries field (fun old => old.getD [] ++ failures) l).flatMap (·.2)).length =
      (l.flatMap (·.2)).length + failures.length := by
  induction l with
  | nil => simp [Dict.alterEntries]
  | cons head rest ih =>
    obtain ⟨k, v⟩ := head
    simp only [Dict.alterEntries]
    split
    · simp [Nat.add_comm]
    · split
      · simp only [List.flatMap_cons, List.length_append, ih, Nat.add_assoc]
      · simp only [List.flatMap_cons, List.length_append, Option.getD_some]
        omega

theorem failureCount_insert (r : Report) (field : String) (failures : List Failure) :
    (r.insert field failures).failureCount = r.failureCount + failures.length := by
  unfold insert
  cases failures with
  | nil => simp
  | cons f rest => exact length_flatMap_alterEntries field (f :: rest) r.fields.entries

theorem size_insert_le (r : Report) (field : String) (failures : List Failure) :
    (r.insert field failures).size ≤ r.size + 1 := by
  unfold insert
  cases failures with
  | nil => exact Nat.le_succ _
  | cons f rest => exact (Dict.length_alterEntries field _ r.fields.entries).2

/-- No failure is dropped and none is counted twice. -/
theorem failureCount_ofList (l : List (String × List Failure)) :
    (ofList l).failureCount = (l.flatMap (·.2)).length := by
  have hgrow : ∀ r : Report, (l.foldl (fun r e => r.insert e.1 e.2) r).failureCount =
      r.failureCount + (l.flatMap (·.2)).length := by
    induction l with
    | nil => intro r; rfl
    | cons e rest ih =>
      intro r
      rw [List.foldl_cons, ih, failureCount_insert, List.flatMap_cons, List.length_append,
        Nat.add_assoc]
  exact (hgrow empty).trans (Nat.zero_add _)

theorem size_ofList_le (l : List (String × List Failure)) : (ofList l).size ≤ l.length := by
  have hgrow : ∀ r : Report,
      (l.foldl (fun r e => r.insert e.1 e.2) r).size ≤ r.size + l.length := by
    induction l with
    | nil => intro r; exact Nat.le_refl _
    | cons e rest ih =>
      intro r
      have hrest := ih (r.insert e.1 e.2)
      have hstep := size_insert_le r e.1 e.2
      rw [List.foldl_cons, List.length_cons]
      omega
  exact (hgrow empty).trans (Nat.le_of_eq (Nat.zero_add _))

theorem toOption_eq_none_iff (r : Report) : r.toOption = none ↔ ∀ field, r.find? field = none := by
  have hempty : r.isEmpty = true ↔ ∀ field, r.find? field = none := by
    unfold isEmpty Dict.isEmpty
    rw [List.isEmpty_iff]
    constructor
    · intro h field
      unfold find? Dict.find?
      rw [h]
      rfl
    · intro h
      rw [List.eq_nil_iff_forall_not_mem]
      rintro ⟨field, failures⟩ hmem
      rw [Dict.mem_entries_iff] at hmem
      simp [show r.fields.find? field = none from h field] at hmem
  rw [← hempty]
  unfold toOption
  split <;> simp_all

theorem toOption_eq_some {r answer : Report} (h : r.toOption = some answer) : answer = r := by
  unfold toOption at h
  split at h
  · cases h
  · exact (Option.some.inj h).symm

end FieldRules.Report
