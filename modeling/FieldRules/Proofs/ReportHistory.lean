import FieldRules.Proofs.Report
import FieldRules.Report.Json
import Mathlib.Data.List.Induction

/-!
Reports and the fields without failures in them. Insertions and collecting never list such a field,
but a text may: a report that is read keeps each field with the failures of the last member of its
name, be they none. Such a field stays until failures are inserted for it or another report takes
the place of this one. Main statement: `hollow_history`.
-/
namespace FieldRules

open Json (Document)

/-- What can be done to a report. A new report is collected from nothing. -/
inductive ReportOp where
  | insert (field : String) (failures : List Failure)
  | collect (entries : List (String × List Failure))
  | parse (text : String)

def ReportOp.Keeps (field : String) : ReportOp → Prop
  | .insert f failures => f = field → failures = []
  | .collect _ => False
  | .parse text => Report.ofText? text = none

namespace Report

def after (r : Report) : ReportOp → Report
  | .insert field failures => r.insert field failures
  | .collect entries => ofList entries
  | .parse text => (ofText? text).getD r

def run (ops : List ReportOp) : Report := ops.foldl after empty

/-- The field is listed without failures in a text that was read, and has been kept since. -/
def Planted (ops : List ReportOp) (field : String) : Prop :=
  ∃ before text later r, ops = before ++ .parse text :: later ∧ ofText? text = some r ∧
    r.find? field = some [] ∧ ∀ op ∈ later, op.Keeps field

theorem run_append_singleton (ops : List ReportOp) (op : ReportOp) :
    run (ops ++ [op]) = (run ops).after op := by
  unfold run
  rw [List.foldl_append]
  rfl

/-- The last operation plants the field, or keeps it where it was planted. -/
theorem planted_append_singleton_iff (ops : List ReportOp) (op : ReportOp) (field : String) :
    Planted (ops ++ [op]) field ↔
      (∃ text r, op = .parse text ∧ ofText? text = some r ∧ r.find? field = some []) ∨
        op.Keeps field ∧ Planted ops field := by
  constructor
  · rintro ⟨before, text, later, r, hops, hr, hfind, hkeeps⟩
    rcases List.eq_nil_or_concat later with rfl | ⟨later, last, rfl⟩
    · obtain ⟨rfl, hop⟩ := List.append_inj' hops rfl
      obtain rfl := List.singleton_injective hop
      exact Or.inl ⟨text, r, rfl, hr, hfind⟩
    · rw [List.concat_eq_append, ← List.cons_append, ← List.append_assoc] at hops
      obtain ⟨rfl, hop⟩ := List.append_inj' hops rfl
      obtain rfl := List.singleton_injective hop
      simp only [List.concat_eq_append, List.mem_append, List.mem_singleton] at hkeeps
      exact Or.inr ⟨hkeeps op (Or.inr rfl), before, text, later, r, rfl, hr, hfind,
        fun op hop => hkeeps op (Or.inl hop)⟩
  · rintro (⟨text, r, rfl, hr, hfind⟩ | ⟨hkeeps, before, text, later, r, rfl, hr, hfind, hlater⟩)
    · exact ⟨ops, text, [], r, rfl, hr, hfind, fun op hop => absurd hop List.not_mem_nil⟩
    · refine ⟨before, text, later ++ [op], r, by simp, hr, hfind, fun last hlast => ?_⟩
      rcases List.mem_append.mp hlast with hlast | hlast
      · exact hlater last hlast
      · rwa [List.mem_singleton.mp hlast]

/-- A field is listed without failures after an operation if a text has just listed it so, or if it
was so and the operation left it alone. -/
theorem find?_after_eq_nil_iff (r : Report) (op : ReportOp) (field : String) :
    (r.after op).find? field = some [] ↔
      (∃ text r', op = .parse text ∧ ofText? text = some r' ∧ r'.find? field = some []) ∨
        op.Keeps field ∧ r.find? field = some [] := by
  cases op with
  | insert f failures =>
    rw [after, find?_insert]
    by_cases h : field = f ∧ failures ≠ []
    · simp [ReportOp.Keeps, h.1, h.2]
    · rw [if_neg h]
      have hkeeps : f = field → failures = [] := fun hf => by
        by_contra hne
        exact h ⟨hf.symm, hne⟩
      rw [ReportOp.Keeps]
      simp only [reduceCtorEq, false_and, exists_false, false_or]
      exact ⟨fun hfind => ⟨hkeeps, hfind⟩, fun hfind => hfind.2⟩
  | collect entries =>
    have hsolid := ofList_solid entries field
    simp [after, ReportOp.Keeps, hsolid]
  | parse text =>
    cases hr : ofText? text with
    | none => simp [after, ReportOp.Keeps, hr]
    | some r' => simp [after, ReportOp.Keeps, hr]

/-- A field is listed without failures if and only if reading planted it and nothing since has
changed that. -/
theorem find?_run_eq_nil_iff (ops : List ReportOp) (field : String) :
    (run ops).find? field = some [] ↔ Planted ops field := by
  induction ops using List.reverseRecOn with
  | nil =>
    refine iff_of_false nofun ?_
    rintro ⟨before, text, later, r, hops, -⟩
    exact absurd hops.symm (List.append_ne_nil_of_right_ne_nil _ (List.cons_ne_nil _ _))
  | append_singleton ops op ih =>
    rw [run_append_singleton, find?_after_eq_nil_iff, planted_append_singleton_iff, ih]

theorem failuresOf?_eq_nil_iff (document : Document) :
    failuresOf? document = some [] ↔ document = .array [] := by
  cases document with
  | array items =>
    cases items with
    | nil => exact iff_of_true rfl rfl
    | cons item rest =>
      simp only [failuresOf?, List.mapM_cons, Option.bind_eq_bind, Option.pure_def,
        Option.bind_eq_some_iff, Option.some.injEq, reduceCtorEq, and_false, exists_false,
        Document.array.injEq]
  | null | bool | number | string | object => exact iff_of_false nofun nofun

theorem getLast?_of_mapM {α β : Type} {f : α → Option β} {l : List α} {l' : List β}
    (h : l.mapM f = some l') : l'.getLast? = l.getLast?.bind f := by
  induction l using List.reverseRecOn generalizing l' with
  | nil =>
    rw [List.mapM_nil, Option.pure_def, Option.some.injEq] at h
    rw [← h]
    rfl
  | append_singleton l a ih =>
    rw [List.mapM_append, Option.bind_eq_bind, Option.bind_eq_some_iff] at h
    obtain ⟨front, -, h⟩ := h
    simp only [List.mapM_cons, List.mapM_nil, Option.bind_eq_bind, Option.pure_def,
      Option.bind_some, Option.bind_eq_some_iff, Option.some.injEq] at h
    obtain ⟨last, ⟨b, hb, rfl⟩, rfl⟩ := h
    rw [List.getLast?_concat, List.getLast?_concat, Option.bind_some, hb]

/-- Of the members with one name the last one counts. -/
theorem find?_of_ofDocument? {document : Document} {r : Report}
    {members : List (String × Document)} (hmembers : document.members? = some members)
    (hr : ofDocument? document = some r) (field : String) :
    r.find? field = (Dict.valuesAt field members).getLast?.bind failuresOf? := by
  unfold ofDocument? at hr
  simp only [hmembers, Option.bind_eq_bind, Option.bind_some, Option.pure_def,
    Option.bind_eq_some_iff, Option.some.injEq] at hr
  obtain ⟨fields, hfields, rfl⟩ := hr
  rw [← getLast?_of_mapM (Dict.valuesAt_of_mapM hfields field)]
  change (Dict.ofList fields).find? field = _
  rw [Dict.ofList_eq_writeAll, Dict.find?_writeAll, Dict.find?_empty, Option.or_none]

/-- A text lists a field without failures if the last member of its name is an empty array. -/
theorem find?_ofText?_eq_nil_iff {text : String} {r : Report} (hr : ofText? text = some r)
    (field : String) : r.find? field = some [] ↔
      ∃ document members, Document.ofChars? text.toList = some document ∧
        document.members? = some members ∧
          (Dict.valuesAt field members).getLast? = some (.array []) := by
  unfold ofText? at hr
  obtain ⟨document, hdocument, hr⟩ := Option.bind_eq_some_iff.mp hr
  obtain ⟨members, hmembers, -⟩ := Option.bind_eq_some_iff.mp hr
  rw [find?_of_ofDocument? hmembers hr, hdocument]
  simp only [Option.some.injEq, exists_and_left, exists_eq_left', hmembers]
  cases (Dict.valuesAt field members).getLast? with
  | none => exact iff_of_false nofun nofun
  | some last => rw [Option.bind_some, failuresOf?_eq_nil_iff, Option.some.injEq]

theorem length_le_length_flatMap {l : List (String × List Failure)}
    (h : ∀ e ∈ l, e.2 ≠ []) : l.length ≤ (l.flatMap (·.2)).length := by
  induction l with
  | nil => exact Nat.le_refl 0
  | cons e rest ih =>
    have hpos : 0 < e.2.length := List.length_pos_iff.mpr (h e List.mem_cons_self)
    have ih := ih fun e he => h e (List.mem_cons_of_mem _ he)
    rw [List.length_cons, List.flatMap_cons, List.length_append]
    omega

theorem Solid.ne_nil_of_mem {r : Report} (h : r.Solid) :
    ∀ e ∈ r.toList, e.2 ≠ [] := by
  rintro ⟨field, failures⟩ he rfl
  exact h field ((Dict.mem_entries_iff r.fields field []).mp he)

/-- A report without empty fields is empty exactly if it counts no failure. -/
theorem Solid.isEmpty_iff {r : Report} (h : r.Solid) : r.isEmpty = true ↔ r.failureCount = 0 := by
  have hle : r.toList.length ≤ r.failureCount := length_le_length_flatMap h.ne_nil_of_mem
  unfold isEmpty Dict.isEmpty
  rw [List.isEmpty_iff]
  constructor
  · intro hnil
    unfold failureCount toList
    rw [hnil]
    rfl
  · intro hzero
    exact List.length_eq_zero_iff.mp (Nat.le_zero.mp (hzero ▸ hle))

theorem solid_iff_contains (r : Report) : r.Solid ↔
    ∀ field, r.contains field = true ↔ ∃ kind, r.hasFailure field kind = true := by
  have hcontains : ∀ field, r.contains field = (r.find? field).isSome := fun _ => rfl
  constructor
  · intro h field
    rw [hcontains]
    unfold hasFailure
    cases hfind : r.find? field with
    | none => simp
    | some failures =>
      obtain ⟨f, rest, rfl⟩ := List.exists_cons_of_ne_nil fun hnil => h field (hnil ▸ hfind)
      exact iff_of_true rfl ⟨f.kind, by simp⟩
  · intro h field hfind
    obtain ⟨kind, hkind⟩ := (h field).mp (by rw [hcontains, hfind]; rfl)
    unfold hasFailure at hkind
    rw [hfind] at hkind
    cases hkind

theorem collected_toList (r : Report) (field : String) :
    collected r.toList field = r.failuresAt field := by
  have hvalues : collected r.toList field = (Dict.valuesAt field r.fields.entries).flatten := by
    unfold collected Dict.valuesAt toList
    rw [List.flatMap_def]
  rw [hvalues, Dict.valuesAt_entries]
  unfold failuresAt find?
  cases r.fields.find? field <;> simp

/-- Collecting the fields of a report again drops just those without failures. -/
theorem solid_iff_ofList_toList (r : Report) : r.Solid ↔ ofList r.toList = r := by
  constructor
  · intro h
    have hfields : (ofList r.toList).fields = r.fields := by
      apply Dict.ext_find?
      intro field
      have hfind := find?_ofList r.toList field
      rw [collected_toList, ← h.find?_eq] at hfind
      exact hfind
    exact congrArg Report.mk hfields
  · intro h
    rw [← h]
    exact ofList_solid r.toList

/-- A report lists a field without failures just if a text planted it, by an empty array as the last
member of its name. Reports without such fields are those that collecting gives back, and those in
which each listed field has a failure of some kind; only they are sure to pass just if they count no
failures. -/
theorem hollow_history (ops : List ReportOp) :
    (∀ field, (run ops).find? field = some [] ↔ Planted ops field) ∧
    (∀ text r, ofText? text = some r → ∀ field, r.find? field = some [] ↔
      ∃ document members, Document.ofChars? text.toList = some document ∧
        document.members? = some members ∧
          (Dict.valuesAt field members).getLast? = some (.array [])) ∧
    ((run ops).Solid ↔ ofList (run ops).toList = run ops) ∧
    ((run ops).Solid ↔ ∀ field, (run ops).contains field = true ↔
      ∃ kind, (run ops).hasFailure field kind = true) ∧
    ((run ops).Solid →
      ((run ops).toOption = none ↔ (run ops).failureCount = 0) ∧
      ((run ops).isEmpty = true ↔ (run ops).failureCount = 0) ∧
      (run ops).size ≤ (run ops).failureCount) := by
  refine ⟨find?_run_eq_nil_iff ops, fun text r hr => find?_ofText?_eq_nil_iff hr,
    solid_iff_ofList_toList _, solid_iff_contains _, fun h => ⟨?_, h.isEmpty_iff, ?_⟩⟩
  · rw [← h.isEmpty_iff]
    unfold toOption
    split <;> simp_all
  · exact length_le_length_flatMap h.ne_nil_of_mem

/-- Reading may list a field without failures, so that a report is there but counts no failure. -/
theorem not_solid_of_text : ¬ ∀ ops, (run ops).Solid := by
  intro h
  have hfind : (run [.parse "\x7b\"a\":[]\x7d"]).find? "a" = some [] := by decide
  exact h _ "a" hfind

end Report

end FieldRules
