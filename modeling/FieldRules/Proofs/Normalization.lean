import FieldRules.Proofs.Builtins

/-!
The one write of the built-ins. A token for truth values puts the truth value for which the field's
value stands in its place, if it stands for one; no other built-in writes. Doing so once more
changes nothing, so that all such tokens of a field together do what the first one does.
-/
namespace FieldRules

namespace Builtin

def Keeps (answer : Except RuleError Verdict) : Prop :=
  ∀ value, answer ≠ .ok (.replace value)

theorem keeps_pass : Keeps (.ok .pass) := nofun

theorem keeps_fail (message : String) : Keeps (.ok (.fail message)) := nofun

theorem keeps_ite (p : Prop) [Decidable p] (message : String) :
    Keeps (.ok (if p then .fail message else .pass)) := by
  by_cases hp : p
  · rw [if_pos hp]
    exact keeps_fail message
  · rw [if_neg hp]
    exact keeps_pass

theorem keeps_judgeText (p : Pattern Pattern.Atom) (f : Focus) (message : String) :
    Keeps (.ok (judgeText p f message)) := by
  unfold judgeText
  cases f.content? with
  | none => exact keeps_pass
  | some v =>
    by_cases hp : matchesText p v = true
    · simp only [hp]
      exact keeps_pass
    · simp only [hp]
      exact keeps_fail message

theorem keeps_named {validator : String} {judge : String → Verdict}
    (h : ∀ other, Keeps (.ok (judge other))) (args : List String) :
    Keeps (match argument? args 0 with
      | none => .error (.missingArgument validator "fieldname")
      | some other => .ok (judge other)) := by
  cases argument? args 0 with
  | none => nofun
  | some other => exact h other

theorem keeps_checkArray (f : Focus) (args : List String) : Keeps (checkArray f args) := by
  unfold checkArray
  split
  · exact keeps_pass
  · exact keeps_pass
  · exact keeps_fail _

theorem keeps_checkNum (f : Focus) (args : List String) : Keeps (checkNum f args) := by
  unfold checkNum
  split
  · exact keeps_pass
  · split
    · exact keeps_fail _
    · simp only
      split
      · exact keeps_pass
      · exact keeps_fail _
      · exact keeps_fail _

theorem keeps_checkRegex (f : Focus) (args : List String) : Keeps (checkRegex f args) := by
  unfold checkRegex
  cases argument? args 0 with
  | none => nofun
  | some source =>
    simp only
    cases Pattern.compile source with
    | error fault => nofun
    | ok p => exact keeps_judgeText p f _

theorem keeps_checkDate (f : Focus) (args : List String) : Keeps (checkDate f args) := by
  unfold checkDate
  cases dateBound args 0 "after" with
  | error err => nofun
  | ok after =>
    cases dateBound args 1 "before" with
    | error err => nofun
    | ok before =>
      simp only [bind, Except.bind, pure, Except.pure]
      split
      · exact keeps_pass
      · split
        · exact keeps_fail _
        · split
          · exact keeps_pass
          · exact keeps_fail _
          · exact keeps_fail _

/-- A built-in that is not for truth values leaves the value as it is. -/
theorem keeps_check {b : Builtin} (h : b ≠ bool) (f : Focus) (args : List String) :
    Keeps (b.validator.check f args) := by
  cases b with
  | bool => exact absurd rfl h
  | required => exact keeps_ite _ _
  | requiredWith | requiredWithout | sameAs | different =>
    exact keeps_named (fun _ => keeps_ite _ _) args
  | array => exact keeps_checkArray f args
  | num => exact keeps_checkNum f args
  | url | email => exact keeps_judgeText _ f _
  | regex => exact keeps_checkRegex f args
  | date => exact keeps_checkDate f args

def truth? (record : Record) (field : String) : Option Bool :=
  (Focus.mk record field).content?.bind readBool?

/-- The check of truth values replaces a value exactly if it stands for one, and by that one. -/
theorem checkBool_eq_replace_iff (record : Record) (field : String) (args : List String)
    (value : Value) : checkBool ⟨record, field⟩ args = .ok (.replace value) ↔
      ∃ t, truth? record field = some t ∧ value = .bool t := by
  unfold checkBool truth?
  cases (Focus.mk record field).content? with
  | none => simp
  | some v =>
    rw [Option.bind_some]
    cases hread : readBool? v with
    | none => simp [hread]
    | some t => simp [hread, eq_comm]

def normalized (record : Record) (field : String) : Record :=
  match truth? record field with
  | some t => record.insert field (.bool t)
  | none => record

/-- A truth value stands for itself, so a second check changes nothing. -/
theorem truth?_insert_bool (record : Record) (field : String) (t : Bool) :
    truth? (record.insert field (.bool t)) field = some t := by
  unfold truth? Focus.content? Focus.value?
  rw [Dict.find?_insert_self]
  rfl

/-- A value put in its place stands for itself. -/
theorem normalized_normalized (record : Record) (field : String) :
    normalized (normalized record field) field = normalized record field := by
  cases ht : truth? record field with
  | none =>
    have hsame : normalized record field = record := by simp [normalized, ht]
    rw [hsame, hsame]
  | some t =>
    have hput : normalized record field = record.insert field (.bool t) := by
      simp [normalized, ht]
    rw [hput, normalized, truth?_insert_bool]
    exact Dict.insert_eq_self (Dict.find?_insert_self record field (.bool t))

def callsBool (token : String) : Bool := RuleToken.nameOf token == bool.name

theorem callsBool_iff (token : String) :
    callsBool token = true ↔ bool.name = RuleToken.nameOf token := by
  rw [callsBool, beq_iff_eq, eq_comm]

end Builtin

namespace Catalogue

open Builtin

/-- The values that a token writes under its field. -/
theorem write?_step_builtins (record : Record) (c : Call) (value : Value) :
    (builtins.step record c).write? = some value ↔
      callsBool c.token = true ∧ ∃ t, truth? record c.field = some t ∧ value = .bool t := by
  rw [Step.write?_eq_some_iff, callsBool_iff, ← checkBool_eq_replace_iff record c.field
    (bool.arguments c.token)]
  unfold step
  rw [judge?_builtins_eq_some_iff]
  constructor
  · rintro ⟨b, hb, hcheck⟩
    by_cases hbool : b = bool
    · subst hbool
      exact ⟨hb, hcheck⟩
    · exact absurd hcheck (keeps_check hbool _ _ value)
  · rintro ⟨hb, hcheck⟩
    exact ⟨bool, hb, hcheck⟩

/-- Among the built-ins only the one for truth values writes. -/
theorem next_step_builtins (record : Record) (c : Call) :
    (builtins.step record c).next =
      if callsBool c.token then normalized record c.field else record := by
  have hwrite := write?_step_builtins record c
  unfold Step.next
  cases hw : (builtins.step record c).write? with
  | some value =>
    obtain ⟨hcalls, t, ht, rfl⟩ := (hwrite value).mp hw
    rw [hcalls, if_pos rfl, normalized, ht]
    rfl
  | none =>
    by_cases hcalls : callsBool c.token = true
    · have hnone : truth? record c.field = none := by
        cases ht : truth? record c.field with
        | none => rfl
        | some t =>
          rw [(hwrite (.bool t)).mpr ⟨hcalls, t, ht, rfl⟩] at hw
          cases hw
      rw [if_pos hcalls, normalized, hnone]
      rfl
    · rw [if_neg hcalls]
      rfl

end Catalogue

end FieldRules
