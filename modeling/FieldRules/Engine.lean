import FieldRules.Catalogue
import FieldRules.Policy
import FieldRules.Report

/-!
Running rules. The tokens of a field are judged one after another, each on the record that those
before it left; every failure is collected, and only a wrong rule ends the run. A record is
validated field by field in ascending order of their names. It is replaced as a whole, or left as it
was if a rule is wrong.
-/
namespace FieldRules

/-- The tokens of each field. -/
abbrev RuleSet := Dict (List String)

structure Warning where
  validator : String
  field : String
deriving DecidableEq, Repr

/-- What a run leaves behind: the record, the warnings, and its result or the error that ended
it. -/
structure Run (α : Type) where
  record : Record
  warnings : List Warning
  result : Except RuleError α

namespace Run

variable {α β : Type}

def map (f : α → β) (r : Run α) : Run β :=
  { record := r.record
    warnings := r.warnings
    result := match r.result with
      | .ok a => .ok (f a)
      | .error e => .error e }

/-- Puts a warning in front. -/
def warn (w : Warning) (r : Run α) : Run α := { r with warnings := w :: r.warnings }

/-- Goes on with the record that a run left, unless an error ended it. -/
def andThen (r : Run α) (next : Record → α → Run β) : Run β :=
  match r.result with
  | .error e => ⟨r.record, r.warnings, .error e⟩
  | .ok a =>
    let s := next r.record a
    { s with warnings := r.warnings ++ s.warnings }

end Run

structure Engine where
  catalogue : Catalogue
  policy : Policy
deriving Inhabited

namespace Engine

/-- An engine with the validators of the start, which skips unknown ones. -/
def standard : Engine := ⟨.builtins, .ignore⟩

/-- Judges a field by tokens, in their order. -/
def evaluate (e : Engine) (field : String) : Record → List String → Run (List Failure)
  | record, [] => ⟨record, [], .ok []⟩
  | record, token :: rest =>
    let name := RuleToken.nameOf token
    match e.catalogue.judge? ⟨record, field⟩ token with
    | none => match e.policy with
      | .ignore => evaluate e field record rest
      | .warn => (evaluate e field record rest).warn ⟨name, field⟩
      | .error => ⟨record, [], .error (.unknownValidator name field)⟩
    | some (.error err) => ⟨record, [], .error err⟩
    | some (.ok .pass) => evaluate e field record rest
    | some (.ok (.fail message)) => (evaluate e field record rest).map (⟨name, message⟩ :: ·)
    | some (.ok (.replace value)) => evaluate e field (record.insert field value) rest

/-- Judges fields in their order. -/
def evaluateAll (e : Engine) : Record → List (String × List String) →
    Run (List (String × List Failure))
  | record, [] => ⟨record, [], .ok []⟩
  | record, (field, tokens) :: rest =>
    (e.evaluate field record tokens).andThen fun record failures =>
      (evaluateAll e record rest).map ((field, failures) :: ·)

/-- Validates a record. There is no report if nothing failed. -/
def validate (e : Engine) (record : Record) (rules : RuleSet) : Run (Option Report) :=
  let run := (e.evaluateAll record rules.entries).map fun l => (Report.ofList l).toOption
  match run.result with
  | .ok _ => run
  | .error _ => { run with record }

/-- Validates a record and hands the report on, unless a rule is wrong. -/
def validateWith {σ : Type} (e : Engine) (record : Record) (rules : RuleSet)
    (callback : Option Report → σ → σ) (state : σ) : Run Unit × σ :=
  let run := e.validate record rules
  (run.map fun _ => (), match run.result with
    | .ok report => callback report state
    | .error _ => state)

end Engine

end FieldRules
