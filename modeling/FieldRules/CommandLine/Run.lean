import FieldRules.CommandLine.Help
import FieldRules.Report.Json
import FieldRules.Value.Json

/-!
Running the commands: what the program prints, the code it ends with, the warnings it gives, and the
files it leaves. Only the command that writes a starter file changes a file, and only if it
succeeds.
-/
namespace FieldRules.CommandLine

/-- Why a command ended early. -/
inductive Mishap where
  | configFile (e : ConfigFileError)
  | unknownPolicy (text : String)
  | noRules
  | unreadableInput (path : String)
  | malformedInput
  | inputNotObject
  | invalidRules (e : RuleError)
  | alreadyThere (path : String)
deriving DecidableEq

namespace Mishap

def message : Mishap → String
  | configFile e => e.message
  | unknownPolicy text => s!"Unknown --unknown-rules value: {text}"
  | noRules => "No rules configured; add a [rules] table or run `fieldcheck init`"
  | unreadableInput path => s!"Failed to read input file: {path}"
  | malformedInput => "Input is not valid JSON"
  | inputNotObject => "Input must be a JSON object"
  | invalidRules _ => "Rule file is invalid"
  | alreadyThere path => s!"{path} already exists; pass --force to overwrite"

/-- Whether something else stands behind it. -/
def hasCause : Mishap → Bool
  | configFile _ | unreadableInput _ | malformedInput | invalidRules _ => true
  | unknownPolicy _ | noRules | inputNotObject | alreadyThere _ => false

end Mishap

/-- What stands around a run: files, the text on standard input, whether to print in colours, and
the nanoseconds that the work took when its end is told. -/
structure Surroundings where
  files : FileSystem
  stdin : String
  colored : Bool
  elapsed : Nat

structure Ending where
  exit : Nat
  stdout : String
  mishap : Option Mishap
  warnings : List Warning
  files : FileSystem

/-- Text attributes by their codes. -/
def styled (colored : Bool) (codes : String) (text : String) : String :=
  if colored then s!"\x1b[{codes}m{text}\x1b[0m" else text

def fieldsNoun (n : Nat) : String := if n = 1 then "field" else "fields"

def failureLine (colored : Bool) (f : Failure) : String :=
  let kind := styled colored "1;31" s!"[{f.kind}]"
  s!"  {kind} {f.message}\n"

def fieldLines (colored : Bool) (field : String) (failures : List Failure) : String :=
  styled colored "1" field ++ "\n" ++ String.join (failures.map (failureLine colored))

/-- The sentence that sums a run up. -/
def summary (colored : Bool) (report : Option Report) (ruled : Nat) : String :=
  match report with
  | some r =>
    let noun := if r.failureCount = 1 then "failure" else "failures"
    let found := s!"Found {r.failureCount} {noun} in {r.size} of {ruled} {fieldsNoun ruled}"
    styled colored "1;31" found
  | none => styled colored "1;32" s!"All {ruled} {fieldsNoun ruled} passed!"

/-- A time in milliseconds; the seconds and their parts are first added up as doubles. -/
def elapsedText (nanos : Nat) : String :=
  let perSecond := Time.nanosPerSecond
  let seconds := (Double.ofNat (nanos / perSecond)).add
    ((Double.ofNat (nanos % perSecond)).div (.ofNat perSecond))
  String.ofList ((seconds.mul (.ofNat 1000)).toFixed 1)

def humanText (s : Surroundings) (report : Option Report) (ruled : Nat) : String :=
  let details := match report with
    | some r => String.join (r.toList.map fun e => fieldLines s.colored e.1 e.2) ++ "\n"
    | none => ""
  let ended := s!". Validation completed in {elapsedText s.elapsed}ms.\n"
  details ++ summary s.colored report ruled ++ ended

def jsonText (s : Surroundings) (report : Option Report) (record : Record) : String :=
  let members : List (String × Json) :=
    [("duration_ms", .integer (s.elapsed / 1000000 : Nat)),
     ("errors", (report.map Report.toJson).getD .null),
     ("input", record.toJson), ("success", .bool report.isNone)]
  (Json.object members).sorted.toPrettyText ++ "\n"

/-- The rules that hold for a run: those of the file, with the policy of the arguments. -/
def rulesFor (fs : FileSystem) (rules unknownRules : Option String) : Except Mishap Config := do
  let config ← (Config.load fs rules).mapError .configFile
  let config ← match unknownRules with
    | none => .ok config
    | some text => match Policy.ofText? text with
      | some policy => .ok { config with policy }
      | none => .error (.unknownPolicy text)
  if config.rules.isEmpty then .error .noRules else .ok config

/-- The record to be checked, from a file or from standard input. -/
def inputRecord (s : Surroundings) (input : Option String) : Except Mishap Record := do
  let text ← match input with
    | none => .ok s.stdin
    | some path => match s.files.read? path with
      | some text => .ok text
      | none => .error (.unreadableInput path)
  match Json.ofText? text with
  | none => .error .malformedInput
  | some json => match Record.ofJson? json with
    | none => .error .inputNotObject
    | some record => .ok record

/-- The rules are read before the record is. -/
def prepare (s : Surroundings) (rules input unknownRules : Option String) :
    Except Mishap (Config × Record) := do
  return (← rulesFor s.files rules unknownRules, ← inputRecord s input)

namespace Ending

/-- The end of a run that a mishap broke off. -/
def broken (s : Surroundings) (m : Mishap) (warnings : List Warning) : Ending :=
  { exit := 1, stdout := "", mishap := some m, warnings, files := s.files }

/-- The end of a run that only printed. -/
def printed (s : Surroundings) (exit : Nat) (stdout : String) (warnings : List Warning) : Ending :=
  { exit, stdout, mishap := none, warnings, files := s.files }

end Ending

def runCheck (s : Surroundings) (rules input : Option String) (format : String)
    (unknownRules : Option String) : Ending :=
  match prepare s rules input unknownRules with
  | .error m => .broken s m []
  | .ok (config, record) =>
    let run := config.engine.validate record config.rules
    match run.result with
    | .error e => .broken s (.invalidRules e) run.warnings
    | .ok report =>
      let text := if format = "json" then jsonText s report run.record
        else humanText s report config.rules.size
      .printed s (if report.isNone then 0 else 1) text run.warnings

def listingText (colored : Bool) (listing : List (String × List String)) : String :=
  let lines := listing.map fun e =>
    "  " ++ styled colored "36" (RuleToken.toText ⟨e.1, e.2⟩) ++ "\n"
  s!"Available Validators:\n\n{String.join lines}\nTotal: {listing.length} validators\n"

def listingJson (listing : List (String × List String)) : String :=
  (Json.array (listing.map fun e =>
    .object [("name", .string e.1), ("params", .array (e.2.map .string))])).toPrettyText ++ "\n"

def runValidators (s : Surroundings) (format : String) : Ending :=
  let listing := Engine.standard.catalogue.listing
  .printed s 0 (if format = "json" then listingJson listing else listingText s.colored listing) []

def runInit (s : Surroundings) (path : String) (force : Bool) : Ending :=
  if s.files.contains path && !force then .broken s (.alreadyThere path) []
  else match Config.starter.save s.files path with
    | .error e => .broken s (.configFile e) []
    | .ok files =>
      { exit := 0
        stdout := styled s.colored "1;32" "Wrote" ++ " " ++ path ++ "\n"
        mishap := none
        warnings := []
        files }

def runCommand (s : Surroundings) : Command → Ending
  | .check rules input format unknownRules => runCheck s rules input format unknownRules
  | .validators format => runValidators s format
  | .init path force => runInit s path force

/-- Runs the program. Misuse of the arguments prints nothing and has a code of its own. -/
def run (s : Surroundings) (args : List String) : Ending :=
  match Invocation.ofArgs args with
  | .command c => runCommand s c
  | .help t => .printed s 0 t.text []
  | .misuse => .printed s 2 "" []

/-- What is said of a pattern that is too heavy. -/
def tooHeavyText : String :=
  s!"Compiled regex exceeds size limit of {Pattern.weightLimit} bytes."

/-- A warning as a line of a log. -/
def warningText (w : Warning) : String :=
  let validator := Text.literal w.validator
  let field := Text.literal w.field
  s!"fieldcheck_core::evaluator: skipping unknown validator validator={validator} field={field}"

end FieldRules.CommandLine
