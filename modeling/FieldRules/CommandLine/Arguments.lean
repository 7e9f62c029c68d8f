import FieldRules.Config.File

/-!
The arguments of the command line. A level, which is that of the program or that of one of its
commands, has options with a value, flags and places for further arguments. An option's value is the
next argument, which must not look like an option itself, or what follows an equals sign. No option
and no flag may stand twice on one level. A request for help ends the reading.
-/
namespace FieldRules.CommandLine

structure Level where
  options : List String
  flags : List String
  places : Nat

/-- What was found on a level so far. -/
structure Found where
  values : List (String × String)
  flags : List String
  places : List String

inductive Reading where
  | done (found : Found)
  | help
  | misuse

def helpFlag : String := "help"

def verboseFlag : String := "verbose"

/-- Flags by their letters. -/
def flagLetters : List (Char × String) := [('v', verboseFlag), ('h', helpFlag)]

/-- Whether an argument looks like an option rather than a value. -/
def looksLikeOption (arg : String) : Bool :=
  arg.toList.head? = some '-' && arg != "-"

/-- The name and the value of a long option. -/
def splitLong (s : List Char) : String × Option String :=
  match s.dropWhile (· != '=') with
  | [] => (String.ofList s, none)
  | _ :: value => (String.ofList (s.takeWhile (· != '=')), some (String.ofList value))

namespace Found

def empty : Found := ⟨[], [], []⟩

def addFlag? (f : Found) (flag : String) : Option Found :=
  if f.flags.contains flag then none else some { f with flags := flag :: f.flags }

def addValue? (f : Found) (option value : String) : Option Found :=
  if (f.values.lookup option).isSome then none
  else some { f with values := (option, value) :: f.values }

def addPlaces? (level : Level) (f : Found) (args : List String) : Option Found :=
  if f.places.length + args.length ≤ level.places then some { f with places := f.places ++ args }
  else none

end Found

/-- Flags written as letters after one hyphen. -/
def readLetters (f : Found) : List Char → Reading
  | [] => .done f
  | letter :: rest => match flagLetters.lookup letter with
    | none => .misuse
    | some flag =>
      if flag = helpFlag then .help
      else match f.addFlag? flag with
        | some f => readLetters f rest
        | none => .misuse

/-- Goes on with what was found, unless the reading has ended. -/
def Reading.andThen (r : Reading) (next : Found → Reading) : Reading :=
  match r with
  | .done f => next f
  | r => r

def Reading.ofOption : Option Found → Reading
  | some f => .done f
  | none => .misuse

/-- Reads the arguments of a level that has no commands below it. -/
def Level.read (level : Level) (f : Found) : List String → Reading
  | [] => .done f
  | arg :: rest =>
    if arg = "--" then .ofOption (f.addPlaces? level rest)
    else match arg.toList with
    | '-' :: '-' :: long =>
      let (name, value) := splitLong long
      if level.options.contains name then
        match value, rest with
        | some value, rest =>
          (Reading.ofOption (f.addValue? name value)).andThen (level.read · rest)
        | none, [] => .misuse
        | none, value :: rest =>
          if looksLikeOption value then .misuse
          else (Reading.ofOption (f.addValue? name value)).andThen (level.read · rest)
      else if value.isSome then .misuse
      else if name = helpFlag then .help
      else if name = verboseFlag ∨ level.flags.contains name then
        (Reading.ofOption (f.addFlag? name)).andThen (level.read · rest)
      else .misuse
    | '-' :: letter :: letters => (readLetters f (letter :: letters)).andThen (level.read · rest)
    | _ => (Reading.ofOption (f.addPlaces? level [arg])).andThen (level.read · rest)

inductive Command where
  | check (rules input : Option String) (format : String) (unknownRules : Option String)
  | validators (format : String)
  | init (path : String) (force : Bool)
deriving DecidableEq, Repr

/-- What may be asked to help with. -/
inductive Topic where
  | program
  | check
  | validators
  | init
  | help
deriving DecidableEq, Repr

inductive Invocation where
  | command (c : Command)
  | help (t : Topic)
  | misuse
deriving DecidableEq, Repr

def topics : List (String × Topic) :=
  [("check", .check), ("validators", .validators), ("init", .init), ("help", .help)]

def Topic.level : Topic → Level
  | .check => ⟨["rules", "input", "format", "unknown-rules"], [], 0⟩
  | .validators => ⟨["format"], [], 0⟩
  | .init => ⟨[], ["force"], 1⟩
  | _ => ⟨[], [], 0⟩

def defaultFormat : String := "human"

/-- The command of a level's arguments. -/
def Topic.command? (t : Topic) (f : Found) : Option Command :=
  let format := (f.values.lookup "format").getD defaultFormat
  match t with
  | .check => some (.check (f.values.lookup "rules") (f.values.lookup "input") format
      (f.values.lookup "unknown-rules"))
  | .validators => some (.validators format)
  | .init => some (.init (f.places.headD Config.defaultPath) (f.flags.contains "force"))
  | _ => none

/-- The topic named by the arguments of the command for help. -/
def helpTopic? : List String → Option Topic
  | [] => some .program
  | [name] => topics.lookup name
  | _ => none

def readCommand (t : Topic) (args : List String) : Invocation :=
  if t = .help then ((helpTopic? args).map .help).getD .misuse
  else match t.level.read .empty args with
    | .help => .help t
    | .misuse => .misuse
    | .done f => ((t.command? f).map .command).getD .misuse

/-- Reads the arguments up to the name of a command, and those after it. -/
def readProgram (f : Found) : List String → Invocation
  | [] => .misuse
  | arg :: rest => match topics.lookup arg with
    | some t => readCommand t rest
    | none =>
      let reading : Reading := match arg.toList with
        | '-' :: '-' :: long =>
          if long = helpFlag.toList then .help
          else if long = verboseFlag.toList then .ofOption (f.addFlag? verboseFlag)
          else .misuse
        | '-' :: letter :: letters => readLetters f (letter :: letters)
        | _ => .misuse
      match reading with
      | .help => .help .program
      | .misuse => .misuse
      | .done f => readProgram f rest

def Invocation.ofArgs (args : List String) : Invocation := readProgram .empty args

end FieldRules.CommandLine
