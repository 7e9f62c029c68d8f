import FieldRules.CommandLine.Run

/-!
The program: it looks at the files that its arguments name, runs, and does what the run comes to.
-/
namespace FieldRules.CommandLine

/-- The paths that a command looks at. -/
def Invocation.paths : Invocation → List String
  | .command (.check rules input _ _) => rules.getD Config.defaultPath :: input.toList
  | .command (.init path _) => [path]
  | _ => []

def Invocation.readsStdin : Invocation → Bool
  | .command (.check _ none _ _) => true
  | _ => false

/-- The path without its last part. -/
def parentPath (path : String) : String :=
  let names := (FileSystem.parts path).dropLast
  if names.isEmpty then "." else if names = [""] then "/" else FileSystem.joined names

/-- Adds what is at a path: a file, or a directory, which cannot be read as one. -/
def probeOne (fs : FileSystem) (path : String) : IO FileSystem := do
  try
    return fs.place path (← IO.FS.readFile path)
  catch
    | .inappropriateType .. => return fs.placeDirectory path
    | _ => return fs

/-- Adds what is at a path, and the directory around it. -/
def probe (fs : FileSystem) (path : String) : IO FileSystem := do
  probeOne (← probeOne fs (parentPath path)) path

def colored : IO Bool := do
  let force ← IO.getEnv "CLICOLOR_FORCE"
  let plain ← IO.getEnv "NO_COLOR"
  if force.any (· != "0") then return true
  else if plain.isSome then return false
  else (← IO.getStdout).isTty

/-- Writes the file of a run that changed it. -/
def writeBack (path : String) (ending : Ending) : IO UInt32 := do
  try
    IO.FS.writeFile path ((ending.files.read? path).getD "")
    IO.print ending.stdout
    return 0
  catch _ =>
    IO.eprintln s!"Error: {(ConfigFileError.unwritable path).message}"
    return 1

def perform (args : List String) : IO UInt32 := do
  let invocation := Invocation.ofArgs args
  let start ← IO.monoNanosNow
  let working := FileSystem.namesOf [] (toString (← IO.currentDir))
  let files ← invocation.paths.foldlM probe (FileSystem.start working)
  let stdin ← if invocation.readsStdin then (← IO.getStdin).readToEnd else pure ""
  let colored ← colored
  -- The first run is the one that is timed; only the text of the second tells its time.
  let timed ← IO.lazyPure fun _ => run { files, stdin, colored, elapsed := 0 } args
  for w in timed.warnings do
    IO.eprintln s!"WARN {warningText w}"
  let elapsed := (← IO.monoNanosNow) - start
  let ending := run { files, stdin, colored, elapsed } args
  match ending.mishap, invocation with
  | some m, _ =>
    IO.eprintln s!"Error: {m.message}"
    return 1
  | none, .command (.init path _) => writeBack path ending
  | none, _ =>
    IO.print ending.stdout
    return UInt32.ofNat ending.exit

end FieldRules.CommandLine

def main (args : List String) : IO UInt32 := FieldRules.CommandLine.perform args
