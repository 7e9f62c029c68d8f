import FieldRules.Dict

/-!
Text files in directories. A path leads through directories from the root or from the working
directory; it may name the same place in several ways. Writing takes a directory to write into and
makes none.
-/
namespace FieldRules

structure FileSystem where
  /-- The names on the way from the root to the working directory. -/
  working : List String
  /-- The files by the names on the way to them, joined by slashes. -/
  files : Dict String
  /-- Directories that need not have a file in them, named likewise. -/
  directories : List String

namespace FileSystem

/-- What a path leads to. -/
inductive Place where
  | directory
  | file (key : String)
  /-- Nothing yet, in a directory that is there. -/
  | free (key : String)
  | nowhere
deriving DecidableEq, Repr

def joined (names : List String) : String := "/".intercalate names

/-- Whether there is a directory of this name, be it only for the sake of a file in it. -/
def isDirectory (fs : FileSystem) (names : List String) : Bool :=
  names.isEmpty || fs.directories.contains (joined names) ||
    fs.files.keys.any fun key => (joined names ++ "/").toList.isPrefixOf key.toList

/-- Names are not too long, and no null character is in them. -/
def isName (name : String) : Bool := name.utf8ByteSize ≤ 255 && !name.toList.contains '\x00'

/-- Where the parts of a path lead from a directory. Above the root is the root. -/
def walk (fs : FileSystem) (directory : List String) : List String → Place
  | [] => .directory
  | name :: rest =>
    if name = "" ∨ name = "." then walk fs directory rest
    else if name = ".." then walk fs directory.dropLast rest
    else
      let here := directory ++ [name]
      if fs.isDirectory here then walk fs here rest
      else if rest ≠ [] then .nowhere
      else if fs.files.contains (joined here) then .file (joined here)
      else if isName name then .free (joined here)
      else .nowhere

/-- The parts of a path between its slashes. -/
def parts (path : String) : List String := (path.toList.splitOn '/').map String.ofList

def isAbsolute (path : String) : Bool := path.toList.head? == some '/'

/-- What a path leads to. -/
def locate (fs : FileSystem) (path : String) : Place :=
  if path = "" then .nowhere
  else fs.walk (if isAbsolute path then [] else fs.working) (parts path)

def read? (fs : FileSystem) (path : String) : Option String :=
  match fs.locate path with
  | .file key => fs.files.find? key
  | _ => none

def contains (fs : FileSystem) (path : String) : Bool :=
  match fs.locate path with
  | .directory | .file _ => true
  | _ => false

def write? (fs : FileSystem) (path text : String) : Option FileSystem :=
  match fs.locate path with
  | .file key | .free key => some { fs with files := fs.files.insert key text }
  | _ => none

/-- The names on the way from the root to a path that leads through no other names. -/
def namesOf (working : List String) (path : String) : List String :=
  (if isAbsolute path then [] else working) ++ (parts path).filter fun n => n ≠ "" ∧ n ≠ "."

/-- Nothing but the working directory. -/
def start (working : List String) : FileSystem := ⟨working, .empty, [joined working]⟩

/-- Puts a file at a path together with the directories that it takes. -/
def place (fs : FileSystem) (path text : String) : FileSystem :=
  { fs with files := fs.files.insert (joined (namesOf fs.working path)) text }

/-- Puts a directory at a path. -/
def placeDirectory (fs : FileSystem) (path : String) : FileSystem :=
  { fs with directories := joined (namesOf fs.working path) :: fs.directories }

end FileSystem

end FieldRules
