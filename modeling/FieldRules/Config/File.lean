import FieldRules.Config.Toml
import FieldRules.FileSystem

/-!
Configurations in files.
-/
namespace FieldRules

/-- What can go wrong with a configuration file. -/
inductive ConfigFileError where
  | unreadable (path : String)
  | malformed (path : String)
  | unwritable (path : String)
deriving DecidableEq

def ConfigFileError.message : ConfigFileError → String
  | unreadable path => s!"Failed to read config file: {path}"
  | malformed path => s!"Failed to parse config file: {path}"
  | unwritable path => s!"Failed to write config file: {path}"

namespace Config

def defaultPath : String := ".fieldcheck.toml"

def ofFile (fs : FileSystem) (path : String) : Except ConfigFileError Config :=
  match fs.read? path with
  | none => .error (.unreadable path)
  | some text => match ofText? text with
    | none => .error (.malformed path)
    | some config => .ok config

/-- The configuration of the file at a path; without one, that of the usual file if it is there, and
else the empty one. -/
def load (fs : FileSystem) (path : Option String) : Except ConfigFileError Config :=
  match path with
  | some path => ofFile fs path
  | none => if fs.contains defaultPath then ofFile fs defaultPath else .ok empty

def save (c : Config) (fs : FileSystem) (path : String) : Except ConfigFileError FileSystem :=
  match fs.write? path c.toText with
  | some fs => .ok fs
  | none => .error (.unwritable path)

end Config

end FieldRules
