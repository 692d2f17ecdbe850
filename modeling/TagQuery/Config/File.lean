import TagQuery.Config
import TagQuery.Error
import TagQuery.Toml.Document

/-!
# Settings in a file

* `Place`: what there is at the path of the file.
* `Config.ofToml?`: the settings that a TOML document gives. Other keys are passed over.
* `Config.load`: the settings at a place, and the default ones if there is nothing.
* `Config.save`: the place after the settings are written to it. Nothing is written unless all of it
  can be.
-/

namespace TagQuery

/-- What there is at a path. -/
inductive Place where
  | absent
  | directory
  | file (contents : ByteArray)

namespace Config

/-- The key of the nesting limit. -/
def maxDepthKey : String :=
  "max_depth"

/-- The settings that a TOML document gives. -/
def ofToml? (text : String) : Option Config := do
  let entries ← Toml.parse? text
  match entries.lookup maxDepthKey with
  | none => return {}
  | some (.integer (.ofNat maxDepth)) => return { maxDepth }
  | some _ => none

/-- The settings as a TOML document. -/
def toToml (config : Config) : String :=
  maxDepthKey ++ " = " ++ toString config.maxDepth ++ "\n"

/-- Integers in a TOML document lie below this. -/
def savedBound : Nat :=
  Nat.pow 2 63

/-- Reads the settings at a place. -/
def load (place : Place) : Except Error Config :=
  match place with
  | .absent => .ok {}
  | .directory => .error (.io "is a directory")
  | .file contents =>
    match String.fromUTF8? contents with
    | none => .error (.io "the file is not valid UTF-8")
    | some text =>
      match ofToml? text with
      | none => .error (.config "Failed to parse config")
      | some config => .ok config

/-- Writes the settings to a place. -/
def save (config : Config) (place : Place) : Except Error Place :=
  if savedBound ≤ config.maxDepth then .error (.config "Failed to serialize config")
  else
    match place with
    | .directory => .error (.io "is a directory")
    | _ => .ok (.file config.toToml.toUTF8)

end Config

end TagQuery
