import SyntaxGraph.Action
import SyntaxGraph.Settings.Environment

/-!
# Stored settings

Settings in files, and in the environment together with a file of variables. How such a file is
found and read is a parameter.
-/
namespace SyntaxGraph

def readText (path : Path) : Action (List Char) := do
  let bytes ← readFile path
  let chars ← Action.ofExcept ((Text.decodeUtf8 bytes).mapError .undecodable)
  return Text.unifyNewlines chars

namespace Settings

def load (path : Path) : Action Settings := do
  let fs ← Action.files
  match ← Action.ofExcept ((fs.probe path).mapError (.file · path.text)) with
  | none => Action.fail (.noSettings path.text)
  | some _ =>
    let text ← readText path
    let data ← Action.ofExcept ((Json.parseDocument text).mapError (.ofRefusal text))
    Action.ofExcept (Settings.ofJson data)

def save (s : Settings) (path : Path) : Action Unit := do
  makeParent path
  let data ← Action.ofExcept s.toJson
  -- Of settings that cannot be written the first part is left in the file.
  let document := data.draft (.indented 2)
  writeFile path (Text.encodeChars document.chars)
  Action.ofExcept (Fault.ofSnag document.snag)

end Settings

/-- What reads files of variables. -/
structure VariableReader where
  /-- The file that is read if none is named. -/
  found? : FileSystem → Option String
  /-- The environment together with the variables in a file. -/
  read : FileSystem → Environment → String → Except Fault Environment

/-- The environment together with the variables in the file that is named, or else in the one that
is found. -/
def VariableReader.load (reader : VariableReader) (fs : FileSystem) (env : Environment)
    (file : Option String) : Except Fault Environment :=
  match file.or (reader.found? fs) with
  | some path => reader.read fs env path
  | none => .ok env

namespace Settings

/-- Puts the settings in a file in the place of others, which stay if that fails. -/
def replacedFrom (s : Settings) (path : Path) : Action (Settings × Except Fault Unit) := do
  match ← Action.attempt (load path) with
  | .ok loaded => return (loaded, .ok ())
  | .error fault => return (s, .error fault)

def overriddenBy (s : Settings) (reader : VariableReader) (env : Environment)
    (file : Option String) : Action (Settings × Except Fault Unit) := do
  let fs ← Action.files
  match reader.load fs env file with
  | .ok env => return s.readEnvironment env
  | .error fault => return (s, .error fault)

end Settings

end SyntaxGraph
