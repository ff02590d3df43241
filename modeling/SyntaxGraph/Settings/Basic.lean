import SyntaxGraph.Fault
import SyntaxGraph.Json.Comparison

/-!
# Settings

The settings of an extraction, in three sections and two values beside them. Their values are JSON
values because they come from files that nobody checks; a value of the wrong form is noticed when it
is used. A section that was overwritten with something else is lost.
-/
namespace SyntaxGraph

/-- The settings that sources are read by. -/
structure SourceSettings where
  languageExtensions : Json := .obj [(".java", .str "java")]
  defaultLanguage : Json := .str "java"
  encoding : Json := .str "utf-8"
  maxFileSize : Json := .int 1048576
  ignorePatterns : Json := .arr (
    [".git", ".svn", ".hg", ".idea", ".vscode", ".DS_Store", "build", "target", "out", "bin",
      "node_modules"].map .str)
deriving DecidableEq

/-- The settings that graphs are built by. -/
structure GraphSettings where
  lineNumbers : Json := .bool true
deriving DecidableEq

/-- The settings that graphs are stored by. -/
structure StorageSettings where
  outputDir : Json := .str "./data/graphs"
  compression : Json := .bool false
deriving DecidableEq

structure Settings where
  source? : Option SourceSettings := some {}
  graph? : Option GraphSettings := some {}
  storage? : Option StorageSettings := some {}
  verbose : Json := .bool false
  logFile : Json := .null
deriving DecidableEq

def orLost {α : Type} (section? : Option α) : Except Fault α :=
  match section? with
  | some settings => .ok settings
  | none => .error .missingPart

namespace SourceSettings

def set? (s : SourceSettings) (key : String) (value : Json) : Option SourceSettings :=
  if key = "language_extensions" then some { s with languageExtensions := value }
  else if key = "default_language" then some { s with defaultLanguage := value }
  else if key = "encoding" then some { s with encoding := value }
  else if key = "max_file_size" then some { s with maxFileSize := value }
  else if key = "ignore_patterns" then some { s with ignorePatterns := value }
  else none

def toJson (s : SourceSettings) : Json :=
  .obj [
    ("language_extensions", s.languageExtensions), ("default_language", s.defaultLanguage),
    ("encoding", s.encoding), ("max_file_size", s.maxFileSize),
    ("ignore_patterns", s.ignorePatterns)]

end SourceSettings

namespace GraphSettings

def set? (s : GraphSettings) (key : String) (value : Json) : Option GraphSettings :=
  if key = "compute_line_numbers" then some { s with lineNumbers := value } else none

def toJson (s : GraphSettings) : Json :=
  .obj [("compute_line_numbers", s.lineNumbers)]

end GraphSettings

namespace StorageSettings

def set? (s : StorageSettings) (key : String) (value : Json) : Option StorageSettings :=
  if key = "output_dir" then some { s with outputDir := value }
  else if key = "enable_compression" then some { s with compression := value }
  else none

def toJson (s : StorageSettings) : Json :=
  .obj [("output_dir", s.outputDir), ("enable_compression", s.compression)]

end StorageSettings

namespace Settings

def source (s : Settings) : Except Fault SourceSettings := orLost s.source?

def graph (s : Settings) : Except Fault GraphSettings := orLost s.graph?

def storage (s : Settings) : Except Fault StorageSettings := orLost s.storage?

def toJson (s : Settings) : Except Fault Json := do
  let source ← s.source
  let graph ← s.graph
  let storage ← s.storage
  return .obj [("frontend", source.toJson), ("graph", graph.toJson), ("storage", storage.toJson),
    ("verbose", s.verbose), ("log_file", s.logFile)]

/-! ### Changing settings -/

/-- Sets a value beside the sections; in the place of a section it leaves none. -/
def setTop (s : Settings) (key : String) (value : Json) : Settings :=
  if key = "frontend" then { s with source? := none }
  else if key = "graph" then { s with graph? := none }
  else if key = "storage" then { s with storage? := none }
  else if key = "verbose" then { s with verbose := value }
  else if key = "log_file" then { s with logFile := value }
  -- A name without meaning is ignored.
  else s

/-- Sets a field in a section, which has to be there. A name without meaning is ignored. -/
def setIn (s : Settings) (place key : String) (value : Json) : Except Fault Settings :=
  if place = "frontend" then do
    let source ← s.source
    return { s with source? := some ((source.set? key value).getD source) }
  else if place = "graph" then do
    let graph ← s.graph
    return { s with graph? := some ((graph.set? key value).getD graph) }
  else if place = "storage" then do
    let storage ← s.storage
    return { s with storage? := some ((storage.set? key value).getD storage) }
  -- Outside of the sections there is nothing to set.
  else .error .missingPart

/-! ### Reading settings -/

/-- Sets the fields that a section gives; other fields are refused. -/
def setAll {α : Type} (set? : α → String → Json → Option α) (s : α) :
    List (String × Json) → Except Fault α
  | [] => .ok s
  | (key, value) :: rest =>
    match set? s key value with
    | some s => setAll set? s rest
    -- A name without meaning is refused here.
    | none => .error .wrongForm

def readSection {α : Type} (set? : α → String → Json → Option α) (name : String)
    (fields : List (String × Json)) (s : α) : Except Fault α :=
  match fields.lookup name with
  | none => .ok s
  | some (.obj fields) => setAll set? s fields
  | some _ => .error .wrongForm

def keys : List String := ["frontend", "graph", "storage", "verbose", "log_file"]

/-- Reads settings. What is not given has its default. -/
def ofJson (data : Json) : Except Fault Settings :=
  match data.fields? with
  | some fields => do
    let source ← readSection SourceSettings.set? "frontend" fields {}
    let graph ← readSection GraphSettings.set? "graph" fields {}
    let storage ← readSection StorageSettings.set? "storage" fields {}
    return {
      source? := some source
      graph? := some graph
      storage? := some storage
      verbose := (fields.lookup "verbose").getD (.bool false)
      logFile := (fields.lookup "log_file").getD .null }
  | none =>
    -- What is no object may do for one as long as it holds none of the keys.
    match keys.mapM data.holds? with
    | some answers => if answers.any id then .error .wrongForm else .ok {}
    | none => .error .wrongForm

end Settings

end SyntaxGraph
