import SyntaxGraph.Settings.Basic
import SyntaxGraph.Text.Case

/-!
# Settings from the environment

Variables of the environment override settings.
-/
namespace SyntaxGraph

/-- The variables of an environment; the first entry of a name counts. -/
abbrev Environment := List (String × String)

def isYes (text : String) : Bool :=
  ["true", "1", "yes"].contains (Text.lower text)

namespace Settings

/-- The variables that settings listen to, in the order in which they are read. -/
def variableTable : List (String × (Settings → String → Except Fault Settings)) := [
  ("ASTF_DEFAULT_LANGUAGE", fun s text => s.setIn "frontend" "default_language" (.str text)),
  ("ASTF_ENCODING", fun s text => s.setIn "frontend" "encoding" (.str text)),
  ("ASTF_MAX_FILE_SIZE", fun s text =>
    match Text.integer? text with
    | some size => s.setIn "frontend" "max_file_size" (.int size)
    | none => .error .badValue),
  ("ASTF_OUTPUT_DIR", fun s text => s.setIn "storage" "output_dir" (.str text)),
  ("ASTF_COMPRESS", fun s text => s.setIn "storage" "enable_compression" (.bool (isYes text))),
  ("ASTF_LINE_NUMBERS", fun s text => s.setIn "graph" "compute_line_numbers" (.bool (isYes text))),
  ("ASTF_VERBOSE", fun s text => .ok { s with verbose := .bool (isYes text) }),
  ("ASTF_LOG_FILE", fun s text => .ok { s with logFile := .str text })]

/-- Reads variables into settings, up to the first that makes no sense. -/
def readVariables (env : Environment) :
    List (String × (Settings → String → Except Fault Settings)) → Settings →
      Settings × Except Fault Unit
  | [], s => (s, .ok ())
  | (name, set) :: rest, s =>
    match env.lookup name with
    -- Empty variables are ignored.
    | none | some "" => readVariables env rest s
    | some text =>
      match set s text with
      | .ok s => readVariables env rest s
      -- What was read before stays.
      | .error fault => (s, .error fault)

def readEnvironment (s : Settings) (env : Environment) : Settings × Except Fault Unit :=
  readVariables env variableTable s

end Settings

end SyntaxGraph
