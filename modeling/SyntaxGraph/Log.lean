import SyntaxGraph.Json.Literal

/-!
# Log records
-/
namespace SyntaxGraph

inductive Level
  | debug
  | info
  | warning
  | error
  | critical
deriving DecidableEq

namespace Level

def rank : Level → Nat
  | .debug => 10
  | .info => 20
  | .warning => 30
  | .error => 40
  | .critical => 50

def name : Level → String
  | .debug => "DEBUG"
  | .info => "INFO"
  | .warning => "WARNING"
  | .error => "ERROR"
  | .critical => "CRITICAL"

/-- The level with a name; two of them have a second name. -/
def ofName? (name : String) : Option Level :=
  [("DEBUG", debug), ("INFO", info), ("WARNING", warning), ("WARN", warning), ("ERROR", error),
    ("CRITICAL", critical), ("FATAL", critical)].lookup name

end Level

/-- Something that was logged, which mostly is a text. -/
structure LogRecord where
  level : Level
  logger : String
  content : Json
deriving DecidableEq

namespace LogRecord

def ofText (level : Level) (logger text : String) : LogRecord := ⟨level, logger, .str text⟩

def message (record : LogRecord) : String := record.content.plain

/-- What was logged, in words that may hold halves of pairs. -/
def messageCodes (record : LogRecord) : List Text.CodePoint :=
  match record.content with
  | .broken codes => codes
  | content => Text.codePoints content.plain

end LogRecord

end SyntaxGraph
