import SyntaxGraph.Json.Literal

/-!
# Reports

A report is what an operation of this library says when it cannot do its work: a text, the stage
that failed, and details for programs.
-/
namespace SyntaxGraph

/-- What a report is about. -/
inductive Family
  | general
  | frontend
  | compilation
  | shape
  | unsupportedLanguage
  | construction
  | access
  | storage
deriving DecidableEq

namespace Family

def stage : Family → Json
  | .general => .null
  | .frontend | .compilation | .shape | .unsupportedLanguage => .str "Frontend"
  | .construction | .access => .str "GraphConstruction"
  | .storage => .str "Storage"

/-- The family and the families around it, nearest first. -/
def lineage : Family → List Family
  | .general => [.general]
  | .frontend => [.frontend, .general]
  | .construction => [.construction, .general]
  | .storage => [.storage, .general]
  | .compilation => [.compilation, .frontend, .general]
  | .shape => [.shape, .frontend, .general]
  | .unsupportedLanguage => [.unsupportedLanguage, .frontend, .general]
  | .access => [.access, .construction, .general]

end Family

/-- What an operation says when it cannot do its work. Stages may be named by any value. -/
structure Report where
  family : Family
  text : String
  details : Json := .obj []
  stage : Json := family.stage
deriving DecidableEq

namespace Report

/-- The text with its stage, unless the stage counts as false. -/
def message (report : Report) : String :=
  if report.stage.isTruthy then s!"[{report.stage.plain}] {report.text}" else report.text

/-- A report of a family; details that count as false are dropped. -/
def ofFamily (family : Family) (text : String) (details : Json := .null) : Report :=
  { family, text, details := if details.isTruthy then details else .obj [] }

def general (text : String) (stage : Json := .null) (details : Json := .null) : Report :=
  { ofFamily .general text details with stage }

def spelledOut : Nat := 5

def diagnosticSummary (diagnostics : List String) : String :=
  "; ".intercalate (diagnostics.take spelledOut) ++
    -- The others are only counted.
    (if diagnostics.length > spelledOut then
      s!"; ... ({diagnostics.length - spelledOut} more)"
    else "")

def compilation (file : Json) (diagnostics : List String) : Report :=
  ofFamily .compilation s!"Compilation failed for {file.plain}: {diagnosticSummary diagnostics}"
    (.obj [("file", file), ("diagnostics", .arr (diagnostics.map .str))])

def shape (kind reason : Json) : Report :=
  ofFamily .shape s!"Invalid {kind.plain} node: {reason.plain}"
    (.obj [("kind", kind), ("reason", reason)])

def unsupportedLanguage (language : Json) : Report :=
  ofFamily .unsupportedLanguage s!"No front-end available for language: {language.plain}"
    (.obj [("language", language)])

def access (kind slot : Json) : Report :=
  ofFamily .access
    -- Without a slot the node has no slots at all.
    (if slot = .null then s!"Node {kind.plain} has no schema"
    else s!"Node of kind {kind.plain} has no child slot '{slot.plain}'")
    (.obj [("kind", kind), ("slot", slot)])

end Report

end SyntaxGraph
