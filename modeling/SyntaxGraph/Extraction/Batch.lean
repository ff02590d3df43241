import SyntaxGraph.Extraction.Search

/-!
# Extraction of graphs from directories

Every source below a directory is extracted; the graphs are stored in the same layout below another
directory. A source that cannot be extracted does not stop the others.
-/
namespace SyntaxGraph

/-- What became of the sources below a directory. -/
structure Summary where
  sourceDir : String
  /-- The directory that graphs go to, unless no text names it. -/
  outputDir : Option String
  written : List String := []
  failures : List (String × String) := []
  skipped : List String := []
  nodes : Nat := 0
  edges : Nat := 0
deriving DecidableEq

namespace Summary

def succeeded (s : Summary) : Nat := s.written.length

def failed (s : Summary) : Nat := s.failures.length

def toJson (s : Summary) : Json :=
  .obj [("source_dir", .str s.sourceDir), ("output_dir", .str (s.outputDir.getD "")),
    ("succeeded", .int s.succeeded), ("failed", .int s.failed),
    ("written", .arr (s.written.map .str)),
    ("failures", .obj (s.failures.map fun (name, reason) => (name, .str reason))),
    ("skipped", .arr (s.skipped.map .str)),
    ("total_nodes", .int s.nodes), ("total_edges", .int s.edges)]

def addGraph (s : Summary) (name : String) (g : Graph) : Summary :=
  { s with
    written := s.written ++ [name]
    nodes := s.nodes + g.rows.length
    edges := s.edges + g.links.length }

/-- Sets the reason of a failure: one that is there keeps its place, a new one goes to the end. -/
def putReason (name reason : String) : List (String × String) → List (String × String)
  | [] => [(name, reason)]
  | (n, r) :: rest => if n = name then (n, reason) :: rest else (n, r) :: putReason name reason rest

def addFailure (s : Summary) (name reason : String) : Summary :=
  { s with failures := putReason name reason s.failures }

end Summary

def Finding.source? : Finding → Option Path
  | .source path => some path
  | .tooLarge _ => none

def Finding.tooLarge? : Finding → Option Path
  | .source _ => none
  | .tooLarge path => some path

namespace Extractor

/-- The directory that graphs go to: the one that is asked for, or the one of the settings, which
may be a string that is no path. -/
def outputDir (x : Extractor) (output : Option Path) : Except Fault (Option Path) :=
  match output with
  | some path => .ok (some path)
  | none => do
    let settings ← x.settings.storage
    match settings.outputDir with
    | .str text => return some (.ofString text)
    -- A string with half a pair is refused only when a file is to be made.
    | .broken _ => return none
    | _ => .error .wrongForm

/-- Stores the graph of a source below a directory; no file can be made below something that is no
path. -/
def storeBelow (x : Extractor) (outputDir : Option Path) (relative : Path) (g : Graph) :
    Action Unit :=
  match outputDir with
  | some dir => x.store g (dir.join (relative.appendName ".json"))
  | none => Action.fail .unencodable

def extractBelow (x : Extractor) (outputDir : Option Path) (path relative : Path) :
    Action Graph := do
  let g ← x.extractFile path
  x.storeBelow outputDir relative g
  return g

def search (x : Extractor) (files : FileSystem) (root : Path) : Except Fault Search := do
  let settings ← x.settings.source
  let endings ← endingsOf settings.languageExtensions
  return {
    files, root, endings
    mayRead := x.mayRead
    ignored := settings.ignorePatterns
    maxSize := settings.maxFileSize }

def extractInto (x : Extractor) (root : Path) (outputDir : Option Path) (s : Summary)
    (path : Path) : Action Summary := do
  -- What the search finds lies below the root.
  let relative := (path.relativeTo? root).getD path
  let name := relative.text
  match ← Action.attempt (x.extractBelow outputDir path relative) with
  | .ok g => return s.addGraph name g
  | .error (.report report) => do
    let reason := report.message
    Action.log (.ofText .warning Search.logger s!"Failed to extract {name}: {reason}")
    return s.addFailure name reason
  -- Only what is reported is passed over; other faults end the extraction.
  | .error fault => Action.fail fault

def extractFound (x : Extractor) (path : Path) (outputDir : Option Path)
    (findings : List Finding) : Action Summary := do
  let sources := findings.filterMap Finding.source?
  Action.log (.ofText .info Search.logger s!"Extracting {sources.length} files from {path.text}")
  let skipped := (findings.filterMap Finding.tooLarge?).map fun found =>
    ((found.relativeTo? path).getD found).text
  let s ← Action.fold (x.extractInto path outputDir)
    { sourceDir := path.text, outputDir := outputDir.map Path.text, skipped } sources
  let skippedCount := s.skipped.length
  Action.log (.ofText .info Search.logger (s!"Extraction complete: {s.succeeded} succeeded, " ++
    s!"{s.failed} failed, {skippedCount} skipped"))
  return s

def extractDirectory (x : Extractor) (path : Path) (output : Option Path := none) :
    Action Summary := do
  let files ← Action.files
  match ← Action.ofExcept (files.directoryProblem x.mayRead path.text) with
  | some problem => Action.fail (pathReport path (problem.message path.text))
  | none => do
    let outputDir ← Action.ofExcept (x.outputDir output)
    let search ← Action.ofExcept (x.search files path)
    let findings ← Action.ofLogged search.findings
    x.extractFound path outputDir findings

end Extractor

end SyntaxGraph
