import SyntaxGraph.Graph.Fault
import SyntaxGraph.Graph.Scan
import SyntaxGraph.Java.Compilation
import SyntaxGraph.Path
import SyntaxGraph.Registry
import SyntaxGraph.Settings.Basic

/-!
# Extraction of graphs from texts

The graph of a source text: the language is found, the front end of the language compiles the
text, and the tree is scanned.
-/
namespace SyntaxGraph

/-- A parser reports the parse tree of a text, unless it fails. -/
abbrev Parser := String → Except Fault (ParseTree Unit)

/-- A computation that may log and fail. -/
abbrev Logged := Traced LogRecord Fault

/-- The text of a source, which has to be made of characters. -/
def sourceText : Json → Except Fault String
  | .str text => .ok text
  | .broken _ => .error .unencodable
  | _ => .error .missingPart

structure Extractor where
  settings : Settings := {}
  registry : Registry := {}
  parser : Parser
  /-- The decoders of sources, by the names of their encodings. -/
  decoder? : String → Option Text.Decoder := Text.Decoder.onlyUtf8?
  /-- The places that may be read. -/
  mayRead : List String → Bool := fun _ => true

structure Compilation where
  unit : Tree
  source : String
  fileName : Json
  language : Json

namespace Extractor

def endingOf : Json → Except Fault String
  | .str name => .ok (Text.lower (Path.ofString name).suffix)
  | _ => .error .wrongForm

/-- The language of a file: by its ending, as the settings or else the front ends say, or the
default. -/
def languageFor (x : Extractor) (fileName : Json) : Except Fault Json := do
  let extension ← endingOf fileName
  let settings ← x.settings.source
  match settings.languageExtensions.fields? with
  | some fields =>
    let language ←
      -- The settings count more than the front ends.
      match (fields.lookup extension).getD .null with
      | .null => (x.registry.languageForExtension? extension).map (·.getD .null)
      | language => .ok language
    return if language.isTruthy then language else settings.defaultLanguage
  | none => .error .missingPart

def frontEndFor (x : Extractor) (language : Json) : Except Fault FrontEnd :=
  if language.isKey then
    match x.registry.get language with
    -- The registry with the instance that was made is not kept.
    | .ok (made, _) => .ok made.frontEnd
    | .error report => .error (.report report)
  else .error .wrongForm

def compileWith (x : Extractor) (frontEnd : FrontEnd) (source fileName : Json) :
    Logged Compilation :=
  if !frontEnd.compilesJava then Traced.fail .cannotCompile
  else do
    let source ← Traced.ofExcept (sourceText source)
    let parsed ← Traced.ofExcept (x.parser source)
    let unit ← (Java.compile fileName (.ofString source) parsed).mapError (·.fault)
    return { unit, source, fileName, language := frontEnd.language }

def compile (x : Extractor) (source fileName : Json) (language : Json := .null) :
    Logged Compilation := do
  let language ←
    -- A language that is given counts more than the name of the file.
    if language.isTruthy then pure language else Traced.ofExcept (x.languageFor fileName)
  let frontEnd ← Traced.ofExcept (x.frontEndFor language)
  x.compileWith frontEnd source fileName

def graphOf (x : Extractor) (compilation : Compilation) : Logged Graph := do
  let settings ← Traced.ofExcept x.settings.graph
  let empty := Graph.ofSource compilation.fileName (some compilation.source)
    settings.lineNumbers.isTruthy
  match empty.scan compilation.unit with
  | (g, .ok ()) => do
    let kind := compilation.unit.kind?.getD ""
    Traced.emit (.ofText .debug "astfeatures.graph.scanner"
      s!"Scanned {kind} tree into FeatureGraph")
    return g
  | (_, .error e) => Traced.fail e.fault

def extractText (x : Extractor) (source fileName : Json) (language : Json := .null) :
    Logged Graph := do
  let compilation ← x.compile source fileName language
  let g ← x.graphOf compilation
  let name := fileName.plain
  Traced.emit (.ofText .debug "astfeatures.engine"
    s!"{name}: {g.rows.length} nodes, {g.links.length} edges")
  return g

end Extractor

/-- The span of a text in a source, given what stands around it. -/
def sourceSpan (source : List Char) (before target after : String) : Except Fault (Nat × Nat) :=
  let wanted := before.toList ++ target.toList ++ after.toList
  match (List.range (source.length + 1)).find? fun i => wanted.isPrefixOf (source.drop i) with
  | some index =>
    let start := index + before.length
    .ok (start, start + target.length)
  | none => .error (.notInSource target before after)

end SyntaxGraph
