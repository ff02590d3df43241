import SyntaxGraph.Action
import SyntaxGraph.Graph.Fault

/-!
# Stored graphs

Graphs in files: as indented JSON, or compressed as JSON in one line.
-/
namespace SyntaxGraph

def storageRecord (message : String) : LogRecord :=
  .ofText .debug "astfeatures.graph.feature_graph" message

namespace Graph

/-- Where a graph goes, and whether it is compressed: as the ending of the path says, unless
compression is asked for or forbidden. -/
def destination (path : Path) (compress : Json) : Except Fault (Path × Bool) :=
  if compress = .null then .ok (path, path.suffix = ".gz")
  else if compress.isTruthy then
    if path.suffix = ".gz" then .ok (path, true)
    -- A path without a name cannot get an ending.
    else if path.name = "" then .error .badValue
    else .ok (path.appendName ".gz", true)
  else .ok (path, false)

def document (g : Graph) (compressed : Bool) : Json.Draft :=
  g.toJson.draft (if compressed then .compact else .indented 2)

def fileBytes (g : Graph) (compressed : Bool) : List UInt8 :=
  let bytes := Text.encodeChars (g.document compressed).chars
  if compressed then Gzip.pack bytes else bytes

/-- Stores a graph; the value is the path that was written. -/
def save (g : Graph) (path : Path) (compress : Json) : Action Path := do
  let (path, compressed) ← Action.ofExcept (destination path compress)
  makeParent path
  -- The file is made first, and what could be written of the graph stays in it.
  writeFile path (g.fileBytes compressed)
  Action.ofExcept (Fault.ofSnag (g.document compressed).snag)
  Action.log (storageRecord s!"Graph saved to {path.text}")
  return path

/-- The fault about a file that holds no graph, where it is reported as such; other faults stay as
they are. -/
def unreadable (path : Path) (fault : Fault) : Fault :=
  let report := Fault.report (.ofFamily .storage
    s!"Failed to read graph {path.text}: {fault.text}" (.obj [("path", .str path.text)]))
  match fault with
  | .badJson _ => report
  | fault => if fault.isFileFault then report else fault

def textOf (path : Path) (bytes : List UInt8) : Except Fault (List Char) := do
  let bytes ← if path.suffix = ".gz" then (Gzip.unpack bytes).mapError .packing else .ok bytes
  let chars ← (Text.decodeUtf8 bytes).mapError .undecodable
  return Text.unifyNewlines chars

def dataOf (fs : FileSystem) (path : Path) : Except Fault Json := do
  let bytes ← (fs.read path).mapError (.file · path.text)
  let text ← textOf path bytes
  (Json.parseDocument text).mapError (.ofRefusal text)

def ofFile (fs : FileSystem) (path : Path) : Except Fault Graph := do
  -- Whether there is anything at the path is asked before it is read.
  match ← (fs.probe path).mapError (.file · path.text) with
  | none => .error (.report (.ofFamily .storage s!"Graph file not found: {path.text}"
      (.obj [("path", .str path.text)])))
  | some _ =>
    let data ← (dataOf fs path).mapError (unreadable path)
    (Graph.ofJson data).mapError (·.fault)

def load (path : Path) : Action Graph := do
  let fs ← Action.files
  let g ← Action.ofExcept (ofFile fs path)
  Action.log (storageRecord s!"Graph loaded from {path.text}")
  return g

end Graph

end SyntaxGraph
