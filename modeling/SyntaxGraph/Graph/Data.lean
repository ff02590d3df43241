import SyntaxGraph.Graph.Basic

/-!
# Graphs as data

How a graph is written as a JSON object, and what is wrong with an object that is no graph.
-/
namespace SyntaxGraph

/-- What is wrong with data that should be a graph. -/
inductive DataFault
  /-- The data is no object at all. -/
  | notAnObject
  /-- Something inside the data has a form that cannot be looked into. -/
  | wrongForm
  | missingKey (key : String)
  /-- A reference names no row. -/
  | unknownRow (id : Json)
  | badRowType (type : Json)
  | badEdgeType (type : Json)
  | nullId
deriving DecidableEq

namespace DataFault

def text? : DataFault → Option String
  | .notAnObject | .wrongForm => none
  | .missingKey key => some (Text.quoted key)
  | .unknownRow id => some id.literal
  | .badRowType type => some s!"{type.literal} is not a valid NodeType"
  | .badEdgeType type => some s!"{type.literal} is not a valid EdgeType"
  | .nullId => some "None cannot be a node"

def report? (fault : DataFault) : Option Report :=
  fault.text?.map fun text => .ofFamily .storage s!"Malformed graph data: {text}"

end DataFault

def objectFields (data : Json) : Except DataFault (List (String × Json)) :=
  match data.fields? with
  | some fields => .ok fields
  | none => .error .wrongForm

def requiredField (fields : List (String × Json)) (key : String) : Except DataFault Json :=
  match fields.lookup key with
  | some value => .ok value
  | none => .error (.missingKey key)

/-- A position or line; nothing is said where the key is missing. -/
def positionField (fields : List (String × Json)) (key : String) : Json :=
  (fields.lookup key).getD (.int noPosition)

def membersOf (data : Json) : Except DataFault (List Json) :=
  match data.members? with
  | some members => .ok members
  | none => .error .wrongForm

namespace RowType

def ofJson (value : Json) : Except DataFault RowType :=
  match value with
  | .str name =>
    match ofText? name with
    | some type => .ok type
    | none => .error (.badRowType value)
  | _ => .error (.badRowType value)

end RowType

namespace Row

/-- Reads a row; its id may be any value. -/
def ofJson (data : Json) : Except DataFault Row := do
  let fields ← objectFields data
  let id ← requiredField fields "id"
  let type ← RowType.ofJson (← requiredField fields "type")
  let contents ← requiredField fields "contents"
  return {
    id, type, contents
    start := positionField fields "start_position"
    stop := positionField fields "end_position"
    startLine := positionField fields "start_line"
    stopLine := positionField fields "end_line" }

def toJson (row : Row) : Json :=
  .obj [("id", row.id), ("type", .str row.type.text), ("contents", row.contents),
    ("start_position", row.start), ("end_position", row.stop),
    ("start_line", row.startLine), ("end_line", row.stopLine)]

end Row

def edgeToJson (edge : Json × Json) : Json :=
  .obj [("source_id", edge.1), ("destination_id", edge.2), ("type", .str edgeType)]

def greaterId (first second : Json) : Json :=
  if first.lt? second = some true then second else first

@[simp]
theorem greaterId_int (a b : Int) : greaterId (.int a) (.int b) = .int (max a b) := by
  by_cases h : a < b
  · simp [greaterId, h, Int.max_eq_right (Int.le_of_lt h)]
  · simp [greaterId, h, Int.max_eq_left (Int.not_lt.1 h)]

namespace Graph

def toJson (g : Graph) : Json :=
  .obj [("source_file", g.sourceFile),
    ("root_id", match g.root with
      | some root => root
      | none => .null),
    ("nodes", .arr (g.rows.map Row.toJson)),
    ("edges", .arr (g.edges.map edgeToJson))]

/-- Adds a row under its own id. The id has to be a number, so that a next one can follow it. -/
def insertRow (g : Graph) (row : Row) : Except DataFault Graph :=
  match row.id, row.id.addOne? with
  | .null, _ => .error .nullId
  -- Only a number can be followed by a next one.
  | _, none => .error .wrongForm
  | _, some next => .ok { g with
      rows := putRow row g.rows
      nextId := greaterId g.nextId next }

/-- The id of the row that a value refers to. -/
def reference (g : Graph) (id : Json) : Except DataFault Json :=
  -- What cannot be a key is not looked up.
  if !id.isKey then .error .wrongForm
  else
    match g.row? id with
    | some row => .ok row.id
    | none => .error (.unknownRow id)

def readRow (g : Graph) (data : Json) : Except DataFault Graph := do
  g.insertRow (← Row.ofJson data)

def readEdge (g : Graph) (data : Json) : Except DataFault Graph := do
  let fields ← objectFields data
  let source ← g.reference (← requiredField fields "source_id")
  let destination ← g.reference (← requiredField fields "destination_id")
  -- An edge need not say its type.
  let type := (fields.lookup "type").getD (.str edgeType)
  if type = .str edgeType then return g.link source destination
  else .error (.badEdgeType type)

def readRoot (g : Graph) (data : Json) : Except DataFault Graph :=
  match data with
  -- There need not be a root.
  | .null => .ok g
  | data => do
    let root ← g.reference data
    return { g with root := some root }

/-- Reads a graph. Rows that repeat an id replace the earlier row in its place. -/
def ofJson (data : Json) : Except DataFault Graph :=
  match data.fields? with
  | some fields => do
    let g : Graph := { sourceFile := (fields.lookup "source_file").getD (.str "") }
    -- Edges refer to rows, and the root does, so rows are read first.
    let g ← (← membersOf ((fields.lookup "nodes").getD (.arr []))).foldlM readRow g
    let g ← (← membersOf ((fields.lookup "edges").getD (.arr []))).foldlM readEdge g
    g.readRoot ((fields.lookup "root_id").getD .null)
  | none => .error .notAnObject

end Graph

end SyntaxGraph
