import SyntaxGraph.Graph.Lines
import SyntaxGraph.Json.Comparison
import SyntaxGraph.Tree.Report

/-!
# Feature graphs

The graph of one source file. Element rows stand for tree nodes and holder rows for the groups of
children in their slots. Rows and edges keep the order in which they were added.
-/
namespace SyntaxGraph

inductive RowType
  | element
  | holder
deriving DecidableEq

namespace RowType

def text : RowType → String
  | .element => "AST_ELEMENT"
  | .holder => "FAKE_AST"

def ofText? (name : String) : Option RowType :=
  if name = "AST_ELEMENT" then some .element
  else if name = "FAKE_AST" then some .holder
  else none

@[simp]
theorem ofText?_text (type : RowType) : ofText? type.text = some type := by
  cases type <;> decide

end RowType

def edgeType : String := "AST_CHILD"

/-- A node of a feature graph. Ids, contents and positions are values because a stored graph may
hold anything there; graphs that are built by scanning have integers as ids. -/
structure Row where
  id : Json
  /-- The id in the form in which the graph met it first; edges show it in this form. -/
  key : Json := id
  type : RowType
  contents : Json
  start : Json := .int noPosition
  stop : Json := .int noPosition
  startLine : Json := .int noPosition
  stopLine : Json := .int noPosition
deriving DecidableEq

/-- The feature graph of a source file. `newlines` are the offsets of the newlines in the source,
if rows are to carry line numbers; `trees` are the tree nodes that element rows were made for. -/
structure Graph where
  sourceFile : Json := .str ""
  newlines : Option (Array Nat) := none
  rows : List Row := []
  links : List (Json × Json) := []
  root : Option Json := none
  nextId : Json := .int 0
  trees : List (Json × Tree) := []

inductive GraphError
  | sourceMissing (id : Json)
  | destinationMissing (id : Json)
  | rootSet (root node : Json)
  | rootMissing (id : Json)
  | alreadyScanned (root : Json)
  | access (cause : AccessError)
  /-- Arrays and objects are no ids. -/
  | notAnId
deriving DecidableEq

/-- The report about a change that was refused, where there is one. -/
def GraphError.report? : GraphError → Option Report
  | .sourceMissing id => some (.ofFamily .construction s!"Source node not found: {id.plain}")
  | .destinationMissing id =>
    some (.ofFamily .construction s!"Destination node not found: {id.plain}")
  | .rootSet root node => some (.ofFamily .construction s!"Root already set to node {root.plain}"
      (.obj [("root", root), ("node", node)]))
  | .rootMissing id => some (.ofFamily .construction s!"Root node not found: {id.plain}")
  | .alreadyScanned root => some (.ofFamily .construction "Sink already holds a scanned tree"
      (.obj [("root", root)]))
  | .access cause => some cause.report
  | .notAnId => none

/-- Puts a row in the place of one with the same id, or at the end. -/
def putRow (row : Row) : List Row → List Row
  | [] => [row]
  | r :: rest =>
    -- The id keeps the form in which it was met first.
    if r.id.same row.id then { row with key := r.key } :: rest else r :: putRow row rest

theorem putRow_of_new {row : Row} {rows : List Row} (new : ∀ r ∈ rows, r.id.same row.id = false) :
    putRow row rows = rows ++ [row] := by
  induction rows with
  | nil => rfl
  | cons r rest ih =>
    simp only [putRow, new r (by simp), List.cons_append, Bool.false_eq_true, if_false]
    rw [ih fun other member => new other (by simp [member])]

namespace Graph

def ofSource (sourceFile : Json) (source : Option String) (lineNumbers : Bool) : Graph :=
  { sourceFile,
    newlines :=
      if lineNumbers then source.map fun text => (newlineOffsets 0 text.toList).toArray
      else none }

/-- The line of a position, counted from 1; no line without line numbers or a position. -/
def lineOf (g : Graph) (position : Int) : Int :=
  match g.newlines with
  | none => noPosition
  | some offsets =>
    -- A negative position is none; one behind the end is on the last line.
    if position < 0 then noPosition
    else lineBehind (fun offset => (offset : Int) < position) offsets

/-- The line of a position of any form; where lines are counted, it has to be a number. -/
def lineOfValue? (g : Graph) (position : Json) : Option Int :=
  match g.newlines, position with
  | none, _ => some noPosition
  | some _, .int position => some (g.lineOf position)
  | some offsets, position =>
    -- A position that is no integer is compared with each newline.
    (position.lt? (.int 0)).map fun negative =>
      if negative then noPosition
      else lineBehind (fun offset => position.lt? (.int (offset + 1)) = some false) offsets

def row? (g : Graph) (id : Json) : Option Row :=
  g.rows.find? (·.id.same id)

def hasRow (g : Graph) (id : Json) : Bool :=
  g.rows.any (·.id.same id)

def addRow (g : Graph) (type : RowType) (contents start stop : Json) (startLine stopLine : Int) :
    Graph :=
  { g with
    rows := putRow
      { id := g.nextId, type, contents, start, stop
        startLine := .int startLine, stopLine := .int stopLine } g.rows
    nextId := g.nextId.advance 1 }

def addElement (g : Graph) (kind : Json) (t : Tree) : Graph :=
  let g' := g.addRow .element kind (.int t.start) (.int t.stop) (g.lineOf t.start) (g.lineOf t.stop)
  { g' with trees := g.trees ++ [(g.nextId, t)] }

def addHolder (g : Graph) (label : String) (start stop : Int) : Graph :=
  g.addRow .holder (.str label) (.int start) (.int stop) (g.lineOf start) (g.lineOf stop)

/-- Adds a row for a group of children with a label and positions of any form, if they have
lines. -/
def addHolder? (g : Graph) (label start stop : Json) : Option Graph := do
  let startLine ← g.lineOfValue? start
  let stopLine ← g.lineOfValue? stop
  return g.addRow .holder label start stop startLine stopLine

theorem addHolder?_str (g : Graph) (label : String) (start stop : Int) :
    g.addHolder? (.str label) (.int start) (.int stop) = some (g.addHolder label start stop) := by
  cases h : g.newlines <;> simp [addHolder?, addHolder, lineOfValue?, lineOf, h]

def hasLink (g : Graph) (source destination : Json) : Bool :=
  g.links.any fun link => link.1.same source && link.2.same destination

/-- Adds an edge; one that is there already keeps its place. -/
def link (g : Graph) (source destination : Json) : Graph :=
  if g.hasLink source destination then g
  else { g with links := g.links ++ [(source, destination)] }

def checkRow (g : Graph) (id : Json) (missing : GraphError) : Except GraphError Unit :=
  if g.hasRow id then .ok ()
  -- Arrays and objects cannot even be looked up.
  else .error (if id.isKey then missing else .notAnId)

def addEdge (g : Graph) (source destination : Json) : Except GraphError Graph := do
  g.checkRow source (.sourceMissing source)
  g.checkRow destination (.destinationMissing destination)
  return g.link source destination

/-- Makes a row the root, once and for all. -/
def setRoot (g : Graph) (id : Json) : Except GraphError Graph :=
  match g.root with
  | some root => .error (.rootSet root id)
  | none => do
    g.checkRow id (.rootMissing id)
    -- The graph keeps the value that it was given, not the id of the row.
    return { g with root := some id }

theorem addEdge_of_hasRow {g : Graph} {source destination : Json} (first : g.hasRow source)
    (second : g.hasRow destination) :
    g.addEdge source destination = .ok (g.link source destination) := by
  rw [addEdge, checkRow, checkRow, if_pos first, if_pos second]
  rfl

theorem setRoot_of_hasRow {g : Graph} {id : Json} (free : g.root = none) (there : g.hasRow id) :
    g.setRoot id = .ok { g with root := some id } := by
  rw [setRoot, free]
  simp only [checkRow, if_pos there]
  rfl

def rootRow? (g : Graph) : Option Row :=
  g.root.bind g.row?

/-- The ids at the far ends of the edges from a row, in the order of the edges. -/
def childIds (g : Graph) (id : Json) : List Json :=
  (g.links.filter (·.1.same id)).map (·.2)

/-- The ids at the near ends of the edges to a row, in the order of the edges. -/
def parentIds (g : Graph) (id : Json) : List Json :=
  (g.links.filter (·.2.same id)).map (·.1)

def children (g : Graph) (id : Json) : List Row :=
  (g.childIds id).filterMap g.row?

/-- The row at the near end of the first edge to a row. -/
def parent? (g : Graph) (id : Json) : Option Row :=
  ((g.parentIds id).filterMap g.row?).head?

/-- The edges: by the order of their source rows, then by their own order. -/
def edges (g : Graph) : List (Json × Json) :=
  -- An edge shows its start in the form in which the graph met it first.
  g.rows.flatMap fun row => (g.childIds row.id).map fun child => (row.key, child)

/-- The tree node that the latest row with an id was made for. -/
def treeOf? (g : Graph) (id : Json) : Option Tree :=
  (g.trees.reverse.find? (·.1.same id)).map (·.2)

/-- The latest row that was made for a tree node, unless its id went to another one. -/
def find? (g : Graph) (t : Tree) : Option Row := do
  let (id, _) ← g.trees.reverse.find? (·.2.id = t.id)
  -- A later row may have taken the id of the row of this tree node.
  let latest ← g.treeOf? id
  if latest.id = t.id then g.row? id else none

def rowsOfType (g : Graph) (type : RowType) : List Row :=
  g.rows.filter (·.type = type)

def rowsWithContents (g : Graph) (contents : Json) : List Row :=
  g.rows.filter (·.contents.equals contents)

end Graph

end SyntaxGraph
