import SyntaxGraph.Fault
import SyntaxGraph.Graph.Basic

/-!
# Statistics of a graph

Counts, the greatest distance from the root, and whether the graph is a tree.
-/
namespace SyntaxGraph

/-- Counts one more occurrence of a key; keys keep the order of their first occurrence. -/
def tally {α : Type} (same : α → α → Bool) (key : α) : List (α × Nat) → List (α × Nat)
  | [] => [(key, 1)]
  | (k, n) :: rest => if same k key then (k, n + 1) :: rest else (k, n) :: tally same key rest

def tallies {α : Type} (same : α → α → Bool) (keys : List α) : List (α × Nat) :=
  keys.foldl (fun counts key => tally same key counts) []

/-- The ids that a step leads to, each once, without those seen before. -/
def unseen (seen : List Json) : List Json → List Json
  | [] => []
  | id :: rest => if seen.any (·.same id) then unseen seen rest else id :: unseen (id :: seen) rest

/-- The layers of ids around a start: each layer is one step further away. -/
def layers (step : Json → List Json) : Nat → List Json → List Json → List (List Json)
  -- The fuel never runs out before the frontier does, if it exceeds the number of rows.
  | 0, _, _ => []
  | fuel + 1, seen, frontier =>
    match frontier with
    | [] => []
    | frontier =>
      frontier :: layers step fuel (frontier ++ seen)
        (unseen (frontier ++ seen) (frontier.flatMap step))

structure Statistics where
  nodeCount : Nat
  edgeCount : Nat
  depth : Nat
  types : List (RowType × Nat)
  contents : List (Json × Nat)
  isTree : Bool

/-- The key of a field that stands for a value: a text itself, or the value as it is written. -/
def fieldKey : Json → String
  | .str text => text
  | value => value.render .compact

def Statistics.toJson (s : Statistics) : Json :=
  .obj [("node_count", .int s.nodeCount), ("edge_count", .int s.edgeCount),
    ("depth", .int s.depth),
    ("type_distribution", .obj [
      ("types", .obj (s.types.map fun (type, n) => (type.text, .int n))),
      ("contents", .obj (s.contents.map fun (contents, n) => (fieldKey contents, .int n)))]),
    ("is_tree", .bool s.isTree)]

namespace Graph

/-- The layers of rows around a row; no row is further away than there are rows. -/
def layersFrom (g : Graph) (step : Json → List Json) (id : Json) : List (List Json) :=
  layers step (g.rows.length + 1) [] [id]

/-- The greatest distance of a row from the root, along edges. -/
def depth (g : Graph) : Nat :=
  match g.root with
  | none => 0
  | some root => (g.layersFrom g.childIds root).length - 1

/-- Whether the rows hang together when the direction of edges is ignored. -/
def isConnected (g : Graph) : Bool :=
  -- Nothing hangs together in an empty graph.
  match g.rows with
  | [] => false
  | row :: _ =>
    (g.layersFrom (fun id => g.childIds id ++ g.parentIds id) row.id).flatten.length =
      g.rows.length

/-- Whether the graph is a tree whose edges lead away from a root. -/
def isTree (g : Graph) : Bool :=
  g.rows.length = g.links.length + 1 && g.isConnected &&
    g.rows.all fun row => (g.parentIds row.id).length ≤ 1

def statistics (g : Graph) : Statistics where
  nodeCount := g.rows.length
  edgeCount := g.links.length
  depth := g.depth
  types := tallies (fun a b => decide (a = b)) (g.rows.map (·.type))
  contents := tallies Json.same (g.rows.map (·.contents))
  isTree := g.isTree

/-- The statistics of a graph whose rows can be counted; arrays and objects cannot. -/
def countedStatistics (g : Graph) : Except Fault Statistics :=
  if g.rows.all (·.contents.isKey) then .ok g.statistics else .error .wrongForm

end Graph

end SyntaxGraph
