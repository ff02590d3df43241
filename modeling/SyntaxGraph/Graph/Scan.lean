import SyntaxGraph.Graph.Basic
import SyntaxGraph.Label
import SyntaxGraph.Trace
import SyntaxGraph.Tree.Walk

/-!
# Scanning trees

A scan walks a tree depth first. It emits an element for each node and, for each slot that holds
children the programmer wrote, a holder between the node and these children. Nodes are numbered in
the order of their emission.
-/
namespace SyntaxGraph

/-- One thing that a scan tells the graph it fills. -/
inductive Emission
  | element (kind : String) (tree : Tree)
  | holder (accessor : String) (start stop : Int)
  | edge (parent child : Nat)
  | root (node : Nat)

/-- Whether a node stands for something the programmer wrote: all do but methods that are marked
as synthetic or as generated constructors. -/
def Tree.isInSource (t : Tree) : Except AccessError Bool :=
  match t.shape with
  | none => .error (.noSchema t.start t.stop)
  | some shape => .ok (!(shape.isMethod && (t.head.synthetic || t.head.generated)))

/-- Whether a node is known to stand for something the programmer wrote. -/
def Tree.isVisible (t : Tree) : Bool :=
  match t.isInSource with
  | .ok visible => visible
  | .error _ => false

/-- The trees that stand for something the programmer wrote, unless one has no schema. -/
def visibleTrees : List Tree → Except AccessError (List Tree)
  | [] => .ok []
  | t :: rest => do
    let visible ← t.isInSource
    let others ← visibleTrees rest
    return if visible then t :: others else others

/-- A scan in progress: its emissions so far, and the next free number or the reason it stopped. -/
abbrev Scan := Traced Emission AccessError Nat

/-- How a new node is attached: below its parent, or as the root. -/
def attach (parent : Option Nat) (node : Nat) : Emission :=
  match parent with
  | some parent => .edge parent node
  | none => .root node

/-- Emits the holder of a group of children, unless the group is empty, and goes on with its
number. -/
def scanGroup (accessor : String) (owner next : Nat) (trees : List Tree)
    (members : Nat → Nat → Scan) : Scan := do
  match ← Traced.ofExcept (visibleTrees trees) with
  | [] => return next
  | first :: rest =>
    Traced.emit (.holder accessor first.start ((first :: rest).getLastD first).stop)
    Traced.emit (.edge owner next)
    members next (next + 1)

mutual

/-- Scans a tree below `parent`, numbering its nodes from `next`. -/
def Tree.scanFrom (parent : Option Nat) (next : Nat) : Tree → Scan
  | .node head shape entries =>
    match shape with
    | none => Traced.fail (.noSchema head.start head.stop)
    | some shape => do
      Traced.emit (.element shape.kind (.node head (some shape) entries))
      Traced.emit (attach parent next)
      scanEntries next (next + 1) entries

/-- Scans the slots of the node numbered `owner`. -/
def scanEntries (owner next : Nat) : List (Place × Content) → Scan
  | [] => pure next
  | (place, content) :: rest => do
    let next ← if place.isTraversed then content.scanFrom place.name owner next else pure next
    scanEntries owner next rest

def Content.scanFrom (accessor : String) (owner next : Nat) : Content → Scan
  | .absent => pure next
  | .data _ => pure next
  | .tree t => scanGroup accessor owner next [t] fun holder next => t.scanFrom (some holder) next
  | .list items =>
    scanGroup accessor owner next (items.filterMap Content.tree?) fun holder next =>
      scanItems holder next items

/-- Scans the visible trees of a list below their holder. -/
def scanItems (holder next : Nat) : List Content → Scan
  | [] => pure next
  | .tree t :: rest => do
    let next ← if t.isVisible then t.scanFrom (some holder) next else pure next
    scanItems holder next rest
  | .absent :: rest => scanItems holder next rest
  | .data _ :: rest => scanItems holder next rest
  | .list _ :: rest => scanItems holder next rest

end

def Tree.scan (t : Tree) : Scan :=
  t.scanFrom none 0

/-- The slot names that a scan asks labels for, in order. -/
def accessors (emissions : List Emission) : List String :=
  emissions.filterMap fun
    | .holder accessor _ _ => some accessor
    | _ => none

namespace Graph

/-- What one emission does to the graph; the numbers of a scan start at the id `base`. -/
def apply (base : Json) (g : Graph) : Emission → Graph
  | .element kind t => g.addElement (.str kind) t
  | .holder accessor start stop => g.addHolder (Label.ofAccessor accessor) start stop
  | .edge parent child => g.link (base.advance parent) (base.advance child)
  | .root node => { g with root := some (base.advance node) }

/-- Carries out one emission, unless the graph refuses it. -/
def carryOut (base : Json) (g : Graph) : Emission → Except GraphError Graph
  | .edge parent child => g.addEdge (base.advance parent) (base.advance child)
  | .root node => g.setRoot (base.advance node)
  | emission => .ok (g.apply base emission)

/-- Carries out emissions up to the first one that is refused. -/
def fill (base : Json) (g : Graph) : List Emission → Graph × Except GraphError Unit
  | [] => (g, .ok ())
  | emission :: rest =>
    match g.carryOut base emission with
    | .ok changed => changed.fill base rest
    | .error error => (g, .error error)

/-- Scans a tree into the graph, which must not have a root yet. A scan that fails leaves what it
emitted before. -/
def scan (g : Graph) (t : Tree) : Graph × Except GraphError Unit :=
  match g.root with
  | some root => (g, .error (.alreadyScanned root))
  | none =>
    match g.fill g.nextId t.scan.trace with
    | (filled, .ok ()) => (filled, (t.scan.result.map fun _ => ()).mapError .access)
    | (filled, .error error) => (filled, .error error)

/-- Carries out one emission with a label that may be remembered. -/
def applyAsking (base : Json) : Graph × Label.Memory → Emission → Graph × Label.Memory
  | (g, m), .holder accessor start stop =>
    let (label, m) := m.ask accessor
    (g.addHolder label start stop, m)
  | (g, m), emission => (g.apply base emission, m)

/-- Scans a tree into the graph with labels that may be remembered. -/
def scanAsking (g : Graph) (t : Tree) (m : Label.Memory) :
    (Graph × Except GraphError Unit) × Label.Memory :=
  if g.root.isSome then (g.scan t, m)
  else
    let (filled, m) := t.scan.trace.foldl (applyAsking g.nextId) (g, m)
    ((filled, (g.scan t).2), m)

end Graph

end SyntaxGraph
