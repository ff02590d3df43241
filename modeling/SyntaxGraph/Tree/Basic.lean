import SyntaxGraph.Json.Basic
import SyntaxGraph.Tree.Schema

/-!
# Syntax trees

A node has an identity, a span of character offsets, attributes, and contents in named places.
Two nodes with one identity are the same node, met along two ways; `-1` is the offset of nodes that
stand for no text.
-/
namespace SyntaxGraph

/-- The offset of nodes that stand for no text. -/
def noPosition : Int := -1

structure Head where
  id : Nat := 0
  start : Int := noPosition
  stop : Int := noPosition
  attributes : List (String × Json) := []
  synthetic : Bool := false
  generated : Bool := false
deriving DecidableEq

/-- What the schema of a node says apart from its slots. -/
structure Shape where
  kind : String
  isMethod : Bool := false
deriving DecidableEq

/-- Where a content stands: in a slot of the node's schema, or under a name that the schema does
not declare. Only nodes that were made without a check have the latter. -/
inductive Place
  | slot (decl : Slot)
  | extra (name : String)
deriving DecidableEq

namespace Place

def name : Place → String
  | .slot decl => decl.name
  | .extra name => name

def slot? : Place → Option Slot
  | .slot decl => some decl
  | .extra _ => none

/-- Whether the content belongs to the node's own subtrees. -/
def isTraversed : Place → Bool
  | .slot decl => decl.isTraversed
  | .extra _ => false

end Place

mutual

/-- A node of a syntax tree; a node without a shape has no schema. -/
inductive Tree
  | node (head : Head) (shape : Option Shape) (entries : List (Place × Content))

/-- What stands in a place of a node. A declared slot that was never given anything is absent. -/
inductive Content
  | absent
  | data (value : Json)
  | tree (tree : Tree)
  | list (items : List Content)

end

instance : Inhabited Tree := ⟨.node {} none []⟩

namespace Content

def tree? : Content → Option Tree
  | .tree t => some t
  | _ => none

/-- The trees that the content directly holds: itself, or the items of a list. -/
def trees : Content → List Tree
  | .tree t => [t]
  | .list items => items.filterMap tree?
  | _ => []

def ofOption : Option Tree → Content
  | none => .data .null
  | some t => .tree t

/-- A list of trees, some of which may be missing. -/
def ofOptions (items : List (Option Tree)) : Content :=
  .list (items.map ofOption)

def ofTrees (items : List Tree) : Content :=
  .list (items.map .tree)

theorem trees_ofTrees (items : List Tree) : (ofTrees items).trees = items := by
  simp [ofTrees, trees, tree?, List.filterMap_map, Function.comp_def]

end Content

/-- What an unfilled slot is read as. -/
def Slot.empty (slot : Slot) : Content :=
  match slot.arity with
  | .list => .list []
  | .single | .optional => .data .null

namespace Tree

def head : Tree → Head
  | .node head _ _ => head

def shape : Tree → Option Shape
  | .node _ shape _ => shape

def entries : Tree → List (Place × Content)
  | .node _ _ entries => entries

def id (t : Tree) : Nat := t.head.id

/-- The offset of the first character. -/
def start (t : Tree) : Int := t.head.start

/-- The offset after the last character. -/
def stop (t : Tree) : Int := t.head.stop

def kind? (t : Tree) : Option String := t.shape.map (·.kind)

def schema? (t : Tree) : Option Schema :=
  t.shape.map fun shape => ⟨shape.kind, t.entries.filterMap (·.1.slot?), shape.isMethod⟩

def attribute? (t : Tree) (name : String) : Option Json :=
  t.head.attributes.lookup name

def withAttribute (t : Tree) (name : String) (value : Json) : Tree :=
  match t with
  | .node head shape entries =>
    .node { head with attributes := Json.insert head.attributes name value } shape entries

/-- What was given under a name; where a schema repeats a name, the last slot counts. -/
def given? (t : Tree) (name : String) : Option Content :=
  t.entries.reverse.findSome? fun (place, content) =>
    if place.name = name then
      match content with
      -- A slot that was never given anything does not hide an earlier one.
      | .absent => none
      | content => some content
    else none

/-- The children in slot order, without those of alias slots. -/
def children (t : Tree) : List Tree :=
  -- What an alias slot shows is a child elsewhere.
  t.entries.flatMap fun (place, content) => if place.isTraversed then content.trees else []

def summary? (t : Tree) : Option String :=
  t.kind?.map fun kind => s!"TreeNode({kind}, {t.start}, {t.stop})"

end Tree

inductive AccessError
  | noSchema (start stop : Int)
  | noSlot (kind slot : String)
deriving DecidableEq

/-- The content of a declared slot; `none` for a node without a schema. -/
def Tree.child? (t : Tree) (name : String) : Option (Except AccessError Content) :=
  t.schema?.map fun schema =>
    match schema.slot? name with
    | none => .error (.noSlot schema.kind name)
    | some slot => .ok ((t.given? name).getD slot.empty)

end SyntaxGraph
