/-!
# Schemas

A schema declares the kind of a node and the named slots that hold its children.
-/
namespace SyntaxGraph

/-- How many children a slot holds. -/
inductive Arity
  | single
  | optional
  | list
deriving DecidableEq

/-- A named slot. A slot with `aliasOf` shows a subtree that is reachable through that other slot
as well, and is never followed. -/
structure Slot where
  name : String
  arity : Arity := .single
  aliasOf : Option String := none
deriving DecidableEq

/-- Whether the children of the slot belong to the node's own subtrees. -/
def Slot.isTraversed (slot : Slot) : Bool :=
  slot.aliasOf.isNone

structure Schema where
  kind : String
  slots : List Slot := []
  isMethod : Bool := false
deriving DecidableEq

def Schema.slot? (schema : Schema) (name : String) : Option Slot :=
  schema.slots.find? (·.name = name)

end SyntaxGraph
