import SyntaxGraph.Tree.Basic

/-!
# Grammars

A grammar is a closed set of schemas. Nodes are built through it, so that they hold exactly what
their schema allows.
-/
namespace SyntaxGraph

/-- A closed set of schemas with one schema for each kind. -/
structure Grammar where
  name : String
  schemas : List Schema

/-- Why a node does not fit its schema. -/
inductive ShapeFault
  | unknownKind (grammar : String)
  | unknownSlot (slot : String)
  | notAList (slot : String)
  | notATree (slot : String)
  | required (slot : String)
deriving DecidableEq

structure ShapeError where
  kind : String
  fault : ShapeFault
deriving DecidableEq

def ShapeFault.reason : ShapeFault → String
  | .unknownKind grammar => s!"kind is not part of the {grammar} grammar"
  | .unknownSlot slot => s!"unknown slot '{slot}'"
  | .notAList slot => s!"slot '{slot}' expects a list"
  | .notATree slot => s!"slot '{slot}' holds a non-tree value"
  | .required slot => s!"slot '{slot}' is required"

namespace Grammar

def duplicate? : List String → List Schema → Option String
  | _, [] => none
  | seen, schema :: rest =>
    if seen.contains schema.kind then some schema.kind else duplicate? (schema.kind :: seen) rest

/-- A grammar, unless some kind is declared twice; the error is that kind. -/
def ofSchemas (name : String) (schemas : List Schema) : Except String Grammar :=
  match duplicate? [] schemas with
  | some kind => .error kind
  | none => .ok ⟨name, schemas⟩

def schema? (grammar : Grammar) (kind : String) : Option Schema :=
  grammar.schemas.find? (·.kind = kind)

def kinds (grammar : Grammar) : List String :=
  (grammar.schemas.map (·.kind)).mergeSort (· ≤ ·)

/-- The schema of a kind, or the fault that there is none. -/
def schemaOf (grammar : Grammar) (kind : String) : Except ShapeError Schema :=
  match grammar.schema? kind with
  | some schema => .ok schema
  | none => .error ⟨kind, .unknownKind grammar.name⟩

end Grammar

/-- The content of a slot, checked against its arity. -/
def Slot.fill (slot : Slot) (given : Option Content) : Except ShapeFault Content :=
  match slot.arity, given.getD slot.empty with
  | .list, .list items =>
    -- A list of trees has no gaps.
    if items.all fun item => item.tree?.isSome then .ok (.list items)
    else .error (.notATree slot.name)
  -- Nothing at all is an empty list.
  | .list, .data .null => .ok (.list [])
  | .list, _ => .error (.notAList slot.name)
  | .single, .data .null => .error (.required slot.name)
  | .optional, .data .null => .ok (.data .null)
  | _, .tree t => .ok (.tree t)
  | _, _ => .error (.notATree slot.name)

namespace Schema

def fillAll (given : List (String × Content)) :
    List Slot → Except ShapeFault (List (Place × Content))
  | [] => .ok []
  | slot :: rest => do
    let content ← slot.fill (given.lookup slot.name)
    let entries ← fillAll given rest
    return (.slot slot, content) :: entries

/-- The contents of a node, slot by slot. -/
def entries (schema : Schema) (given : List (String × Content)) :
    Except ShapeFault (List (Place × Content)) :=
  -- Unknown names are refused before any slot is checked.
  match given.find? fun (name, _) => (schema.slot? name).isNone with
  | some (name, _) => .error (.unknownSlot name)
  | none => fillAll given schema.slots

/-- A node that was not checked: contents as given, under names that may be undeclared. -/
def unchecked (schema : Schema) (head : Head) (given : List (String × Content)) : Tree :=
  .node head (some ⟨schema.kind, schema.isMethod⟩)
    (schema.slots.map (fun slot => (.slot slot, (given.lookup slot.name).getD .absent)) ++
      (given.filter fun (name, _) => (schema.slot? name).isNone).map
        fun (name, content) => (.extra name, content))

end Schema

def Tree.bare (head : Head) (given : List (String × Content)) : Tree :=
  .node head none (given.map fun (name, content) => (.extra name, content))

def Grammar.build (grammar : Grammar) (kind : String) (head : Head)
    (given : List (String × Content)) : Except ShapeError Tree := do
  let schema ← grammar.schemaOf kind
  match schema.entries given with
  | .error fault => .error ⟨kind, fault⟩
  | .ok entries => .ok (.node head (some ⟨schema.kind, schema.isMethod⟩) entries)

end SyntaxGraph
