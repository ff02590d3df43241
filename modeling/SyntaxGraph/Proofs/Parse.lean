import SyntaxGraph.Parse.Tree

/-!
# Nodes of parse trees

The nodes of a tree, and how trees are written down.
-/
namespace SyntaxGraph.ParseTree

open List

variable {α β : Type}

mutual

def nodes : ParseTree α → List (ParseTree α)
  | .node mark note children => .node mark note children :: allNodes children

def allNodes : List (ParseTree α) → List (ParseTree α)
  | [] => []
  | part :: rest => part.nodes ++ allNodes rest

end

def childMarks (part : ParseTree α) : List Mark := part.children.map mark

/-- What holds of all nodes holds of the root and of all nodes of each child. -/
theorem forall_nodes_iff {P : ParseTree α → Prop} {m : Mark} {note : α}
    {children : List (ParseTree α)} :
    (∀ node ∈ (ParseTree.node m note children).nodes, P node) ↔
      P (.node m note children) ∧ ∀ node ∈ allNodes children, P node := by
  rw [nodes, forall_mem_cons]

theorem forall_allNodes_cons {P : ParseTree α → Prop} {part : ParseTree α}
    {rest : List (ParseTree α)} :
    (∀ node ∈ allNodes (part :: rest), P node) ↔
      (∀ node ∈ part.nodes, P node) ∧ ∀ node ∈ allNodes rest, P node := by
  rw [allNodes, forall_mem_append]

@[simp]
theorem mark_annotate (write : Mark → List (ParseTree β) → β) (tree : ParseTree α) :
    (tree.annotate write).mark = tree.mark := by
  cases tree
  rfl

@[simp]
theorem map_mark_annotateAll (write : Mark → List (ParseTree β) → β) (trees : List (ParseTree α)) :
    (annotateAll write trees).map mark = trees.map mark := by
  induction trees with
  | nil => rfl
  | cons tree rest ih => simp [annotateAll, ih]

/-! ### Children with notes -/

section

variable (write : Mark → List (ParseTree β) → β) (trees : List (ParseTree α))

theorem annotateAll_eq_map : annotateAll write trees = trees.map (annotate write) := by
  induction trees with
  | nil => rfl
  | cons tree rest ih => rw [annotateAll, ih, map_cons]

@[simp]
theorem type_annotate (tree : ParseTree α) : (tree.annotate write).type = tree.type := by
  rw [type, mark_annotate, type]

@[simp]
theorem isContent_annotate (tree : ParseTree α) :
    (tree.annotate write).isContent = tree.isContent := by
  rw [isContent, mark_annotate, isContent]

/-- What the parser says picks the same nodes with and without notes. -/
theorem field?_annotateAll (name : String) :
    field? (annotateAll write trees) name = (field? trees name).map (annotate write) := by
  simp only [field?, annotateAll_eq_map, find?_map, Function.comp_def, mark_annotate]

theorem fields_annotateAll (name : String) :
    fields (annotateAll write trees) name = (fields trees name).map (annotate write) := by
  simp [fields, annotateAll_eq_map, filter_map, Function.comp_def]

theorem contents_annotateAll :
    contents (annotateAll write trees) = (contents trees).map (annotate write) := by
  simp [contents, annotateAll_eq_map, filter_map, Function.comp_def]

theorem brackets_annotateAll : brackets (annotateAll write trees) = brackets trees := by
  simp [brackets, annotateAll_eq_map, countP_map, Function.comp_def]

theorem children_annotate (tree : ParseTree α) :
    (tree.annotate write).children = annotateAll write tree.children := by
  cases tree
  rfl

end

end SyntaxGraph.ParseTree

namespace SyntaxGraph.Java

/-- A token, which is spelled as its type is called. -/
def token (type : String) (start : Nat) (field : Option String := none) : ParseTree Unit :=
  .node { type, named := false, start, stop := start + type.length, field } () []

/-- A named part of a parse tree. -/
def part (type : String) (start stop : Nat) (children : List (ParseTree Unit) := [])
    (field : Option String := none) : ParseTree Unit :=
  .node { type, named := true, start, stop, field } () children

/-- A source of one class, whose body starts behind its name and holds the given members. -/
def classUnit (nameStop bodyStart stop : Nat) (members : List (ParseTree Unit)) : ParseTree Unit :=
  let body := token "\x7b" bodyStart :: members ++ [token "\x7d" (stop - 1)]
  part "program" 0 stop
    [part "class_declaration" 0 stop
      [token "class" 0, part "identifier" 6 nameStop [] "name",
        part "class_body" bodyStart stop body "body"]]

end SyntaxGraph.Java
