import SyntaxGraph.Tree.Basic

/-!
# Walking a tree

The walk visits a node before its children and the children in slot order. Alias slots are not
followed. It can be done by recursion or with a stack.
-/
namespace SyntaxGraph

mutual

/-- The nodes of a tree in pre-order. -/
def Tree.walk : Tree → List Tree
  | .node head shape entries => .node head shape entries :: walkEntries entries

def walkEntries : List (Place × Content) → List Tree
  | [] => []
  | (place, content) :: rest =>
    -- Alias slots are not followed.
    (if place.isTraversed then content.walk else []) ++ walkEntries rest

def Content.walk : Content → List Tree
  | .absent => []
  | .data _ => []
  | .tree t => t.walk
  | .list items => walkItems items

def walkItems : List Content → List Tree
  | [] => []
  | .tree t :: rest => t.walk ++ walkItems rest
  | .absent :: rest => walkItems rest
  | .data _ :: rest => walkItems rest
  | .list _ :: rest => walkItems rest

end

theorem walkItems_eq (items : List Content) :
    walkItems items = (items.filterMap Content.tree?).flatMap Tree.walk := by
  induction items with
  | nil => rfl
  | cons item rest ih => cases item <;> simp [walkItems, List.filterMap_cons, Content.tree?, ih]

theorem Content.walk_eq (content : Content) : content.walk = content.trees.flatMap Tree.walk := by
  cases content with
  | absent | data value => rfl
  | tree t => simp [Content.walk, Content.trees]
  | list items => exact walkItems_eq items

theorem walkEntries_eq (entries : List (Place × Content)) :
    walkEntries entries = (entries.flatMap fun (place, content) =>
      if place.isTraversed then content.trees else []).flatMap Tree.walk := by
  induction entries with
  | nil => rfl
  | cons entry rest ih =>
    obtain ⟨place, content⟩ := entry
    rw [walkEntries, ih, List.flatMap_cons, List.flatMap_append]
    by_cases traversed : place.isTraversed <;> simp [traversed, Content.walk_eq]

theorem Tree.walk_eq (t : Tree) : t.walk = t :: t.children.flatMap Tree.walk := by
  obtain ⟨head, shape, entries⟩ := t
  rw [Tree.walk, walkEntries_eq]
  rfl

/-- The nodes that are met from a stack of trees, its top first: the tree on top is met, and its
children take its place. -/
def walkStack (stack : List Tree) : List Tree :=
  match stack with
  | [] => []
  | t :: rest => t :: walkStack (t.children ++ rest)
termination_by (stack.flatMap Tree.walk).length
decreasing_by
  rw [List.flatMap_cons, t.walk_eq]
  simp

def Tree.visits (t : Tree) : List Tree := walkStack [t]

mutual

/-- The largest identity in a tree, anywhere. -/
def Tree.maxId : Tree → Nat
  | .node head _ entries => max head.id (maxIdEntries entries)

def maxIdEntries : List (Place × Content) → Nat
  | [] => 0
  -- Also in alias slots, so that numbers behind it are free everywhere.
  | (_, content) :: rest => max content.maxId (maxIdEntries rest)

def Content.maxId : Content → Nat
  | .absent => 0
  | .data _ => 0
  | .tree t => t.maxId
  | .list items => maxIdItems items

def maxIdItems : List Content → Nat
  | [] => 0
  | item :: rest => max item.maxId (maxIdItems rest)

end

mutual

/-- Gives every node of a tree an identity of its own, counting from `next` in pre-order; also
returns the next free identity. -/
def Tree.renumber (next : Nat) : Tree → Tree × Nat
  | .node head shape entries =>
    let (entries, after) := renumberEntries (next + 1) entries
    (.node { head with id := next } shape entries, after)

def renumberEntries (next : Nat) : List (Place × Content) → List (Place × Content) × Nat
  | [] => ([], next)
  | (place, content) :: rest =>
    let (content, next) := content.renumber next
    let (rest, next) := renumberEntries next rest
    ((place, content) :: rest, next)

def Content.renumber (next : Nat) : Content → Content × Nat
  | .absent => (.absent, next)
  | .data value => (.data value, next)
  | .tree t =>
    let (t, next) := t.renumber next
    (.tree t, next)
  | .list items =>
    let (items, next) := renumberItems next items
    (.list items, next)

def renumberItems (next : Nat) : List Content → List Content × Nat
  | [] => ([], next)
  | item :: rest =>
    let (item, next) := item.renumber next
    let (rest, next) := renumberItems next rest
    (item :: rest, next)

end

def renumberOption (next : Nat) : Option Tree → Option Tree × Nat
  | none => (none, next)
  | some t =>
    let (t, next) := t.renumber next
    (some t, next)

def renumberOptions (next : Nat) : List (Option Tree) → List (Option Tree) × Nat
  | [] => ([], next)
  | t :: rest =>
    let (t, next) := renumberOption next t
    let (rest, next) := renumberOptions next rest
    (t :: rest, next)

end SyntaxGraph
