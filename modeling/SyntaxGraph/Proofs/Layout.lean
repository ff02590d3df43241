import SyntaxGraph.Proofs.Filling

/-!
# Graphs of forests

Carrying out the emissions of a forest gives a graph whose rows are the nodes of the forest in
pre-order and whose edges are its links.
-/
namespace SyntaxGraph

open List

namespace Item

/-- The row with an id; lines are found by `lineOf`. -/
def row (lineOf : Int → Int) (id : Int) : Item → Row
  | .element kind t =>
    { id := .int id, type := .element, contents := .str kind
      start := .int t.start, stop := .int t.stop
      startLine := .int (lineOf t.start), stopLine := .int (lineOf t.stop) }
  | .holder accessor start stop =>
    { id := .int id, type := .holder, contents := .str (Label.ofAccessor accessor)
      start := .int start, stop := .int stop
      startLine := .int (lineOf start), stopLine := .int (lineOf stop) }

/-- The tree node that the row stands for. -/
def tree? : Item → Option Tree
  | .element _ t => some t
  | .holder _ _ _ => none

@[simp]
theorem row_id (lineOf : Int → Int) (id : Int) (item : Item) :
    (item.row lineOf id).id = .int id := by
  cases item <;> rfl

@[simp]
theorem row_type (lineOf : Int → Int) (id : Int) (item : Item) :
    (item.row lineOf id).type = item.type := by
  cases item <;> rfl

end Item

variable {next : Nat}

theorem Forest.number_bounds {α : Type} {f : Forest α} {numbered : α × Nat}
    (member : numbered ∈ (f.number next).flatten) :
    next ≤ numbered.2 ∧ numbered.2 < next + f.size := by
  rw [flatten_number] at member
  obtain ⟨lower, upper, -⟩ := mem_zipIdx member
  exact ⟨lower, by simpa using upper⟩

namespace Graph

/-- The graph holds integer ids below `n` only, so that `n` and all numbers above are free. -/
structure Fresh (g : Graph) (n : Int) : Prop where
  next : g.nextId = .int n
  rows : ∀ row ∈ g.rows, ∃ k < n, row.id = .int k
  links : ∀ link ∈ g.links, ∃ k < n, link.2 = .int k

/-- The graph with the rows and links of a numbered forest below `parent`; numbers count from
`base`. -/
def grow (base : Int) (g : Graph) (parent : Item × Nat) (f : Forest (Item × Nat)) : Graph :=
  { g with
    rows := g.rows ++ f.flatten.map fun numbered => numbered.1.row g.lineOf (base + numbered.2)
    links := g.links ++ (f.links parent).map fun link =>
      (.int (base + link.1.2), .int (base + link.2.2))
    nextId := g.nextId.advance f.size
    trees := g.trees ++ f.flatten.filterMap fun numbered =>
      numbered.1.tree?.map fun t => (.int (base + numbered.2), t) }

variable {g : Graph} {n : Int}

/-- A row that is asked for goes to the end under the next id. -/
theorem apply_item (fresh : g.Fresh n) (base : Json) (item : Item) :
    g.apply base item.emission =
      { g with
        rows := g.rows ++ [item.row g.lineOf n]
        nextId := .int (n + 1)
        trees := g.trees ++ (item.tree?.map fun t => (Json.int n, t)).toList } := by
  have new (row : Row) (isNext : row.id = .int n) : ∀ r ∈ g.rows, r.id.same row.id = false := by
    intro r member
    obtain ⟨k, small, equal⟩ := fresh.rows r member
    simp only [equal, isNext, Json.same_int, decide_eq_false_iff_not]
    omega
  cases item with
  | element kind t =>
    simp only [Item.emission, apply, addElement, addRow, fresh.next, Json.advance_int]
    rw [putRow_of_new (new _ rfl)]
    rfl
  | holder accessor start stop =>
    simp only [Item.emission, apply, addHolder, addRow, fresh.next, Json.advance_int]
    rw [putRow_of_new (new _ rfl)]
    simp [Item.row, Item.tree?]

/-- An edge to a row that has none yet is new. -/
theorem link_new (source : Json) (below : ∀ link ∈ g.links, ∃ k < n, link.2 = .int k) :
    g.link source (.int n) = { g with links := g.links ++ [(source, .int n)] } := by
  have new : g.hasLink source (.int n) = false := by
    rw [hasLink, any_eq_false]
    intro link member
    obtain ⟨k, small, equal⟩ := below link member
    have other : k ≠ n := by omega
    simp [equal, other]
  rw [link, new, if_neg Bool.false_ne_true]

theorem Fresh.grow {base : Int} (fresh : g.Fresh (base + next)) (parent : Item × Nat)
    (f : Forest Item) :
    (g.grow base parent (f.number next)).Fresh (base + (next + f.size : Nat)) where
  next := by simp [Graph.grow, fresh.next, Int.add_assoc]
  rows := by
    intro row member
    simp only [Graph.grow, mem_append, mem_map] at member
    rcases member with member | ⟨numbered, found, rfl⟩
    · obtain ⟨k, small, equal⟩ := fresh.rows row member
      exact ⟨k, by omega, equal⟩
    · obtain ⟨-, upper⟩ := Forest.number_bounds found
      exact ⟨base + numbered.2, by omega, by simp⟩
  links := by
    intro link member
    simp only [Graph.grow, mem_append, mem_map] at member
    rcases member with member | ⟨⟨source, target⟩, found, rfl⟩
    · obtain ⟨k, small, equal⟩ := fresh.links link member
      exact ⟨k, by omega, equal⟩
    · have upper : target.2 < next + f.size :=
        (Forest.number_bounds (Forest.snd_mem_of_mem_links found)).2
      exact ⟨base + target.2, by omega, rfl⟩

/-- A row that is attached as soon as it is asked for is a tree of its own. -/
theorem apply_attached {base : Int} (fresh : g.Fresh (base + next)) (parent : Item × Nat)
    (item : Item) :
    (g.apply (.int base) item.emission).apply (.int base) (attach (some parent.2) next) =
      g.grow base parent (.cons (item, next) .nil .nil) := by
  rw [apply_item fresh, attach, apply, Json.advance_int, Json.advance_int, link_new]
  · cases item <;>
      simp [Graph.grow, Forest.flatten, Forest.links, Forest.size, fresh.next, Item.tree?]
  · exact fresh.links

/-- Growing by a tree is growing by its label, then by what is below, then by the rest. -/
theorem grow_cons (g : Graph) (base : Int) (parent a : Item × Nat)
    (below rest : Forest (Item × Nat)) (next : g.nextId = .int n) :
    ((g.grow base parent (.cons a .nil .nil)).grow base a below).grow base parent rest =
      g.grow base parent (.cons a below rest) := by
  -- Lines are found by the newlines alone, which do not change.
  have same (h : Graph) (q : Item × Nat) (f : Forest (Item × Nat)) :
      (h.grow base q f).lineOf = h.lineOf := rfl
  have count : n + 1 + below.size + rest.size = n + (below.size + rest.size + 1 : Nat) := by omega
  have advanced : ((g.nextId.advance 1).advance below.size).advance rest.size =
      g.nextId.advance (below.size + rest.size + 1) := by
    simpa [next] using count
  rw [Graph.grow, same, Graph.grow, same, Graph.grow, Graph.grow]
  simp only [Forest.flatten, Forest.links, Forest.size, advanced, append_nil,
    append_assoc, Nat.zero_add, map_cons, map_append, map_nil,
    cons_append, nil_append, ← filterMap_append]

theorem foldl_emissions (f : Forest Item) (base : Int) (parent : Item × Nat) (next : Nat)
    (g : Graph) (fresh : g.Fresh (base + next)) :
    ((f.number next).emissions (some parent.2)).foldl (apply (.int base)) g =
      g.grow base parent (f.number next) := by
  induction f generalizing parent next g with
  | nil =>
    simp [Forest.number, Forest.emissions, Graph.grow, Forest.flatten, Forest.links, Forest.size,
      Json.advance]
  | cons item below rest ihBelow ihRest =>
    rw [Forest.number, Forest.emissions, foldl_cons, foldl_cons, foldl_append, apply_attached fresh]
    -- Numbers stay fresh behind the first row and behind what is below it.
    have afterOne : (g.grow base parent (.cons (item, next) .nil .nil)).Fresh
        (base + (next + 1 : Nat)) := fresh.grow parent (.cons item .nil .nil)
    rw [ihBelow (item, next) (next + 1) _ afterOne,
      ihRest parent _ _ (afterOne.grow (item, next) below), grow_cons _ _ _ _ _ _ fresh.next]

/-- The graph consists of the rows of a tree, which are numbered in pre-order and linked as they
hang together. -/
structure Shows (g : Graph) (top : Row) (below : Forest Row) : Prop where
  root : g.root = some top.id
  rows : g.rows = top :: below.flatten
  links : g.links = (below.links top).map fun link => (link.1.id, link.2.id)
  ids : g.rows.map (·.id) = (List.range g.rows.length).map fun n : Nat => .int n

def rowsOf (lineOf : Int → Int) (f : Forest (Item × Nat)) : Forest Row :=
  f.map fun numbered => numbered.1.row lineOf numbered.2

def withRoot (empty : Graph) (item : Item) : Graph :=
  { empty with
    rows := [item.row empty.lineOf 0]
    root := some (.int 0)
    nextId := .int 1
    trees := (item.tree?.map fun t => (Json.int 0, t)).toList }

/-- Growing from the root gives a tree of rows. -/
theorem shows_grow {empty : Graph} (unlinked : empty.links = []) (item : Item)
    (drawn : Forest Item) :
    ((empty.withRoot item).grow 0 (item, 0) (drawn.number 1)).Shows (item.row empty.lineOf 0)
      (rowsOf empty.lineOf (drawn.number 1)) where
  root := by simp [Graph.grow, withRoot]
  rows := by
    have same : (empty.withRoot item).lineOf = empty.lineOf := rfl
    rw [Graph.grow, same]
    simp [rowsOf, withRoot]
  links := by
    -- Links of rows are links of items with their numbers.
    have linked : (rowsOf empty.lineOf (drawn.number 1)).links (item.row empty.lineOf 0) =
        ((drawn.number 1).links (item, 0)).map fun link =>
          (link.1.1.row empty.lineOf link.1.2, link.2.1.row empty.lineOf link.2.2) :=
      Forest.links_map (fun numbered : Item × Nat => numbered.1.row empty.lineOf numbered.2)
        (item, 0) _
    rw [linked]
    simp [Graph.grow, withRoot, unlinked]
  ids := by
    have numbers : (drawn.number 1).flatten.map (fun numbered => Json.int (numbered.2 : Int)) =
        (List.range' 1 drawn.size).map fun n : Nat => .int n := by
      rw [Forest.flatten_number, ← Forest.length_flatten drawn,
        ← zipIdx_map_snd 1 drawn.flatten, map_map]
      rfl
    have count : 1 + drawn.size = drawn.size + 1 := Nat.add_comm _ _
    simp only [Graph.grow, withRoot, map_append, map_map, length_append,
      length_map, length_cons, length_nil, Forest.length_flatten,
      Forest.size_number, Function.comp_def, Item.row_id, Int.zero_add, numbers, Nat.zero_add]
    rw [count, range_eq_range', List.range'_succ]
    simp

/-- A scan of a node with a schema into an empty graph grows from the root. It grows by the view of
the node unless it fails. -/
theorem scan_grows (file : Json) (source : Option String) (lines : Bool) (head : Head)
    (shape : Shape) (entries : List (Place × Content)) :
    let t := Tree.node head (some shape) entries
    let item := Item.element shape.kind t
    let empty := ofSource file source lines
    ∃ drawn : Forest Item, drawn.Alternates Item.type .holder ∧
      (empty.scan t).1 = (empty.withRoot item).grow 0 (item, 0) (drawn.number 1) ∧
      (t.scan.Succeeds → .cons item drawn .nil = t.view) := by
  intro t item empty
  obtain ⟨drawn, alternates, emitted, whole⟩ := draws_entries entries 0 1
  have fresh : empty.Fresh 0 := ⟨rfl, by simp [empty, ofSource], by simp [empty, ofSource]⟩
  have freshRooted : (empty.withRoot item).Fresh (0 + (1 : Nat)) :=
    ⟨rfl, by simp [withRoot], by simp [withRoot, empty, ofSource]⟩
  have steps : t.scan = ⟨item.emission :: .root 0 :: (scanEntries 0 1 entries).trace,
      (scanEntries 0 1 entries).result⟩ := by
    rfl
  refine ⟨drawn, alternates, ?_, ?_⟩
  · rw [scan_of_rootless rfl, steps, emitted, ← foldl_emissions drawn 0 (item, 0) 1 _ freshRooted,
      applyAll, foldl_cons, foldl_cons, fresh.next, apply_item fresh]
    rfl
  · rintro ⟨after, ended⟩
    obtain ⟨equal, -⟩ := whole after ended
    rw [equal, Tree.view]

end Graph

end SyntaxGraph
