import SyntaxGraph.Proofs.Unfolding

/-!
# Elements in the order of a walk

A stack that is fed with the children of each node brings up the nodes of a tree in pre-order. A
scan numbers its elements in the same order, although it puts holders between them, passes over
alias slots and leaves out what the programmer did not write. Main statement: the tree nodes behind
the elements of a scanned graph, read by their ids, are the nodes that the programmer wrote in
pre-order; where nothing is left out, they are what the stack brings up.
-/
namespace SyntaxGraph

open List

/-! ### Walks -/

/-- Whatever is on the stack, the trees on it come up one after the other, each in pre-order. -/
theorem walkStack_eq (stack : List Tree) : walkStack stack = stack.flatMap Tree.walk := by
  fun_induction walkStack stack with
  | case1 => rfl
  | case2 t rest ih =>
    rw [ih, flatMap_append, flatMap_cons, t.walk_eq, cons_append]

namespace Tree

theorem visits_eq_walk (t : Tree) : t.visits = t.walk := by
  simp [visits, walkStack_eq]

theorem tail_walk (t : Tree) : t.walk.tail = t.children.flatMap walk := by
  rw [t.walk_eq, tail_cons]

theorem mem_walk_self (t : Tree) : t ∈ t.walk := by
  rw [t.walk_eq]
  exact mem_cons_self

theorem length_walk_lt {t child : Tree} (member : child ∈ t.children) :
    child.walk.length < t.walk.length := by
  obtain ⟨before, behind, equal⟩ := append_of_mem member
  rw [t.walk_eq, equal]
  simp
  omega

theorem walk_subset {t u : Tree} (met : u ∈ t.walk) : u.walk ⊆ t.walk := by
  induction size : t.walk.length using Nat.strongRecOn generalizing t with
  | ind n ih =>
    subst size
    rw [t.walk_eq, mem_cons, mem_flatMap] at met
    rcases met with rfl | ⟨child, member, below⟩
    · exact List.Subset.refl _
    · intro v walked
      have inner := ih _ (length_walk_lt member) below rfl walked
      rw [t.walk_eq]
      exact mem_cons_of_mem _ (mem_flatMap.2 ⟨child, member, inner⟩)

/-- The nodes that the programmer wrote, in pre-order: children that are not in the source are left
out with all that is below them. The root is there in any case. -/
def written (t : Tree) : List Tree :=
  t :: (t.children.filter isVisible).attach.flatMap fun child => child.1.written
termination_by t.walk.length
decreasing_by exact length_walk_lt (mem_filter.1 child.2).1

theorem written_eq (t : Tree) : t.written = t :: (t.children.filter isVisible).flatMap written := by
  rw [written, flatMap_subtype fun _ _ => rfl, unattach_attach]

theorem written_subset_walk (t : Tree) : t.written ⊆ t.walk := by
  induction t using written.induct with
  | case1 t ih =>
    intro u member
    rw [written_eq, mem_cons, mem_flatMap] at member
    rw [t.walk_eq, mem_cons, mem_flatMap]
    rcases member with rfl | ⟨child, kept, below⟩
    · exact .inl rfl
    · exact .inr ⟨child, (mem_filter.1 kept).1, ih ⟨child, kept⟩ below⟩

theorem written_eq_walk (t : Tree) (visible : ∀ u ∈ t.walk.tail, u.isVisible) :
    t.written = t.walk := by
  induction t using written.induct with
  | case1 t ih =>
    rw [tail_walk] at visible
    have below {child : Tree} (member : child ∈ t.children) : ∀ u ∈ child.walk, u.isVisible :=
      fun u met => visible u (mem_flatMap.2 ⟨child, member, met⟩)
    have all : t.children.filter isVisible = t.children :=
      filter_eq_self.2 fun child member => below member child child.mem_walk_self
    have same : ∀ child ∈ t.children, child.written = child.walk := fun child member =>
      ih ⟨child, all.symm ▸ member⟩ fun u met => below member u (mem_of_mem_tail met)
    rw [written_eq, all, t.walk_eq, flatMap_congr same]

end Tree

/-! ### Elements of a view -/

namespace Forest

/-- The tree nodes that the rows of a forest stand for, in pre-order. -/
def trees (f : Forest Item) : List Tree := f.flatten.filterMap Item.tree?

@[simp]
theorem trees_append (f g : Forest Item) : (f.append g).trees = f.trees ++ g.trees := by
  induction f with
  | nil => rfl
  | cons a below rest _ ih =>
    simp only [trees, append, flatten, filterMap_cons, filterMap_append] at ih ⊢
    cases a.tree? <;> simp [ih]

end Forest

theorem trees_viewAll (trees : List Tree) :
    (viewAll trees).trees = trees.flatMap (·.view.trees) := by
  induction trees with
  | nil => rfl
  | cons t rest ih => simpa [viewAll] using ih

theorem trees_view_content (accessor : String) (content : Content) :
    (content.view accessor).trees =
      (content.trees.filter Tree.isVisible).flatMap (·.view.trees) := by
  rw [view_content_eq, holderOver, ← trees_viewAll]
  split
  next none => rw [none]; rfl
  next first rest some => simp [Forest.trees, Forest.flatten, filterMap_cons, Item.tree?]

theorem trees_viewEntries (entries : List (Place × Content)) :
    (viewEntries entries).trees = ((entries.flatMap fun (place, content) =>
      if place.isTraversed then content.trees else []).filter Tree.isVisible).flatMap
        (·.view.trees) := by
  induction entries with
  | nil => rfl
  | cons entry rest ih =>
    obtain ⟨place, content⟩ := entry
    rw [viewEntries, Forest.trees_append, ih, flatMap_cons, filter_append, flatMap_append]
    by_cases traversed : place.isTraversed
    · simp only [traversed, if_true, trees_view_content]
    · simp only [traversed, if_false, Bool.false_eq_true, filter_nil, flatMap_nil]
      rfl

/-- The elements of the view of a node stand for the nodes that the programmer wrote, in
pre-order. -/
theorem trees_view (t : Tree) (typed : t.shape.isSome) : t.view.trees = t.written := by
  induction t using Tree.written.induct with
  | case1 t ih =>
    have same : ∀ child ∈ t.children.filter Tree.isVisible, child.view.trees = child.written :=
      fun child member =>
        ih ⟨child, member⟩ (shape_of_isVisible (mem_filter.1 member).2)
    rw [Tree.written_eq, ← flatMap_congr same]
    obtain ⟨head, shape, entries⟩ := t
    cases shape with
    | none => cases typed
    | some shape =>
      have below : (viewEntries entries).trees =
          ((Tree.node head (some shape) entries).children.filter Tree.isVisible).flatMap
            (·.view.trees) := trees_viewEntries entries
      rw [← below, Tree.view]
      simp [Forest.trees, Forest.flatten, Item.tree?]

/-! ### Elements of a graph -/

/-- The elements among numbered rows are those that stand for a tree node. -/
theorem map_tree?_elements (numbered : List (Item × Nat)) :
    (numbered.filter (·.1.type = .element)).map (·.1.tree?) =
      (numbered.filterMap (·.1.tree?)).map some := by
  induction numbered with
  | nil => rfl
  | cons first rest ih =>
    obtain ⟨item, number⟩ := first
    cases item <;> simpa [filterMap_cons, Item.tree?, Item.type] using ih

namespace Graph

theorem treeOf?_of_mem {g : Graph} (distinct : g.trees.Pairwise fun a b => a.1.same b.1 = false)
    {id : Json} {t : Tree} (member : (id, t) ∈ g.trees) : g.treeOf? id = some t := by
  have backwards : g.trees.reverse.Pairwise fun a b => a.1.same b.1 = false :=
    pairwise_reverse.2 (distinct.imp fun apart => by rwa [Json.same_comm])
  rw [← mem_reverse] at member
  rw [treeOf?]
  generalize g.trees.reverse = pairs at backwards member ⊢
  induction pairs with
  | nil => simp at member
  | cons first rest ih =>
    obtain ⟨apart, distinctRest⟩ := pairwise_cons.1 backwards
    rcases mem_cons.1 member with rfl | later
    · simp
    · simp [apart _ later, ih distinctRest later]

theorem trees_distinct {g : Graph} {items : List Item}
    (trees : g.trees = items.zipIdx.filterMap fun numbered =>
      numbered.1.tree?.map fun t => (Json.int numbered.2, t)) :
    g.trees.Pairwise fun a b => a.1.same b.1 = false := by
  have ascending : items.zipIdx.Pairwise fun a b => a.2 < b.2 := by
    rw [← pairwise_map (f := Prod.snd), zipIdx_map_snd]
    exact pairwise_lt_range'
  rw [trees, pairwise_filterMap]
  refine ascending.imp fun less => ?_
  simp only [Option.map_eq_some_iff]
  rintro _ ⟨t, -, rfl⟩ _ ⟨u, -, rfl⟩
  simpa using by omega

/-- If rows and tree nodes are those of numbered items, the elements lead back to the tree nodes
that the items stand for. -/
theorem treeOf?_elements {g : Graph} {lineOf : Int → Int} {items : List Item}
    (rows : g.rows = items.zipIdx.map fun numbered => numbered.1.row lineOf numbered.2)
    (trees : g.trees = items.zipIdx.filterMap fun numbered =>
      numbered.1.tree?.map fun t => (Json.int numbered.2, t)) :
    (g.rowsOfType .element).map (fun row => g.treeOf? row.id) =
      (items.filterMap Item.tree?).map some := by
  have distinct := trees_distinct trees
  -- Elements remember their tree node under their number, which no other item has.
  have leads : ∀ numbered ∈ items.zipIdx.filter (·.1.type = .element),
      g.treeOf? (numbered.1.row lineOf numbered.2).id = numbered.1.tree? := by
    rintro ⟨item, number⟩ member
    obtain ⟨found, isElement⟩ := mem_filter.1 member
    cases item with
    | holder accessor start stop => simp [Item.type] at isElement
    | element kind t =>
      refine treeOf?_of_mem distinct ?_
      rw [trees, mem_filterMap]
      exact ⟨_, found, rfl⟩
  have selected : g.rowsOfType .element = (items.zipIdx.filter (·.1.type = .element)).map
      fun numbered => numbered.1.row lineOf numbered.2 := by
    rw [rowsOfType, rows, filter_map]
    simp [Function.comp_def]
  calc (g.rowsOfType .element).map (fun row => g.treeOf? row.id)
    _ = (items.zipIdx.filter (·.1.type = .element)).map (·.1.tree?) := by
      rw [selected, map_map]
      exact map_congr_left leads
    _ = ((items.zipIdx.map Prod.fst).filterMap Item.tree?).map some := by
      rw [map_tree?_elements, filterMap_map]
      rfl
    _ = (items.filterMap Item.tree?).map some := by rw [zipIdx_map_fst]

/-- The rows of a graph that grew from its root are the items of the whole forest, numbered from
zero. -/
theorem rows_withRoot_grow (empty : Graph) (item : Item) (drawn : Forest Item) :
    ((empty.withRoot item).grow 0 (item, 0) (drawn.number 1)).rows =
      (Forest.cons item drawn .nil).flatten.zipIdx.map fun numbered =>
        numbered.1.row empty.lineOf numbered.2 := by
  have same : (empty.withRoot item).lineOf = empty.lineOf := rfl
  rw [Graph.grow, same]
  simp [withRoot, Forest.flatten, Forest.flatten_number]

theorem trees_withRoot_grow (empty : Graph) (item : Item) (drawn : Forest Item) :
    ((empty.withRoot item).grow 0 (item, 0) (drawn.number 1)).trees =
      (Forest.cons item drawn .nil).flatten.zipIdx.filterMap fun numbered =>
        numbered.1.tree?.map fun t => (Json.int numbered.2, t) := by
  rw [Graph.grow]
  cases item <;>
    simp [withRoot, Forest.flatten, Forest.flatten_number, Item.tree?]

/-- Scanning a tree with schemas throughout into an empty graph succeeds. Its elements, whose ids
ascend, lead back to the nodes that the programmer wrote in pre-order. If nothing below the root is
left out, these are the nodes that a stack brings up. -/
theorem scan_elements_in_preorder (file : Json) (source : Option String) (lines : Bool) (t : Tree)
    (typed : ∀ u ∈ t.walk, u.shape.isSome) :
    let scanned := (ofSource file source lines).scan t
    let elements := scanned.1.rowsOfType .element
    scanned.2 = .ok () ∧
      (elements.Pairwise fun a b => ∃ i j : Nat, a.id = .int i ∧ b.id = .int j ∧ i < j) ∧
      elements.map (fun row => scanned.1.treeOf? row.id) = t.written.map some ∧
      ((∀ u ∈ t.walk.tail, u.isVisible) →
        elements.map (fun row => scanned.1.treeOf? row.id) = t.visits.map some) := by
  intro scanned elements
  have ended : scanned.2 = .ok () := scan_ok rfl typed
  have rooted := typed t t.mem_walk_self
  obtain ⟨ascending, back⟩ : (elements.Pairwise fun a b =>
      ∃ i j : Nat, a.id = .int i ∧ b.id = .int j ∧ i < j) ∧
      elements.map (fun row => scanned.1.treeOf? row.id) = t.written.map some := by
    rw [← trees_view t rooted]
    obtain ⟨head, shape, entries⟩ := t
    cases shape with
    | none => cases rooted
    | some shape =>
      obtain ⟨drawn, -, graph, view⟩ := scan_grows file source lines head shape entries
      rw [← view (succeeds_tree _ typed none 0)]
      have shown : scanned.1.Shows _ _ := graph ▸ shows_grow rfl _ drawn
      exact ⟨shown.sorted.filter _, treeOf?_elements
        ((congrArg rows graph).trans (rows_withRoot_grow ..))
        ((congrArg trees graph).trans (trees_withRoot_grow ..))⟩
  refine ⟨ended, ascending, back, fun visible => ?_⟩
  rw [back, t.visits_eq_walk, t.written_eq_walk visible]

/-- A sum of a call with two arguments and a name; an alias slot leads to the arguments again. -/
def sampleSum : Tree :=
  let name (id start : Nat) : Tree :=
    .node ⟨id, start, start + 1, [], false, false⟩ (some ⟨"IDENTIFIER", false⟩) []
  let arguments : Content := .list [.tree (name 3 2), .data .null, .tree (name 4 5)]
  let call : Tree := .node ⟨1, 0, 7, [], false, false⟩ (some ⟨"METHOD_INVOCATION", false⟩)
    [(.slot ⟨"getMethodSelect", .single, none⟩, .tree (name 2 0)),
      (.slot ⟨"getArguments", .list, none⟩, arguments),
      (.slot ⟨"getOperands", .list, some "getArguments"⟩, arguments)]
  .node ⟨0, 0, 11, [], false, false⟩ (some ⟨"PLUS", false⟩)
    [(.slot ⟨"getLeftOperand", .single, none⟩, .tree call),
      (.slot ⟨"getRightOperand", .single, none⟩, .tree (name 5 10))]

/-- The generated constructor of the class is not among its elements, whereas nothing is missing in
the sum. -/
theorem scan_samples_in_preorder :
    ((∀ u ∈ sampleClass.walk, u.shape.isSome) ∧ sampleClass.walk.map (·.id) = [0, 2, 1, 1] ∧
      let g := ((ofSource .null none false).scan sampleClass).1
      (g.rowsOfType .element).map (fun row => g.treeOf? row.id) = sampleClass.written.map some ∧
        sampleClass.written.map (·.id) = [0, 1, 1]) ∧
    (∀ u ∈ sampleSum.walk, u.shape.isSome) ∧ (∀ u ∈ sampleSum.walk.tail, u.isVisible) ∧
      let g := ((ofSource .null none false).scan sampleSum).1
      (g.rowsOfType .element).map (fun row => g.treeOf? row.id) = sampleSum.visits.map some ∧
        sampleSum.visits.map (·.id) = [0, 1, 2, 3, 4, 5] := by
  have typedClass : ∀ u ∈ sampleClass.walk, u.shape.isSome := by decide
  have typedSum : ∀ u ∈ sampleSum.walk, u.shape.isSome := by decide
  have visible : ∀ u ∈ sampleSum.walk.tail, u.isVisible := by decide
  obtain ⟨-, -, written, -⟩ := scan_elements_in_preorder .null none false sampleClass typedClass
  obtain ⟨-, -, -, whole⟩ := scan_elements_in_preorder .null none false sampleSum typedSum
  refine ⟨⟨typedClass, rfl, written, ?_⟩, typedSum, visible, whole visible, ?_⟩
  · rw [← trees_view _ rfl]
    rfl
  · rw [Tree.visits_eq_walk]
    rfl

end Graph

end SyntaxGraph
