import Mathlib.Algebra.Ring.Nat
import Mathlib.Data.List.Induction
import Mathlib.Data.List.MinMax
import Mathlib.Order.Nat
import SyntaxGraph.Graph.Statistics
import SyntaxGraph.Proofs.Traversal

/-!
# Statistics of scanned graphs

A breadth-first search through a tree of rows meets one level of the tree after the other, whether
or not it may also step back to parents. So the search that measures the depth of a scanned graph
finds the height of its tree, and the search that tests whether the rows hang together meets each
row once. Main statement: the statistics of a scanned graph are told by the in-source tree alone.
-/
namespace SyntaxGraph

open List

/-! ### Tallies -/

section Tallies

variable {α : Type}

theorem tallies_append (same : α → α → Bool) (keys : List α) (key : α) :
    tallies same (keys ++ [key]) = tally same key (tallies same keys) := by
  simp [tallies]

theorem sum_tally (same : α → α → Bool) (key : α) (counts : List (α × Nat)) :
    ((tally same key counts).map Prod.snd).sum = (counts.map Prod.snd).sum + 1 := by
  induction counts with
  | nil => rfl
  | cons count rest ih =>
    simp only [tally]
    split
    · simp only [map_cons, sum_cons]
      omega
    · simp only [map_cons, sum_cons, ih]
      omega

theorem sum_tallies (same : α → α → Bool) (keys : List α) :
    ((tallies same keys).map Prod.snd).sum = keys.length := by
  induction keys using List.reverseRecOn with
  | nil => rfl
  | append_singleton keys key ih => rw [tallies_append, sum_tally, ih, length_append]; rfl

variable [DecidableEq α]

theorem lookup_tally (key other : α) (counts : List (α × Nat)) :
    ((tally (fun a b => decide (a = b)) key counts).lookup other).getD 0 =
      (counts.lookup other).getD 0 + if key = other then 1 else 0 := by
  induction counts with
  | nil =>
    by_cases same : key = other
    · simp [tally, same]
    · have apart : (other == key) = false := by simpa using Ne.symm same
      simp [tally, lookup_cons, same, apart]
  | cons count rest ih =>
    obtain ⟨first, n⟩ := count
    by_cases here : first = key
    · subst here
      by_cases same : first = other
      · simp [tally, same]
      · have apart : (other == first) = false := by simpa using Ne.symm same
        simp [tally, lookup_cons, same, apart]
    · by_cases found : other = first
      · subst found
        simp [tally, here, Ne.symm here]
      · have apart : (other == first) = false := by simpa using found
        simpa [tally, here, lookup_cons, apart] using ih

theorem lookup_tallies (keys : List α) (key : α) :
    ((tallies (fun a b => decide (a = b)) keys).lookup key).getD 0 = keys.count key := by
  induction keys using List.reverseRecOn with
  | nil => rfl
  | append_singleton keys last ih =>
    rw [tallies_append, lookup_tally, ih, count_append, count_singleton]
    simp

end Tallies

/-! ### Levels of a forest -/

namespace Forest

variable {α β : Type}

def height : Forest α → Nat
  | .nil => 0
  | .cons _ below rest => max (below.height + 1) rest.height

/-- The forest without its first level. -/
def next : Forest α → Forest α
  | .nil => .nil
  | .cons _ below rest => below.append rest.next

@[simp]
theorem height_append (f g : Forest α) : (f.append g).height = max f.height g.height := by
  induction f with
  | nil => simp [height]
  | cons a below rest _ ih => simp [append, height, ih, Nat.max_assoc]

@[simp]
theorem roots_append (f g : Forest α) : (f.append g).roots = f.roots ++ g.roots := by
  induction f with
  | nil => rfl
  | cons a below rest _ ih => simp [append, roots, ih]

@[simp]
theorem flatten_append (f g : Forest α) : (f.append g).flatten = f.flatten ++ g.flatten := by
  induction f with
  | nil => rfl
  | cons a below rest _ ih => simp [append, flatten, ih]

@[simp]
theorem roots_map (h : α → β) (f : Forest α) : (f.map h).roots = f.roots.map h := by
  induction f with
  | nil => rfl
  | cons a below rest _ ih => simp [map, roots, ih]

@[simp]
theorem height_map (h : α → β) (f : Forest α) : (f.map h).height = f.height := by
  induction f with
  | nil => rfl
  | cons a below rest ihBelow ihRest => simp [map, height, ihBelow, ihRest]

@[simp]
theorem size_map (h : α → β) (f : Forest α) : (f.map h).size = f.size := by
  rw [← length_flatten, flatten_map, length_map, length_flatten]

@[simp]
theorem height_number (start : Nat) (f : Forest α) : (f.number start).height = f.height := by
  rw [← height_map Prod.fst, map_fst_number]

theorem height_next (f : Forest α) : f.next.height = f.height - 1 := by
  induction f with
  | nil => rfl
  | cons a below rest _ ih =>
    simp only [next, height, height_append, ih]
    omega

theorem height_le_size (f : Forest α) : f.height ≤ f.size := by
  induction f with
  | nil => exact Nat.le_refl 0
  | cons a below rest ihBelow ihRest =>
    simp only [height, size]
    omega

theorem roots_sublist (f : Forest α) : f.roots.Sublist f.flatten := by
  induction f with
  | nil => exact .refl _
  | cons a below rest _ ih => exact (sublist_append_of_sublist_right ih).cons_cons a

/-- The nodes are those of the first level and those of the others. -/
theorem flatten_perm (f : Forest α) : f.flatten.Perm (f.roots ++ f.next.flatten) := by
  induction f with
  | nil => exact .refl _
  | cons a below rest _ ih =>
    simp only [flatten, roots, next, flatten_append, cons_append]
    refine List.Perm.cons a ?_
    calc below.flatten ++ rest.flatten
      _ |>.Perm (below.flatten ++ (rest.roots ++ rest.next.flatten)) := ih.append_left _
      _ |>.Perm (rest.roots ++ (below.flatten ++ rest.next.flatten)) := by
        simpa using perm_append_comm_assoc below.flatten rest.roots rest.next.flatten

end Forest

/-! ### Breadth-first search -/

/-- Ids of which no two are the same. -/
abbrev Apart (ids : List Json) : Prop := ids.Pairwise fun a b => a.same b = false

theorem Apart.perm {ids others : List Json} (apart : Apart ids) (same : ids.Perm others) :
    Apart others :=
  same.pairwise apart fun {a b} differ => by rwa [Json.same_comm]

theorem Apart.not_seen {ids seen some : List Json} (apart : Apart (ids ++ seen))
    (among : some.Sublist ids) : ∀ id ∈ some, seen.any (·.same id) = false := by
  intro id member
  rw [any_eq_false]
  intro old known
  rw [Json.same_comm, (pairwise_append.1 apart).2.2 id (among.subset member) old known]
  exact Bool.false_ne_true

theorem layers_succ (step : Json → List Json) (fuel : Nat) (seen : List Json)
    {frontier : List Json} (some : frontier ≠ []) :
    layers step (fuel + 1) seen frontier = frontier ::
      layers step fuel (frontier ++ seen) (unseen (frontier ++ seen) (frontier.flatMap step)) := by
  cases frontier with
  | nil => exact absurd rfl some
  | cons id rest => rfl

/-- Where the ids that were not seen before are apart, the search goes on with just these. -/
theorem unseen_eq_filter (seen ids : List Json)
    (apart : Apart (ids.filter fun id => !seen.any (·.same id))) :
    unseen seen ids = ids.filter fun id => !seen.any (·.same id) := by
  induction ids generalizing seen with
  | nil => rfl
  | cons id rest ih =>
    by_cases known : seen.any (·.same id)
    · simp only [filter_cons, known, Bool.not_true, Bool.false_eq_true, if_false] at apart
      simp [unseen, known, ih seen apart]
    · simp only [filter_cons, known, Bool.not_false, if_true] at apart
      obtain ⟨first, later⟩ := pairwise_cons.1 apart
      -- None of the later ids that are new is the one that is new now.
      have same : (rest.filter fun other => !(id :: seen).any (·.same other)) =
          rest.filter fun other => !seen.any (·.same other) := by
        refine filter_congr fun other member => ?_
        by_cases old : seen.any (·.same other)
        · simp [old]
        · have new := first other (mem_filter.2 ⟨member, by simp [old]⟩)
          simp [new]
      simp only [unseen, known, filter_cons, Bool.not_false, if_true, Bool.false_eq_true, if_false]
      rw [ih (id :: seen) (same ▸ later), same]

namespace Forest

/-- From every node of a forest of ids the steps lead to what is right below it, and perhaps back:
from the trees themselves to `up`, and from all other nodes to their parents. -/
def Leads (step : Json → List Json) (up : List Json) : Forest Json → Prop
  | .nil => True
  | .cons a below rest =>
    (∃ back, step a = below.roots ++ back ∧ back ⊆ up) ∧ below.Leads step [a] ∧ rest.Leads step up

variable {step : Json → List Json} {up : List Json} {f : Forest Json}

theorem Leads.mono (leads : f.Leads step up) {above : List Json} (more : up ⊆ above) :
    f.Leads step above := by
  induction f with
  | nil => trivial
  | cons a below rest _ ih =>
    obtain ⟨⟨back, steps, known⟩, inBelow, inRest⟩ := leads
    exact ⟨⟨back, steps, List.Subset.trans known more⟩, inBelow, ih inRest⟩

theorem Leads.append {g : Forest Json} (leads : f.Leads step up) (also : g.Leads step up) :
    (f.append g).Leads step up := by
  induction f with
  | nil => exact also
  | cons a below rest _ ih => exact ⟨leads.1, leads.2.1, ih leads.2.2⟩

theorem Leads.next (leads : f.Leads step up) : f.next.Leads step f.roots := by
  induction f with
  | nil => trivial
  | cons a below rest _ ih =>
    obtain ⟨-, inBelow, inRest⟩ := leads
    exact (inBelow.mono (by simp [roots])).append ((ih inRest).mono (by simp [roots]))

/-- Of the steps from the first level, those to something unknown lead to the second level. -/
theorem Leads.filter_steps (leads : f.Leads step up) {known : Json → Bool}
    (old : ∀ id ∈ up, known id) (new : ∀ id ∈ f.next.roots, known id = false) :
    (f.roots.flatMap step).filter (!known ·) = f.next.roots := by
  induction f with
  | nil => rfl
  | cons a below rest _ ih =>
    obtain ⟨⟨back, steps, inUp⟩, -, inRest⟩ := leads
    simp only [Forest.next, roots_append, forall_mem_append] at new
    have kept : below.roots.filter (!known ·) = below.roots :=
      filter_eq_self.2 fun id member => by simp [new.1 id member]
    have dropped : back.filter (!known ·) = [] :=
      filter_eq_nil_iff.2 fun id member => by simp [old id (inUp member)]
    simp [roots, Forest.next, steps, kept, dropped, ih inRest new.2]

/-- A search meets the levels of a forest one after the other: so many layers as there are levels,
and in them each node once. -/
theorem Leads.layers (leads : f.Leads step up) {seen : List Json} (old : up ⊆ seen)
    (apart : Apart (f.flatten ++ seen)) {fuel : Nat} (enough : f.height ≤ fuel) :
    (layers step fuel seen f.roots).length = f.height ∧
      (layers step fuel seen f.roots).flatten.length = f.size := by
  induction fuel generalizing f seen up with
  | zero =>
    cases f with
    | nil => exact ⟨rfl, rfl⟩
    | cons a below rest =>
      simp only [height] at enough
      omega
  | succ fuel ih =>
    cases shape : f with
    | nil => exact ⟨rfl, rfl⟩
    | cons a below rest =>
      rw [← shape]
      -- What is behind the first level is apart from it and from all that was seen.
      have behind : Apart (f.next.flatten ++ (f.roots ++ seen)) := by
        apply apart.perm
        calc f.flatten ++ seen
          _ |>.Perm (f.roots ++ f.next.flatten ++ seen) := f.flatten_perm.append_right seen
          _ |>.Perm (f.next.flatten ++ (f.roots ++ seen)) := by
            simpa using perm_append_comm.append_right seen
      have onward : unseen (f.roots ++ seen) (f.roots.flatMap step) = f.next.roots := by
        have filtered := leads.filter_steps
          (fun id member => any_eq_true.2 ⟨id, mem_append_right _ (old member), by simp⟩)
          (behind.not_seen f.next.roots_sublist)
        rw [unseen_eq_filter, filtered]
        rw [filtered]
        exact (pairwise_append.1 behind).1.sublist f.next.roots_sublist
      obtain ⟨levels, nodes⟩ := ih leads.next (subset_append_left _ _) behind
        (by rw [height_next]; omega)
      have rooted : f.roots ≠ [] := by simp [shape, roots]
      have tall : 0 < f.height := by
        rw [shape, height]
        omega
      have count := f.flatten_perm.length_eq
      rw [length_flatten, length_append, length_flatten] at count
      rw [layers_succ step fuel seen rooted, onward, length_cons, flatten_cons,
        length_append, levels, height_next]
      omega

end Forest

namespace Graph.Shows

variable {g : Graph} {top : Row} {below : Forest Row}

theorem childIds_eq_roots (shown : g.Shows top below) {row : Row} {inner : Forest Row}
    (agrees : g.children row.id = inner.roots) : g.childIds row.id = (inner.map Row.id).roots := by
  rw [Forest.roots_map, ← agrees, shown.childIds_eq, shown.children_eq, map_map]
  rfl

/-- Steps along the edges, and perhaps back along them, lead through what hangs below a row. -/
theorem leads_below (shown : g.Shows top below) {back : Json → List Json} {parent : Row}
    {f : Forest Row} (agrees : f.Agrees fun row => g.children row.id)
    (backwards : ∀ link ∈ f.links parent, back link.2.id ⊆ [link.1.id]) :
    (f.map Row.id).Leads (fun id => g.childIds id ++ back id) [parent.id] := by
  induction f generalizing parent with
  | nil => trivial
  | cons a inner rest ihInner ihRest =>
    obtain ⟨here, inInner, inRest⟩ := agrees
    simp only [Forest.links, forall_mem_cons, forall_mem_append] at backwards
    obtain ⟨first, backInner, backRest⟩ := backwards
    refine ⟨⟨back a.id, ?_, first⟩, ihInner inInner backInner, ihRest inRest backRest⟩
    exact congrArg (· ++ back a.id) (shown.childIds_eq_roots here)

theorem layersFrom_top (shown : g.Shows top below) (back : Json → List Json)
    (start : back top.id = [])
    (backwards : ∀ link ∈ below.links top, back link.2.id ⊆ [link.1.id]) :
    (g.layersFrom (fun id => g.childIds id ++ back id) top.id).length = below.height + 1 ∧
      (g.layersFrom (fun id => g.childIds id ++ back id) top.id).flatten.length =
        g.rows.length := by
  obtain ⟨here, agrees, -⟩ := shown.agrees_children
  have leads : ((Forest.cons top below .nil).map Row.id).Leads
      (fun id => g.childIds id ++ back id) [] := by
    refine ⟨⟨[], ?_, List.Subset.refl _⟩, shown.leads_below agrees backwards, trivial⟩
    exact congrArg₂ (· ++ ·) (shown.childIds_eq_roots here) start
  -- The ids are distinct, so no layer comes back to an earlier one.
  have apart : Apart (((Forest.cons top below .nil).map Row.id).flatten ++ []) := by
    simpa [Apart, Forest.flatten, pairwise_map, ← shown.rows] using shown.distinct
  have size : g.rows.length = below.size + 1 := by
    rw [shown.rows, length_cons, Forest.length_flatten]
  have enough : ((Forest.cons top below .nil).map Row.id).height ≤ g.rows.length + 1 := by
    have low := below.height_le_size
    simp only [Forest.height_map, Forest.height]
    omega
  obtain ⟨levels, nodes⟩ := leads.layers (List.Subset.refl _) apart enough
  rw [Forest.height_map] at levels
  rw [Forest.size_map] at nodes
  exact ⟨levels, nodes.trans size.symm⟩

theorem depth_eq (shown : g.Shows top below) : g.depth = below.height := by
  have levels := (shown.layersFrom_top (fun _ => []) rfl (by simp)).1
  simp only [append_nil] at levels
  rw [depth, shown.root]
  show (g.layersFrom (fun id => g.childIds id) top.id).length - 1 = below.height
  rw [levels, Nat.add_sub_cancel]

theorem isTree_eq (shown : g.Shows top below) : g.isTree = true := by
  have backwards : ∀ link ∈ below.links top, g.parentIds link.2.id ⊆ [link.1.id] :=
    fun link found => by
      rw [shown.parentIds_of_mem_links found]
      exact List.Subset.refl _
  have start : g.parentIds top.id = [] := by rw [shown.top_id, shown.parentIds_root]
  have connected : g.isConnected = true := by
    have nodes := (shown.layersFrom_top g.parentIds start backwards).2
    unfold isConnected
    rw [shown.rows] at nodes ⊢
    simpa using nodes
  have few : ∀ row ∈ g.rows, (g.parentIds row.id).length ≤ 1 := by
    intro row member
    rw [shown.rows, ← Forest.links_map_snd top] at member
    rcases mem_cons.1 member with rfl | below
    · simp [start]
    · obtain ⟨link, found, rfl⟩ := mem_map.1 below
      simp [shown.parentIds_of_mem_links found]
  simpa [isTree, connected, ← shown.length_links] using few

end Graph.Shows

/-! ### Heights and counts of views -/

namespace Tree

/-- How many steps it takes at most from a node to one below it, among nodes that the programmer
wrote. -/
def height (t : Tree) : Nat :=
  ((t.children.filter isVisible).attach.map fun child => child.1.height + 1).foldr max 0
termination_by t.walk.length
decreasing_by exact length_walk_lt (mem_filter.1 child.2).1

theorem height_le_iff (t : Tree) (n : Nat) :
    t.height ≤ n ↔ ∀ child ∈ t.children.filter isVisible, child.height + 1 ≤ n := by
  have greatest : t.height =
      ((t.children.filter isVisible).map fun child => child.height + 1).foldr max 0 := by
    rw [height]
    simp
  rw [greatest]
  constructor
  · intro low child member
    exact Nat.le_trans (le_max_of_le (mem_map_of_mem member) (Nat.le_refl _)) low
  · intro all
    exact max_le_of_forall_le _ _ (forall_mem_map.2 all)

/-- The slots of a node that hold something the programmer wrote, without alias slots. -/
def groups (t : Tree) : List Place :=
  (t.entries.filter fun (place, content) =>
    place.isTraversed && content.trees.any isVisible).map Prod.fst

end Tree

theorem height_viewAll_le_iff (trees : List Tree) (n : Nat) :
    (viewAll trees).height ≤ n ↔ ∀ t ∈ trees, t.view.height ≤ n := by
  induction trees with
  | nil => simp [viewAll, Forest.height]
  | cons t rest ih =>
    rw [forall_mem_cons, ← ih, ← Nat.max_le, ← Forest.height_append]
    rfl

theorem height_view_content_le_iff (accessor : String) (content : Content) (n : Nat) :
    (content.view accessor).height ≤ n ↔
      ∀ t ∈ content.trees.filter Tree.isVisible, t.view.height + 1 ≤ n := by
  rw [view_content_eq, holderOver]
  split
  next none => simp [none, Forest.height]
  next first rest some =>
    cases n with
    | zero =>
      rw [some, forall_mem_cons]
      simp [Forest.height]
    | succ n =>
      simp only [Forest.height, Nat.max_zero, Nat.add_le_add_iff_right]
      exact height_viewAll_le_iff _ n

theorem height_viewEntries_le_iff (entries : List (Place × Content)) (n : Nat) :
    (viewEntries entries).height ≤ n ↔ ∀ t ∈ (entries.flatMap fun (place, content) =>
      if place.isTraversed then content.trees else []).filter Tree.isVisible,
        t.view.height + 1 ≤ n := by
  induction entries with
  | nil => simp [viewEntries, Forest.height]
  | cons entry rest ih =>
    obtain ⟨place, content⟩ := entry
    rw [viewEntries, Forest.height_append, Nat.max_le, ih, flatMap_cons, filter_append,
      forall_mem_append]
    apply and_congr_left'
    by_cases traversed : place.isTraversed
    · simp only [traversed, if_true, height_view_content_le_iff]
    · simp [traversed, Forest.height]

/-- In the view of a tree, a level of holders stands between each two levels of elements. -/
theorem height_view (t : Tree) (typed : t.shape.isSome) : t.view.height = 2 * t.height + 1 := by
  induction t using Tree.written.induct with
  | case1 t ih =>
    have below : ∀ child ∈ t.children.filter Tree.isVisible,
        child.view.height = 2 * child.height + 1 := fun child member =>
      ih ⟨child, member⟩ (shape_of_isVisible (mem_filter.1 member).2)
    have heights := t.height_le_iff
    obtain ⟨head, shape, entries⟩ := t
    cases shape with
    | none => cases typed
    | some shape =>
      have views : ∀ n, (viewEntries entries).height ≤ n ↔ ∀ child ∈
          (Tree.node head (some shape) entries).children.filter Tree.isVisible,
            child.view.height + 1 ≤ n := height_viewEntries_le_iff entries
      generalize (Tree.node head (some shape) entries).children.filter Tree.isVisible = seen
        at below heights views
      generalize (Tree.node head (some shape) entries).height = tall at heights
      -- Both bounds go through the children: the height is known by what bounds it.
      have upper : (viewEntries entries).height ≤ 2 * tall := by
        rw [views]
        intro child member
        have := below child member
        have := (heights tall).1 (Nat.le_refl _) child member
        omega
      have lower : tall ≤ (viewEntries entries).height / 2 := by
        rw [heights]
        intro child member
        have := below child member
        have := (views _).1 (Nat.le_refl _) child member
        omega
      rw [Tree.view, Forest.height, Forest.height]
      omega

namespace Forest

def holders (f : Forest Item) : Nat := (f.flatten.map Item.type).count .holder

@[simp]
theorem holders_append (f g : Forest Item) : (f.append g).holders = f.holders + g.holders := by
  simp [holders]

end Forest

theorem holders_viewAll (trees : List Tree) :
    (viewAll trees).holders = (trees.map (·.view.holders)).sum := by
  induction trees with
  | nil => rfl
  | cons t rest ih => simpa [viewAll] using ih

theorem holders_view_content (accessor : String) (content : Content) :
    (content.view accessor).holders = (if content.trees.any Tree.isVisible then 1 else 0) +
      ((content.trees.filter Tree.isVisible).map (·.view.holders)).sum := by
  rw [view_content_eq, ← holders_viewAll, holderOver]
  split
  next none =>
    have hidden : content.trees.any Tree.isVisible = false := by simpa using none
    simp [hidden, none, viewAll, Forest.holders, Forest.flatten]
  next first rest some =>
    have seen : content.trees.any Tree.isVisible = true := by
      have member : first ∈ content.trees.filter Tree.isVisible := some ▸ mem_cons_self
      exact any_eq_true.2 ⟨first, mem_filter.1 member⟩
    simp [seen, Forest.holders, Forest.flatten, Item.type, Nat.add_comm]

theorem holders_viewEntries (entries : List (Place × Content)) :
    (viewEntries entries).holders = (entries.filter fun (place, content) =>
      place.isTraversed && content.trees.any Tree.isVisible).length +
        (((entries.flatMap fun (place, content) =>
          if place.isTraversed then content.trees else []).filter Tree.isVisible).map
            (·.view.holders)).sum := by
  induction entries with
  | nil => rfl
  | cons entry rest ih =>
    obtain ⟨place, content⟩ := entry
    rw [viewEntries, Forest.holders_append, ih, flatMap_cons, filter_append, map_append]
    by_cases traversed : place.isTraversed
    · by_cases seen : content.trees.any Tree.isVisible <;>
        simp [traversed, seen, holders_view_content] <;> omega
    · simp [traversed, Forest.holders, Forest.flatten]

/-- A view has a holder for each slot of a written node that holds something written. -/
theorem holders_view (t : Tree) (typed : t.shape.isSome) :
    t.view.holders = (t.written.flatMap Tree.groups).length := by
  induction t using Tree.written.induct with
  | case1 t ih =>
    have below : ∀ child ∈ t.children.filter Tree.isVisible,
        child.view.holders = (child.written.flatMap Tree.groups).length := fun child member =>
      ih ⟨child, member⟩ (shape_of_isVisible (mem_filter.1 member).2)
    rw [Tree.written_eq, flatMap_cons, length_append, flatMap_assoc,
      length_flatMap, ← map_congr_left below, Tree.groups, length_map]
    obtain ⟨head, shape, entries⟩ := t
    cases shape with
    | none => cases typed
    | some shape =>
      have inside : (Tree.node head (some shape) entries).view.holders =
          (viewEntries entries).holders := by
        simp [Tree.view, Forest.holders, Forest.flatten, Item.type]
      rw [inside]
      exact holders_viewEntries entries

/-! ### Statistics -/

namespace Graph

theorem types_withRoot_grow (empty : Graph) (item : Item) (drawn : Forest Item) :
    ((empty.withRoot item).grow 0 (item, 0) (drawn.number 1)).rows.map (·.type) =
      (Forest.cons item drawn .nil).flatten.map Item.type := by
  rw [rows_withRoot_grow, map_map,
    ← zipIdx_map_fst 0 (Forest.cons item drawn .nil).flatten, map_map]
  simp [Function.comp_def]

theorem isKey_withRoot_grow (empty : Graph) (item : Item) (drawn : Forest Item) :
    ((empty.withRoot item).grow 0 (item, 0) (drawn.number 1)).rows.all (·.contents.isKey) := by
  rw [rows_withRoot_grow, all_eq_true]
  intro row member
  obtain ⟨⟨item, number⟩, -, rfl⟩ := mem_map.1 member
  cases item <;> rfl

theorem count_element (f : Forest Item) :
    (f.flatten.map Item.type).count .element = f.trees.length := by
  rw [Forest.trees]
  induction f.flatten with
  | nil => rfl
  | cons item rest ih => cases item <;> simp [filterMap_cons, Item.type, Item.tree?, ih]

/-- Scanning a tree with schemas throughout into an empty graph succeeds, and the graph can be
counted: it is a tree with one edge less than it has nodes, twice as deep as the tree of the nodes
that the programmer wrote, with an element for each of these and a holder for each of their slots
that holds some of them; every row is counted once by its type and once by its contents. -/
theorem scan_statistics (file : Json) (source : Option String) (lines : Bool) (t : Tree)
    (typed : ∀ u ∈ t.walk, u.shape.isSome) :
    let scanned := (ofSource file source lines).scan t
    scanned.2 = .ok () ∧ ∃ s, scanned.1.countedStatistics = .ok s ∧ s.isTree = true ∧
      s.edgeCount + 1 = s.nodeCount ∧ s.depth = 2 * t.height ∧
      (s.types.lookup .element).getD 0 = t.written.length ∧
      (s.types.lookup .holder).getD 0 = (t.written.flatMap Tree.groups).length ∧
      (s.types.map Prod.snd).sum = s.nodeCount ∧ (s.contents.map Prod.snd).sum = s.nodeCount := by
  intro scanned
  have ended : scanned.2 = .ok () := scan_ok rfl typed
  have rooted := typed t t.mem_walk_self
  have tall := height_view t rooted
  have elements := trees_view t rooted
  have holders := holders_view t rooted
  -- The root is split off, as it is drawn apart from the forest of its view.
  obtain ⟨head, shape, entries⟩ := t
  cases shape with
  | none => cases rooted
  | some shape =>
    obtain ⟨drawn, alternates, graph, view⟩ := scan_grows file source lines head shape entries
    have shown : scanned.1.Shows _ _ := graph ▸ shows_grow rfl _ drawn
    rw [← view (succeeds_tree _ typed none 0)] at tall elements holders
    have types := types_withRoot_grow (ofSource file source lines)
      (.element shape.kind (.node head (some shape) entries)) drawn
    rw [← graph] at types
    refine ⟨ended, scanned.1.statistics, if_pos ?_, shown.isTree_eq, shown.length_links, ?_, ?_, ?_,
      ?_, ?_⟩
    · rw [show scanned.1 = _ from graph]
      exact isKey_withRoot_grow ..
    · show scanned.1.depth = _
      rw [shown.depth_eq, rowsOf, Forest.height_map, Forest.height_number]
      simp only [Forest.height] at tall
      omega
    · rw [statistics, lookup_tallies, types, count_element, elements]
    · rw [statistics, lookup_tallies, types, ← holders, Forest.holders]
    · rw [statistics, sum_tallies, length_map]
    · rw [statistics, sum_tallies, length_map]

/-- A block with the class of which a constructor is left out, and with the sum. -/
def sampleBlock : Tree :=
  .node ⟨6, 0, 24, [], false, false⟩ (some ⟨"BLOCK", false⟩)
    [(.slot ⟨"getStatements", .list, none⟩, .list [.tree sampleClass, .tree sampleSum])]

theorem scan_sampleBlock_statistics :
    (∀ u ∈ sampleBlock.walk, u.shape.isSome) ∧
      ∃ s, ((ofSource .null none false).scan sampleBlock).1.countedStatistics = .ok s ∧
        s.isTree = true ∧ s.edgeCount + 1 = s.nodeCount ∧ s.depth = 6 ∧
        (s.types.lookup .element).getD 0 = 10 ∧ (s.types.lookup .holder).getD 0 = 6 ∧
        (s.types.map Prod.snd).sum = s.nodeCount ∧ (s.contents.map Prod.snd).sum = s.nodeCount := by
  have typed : ∀ u ∈ sampleBlock.walk, u.shape.isSome := by decide
  have tall : sampleBlock.height = 3 := by
    have levels : sampleBlock.view.height = 7 := by rfl
    have twice := height_view sampleBlock rfl
    omega
  have elements : sampleBlock.written.length = 10 := by
    rw [← trees_view sampleBlock rfl]
    rfl
  have holders : (sampleBlock.written.flatMap Tree.groups).length = 6 := by
    rw [← holders_view sampleBlock rfl]
    rfl
  obtain ⟨-, counted⟩ := scan_statistics .null none false sampleBlock typed
  rw [tall, elements, holders] at counted
  exact ⟨typed, counted⟩

end Graph

end SyntaxGraph
