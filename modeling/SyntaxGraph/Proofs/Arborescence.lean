import SyntaxGraph.Proofs.Layout

/-!
# Scanned graphs are arborescences

Whatever tree is scanned into an empty graph, and wherever the scan stops, the graph is empty or a
tree of rows that grew from its root.
-/
namespace SyntaxGraph

open List

namespace Graph

/-- The graph is a tree: ids count the rows, the root comes first, and every other row has one
parent, which is older. Elements and holders take turns along the edges, and no holder is a leaf. -/
structure IsArborescence (g : Graph) : Prop where
  nonempty : g.rows ≠ []
  ids : g.rows.map (·.id) = (List.range g.rows.length).map fun n : Nat => .int n
  root : g.root = some (.int 0)
  rootIsFree : g.parentIds (.int 0) = []
  parent : ∀ n : Nat, 0 < n → n < g.rows.length → ∃ p : Nat, p < n ∧ g.parentIds (.int n) = [.int p]
  edgeCount : g.links.length + 1 = g.rows.length
  filled : ∀ row ∈ g.rows, row.type = .holder → g.children row.id ≠ []
  alternating : ∀ link ∈ g.links, ∃ source target, g.row? link.1 = some source ∧
    g.row? link.2 = some target ∧
    (source.type = .element ∧ target.type = .holder ∨
      source.type = .holder ∧ target.type = .element)

theorem find?_of_distinct {rows : List Row}
    (distinct : rows.Pairwise fun a b => a.id.same b.id = false) {row : Row} (member : row ∈ rows) :
    rows.find? (·.id.same row.id) = some row := by
  induction rows with
  | nil => simp at member
  | cons first rest ih =>
    obtain ⟨apart, distinctRest⟩ := pairwise_cons.1 distinct
    rcases mem_cons.1 member with rfl | later
    · simp
    · simp [apart row later, ih distinctRest later]

/-- A filter that fits one item and never two gives that item. -/
theorem filter_eq_singleton {α : Type} {p : α → Bool} {items : List α} {a : α} (member : a ∈ items)
    (fits : p a = true) (unique : items.Pairwise fun x y => ¬(p x = true ∧ p y = true)) :
    items.filter p = [a] := by
  induction items with
  | nil => simp at member
  | cons first rest ih =>
    obtain ⟨apart, uniqueRest⟩ := pairwise_cons.1 unique
    rcases mem_cons.1 member with rfl | later
    · have none_fits : rest.filter p = [] := by
        rw [filter_eq_nil_iff]
        exact fun x found also => apart x found ⟨fits, also⟩
      rw [filter_cons_of_pos fits, none_fits]
    · have unfit : ¬p first = true := fun also => apart a later ⟨also, fits⟩
      rw [filter_cons_of_neg unfit, ih later uniqueRest]

namespace Shows

variable {g : Graph} {top : Row} {below : Forest Row}

variable (shown : g.Shows top below)

include shown

theorem sorted : g.rows.Pairwise fun a b => ∃ i j : Nat, a.id = .int i ∧ b.id = .int j ∧ i < j := by
  have ordered : (g.rows.map (·.id)).Pairwise fun a b =>
      ∃ i j : Nat, a = .int i ∧ b = .int j ∧ i < j := by
    rw [shown.ids, pairwise_map]
    exact pairwise_lt_range.imp fun less => ⟨_, _, rfl, rfl, less⟩
  exact pairwise_map.1 ordered

theorem distinct : g.rows.Pairwise fun a b => a.id.same b.id = false := by
  refine shown.sorted.imp ?_
  rintro a b ⟨i, j, ida, idb, less⟩
  simp only [ida, idb, Json.same_int, decide_eq_false_iff_not]
  omega

theorem row?_of_mem {row : Row} (member : row ∈ g.rows) : g.row? row.id = some row :=
  find?_of_distinct shown.distinct member

theorem exists_row {n : Nat} (small : n < g.rows.length) : ∃ row ∈ g.rows, row.id = .int n := by
  have member : Json.int n ∈ g.rows.map (·.id) := by
    rw [shown.ids]
    exact mem_map.2 ⟨n, mem_range.2 small, rfl⟩
  exact mem_map.1 member

theorem top_id : top.id = .int 0 := by
  have first : (g.rows.map (·.id)).head? = some top.id := by simp [shown.rows]
  rw [shown.ids, shown.rows, length_cons, range_succ_eq_map] at first
  simpa using first.symm

theorem targets_distinct : (below.links top).Pairwise fun a b => a.2.id.same b.2.id = false := by
  have distinct := shown.distinct
  rw [shown.rows] at distinct
  have inner := (pairwise_cons.1 distinct).2
  rw [← Forest.links_map_snd top below] at inner
  exact pairwise_map.1 inner

theorem parentIds_eq (id : Json) :
    g.parentIds id = ((below.links top).filter (·.2.id.same id)).map (·.1.id) := by
  rw [parentIds, shown.links, filter_map, map_map]
  rfl

theorem parentIds_root : g.parentIds (.int 0) = [] := by
  rw [shown.parentIds_eq, ← shown.top_id]
  have none_ends : (below.links top).filter (·.2.id.same top.id) = [] := by
    rw [filter_eq_nil_iff]
    intro link member
    have distinct := shown.distinct
    rw [shown.rows] at distinct
    have apart := (pairwise_cons.1 distinct).1 _ (Forest.snd_mem_of_mem_links member)
    rw [Json.same_comm, apart]
    exact Bool.false_ne_true
  rw [none_ends, map_nil]

/-- No other edge ends where an edge does, as edges end at different rows. -/
theorem parentIds_of_mem_links {link : Row × Row}
    (found : link ∈ below.links top) : g.parentIds link.2.id = [link.1.id] := by
  have only : (below.links top).filter (·.2.id.same link.2.id) = [link] := by
    refine filter_eq_singleton found (by simp) (shown.targets_distinct.imp ?_)
    rintro a b apart ⟨fitsA, fitsB⟩
    have both : a.2.id.same b.2.id = true := Json.same_trans fitsA (by rwa [Json.same_comm])
    rw [apart] at both
    cases both
  rw [shown.parentIds_eq, only, map_singleton]

/-- Every other row is at the far end of one edge, which comes from an older row. -/
theorem parentIds_other {n : Nat} (positive : 0 < n)
    (small : n < g.rows.length) : ∃ p : Nat, p < n ∧ g.parentIds (.int n) = [.int p] := by
  obtain ⟨row, member, id⟩ := shown.exists_row small
  have inner : row ∈ below.flatten := by
    rw [shown.rows] at member
    rcases mem_cons.1 member with rfl | inner
    · rw [shown.top_id] at id
      have zero : (0 : Int) = n := Json.int.inj id
      omega
    · exact inner
  rw [← Forest.links_map_snd top below] at inner
  obtain ⟨link, found, rfl⟩ := mem_map.1 inner
  -- The near end of the edge is an older row.
  have sorted := shown.sorted
  rw [shown.rows] at sorted
  obtain ⟨p, m, idSource, idTarget, less⟩ := Forest.rel_of_mem_links sorted found
  have equal : m = n := by
    have same : (m : Int) = n := Json.int.inj (idTarget.symm.trans id)
    omega
  subst equal
  refine ⟨p, less, ?_⟩
  rw [← idTarget, shown.parentIds_of_mem_links found, idSource]

theorem mem_links_iff {link : Json × Json} :
    link ∈ g.links ↔ ∃ l ∈ below.links top, (l.1.id, l.2.id) = link := by
  rw [shown.links, mem_map]

/-- Both ends of an edge are rows of the graph. -/
theorem ends_mem {link : Row × Row} (member : link ∈ below.links top) :
    link.1 ∈ g.rows ∧ link.2 ∈ g.rows := by
  rw [shown.rows]
  exact ⟨Forest.fst_mem_of_mem_links member, mem_cons_of_mem _ (Forest.snd_mem_of_mem_links member)⟩

theorem length_links : g.links.length + 1 = g.rows.length := by
  have count := congrArg List.length (Forest.links_map_snd top below)
  rw [length_map] at count
  rw [shown.links, shown.rows, length_map, length_cons, count]

/-- A tree of rows in which elements and holders take turns is an arborescence. -/
theorem isArborescence (isElement : top.type = .element)
    (alternates : below.Alternates Row.type .holder) : g.IsArborescence where
  nonempty := by simp [shown.rows]
  ids := shown.ids
  root := by rw [shown.root, shown.top_id]
  rootIsFree := shown.parentIds_root
  parent _ positive small := shown.parentIds_other positive small
  edgeCount := shown.length_links
  filled := by
    intro row member isHolder
    -- The root is an element, so a holder hangs below it.
    have inner : row ∈ below.flatten := by
      rw [shown.rows] at member
      rcases mem_cons.1 member with rfl | inner
      · rw [isElement] at isHolder
        cases isHolder
      · exact inner
    obtain ⟨child, found⟩ := alternates.filled inner isHolder top
    have isChild : child ∈ g.children row.id := by
      refine mem_filterMap.2 ⟨child.id, ?_, shown.row?_of_mem (shown.ends_mem found).2⟩
      refine mem_map.2 ⟨(row.id, child.id), mem_filter.2 ⟨?_, by simp⟩, rfl⟩
      exact shown.mem_links_iff.2 ⟨_, found, rfl⟩
    exact ne_nil_of_mem isChild
  alternating := by
    intro link member
    obtain ⟨⟨source, target⟩, found, rfl⟩ := shown.mem_links_iff.1 member
    obtain ⟨sourceMember, targetMember⟩ := shown.ends_mem found
    refine ⟨source, target, shown.row?_of_mem sourceMember, shown.row?_of_mem targetMember, ?_⟩
    have different : source.type = target.type.other := alternates.link isElement found
    cases type : target.type with
    | element => exact .inr ⟨by rw [different, type]; rfl, rfl⟩
    | holder => exact .inl ⟨by rw [different, type]; rfl, rfl⟩

end Shows

/-- A scan of any tree into an empty graph leaves it empty if the tree has no schema, and makes it
an arborescence otherwise, even if the scan fails further down. -/
theorem scan_arborescence (file : Json) (source : Option String) (lines : Bool) (t : Tree) :
    let empty := ofSource file source lines
    (t.shape = none ∧ (empty.scan t).1 = empty) ∨
      (t.shape ≠ none ∧ (empty.scan t).1.IsArborescence) := by
  intro empty
  obtain ⟨head, shape, entries⟩ := t
  cases shape with
  | none => exact .inl ⟨rfl, rfl⟩
  | some shape =>
    refine .inr ⟨by simp [Tree.shape], ?_⟩
    obtain ⟨drawn, alternates, graph, -⟩ := scan_grows file source lines head shape entries
    rw [graph]
    refine (shows_grow rfl _ drawn).isArborescence rfl ?_
    exact (alternates.number 1).map fun numbered : Item × Nat => Item.row_type _ _ numbered.1

end Graph

end SyntaxGraph
