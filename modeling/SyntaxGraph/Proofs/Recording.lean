import SyntaxGraph.Proofs.Traversal

/-!
# What a scan tells whom it fills

A scan numbers its rows and tells of them one after the other: each row, then what attaches it. A
graph keeps its edges by the rows from which they lead, so it forgets the order in which it was told
of them.

Main statement: what a scan tells determines the graph. Rows are told in the order of their ids, the
first one is the root, each other one is attached right behind its creation and nowhere else, and
the edges of the graph are those that were told, sorted by their parents without changing the order
at one parent.
-/
namespace SyntaxGraph

open List

namespace Emission

/-- The row that is asked for, if one is. -/
def item? : Emission → Option Item
  | .element kind t => some (.element kind t)
  | .holder accessor start stop => some (.holder accessor start stop)
  | .edge _ _ | .root _ => none

/-- The edge that is told, if one is. -/
def edge? : Emission → Option (Nat × Nat)
  | .edge parent child => some (parent, child)
  | .element _ _ | .holder _ _ _ | .root _ => none

end Emission

/-! ### Emissions of a forest -/

/-- A row, and the edge from its parent right behind it. -/
def attached (link : (Item × Nat) × Item × Nat) : List Emission :=
  [link.2.1.emission, .edge link.1.2 link.2.2]

namespace Forest

theorem emissions_eq (parent : Item × Nat) (f : Forest (Item × Nat)) :
    f.emissions (some parent.2) = (f.links parent).flatMap attached := by
  induction f generalizing parent with
  | nil => rfl
  | cons a below rest ihBelow ihRest =>
    rw [links, flatMap_cons, flatMap_append, ← ihBelow a, ← ihRest parent]
    rfl

end Forest

theorem items_attached (links : List ((Item × Nat) × Item × Nat)) :
    (links.flatMap attached).filterMap Emission.item? = links.map (·.2.1) := by
  induction links with
  | nil => rfl
  | cons link rest ih =>
    obtain ⟨parent, item, n⟩ := link
    cases item <;> simp [attached, filterMap_cons, Item.emission, Emission.item?, ih]

theorem edges_attached (links : List ((Item × Nat) × Item × Nat)) :
    (links.flatMap attached).filterMap Emission.edge? =
      links.map fun link => (link.1.2, link.2.2) := by
  induction links with
  | nil => rfl
  | cons link rest ih =>
    obtain ⟨parent, item, n⟩ := link
    cases item <;> simp [attached, filterMap_cons, Item.emission, Emission.edge?, ih]

/-! ### Sorting by groups -/

section Grouping

variable {α : Type} (key : α → Nat)

/-- Sorting by a key orders items by it, and keeps the order of items with one key. -/
theorem mergeSort_stable (items : List α) :
    (items.mergeSort (key · ≤ key ·)).Pairwise (key · ≤ key ·) ∧
      ∀ n, (items.mergeSort (key · ≤ key ·)).filter (key · = n) = items.filter (key · = n) := by
  have trans (a b c : α) (first : decide (key a ≤ key b)) (second : decide (key b ≤ key c)) :
      decide (key a ≤ key c) := by
    simp only [decide_eq_true_eq] at first second ⊢
    omega
  have total (a b : α) : (decide (key a ≤ key b) || decide (key b ≤ key a)) = true := by
    simp only [Bool.or_eq_true, decide_eq_true_eq]
    omega
  refine ⟨(pairwise_mergeSort trans total items).imp of_decide_eq_true, fun n => ?_⟩
  have level : (items.filter (key · = n)).Pairwise fun a b => decide (key a ≤ key b) := by
    refine pairwise_of_forall_mem_list fun a first b second => ?_
    simp only [mem_filter, decide_eq_true_eq] at first second ⊢
    omega
  have kept := (sublist_mergeSort trans total level filter_sublist).filter (key · = n)
  rw [filter_filter] at kept
  simp only [Bool.and_self] at kept
  exact (kept.eq_of_length ((mergeSort_perm items _).filter _).length_eq.symm).symm

/-- Items that are sorted stand group by group. -/
theorem flatMap_filter_of_sorted {items : List α} (sorted : items.Pairwise (key · ≤ key ·))
    {bound : Nat} (below : ∀ a ∈ items, key a < bound) :
    (List.range bound).flatMap (fun n => items.filter (key · = n)) = items := by
  induction bound generalizing items with
  | zero =>
    cases items with
    | nil => rfl
    | cons a rest => exact absurd (below a mem_cons_self) (Nat.not_lt_zero _)
  | succ bound ih =>
    -- The items of the last group stand behind all others.
    have parts : items.filter (key · < bound) ++ items.filter (key · = bound) = items := by
      clear ih
      induction items with
      | nil => rfl
      | cons a rest ih =>
        obtain ⟨least, sorted⟩ := pairwise_cons.1 sorted
        obtain ⟨here, below⟩ := forall_mem_cons.1 below
        have later := ih sorted below
        by_cases small : key a < bound
        · have other : key a ≠ bound := by omega
          simpa [small, other] using later
        · have last : key a = bound := by omega
          have none : rest.filter (key · < bound) = [] := by
            rw [filter_eq_nil_iff]
            intro b member
            have := least b member
            simpa using by omega
          simpa [last, none] using later
    have groups : (List.range bound).flatMap (fun n => items.filter (key · = n)) =
        items.filter (key · < bound) := by
      rw [← ih (sorted.filter (key · < bound)) fun a member => by
        simpa using (mem_filter.1 member).2]
      refine flatMap_congr fun n small => ?_
      rw [filter_filter]
      refine filter_congr fun a _ => ?_
      have := mem_range.1 small
      by_cases same : key a = n <;> simp [same, this]
    rw [range_succ, flatMap_append, groups, flatMap_singleton, parts]

/-- To collect items group by group is to sort them. -/
theorem flatMap_filter_eq_mergeSort {items : List α} {bound : Nat}
    (below : ∀ a ∈ items, key a < bound) :
    (List.range bound).flatMap (fun n => items.filter (key · = n)) =
      items.mergeSort (key · ≤ key ·) := by
  obtain ⟨sorted, same⟩ := mergeSort_stable key items
  rw [← flatMap_filter_of_sorted key sorted fun a member => below a (mem_mergeSort.1 member)]
  exact flatMap_congr fun n _ => (same n).symm

end Grouping

namespace Graph

/-- The graph is the one that was told. -/
structure IsTold (calls : List Emission) (g : Graph) : Prop where
  /-- The rows that are asked for are those of the graph, which are numbered from zero. -/
  faces : g.rows.map Row.face = (calls.filterMap Emission.item?).map Item.face
  ids : g.rows.map (·.id) = (List.range g.rows.length).map fun n : Nat => .int n
  /-- The first row is an element, and made the root right away; there is no other root. -/
  root : ∃ kind t rest, calls = .element kind t :: .root 0 :: rest ∧ ∀ n, .root n ∉ rest
  rooted : g.root = some (.int 0)
  /-- Each other row is attached right behind its creation, and nowhere else. -/
  attached : ∀ n, 0 < n → n < g.rows.length → ∃ before item parent after,
    calls = before ++ Item.emission item :: .edge parent n :: after ∧
      (before.filterMap Emission.item?).length = n ∧ ∀ other, .edge other n ∉ before ++ after
  /-- Edges are sorted by their parents, and keep their order otherwise. -/
  edges : g.edges = ((calls.filterMap Emission.edge?).mergeSort (·.1 ≤ ·.1)).map fun edge =>
    (.int edge.1, .int edge.2)

/-- The edges of a graph whose rows are numbered are its links, sorted by their near ends. -/
theorem edges_of_numbered {g : Graph} {links : List (Nat × Nat)}
    (keys : ∀ row ∈ g.rows, row.key = row.id)
    (ids : g.rows.map (·.id) = (List.range g.rows.length).map fun n : Nat => .int n)
    (linked : g.links = links.map fun link => (.int link.1, .int link.2))
    (below : ∀ link ∈ links, link.1 < g.rows.length) :
    g.edges = (links.mergeSort (·.1 ≤ ·.1)).map fun link => (.int link.1, .int link.2) := by
  -- Among the children of a number are the far ends of its links, in their order.
  have children (n : Nat) : (g.childIds (.int n)).map (fun child => (Json.int n, child)) =
      (links.filter (·.1 = n)).map fun link => (.int link.1, .int link.2) := by
    rw [childIds, linked, filter_map, map_map, map_map]
    have same : links.filter ((·.1.same (.int n)) ∘ fun link : Nat × Nat =>
        (Json.int link.1, Json.int link.2)) = links.filter (·.1 = n) :=
      filter_congr fun link _ => by
        simp only [Function.comp_apply, Json.same, Json.normal, Json.int.injEq, decide_eq_decide]
        omega
    rw [same]
    refine map_congr_left fun link member => ?_
    have start : link.1 = n := by simpa using (mem_filter.1 member).2
    simp [start]
  calc g.edges
    _ = (g.rows.map (·.id)).flatMap fun id => (g.childIds id).map fun child => (id, child) := by
      rw [flatMap_map]
      exact flatMap_congr fun row member => by rw [keys row member]
    _ = (List.range g.rows.length).flatMap fun n =>
        (links.filter (·.1 = n)).map fun link => (.int link.1, .int link.2) := by
      rw [ids, flatMap_map]
      exact flatMap_congr fun n _ => children n
    _ = _ := by
      rw [← map_flatMap, flatMap_filter_eq_mergeSort Prod.fst below]

/-- Where links lead to numbers in order, one of them leads to each number. -/
theorem exists_link_to {links : List ((Item × Nat) × Item × Nat)} {size : Nat}
    (numbers : links.map (·.2.2) = List.range' 1 size) {n : Nat} (positive : 0 < n)
    (small : n < size + 1) :
    ∃ before link after, links = before ++ link :: after ∧ link.2.2 = n ∧ before.length + 1 = n ∧
      ∀ other ∈ before ++ after, other.2.2 ≠ n := by
  have length : links.length = size := by simpa using congrArg List.length numbers
  have inside : n - 1 < links.length := by omega
  have split : links = links.take (n - 1) ++ links[n - 1] :: links.drop n := by
    rw [show links.drop n = links.drop (n - 1 + 1) by congr 1; omega, getElem_cons_drop,
      take_append_drop]
  have here : links[n - 1].2.2 = n := by
    have number : (links.map (·.2.2))[n - 1]? = (List.range' 1 size)[n - 1]? := by rw [numbers]
    rw [getElem?_map, getElem?_eq_getElem inside, getElem?_range' (by omega)] at number
    simp only [Option.map_some, Option.some.injEq] at number
    omega
  refine ⟨_, _, _, split, here, by rw [length_take]; omega, fun other member same => ?_⟩
  -- No number comes twice.
  have distinct : (links.map (·.2.2)).Nodup := numbers ▸ nodup_range'
  rw [split, map_append, map_cons, nodup_middle, ← map_append] at distinct
  exact (nodup_cons.1 distinct).1 (mem_map.2 ⟨other, member, same.trans here.symm⟩)

/-- A graph that shows a numbered tree of items is told by attaching them. -/
theorem Shows.isTold {g : Graph} {lineOf : Int → Int} {kind : String} {t : Tree}
    {drawn : Forest Item} (shown : g.Shows ((Item.element kind t).row lineOf 0)
      (rowsOf lineOf (drawn.number 1))) :
    g.IsTold (.element kind t :: .root 0 ::
      ((drawn.number 1).links (.element kind t, 0)).flatMap SyntaxGraph.attached) := by
  -- All that is used of the links is here: where they end, where they start and their rows.
  have ends := Forest.links_map_snd (Item.element kind t, 0) (drawn.number 1)
  have linked := Forest.links_map (fun numbered : Item × Nat => numbered.1.row lineOf numbered.2)
    (.element kind t, 0) (drawn.number 1)
  have starts := fun link =>
    @Forest.fst_mem_of_mem_links _ (Item.element kind t, 0) (drawn.number 1) link
  generalize (drawn.number 1).links (.element kind t, 0) = links at *
  rw [Forest.flatten_number] at ends
  have numbers : links.map (·.2.2) = List.range' 1 drawn.size := by
    have second := congrArg (List.map Prod.snd) ends
    rwa [map_map, zipIdx_map_snd, Forest.length_flatten] at second
  have rows : g.rows = (Item.element kind t).row lineOf 0 ::
      links.map fun link => link.2.1.row lineOf link.2.2 := by
    rw [shown.rows, rowsOf, Forest.flatten_map, Forest.flatten_number, ← ends, map_map]
    rfl
  have count : g.rows.length = drawn.size + 1 := by
    have length := congrArg List.length numbers
    simpa [rows] using length
  refine ⟨?_, shown.ids, ⟨kind, t, _, rfl, ?_⟩, shown.root, ?_, ?_⟩
  -- The faces of the rows are those of the items that are told.
  · rw [rows, filterMap_cons, filterMap_cons]
    simp [Emission.item?, items_attached, Item.face_row]
  -- No link sets the root again.
  · intro n member
    obtain ⟨⟨parent, item, number⟩, -, here⟩ := mem_flatMap.1 member
    cases item <;> simp [SyntaxGraph.attached, Item.emission] at here
  -- The edge to a row is told right behind the row, and no other link leads to it.
  · intro n positive small
    obtain ⟨before, link, after, rfl, rfl, place, others⟩ :=
      exists_link_to numbers positive (count ▸ small)
    refine ⟨.element kind t :: .root 0 :: before.flatMap SyntaxGraph.attached, link.2.1, link.1.2,
      after.flatMap SyntaxGraph.attached, ?_, ?_, ?_⟩
    · simp [SyntaxGraph.attached]
    · rw [filterMap_cons, filterMap_cons]
      simpa [Emission.item?, items_attached] using place
    · intro other member
      have told : (other, link.2.2) ∈ ((before ++ after).flatMap SyntaxGraph.attached).filterMap
          Emission.edge? := by
        refine mem_filterMap.2 ⟨.edge other link.2.2, ?_, rfl⟩
        simpa using member
      rw [edges_attached] at told
      obtain ⟨another, found, same⟩ := mem_map.1 told
      exact others another found (Prod.mk.inj same).2
  -- The edges are those of the links, grouped by their source.
  · rw [filterMap_cons, filterMap_cons]
    simp only [Emission.edge?, edges_attached]
    refine edges_of_numbered ?_ shown.ids ?_ ?_
    · rw [rows]
      refine forall_mem_cons.2 ⟨rfl, forall_mem_map.2 fun link _ => ?_⟩
      cases link.2.1 <;> rfl
    · rw [shown.links]
      exact (congrArg _ linked).trans (by simp)
    · refine forall_mem_map.2 fun link member => ?_
      rcases mem_cons.1 (starts link member) with top | inner
      · simp [top, count]
      · have := (Forest.number_bounds inner).2
        omega

/-- A scan of a tree with schemas throughout ends well, and an empty graph becomes what it is told,
whoever else is told the same. -/
theorem scan_isTold (file : Json) (source : Option String) (lines : Bool) (t : Tree)
    (typed : ∀ u ∈ t.walk, u.shape.isSome) :
    let scanned := (ofSource file source lines).scan t
    scanned.2 = .ok () ∧ scanned.1.IsTold t.scan.trace := by
  intro scanned
  refine ⟨scan_ok rfl typed, ?_⟩
  have succeeds := succeeds_tree t typed none 0
  obtain ⟨whole, -, emitted, ended⟩ := draws_tree t none 0
  obtain ⟨after, ok⟩ := succeeds
  obtain ⟨rfl, -⟩ := ended after ok
  obtain ⟨head, shape, entries⟩ := t
  cases shape with
  | none => simpa [Tree.walk, Tree.shape] using typed (.node head none entries)
  | some shape =>
    obtain ⟨drawn, -, graph, view⟩ := scan_grows file source lines head shape entries
    have shown : scanned.1.Shows _ _ := graph ▸ shows_grow rfl _ drawn
    rw [← view ⟨after, ok⟩] at emitted
    simp only [Forest.number, Forest.emissions, append_nil, Nat.zero_add] at emitted
    rw [Forest.emissions_eq (.element shape.kind (.node head (some shape) entries), 0)] at emitted
    rw [Tree.scan, emitted]
    exact shown.isTold

/-- The call is told of before the names below it, but its edges come behind those of the sum. -/
theorem scan_sampleSum_isTold :
    (∀ u ∈ sampleSum.walk, u.shape.isSome) ∧
      let g := ((ofSource .null none false).scan sampleSum).1
      g.IsTold sampleSum.scan.trace ∧
        sampleSum.scan.trace.filterMap Emission.edge? =
          [(0, 1), (1, 2), (2, 3), (3, 4), (2, 5), (5, 6), (5, 7), (0, 8), (8, 9)] ∧
        g.edges.map Prod.fst = [0, 0, 1, 2, 2, 3, 5, 5, 8].map Json.int := by
  have typed : ∀ u ∈ sampleSum.walk, u.shape.isSome := by decide
  have told := (scan_isTold .null none false sampleSum typed).2
  refine ⟨typed, told, by decide +kernel, by decide +kernel⟩

end Graph

end SyntaxGraph
