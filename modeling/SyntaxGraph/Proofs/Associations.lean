import SyntaxGraph.Proofs.Recording
import SyntaxGraph.Proofs.Reloading

/-!
# Tree nodes and the rows that were made for them

A graph remembers under which id it made a row for which tree node, and looks this up both ways. The
same tree node may be given again and again, by operations and by scans that fail halfway.

Main statement: a tree node leads to the latest row that was made for it, and that row leads back to
the tree node. Only holders and rows that were read lead nowhere. After the scan of a tree in which
no node comes twice, the two ways are inverse to each other.
-/
namespace SyntaxGraph

open List

/-- The tree nodes that a scan makes rows for, in order. -/
def Tree.visited (t : Tree) : List Tree :=
  (t.scan.trace.filterMap Emission.item?).filterMap Item.tree?

namespace Forest

theorem items_emissions (parent : Option Nat) (f : Forest (Item × Nat)) :
    (f.emissions parent).filterMap Emission.item? = f.flatten.map Prod.fst := by
  induction f generalizing parent with
  | nil => rfl
  | cons a below rest ihBelow ihRest =>
    obtain ⟨item, n⟩ := a
    cases item <;> cases parent <;>
      simp [emissions, flatten, attach, Item.emission, Emission.item?, filterMap_cons, ihBelow,
        ihRest]

end Forest

/-- A scan that ends well visits the nodes that the programmer wrote. -/
theorem Tree.visited_eq_written (t : Tree) (typed : ∀ u ∈ t.walk, u.shape.isSome) :
    t.visited = t.written := by
  obtain ⟨after, ended⟩ := succeeds_tree t typed none 0
  obtain ⟨drawn, -, emitted, whole⟩ := draws_tree t none 0
  obtain ⟨rfl, -⟩ := whole after ended
  rw [visited, Tree.scan, emitted, Forest.items_emissions, ← Forest.flatten_map,
    Forest.map_fst_number, ← trees_view t (typed t t.mem_walk_self)]
  rfl

namespace Graph

/-! ### Histories -/

/-- The tree node that an operation makes a row for, with the id that the row gets. -/
def madeBy (g : Graph) : Operation → List (Json × Tree)
  | .element _ t => [(g.nextId, t)]
  | .holder _ _ _ | .edge _ _ | .root _ => []

/-- The tree nodes among some rows, if ids count up from `base`. -/
def numberedTrees (base : Json) (next : Nat) (items : List Item) : List (Json × Tree) :=
  (items.zipIdx next).filterMap fun numbered =>
    numbered.1.tree?.map fun t => (base.advance numbered.2, t)

/-- The tree nodes that a scan makes rows for; it does nothing if there is a root already. -/
def madeByScan (g : Graph) (t : Tree) : List (Json × Tree) :=
  match g.root with
  | some _ => []
  | none => numberedTrees g.nextId 0 (t.scan.trace.filterMap Emission.item?)

/-- What operations and scans make of a graph, and the tree nodes for which they make rows, with the
ids of these rows. -/
inductive Makes (start : Graph) : List (Json × Tree) → Graph → Prop
  | refl : Makes start [] start
  | step {made : List (Json × Tree)} {g : Graph} (before : Makes start made g) (op : Operation) :
    Makes start (made ++ g.madeBy op) (g.step op).1
  | scan {made : List (Json × Tree)} {g : Graph} (before : Makes start made g) (t : Tree) :
    Makes start (made ++ g.madeByScan t) (g.scan t).1

/-! ### The invariant -/

/-- What a graph remembers of the rows that were made since the start, if the next id is `next`. -/
structure Remembers (start : Graph) (made : List (Json × Tree)) (next : Int) (g : Graph) :
    Prop where
  trees : g.trees = made
  isNext : g.nextId = .int next
  below : ∀ row ∈ g.rows, ∃ n < next, row.id = .int n
  distinct : g.rows.Pairwise fun a b => a.id.same b.id = false
  grown : start.rows ⊆ g.rows
  ascending : made.Pairwise fun a b => ∃ m n : Int, a.1 = .int m ∧ b.1 = .int n ∧ m < n
  /-- Each id that was given to a tree node is the id of an element. -/
  backed : ∀ pair ∈ made, ∃ row ∈ g.rows, row.id = pair.1 ∧ row.type = .element
  /-- Other rows were there at the start or are holders. -/
  kinds : ∀ row ∈ g.rows, (∃ t, (row.id, t) ∈ made) ∨ row.type = .holder ∨ row ∈ start.rows
  /-- Rows that were there at the start have ids that were given to no tree node. -/
  apart : ∀ row ∈ start.rows, ∀ pair ∈ made, pair.1 ≠ row.id

variable {start g h : Graph} {made : List (Json × Tree)} {next : Int}

theorem Starts.remembers {earlier : List (Json × Json)} (starts : start.Starts earlier) :
    ∃ next, Remembers start [] next start := by
  obtain ⟨ids, records, -⟩ := starts.records
  have bare : start.trees = [] := by
    cases starts with
    | fresh => rfl
    | loaded _ read => exact (bare_ofJson read).2
  refine ⟨nextAfter ids, bare, records.next, fun row member => ?_, records.rows_apart,
    List.Subset.refl _, .nil, by simp, fun row member => .inr (.inr member), by simp⟩
  obtain ⟨n, listed, isInt⟩ := records.id_mem member
  exact ⟨n, lt_nextAfter listed, isInt⟩

namespace Remembers

variable (remembers : Remembers start made next g)

include remembers

theorem congr (rows : h.rows = g.rows)
    (isNext : h.nextId = g.nextId) (trees : h.trees = g.trees) : Remembers start made next h := by
  obtain ⟨trees', isNext', below, distinct, grown, ascending, backed, kinds, apart⟩ := remembers
  rw [← trees] at trees'
  rw [← isNext] at isNext'
  rw [← rows] at below distinct grown backed kinds
  exact ⟨trees', isNext', below, distinct, grown, ascending, backed, kinds, apart⟩

theorem addRow (row : Row) (isNext : row.id = g.nextId)
    {new : List (Json × Tree)} (fits : row.type = .holder ∧ new = [] ∨
      row.type = .element ∧ ∃ t, new = [(g.nextId, t)]) :
    Remembers start (made ++ new) (next + 1) { g with
      rows := putRow row g.rows
      nextId := g.nextId.advance 1
      trees := g.trees ++ new } := by
  have isInt : row.id = .int next := isNext.trans remembers.isNext
  -- All ids are smaller than the next one.
  have others : ∀ r ∈ g.rows, r.id.same row.id = false := by
    intro r member
    obtain ⟨n, small, known⟩ := remembers.below r member
    simpa [known, isInt] using by omega
  have given : ∀ pair ∈ new, pair.1 = .int next ∧ row.type = .element := by
    rcases fits with ⟨-, rfl⟩ | ⟨isElement, t, rfl⟩
    · simp
    · simpa [remembers.isNext] using isElement
  rw [putRow_of_new others]
  refine ⟨by rw [remembers.trees], by simp [remembers.isNext], ?_, ?_, ?_, ?_, ?_, ?_, ?_⟩
  · refine forall_mem_append.2 ⟨fun r member => ?_, by simpa using ⟨next, by omega, isInt⟩⟩
    obtain ⟨n, small, known⟩ := remembers.below r member
    exact ⟨n, by omega, known⟩
  · refine pairwise_append.2 ⟨remembers.distinct, pairwise_singleton _ _, ?_⟩
    simpa using others
  · exact fun r member => mem_append_left _ (remembers.grown member)
  · refine pairwise_append.2 ⟨remembers.ascending, ?_, fun a before b after => ?_⟩
    · rcases fits with ⟨-, rfl⟩ | ⟨-, t, rfl⟩ <;> simp
    · obtain ⟨r, member, known, -⟩ := remembers.backed a before
      obtain ⟨n, small, isId⟩ := remembers.below r member
      exact ⟨n, next, known ▸ isId, (given b after).1, small⟩
  · refine forall_mem_append.2 ⟨fun pair member => ?_, fun pair member => ?_⟩
    · obtain ⟨r, there, known⟩ := remembers.backed pair member
      exact ⟨r, mem_append_left _ there, known⟩
    · obtain ⟨isId, isElement⟩ := given pair member
      exact ⟨row, by simp, isInt.trans isId.symm, isElement⟩
  · refine forall_mem_append.2 ⟨fun r member => ?_, ?_⟩
    · exact (remembers.kinds r member).imp_left fun ⟨t, known⟩ => ⟨t, mem_append_left _ known⟩
    · rcases fits with ⟨isHolder, -⟩ | ⟨-, t, rfl⟩
      · simp [isHolder]
      · simp [isNext]
  · intro r there
    refine forall_mem_append.2 ⟨remembers.apart r there, fun pair member same => ?_⟩
    obtain ⟨n, small, known⟩ := remembers.below r (remembers.grown there)
    rw [(given pair member).1, known] at same
    cases same
    omega

theorem addElement (kind : Json) (t : Tree) :
    Remembers start (made ++ [(g.nextId, t)]) (next + 1) (g.addElement kind t) :=
  remembers.addRow _ rfl (.inr ⟨rfl, t, rfl⟩)

theorem addHolder (label start' stop : Json)
    (startLine stopLine : Int) : Remembers start made (next + 1)
      (g.addRow .holder label start' stop startLine stopLine) := by
  have added := remembers.addRow
    { id := g.nextId, type := .holder, contents := label, start := start', stop
      startLine := .int startLine, stopLine := .int stopLine } rfl (.inl ⟨rfl, rfl⟩)
  rw [append_nil, append_nil] at added
  exact added

theorem link (source destination : Json) :
    Remembers start made next (g.link source destination) := by
  unfold Graph.link
  split
  · exact remembers
  · exact remembers.congr rfl rfl rfl

theorem step (op : Operation) :
    ∃ next, Remembers start (made ++ g.madeBy op) next (g.step op).1 := by
  cases result : g.perform op with
  -- A refused operation makes no element.
  | error fault =>
    have none : g.madeBy op = [] := by
      cases op with
      | element => cases result
      | _ => rfl
    rw [step_of_error result, none, append_nil]
    exact ⟨next, remembers⟩
  | ok changed =>
    rw [step_of_ok result]
    cases op with
    | element kind t =>
      cases result
      exact ⟨_, remembers.addElement kind t⟩
    | holder label start stop =>
      rw [madeBy, append_nil]
      cases added : g.addHolder? label start stop with
      -- A holder outside the text is refused.
      | none => simp [perform, added] at result
      | some other =>
        simp only [perform, added, Except.ok.injEq] at result
        subst result
        simp only [addHolder?, Option.bind_eq_bind, Option.pure_def, Option.bind_eq_some_iff,
          Option.some.injEq] at added
        obtain ⟨startLine, -, stopLine, -, rfl⟩ := added
        exact ⟨_, remembers.addHolder label start stop startLine stopLine⟩
    | edge source destination =>
      rw [madeBy, append_nil]
      obtain ⟨-, _, _, _, _, _, _, _, ⟨other, -⟩, -⟩ | ⟨_, _, -, -, -, rfl⟩ | ⟨_, other, -⟩ :=
        perform_cases result
      · cases other
      · exact ⟨next, remembers.link _ _⟩
      · cases other
    | root id =>
      rw [madeBy, append_nil]
      obtain ⟨-, _, _, _, _, _, _, _, ⟨other, -⟩, -⟩ | ⟨_, _, other, -⟩ | ⟨_, -, -, -, rfl⟩ :=
        perform_cases result
      · cases other
      · cases other
      · exact ⟨next, remembers.congr rfl rfl rfl⟩

omit remembers

/-- Carrying out emissions makes rows under ids that count up. -/
theorem foldl_apply {base : Int} {count : Nat} (remembers : Remembers start made (base + count) g)
    (emissions : List Emission) :
    ∃ next, Remembers start
      (made ++ numberedTrees (.int base) count (emissions.filterMap Emission.item?)) next
      (emissions.foldl (apply (.int base)) g) := by
  induction emissions generalizing g made count with
  | nil => exact ⟨_, by simpa [numberedTrees] using remembers⟩
  | cons first rest ih =>
    cases first with
    | element kind t =>
      have added := remembers.addElement (.str kind) t
      rw [remembers.isNext, Int.add_assoc] at added
      obtain ⟨next, behind⟩ := ih added
      exact ⟨next, by simpa [numberedTrees, Emission.item?, Item.tree?, apply] using behind⟩
    | holder accessor start stop =>
      have added := remembers.addHolder (.str (Label.ofAccessor accessor)) (.int start) (.int stop)
        (g.lineOf start) (g.lineOf stop)
      rw [Int.add_assoc] at added
      obtain ⟨next, behind⟩ := ih added
      refine ⟨next, ?_⟩
      simpa [numberedTrees, Emission.item?, Item.tree?, apply, Graph.addHolder] using behind
    | edge parent child => exact ih (remembers.link _ _)
    | root node => exact ih (remembers.congr rfl rfl rfl)

theorem scan (remembers : Remembers start made next g) (t : Tree) :
    ∃ next, Remembers start (made ++ g.madeByScan t) next (g.scan t).1 := by
  cases root : g.root with
  | some id => exact ⟨next, by simpa [madeByScan, Graph.scan, root] using remembers⟩
  | none =>
    have begun : Remembers start made (next + (0 : Nat)) g := by simpa using remembers
    simpa only [madeByScan, scan_of_rootless root, root, applyAll, remembers.isNext] using
      begun.foldl_apply t.scan.trace

end Remembers

theorem Makes.remembers {earlier : List (Json × Json)} (starts : start.Starts earlier)
    (history : start.Makes made g) : ∃ next, Remembers start made next g := by
  induction history with
  | refl => exact starts.remembers
  | step _ op ih =>
    obtain ⟨next, remembers⟩ := ih
    exact remembers.step op
  | scan _ t ih =>
    obtain ⟨next, remembers⟩ := ih
    exact remembers.scan t

/-! ### Lookups -/

/-- A row is the latest one that was made for a tree node, and leads back to it. -/
structure IsLatest (made : List (Json × Tree)) (g : Graph) (t : Tree) (row : Row) : Prop where
  member : row ∈ g.rows
  back : ∃ u, g.treeOf? row.id = some u ∧ u.id = t.id ∧ (row.id, u) ∈ made
  greatest : ∃ n : Int, row.id = .int n ∧ ∀ m u, (.int m, u) ∈ made → u.id = t.id → m ≤ n

namespace Remembers

variable (remembers : Remembers start made next g)

include remembers

theorem treeOf?_of_mem {id : Json} {t : Tree}
    (member : (id, t) ∈ made) : g.treeOf? id = some t := by
  refine Graph.treeOf?_of_mem (remembers.trees ▸ remembers.ascending.imp ?_)
    (remembers.trees ▸ member)
  rintro a b ⟨m, n, isM, isN, less⟩
  simpa [isM, isN] using by omega

theorem row_unique {a b : Row} (first : a ∈ g.rows)
    (second : b ∈ g.rows) (same : a.id = b.id) : a = b := by
  have found := find?_of_distinct remembers.distinct first
  rw [same, find?_of_distinct remembers.distinct second] at found
  exact (Option.some.inj found).symm

/-- The row with an id that was given to a tree node is an element. -/
theorem isElement_of_mem {row : Row} {t : Tree}
    (member : row ∈ g.rows) (known : (row.id, t) ∈ made) : row.type = .element := by
  obtain ⟨other, there, same, isElement⟩ := remembers.backed _ known
  rwa [remembers.row_unique there member same] at isElement

theorem mem_of_treeOf? {row : Row} {t : Tree}
    (member : row ∈ g.rows) (found : g.treeOf? row.id = some t) : (row.id, t) ∈ made := by
  rw [treeOf?, remembers.trees, Option.map_eq_some_iff] at found
  obtain ⟨⟨id, u⟩, found, rfl⟩ := found
  have listed : (id, u) ∈ made := mem_reverse.1 (mem_of_find?_eq_some found)
  obtain ⟨other, there, same, -⟩ := remembers.backed _ listed
  obtain ⟨m, -, isM⟩ := remembers.below other there
  obtain ⟨n, -, isN⟩ := remembers.below row member
  have equal := find?_some found
  rw [← same, isM, isN, Json.same_int, decide_eq_true_eq] at equal
  rw [isN, ← equal, ← isM, same]
  exact listed

theorem treeOf?_eq_none_iff {row : Row}
    (member : row ∈ g.rows) :
    g.treeOf? row.id = none ↔ row.type = .holder ∨ row ∈ start.rows := by
  constructor
  · intro none
    rcases remembers.kinds row member with ⟨t, known⟩ | other
    · rw [remembers.treeOf?_of_mem known] at none
      cases none
    · exact other
  · intro other
    cases found : g.treeOf? row.id with
    | none => rfl
    | some t =>
      have known := remembers.mem_of_treeOf? member found
      rcases other with isHolder | there
      · rw [remembers.isElement_of_mem member known] at isHolder
        cases isHolder
      · exact absurd rfl (remembers.apart row there _ known)

/-- A tree node leads to the latest row that was made for it, if there is one. -/
theorem find?_cases (t : Tree) :
    (g.find? t = none ∧ ∀ pair ∈ made, pair.2.id ≠ t.id) ∨
      ∃ row, g.find? t = some row ∧ IsLatest made g t row := by
  cases latest : made.reverse.find? (·.2.id = t.id) with
  | none =>
    refine .inl ⟨by simp [Graph.find?, remembers.trees, latest], ?_⟩
    simpa using latest
  | some pair =>
    obtain ⟨id, u⟩ := pair
    have listed : (id, u) ∈ made := mem_reverse.1 (mem_of_find?_eq_some latest)
    obtain ⟨row, member, rfl, -⟩ := remembers.backed _ listed
    -- The latest pair is the first one from behind.
    obtain ⟨same, behind, before, split, others⟩ := find?_eq_some_iff_append.1 latest
    have same : u.id = t.id := by simpa using same
    have back := remembers.treeOf?_of_mem listed
    have found : g.row? row.id = some row := find?_of_distinct remembers.distinct member
    obtain ⟨n, -, isInt⟩ := remembers.below row member
    refine .inr ⟨row, ?_, member, ⟨u, back, same, listed⟩, n, isInt, fun m v known alike => ?_⟩
    · simp [Graph.find?, remembers.trees, latest, back, same, found]
    · -- What was made later was made for other tree nodes.
      have backwards := pairwise_reverse.2 remembers.ascending
      have known := mem_reverse.2 known
      rw [split] at backwards known
      have earlier := (pairwise_cons.1 (pairwise_append.1 backwards).2.1).1
      rcases mem_append.1 known with later | known
      · exact absurd alike (by simpa using others _ later)
      · rcases mem_cons.1 known with here | old
        · cases (Prod.mk.inj here).1.trans isInt
          exact Int.le_refl _
        · obtain ⟨i, j, isI, isJ, less⟩ := earlier _ old
          cases isI
          cases isInt.symm.trans isJ
          exact Int.le_of_lt less

end Remembers

/-- Tree nodes and elements of a graph lead to each other, one by one. -/
structure PairsOff (visited : List Tree) (g : Graph) : Prop where
  toRow : ∀ t ∈ visited, ∃ row ∈ g.rowsOfType .element,
    g.find? t = some row ∧ g.treeOf? row.id = some t
  toTree : ∀ row ∈ g.rowsOfType .element, ∃ t ∈ visited,
    g.treeOf? row.id = some t ∧ g.find? t = some row

/-- If each tree node was given once, and no element was there at the start, lookups are inverse to
each other. -/
theorem Remembers.pairsOff (remembers : Remembers start made next g) (empty : start.rows = [])
    (distinct : (made.map (·.2.id)).Nodup) : PairsOff (made.map Prod.snd) g := by
  have unique : ∀ a ∈ made, ∀ b ∈ made, a.2.id = b.2.id → a = b :=
    fun a first b second => inj_on_of_nodup_map distinct first second
  have leads {id : Json} {t : Tree} (listed : (id, t) ∈ made) : ∃ row ∈ g.rowsOfType .element,
      row.id = id ∧ g.find? t = some row ∧ g.treeOf? row.id = some t := by
    obtain ⟨-, nobody⟩ | ⟨row, found, latest⟩ := remembers.find?_cases t
    · exact absurd rfl (nobody _ listed)
    · obtain ⟨u, back, same, known⟩ := latest.back
      -- The tree node was given once, so the latest row is its only one.
      cases unique _ known _ listed same
      refine ⟨row, mem_filter.2 ⟨latest.member, ?_⟩, rfl, found, back⟩
      simpa using remembers.isElement_of_mem latest.member known
  refine ⟨fun t member => ?_, fun row member => ?_⟩
  · obtain ⟨⟨id, t⟩, listed, rfl⟩ := mem_map.1 member
    obtain ⟨row, isRow, -, found, back⟩ := leads listed
    exact ⟨row, isRow, found, back⟩
  · obtain ⟨there, isElement⟩ := mem_filter.1 member
    cases back : g.treeOf? row.id with
    | none =>
      have other := (remembers.treeOf?_eq_none_iff there).1 back
      simp [empty, of_decide_eq_true isElement] at other
    | some t =>
      have listed := remembers.mem_of_treeOf? there back
      obtain ⟨other, isRow, same, found, -⟩ := leads listed
      cases remembers.row_unique (mem_filter.1 isRow).1 there same
      exact ⟨t, mem_map.2 ⟨_, listed, rfl⟩, rfl, found⟩

theorem map_snd_numberedTrees (base : Json) (next : Nat) (items : List Item) :
    (numberedTrees base next items).map Prod.snd = items.filterMap Item.tree? := by
  induction items generalizing next with
  | nil => rfl
  | cons item rest ih =>
    have behind := ih (next + 1)
    unfold numberedTrees at behind ⊢
    cases item <;> simpa [filterMap_cons, Item.tree?] using behind

/-- Whatever was done with a graph, a tree node leads to the latest row that was made for it and
that row back to the tree node; only holders and rows that were there at the start lead to no tree
node. After a scan that visits no tree node twice, which a scan that ends well does if the
programmer wrote none twice, lookups are inverse to each other. -/
theorem lookups_agree :
    (∀ {start g : Graph} {earlier : List (Json × Json)} {made : List (Json × Tree)},
      start.Starts earlier → start.Makes made g →
        (∀ t, (g.find? t = none ↔ ∀ pair ∈ made, pair.2.id ≠ t.id) ∧
          ∀ row, g.find? t = some row → IsLatest made g t row) ∧
        ∀ row ∈ g.rows, g.treeOf? row.id = none ↔ row.type = .holder ∨ row ∈ start.rows) ∧
    ∀ (file : Json) (source : Option String) (lines : Bool) (t : Tree),
      (t.visited.map Tree.id).Nodup → PairsOff t.visited ((ofSource file source lines).scan t).1 ∧
        ((∀ u ∈ t.walk, u.shape.isSome) → t.visited = t.written) := by
  refine ⟨fun starts history => ?_, fun file source lines t distinct => ?_⟩
  · obtain ⟨next, remembers⟩ := history.remembers starts
    refine ⟨fun t => ?_, fun row => remembers.treeOf?_eq_none_iff⟩
    obtain ⟨none, nobody⟩ | ⟨row, found, latest⟩ := remembers.find?_cases t
    · exact ⟨iff_of_true none nobody, fun row found => by cases none.symm.trans found⟩
    · obtain ⟨u, -, same, listed⟩ := latest.back
      refine ⟨iff_of_false (by simp [found]) fun nobody => nobody _ listed same,
        fun other also => ?_⟩
      cases found.symm.trans also
      exact latest
  · obtain ⟨next, remembers⟩ := (Makes.scan .refl t).remembers (.fresh file source lines)
    -- The tree nodes that a scan makes elements for are those that it visits.
    have visited : ([] ++ (ofSource file source lines).madeByScan t).map Prod.snd = t.visited :=
      map_snd_numberedTrees (.int 0) 0 _
    refine ⟨?_, t.visited_eq_written⟩
    rw [← visited]
    refine remembers.pairsOff rfl ?_
    rwa [← visited, map_map] at distinct

/-- A row for the sum is asked for twice in a graph that was read, and found under its second id. -/
theorem lookups_agree_samples :
    (∃ g row, ofJson sparseData = .ok g ∧
      let ended := (g.run [.element .null sampleSum, .element .null sampleSum]).1
      ended.find? sampleSum = some row ∧
        IsLatest [(.int 8, sampleSum), (.int 9, sampleSum)] ended sampleSum row) ∧
    (sampleSum.visited.map Tree.id).Nodup ∧
      PairsOff sampleSum.visited ((ofSource .null none false).scan sampleSum).1 := by
  have distinct : (sampleSum.visited.map Tree.id).Nodup := by decide
  refine ⟨?_, distinct, (lookups_agree.2 .null none false sampleSum distinct).1⟩
  have readable : (ofJson sparseData).map (·.nextId) = .ok (.int 8) := by decide +kernel
  obtain ⟨g, read, next⟩ := exists_of_map_eq_ok readable
  have once : g.Makes _ _ := .step .refl (.element .null sampleSum)
  have twice := once.step (.element .null sampleSum)
  simp only [madeBy, step, perform, addElement, addRow, next, Json.advance_int] at twice
  obtain ⟨known, latest⟩ :=
    (lookups_agree.1 (.loaded hasIntegerIds_sparseData read) twice).1 sampleSum
  obtain ⟨row, found⟩ := Option.ne_none_iff_exists'.1 fun none =>
    known.1 none _ mem_cons_self rfl
  refine ⟨g, row, read, ?_⟩
  simp only [run, step, perform, addElement, addRow, next, Json.advance_int]
  exact ⟨found, latest row found⟩

/-- A graph in which one more than the largest id is rounded to that id. -/
def roundedData : Json :=
  .obj [("nodes", .arr [.obj [("id", .real (.finite false 1 17)), ("type", .str "AST_ELEMENT"),
    ("contents", .str "BLOCK")]])]

/-- Where ids are not integers, a row may take the id of one that was made before, and the tree node
of that one leads nowhere. -/
theorem find?_roundedData :
    (ofJson roundedData).map (fun g =>
      let ended := g.run
        [.element .null (.node {} none []), .element .null (.node { id := 1 } none [])]
      (ended.2.map (·.toOption.map (·.map (·.id))), ended.1.find? (.node {} none []))) =
    .ok ([some (some (.real (.finite false 1 17))), some (some (.real (.finite false 1 17)))],
      none) := by
  decide +kernel

end Graph

end SyntaxGraph
