import SyntaxGraph.Proofs.Sketch

/-!
# What scans ask of graphs

A scan names rows by the order in which it made them. The rows that its edges and its root name are
therefore there, and a graph without a root refuses nothing.

Main statement: a scan into a graph without a root fails exactly if it comes to a node without a
schema, and for no other reason. Graphs with a root are refused and stay as they are.
-/
namespace SyntaxGraph

open List

variable {t : Tree}

namespace Graph

/-- What emissions do that are not refused; the numbers of a scan start at the next id. -/
def applyAll (g : Graph) (emissions : List Emission) : Graph :=
  emissions.foldl (apply g.nextId) g

/-! ### Rows that were made are there -/

theorem any_putRow (row : Row) (rows : List Row) (id : Json) :
    (putRow row rows).any (·.id.same id) = (rows.any (·.id.same id) || row.id.same id) := by
  induction rows with
  | nil => simp [putRow]
  | cons first rest ih =>
    rw [putRow]
    split
    next same =>
      -- The row takes the place of one that had the same id.
      have alike : first.id.same id = row.id.same id := by
        simp only [Json.same, decide_eq_true_eq] at same ⊢
        rw [same]
      simp [alike, Bool.or_comm]
    next => simp [ih, Bool.or_assoc]

/-- The graph has rows under `count` ids from `base` on, and the next id is behind them. -/
structure Counts (base : Json) (count : Nat) (g : Graph) : Prop where
  next : g.nextId = base.advance count
  rows : ∀ n < count, g.hasRow (base.advance n)

variable {base : Json} {count : Nat} {g : Graph}

theorem Counts.addRow (counts : g.Counts base count) {h : Graph} {row : Row}
    (isNext : row.id = g.nextId) (rows : h.rows = putRow row g.rows)
    (next : h.nextId = g.nextId.advance 1) : h.Counts base (count + 1) where
  next := by rw [next, counts.next, Json.advance_succ]
  rows n small := by
    rw [hasRow, rows, any_putRow, Bool.or_eq_true]
    rcases Nat.lt_succ_iff_lt_or_eq.1 small with before | rfl
    · exact .inl (counts.rows n before)
    · right
      rw [isNext, counts.next, Json.same_self]

/-! ### Emissions that are granted -/

/-- All emissions are carried out, and leave that many rows behind. -/
structure Granted (base : Json) (g : Graph) (emissions : List Emission) (count : Nat) : Prop where
  counts : (emissions.foldl (apply base) g).Counts base count
  filled : g.fill base emissions = (emissions.foldl (apply base) g, .ok ())

theorem fill_append {h : Graph} {first : List Emission} (filled : g.fill base first = (h, .ok ()))
    (second : List Emission) : g.fill base (first ++ second) = h.fill base second := by
  induction first generalizing g with
  | nil =>
    cases filled
    rfl
  | cons emission rest ih =>
    rw [cons_append, fill]
    rw [fill] at filled
    split at filled
    next granted => exact ih filled
    next => cases filled

theorem Granted.append {first second : List Emission} {later : Nat}
    (before : g.Granted base first count)
    (behind : (first.foldl (apply base) g).Granted base second later) :
    g.Granted base (first ++ second) later := by
  refine ⟨?_, ?_⟩
  · rw [foldl_append]
    exact behind.counts
  · rw [fill_append before.filled, foldl_append]
    exact behind.filled

theorem granted_item (counts : g.Counts base count) (item : Item) :
    g.Granted base [item.emission] (count + 1) := by
  cases item with
  | element kind t => exact ⟨counts.addRow rfl rfl rfl, rfl⟩
  | holder accessor start stop => exact ⟨counts.addRow rfl rfl rfl, rfl⟩

theorem granted_edge (counts : g.Counts base count) {parent child : Nat} (first : parent < count)
    (second : child < count) : g.Granted base [.edge parent child] count where
  counts := by
    show (g.link _ _).Counts base count
    unfold Graph.link
    split
    · exact counts
    · exact ⟨counts.next, counts.rows⟩
  filled := by
    simp only [fill, carryOut, addEdge_of_hasRow (counts.rows _ first) (counts.rows _ second)]
    rfl

theorem granted_root (counts : g.Counts base count) (unscanned : g.root = none) {node : Nat}
    (there : node < count) : g.Granted base [.root node] count where
  counts := ⟨counts.next, counts.rows⟩
  filled := by
    simp only [fill, carryOut, setRoot_of_hasRow unscanned (counts.rows _ there)]
    rfl

/-- The rows of a forest are attached to rows that came before them. -/
theorem granted_emissions (f : Forest Item) {parent next : Nat} {g : Graph}
    (counts : g.Counts base next) (earlier : parent < next) :
    g.Granted base ((f.number next).emissions (some parent)) (next + f.size) := by
  induction f generalizing parent next g with
  | nil => exact ⟨counts, rfl⟩
  | cons item below rest ihBelow ihRest =>
    have made := granted_item counts item
    have attached := granted_edge made.counts (Nat.lt_succ_of_lt earlier) (Nat.lt_succ_self next)
    have filled := ihBelow attached.counts (Nat.lt_succ_self next)
    have before : parent < next + 1 + below.size := by omega
    have others := ihRest filled.counts before
    have size : next + 1 + below.size + rest.size = next + (Forest.cons item below rest).size := by
      rw [Forest.size]
      omega
    rw [size] at others
    exact made.append (attached.append (filled.append others))

/-- No emission of a scan is refused by a graph without a root. -/
theorem scan_of_rootless {g : Graph} (unscanned : g.root = none) (t : Tree) :
    g.scan t =
      (g.applyAll t.scan.trace, (t.scan.result.map fun _ => ()).mapError .access) := by
  have filled : g.fill g.nextId t.scan.trace = (g.applyAll t.scan.trace, .ok ()) := by
    obtain ⟨head, shape, entries⟩ := t
    cases shape with
    | none =>
      -- Nothing is emitted for a node without a schema.
      rfl
    | some shape =>
      obtain ⟨drawn, -, emitted, -⟩ := draws_entries entries 0 1
      have none : g.Counts g.nextId 0 := ⟨rfl, fun n small => absurd small n.not_lt_zero⟩
      have made := granted_item none (.element shape.kind (.node head (some shape) entries))
      have rooted := granted_root made.counts unscanned Nat.zero_lt_one
      have grown := granted_emissions drawn rooted.counts Nat.zero_lt_one
      rw [← emitted] at grown
      exact (made.append (rooted.append grown)).filled
  rw [scan, unscanned]
  simp only [filled]

/-! ### Scans that fail -/

theorem scan_ok {g : Graph} (unscanned : g.root = none) (typed : ∀ u ∈ t.walk, u.shape.isSome) :
    (g.scan t).2 = .ok () := by
  obtain ⟨after, ended⟩ := succeeds_tree t typed none 0
  rw [scan_of_rootless unscanned, Tree.scan, ended]
  rfl

/-- A scan into a graph without a root fails exactly if the root of the tree or a node that is found
from it has no schema, and then it tells where such a node is. A graph with a root is refused as one
that was scanned into before, and stays as it is. -/
theorem scan_fails_iff (g : Graph) (t : Tree) :
    (g.root = none →
      ((∃ error, (g.scan t).2 = .error error) ↔ ∃ u, (u = t ∨ t.Finds u) ∧ u.shape = none) ∧
      ∀ error, (g.scan t).2 = .error error → error.report?.map (·.family) = some .access ∧
        ∃ u, (u = t ∨ t.Finds u) ∧ u.shape = none ∧ error = .access (.noSchema u.start u.stop)) ∧
    ∀ root, g.root = some root → g.scan t = (g, .error (.alreadyScanned root)) ∧
      (GraphError.alreadyScanned root).report?.map (·.family) = some .construction := by
  refine ⟨fun unscanned => ?_, fun root rooted => ?_⟩
  · have checks := checks_tree t none 0
    rw [scan_of_rootless unscanned, Tree.scan]
    cases result : (t.scanFrom none 0).result with
    | ok after =>
      refine ⟨iff_of_false nofun ?_, nofun⟩
      rintro ⟨u, met, untyped⟩
      obtain ⟨cause, failed⟩ := checks.complete u met untyped
      cases result.symm.trans failed
    | error cause =>
      obtain ⟨u, met, untyped, rfl⟩ := checks.sound cause result
      refine ⟨iff_of_true ⟨_, rfl⟩ ⟨u, met, untyped⟩, fun error told => ?_⟩
      cases told
      exact ⟨rfl, u, met, untyped, rfl⟩
  · rw [scan, rooted]
    exact ⟨rfl, rfl⟩

def sampleOrphan : Tree := .node { start := 1, stop := 2 } none []

/-- A class whose member is a method that was generated or not, with a node without a schema in
it. -/
def orphanedClass (generated : Bool) : Tree :=
  .node {} (some ⟨"CLASS", false⟩) [(.slot ⟨"getMembers", .list, none⟩, .list [.tree
    (.node { generated } (some ⟨"METHOD", true⟩)
      [(.slot ⟨"getBody", .optional, none⟩, .tree sampleOrphan)])])]

/-- What a generated method hides does not make a scan fail. -/
theorem scan_orphanedClass :
    (∃ error, ((ofSource .null none false).scan (orphanedClass false)).2 = .error error) ∧
      ¬∃ error, ((ofSource .null none false).scan (orphanedClass true)).2 = .error error := by
  rw [((scan_fails_iff _ _).1 rfl).1, ((scan_fails_iff _ _).1 rfl).1]
  constructor
  · refine ⟨sampleOrphan, .inr ?_, rfl⟩
    exact .deeper (mem_singleton_self _) rfl (.child (mem_singleton_self _))
  · rintro ⟨u, rfl | finds, untyped⟩
    · cases untyped
    · rcases finds with member | ⟨member, visible, -⟩
      · obtain rfl := mem_singleton.1 member
        cases untyped
      · obtain rfl := mem_singleton.1 member
        cases visible

end Graph

end SyntaxGraph
