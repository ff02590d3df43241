import SyntaxGraph.Proofs.Arborescence

/-!
# Scanned graphs show their trees

Following the edges of a scanned graph from its root leads to the in-source view of the tree, and
meets every row once.
-/
namespace SyntaxGraph

open List

/-- What a row shows apart from its id and its lines. -/
structure Face where
  type : RowType
  contents : Json
  start : Json
  stop : Json
deriving DecidableEq

def Row.face (row : Row) : Face := ⟨row.type, row.contents, row.start, row.stop⟩

/-- What the row has to show: an element its kind and the span of its tree, a holder its label and
its own span. -/
def Item.face : Item → Face
  | .element kind t => ⟨.element, .str kind, .int t.start, .int t.stop⟩
  | .holder accessor start stop =>
    ⟨.holder, .str (Label.ofAccessor accessor), .int start, .int stop⟩

@[simp]
theorem Item.face_row (lineOf : Int → Int) (id : Int) (item : Item) :
    (item.row lineOf id).face = item.face := by
  cases item <;> rfl

namespace Graph

/-- The tree of rows that the children of a row unfold to, down to a depth. -/
def unfold (g : Graph) (depth : Nat) (row : Row) : Forest Row :=
  Forest.unfold (fun row => g.children row.id) depth [row]

theorem face_rowsOf (lineOf : Int → Int) (next : Nat) (f : Forest Item) :
    (rowsOf lineOf (f.number next)).map Row.face = f.map Item.face := by
  rw [rowsOf, Forest.map_map]
  have faces : Row.face ∘ (fun numbered : Item × Nat => numbered.1.row lineOf numbered.2) =
      Item.face ∘ Prod.fst := by
    funext numbered
    simp
  rw [faces, ← Forest.map_map, Forest.map_fst_number]

namespace Shows

variable {g : Graph} {top : Row} {below : Forest Row}

variable (shown : g.Shows top below)

include shown

theorem childIds_eq (row : Row) :
    g.childIds row.id = ((below.links top).filter fun link =>
      link.1.id.normal = row.id.normal).map fun link => link.2.id := by
  rw [childIds, shown.links, filter_map, map_map]
  rfl

theorem children_eq (row : Row) :
    g.children row.id =
      ((below.links top).filter fun link => link.1.id.normal = row.id.normal).map Prod.snd := by
  rw [children, shown.childIds_eq, filterMap_map, ← filterMap_eq_map]
  refine filterMap_congr fun link member => ?_
  exact shown.row?_of_mem (shown.ends_mem (mem_filter.1 member).1).2

/-- The children of the rows tell what hangs together. -/
theorem agrees_children : (Forest.cons top below .nil).Agrees fun row => g.children row.id := by
  have distinct : (top :: below.flatten).Pairwise fun a b => a.id.normal ≠ b.id.normal := by
    rw [← shown.rows]
    exact shown.distinct.imp fun apart => by simpa [Json.same] using apart
  have children : (fun row : Row => g.children row.id) = fun row =>
      ((below.links top).filter fun link => link.1.id.normal = row.id.normal).map Prod.snd :=
    funext shown.children_eq
  rw [children]
  refine ⟨?_, ?_, trivial⟩
  · refine Forest.filter_links_parent (fun row : Row => row.id.normal) fun row member => ?_
    exact ((pairwise_cons.1 distinct).1 row member).symm
  · exact Forest.agrees_links (fun row : Row => row.id.normal) top below distinct fun _ _ => rfl

/-- Unfolded far enough, the graph gives its tree of rows back. -/
theorem unfold_eq {depth : Nat} (enough : g.rows.length ≤ depth) :
    g.unfold depth top = .cons top below .nil := by
  refine Forest.unfold_roots shown.agrees_children depth ?_
  rw [shown.rows, length_cons] at enough
  simpa [Forest.size] using enough

theorem ids_nodup : (g.rows.map (·.id)).Nodup := by
  rw [shown.ids]
  refine nodup_range.map ?_
  intro m n equal
  have same : (m : Int) = n := Json.int.inj equal
  omega

theorem rootRow?_eq : g.rootRow? = some top := by
  rw [rootRow?, shown.root]
  exact shown.row?_of_mem (by simp [shown.rows])

end Shows

/-- Scanning a tree with schemas throughout into an empty graph succeeds, and unfolding the graph
from its root shows the in-source view of the tree and meets every row exactly once. -/
theorem scan_unfolds_to_view (file : Json) (source : Option String) (lines : Bool) (t : Tree)
    (typed : ∀ u ∈ t.walk, u.shape.isSome) :
    let scanned := (ofSource file source lines).scan t
    scanned.2 = .ok () ∧ (scanned.1.rows.map (·.id)).Nodup ∧
      ∃ root, scanned.1.rootRow? = some root ∧ ∀ depth, scanned.1.rows.length ≤ depth →
        (scanned.1.unfold depth root).map Row.face = t.view.map Item.face ∧
          (scanned.1.unfold depth root).flatten = scanned.1.rows := by
  intro scanned
  have succeeds := succeeds_tree t typed none 0
  have ended : scanned.2 = .ok () := scan_ok rfl typed
  obtain ⟨head, shape, entries⟩ := t
  cases shape with
  | none => simpa [Tree.walk, Tree.shape] using typed (.node head none entries)
  | some shape =>
    obtain ⟨drawn, -, graph, view⟩ := scan_grows file source lines head shape entries
    have shown : scanned.1.Shows _ _ := graph ▸ shows_grow rfl _ drawn
    refine ⟨ended, shown.ids_nodup, _, shown.rootRow?_eq, fun depth enough => ?_⟩
    rw [shown.unfold_eq enough, ← view succeeds]
    constructor
    · simp [Forest.map, face_rowsOf]
    · simp [Forest.flatten, shown.rows]

/-- A class whose members are a method, the constructor that was generated for it, a gap and the
same method once more; an alias slot leads to a node without a schema. -/
def sampleClass : Tree :=
  let method : Tree := .node ⟨1, 8, 20, [], false, false⟩ (some ⟨"METHOD", true⟩)
    [(.slot ⟨"getName", .optional, none⟩, .data .null)]
  let constructor : Tree := .node ⟨2, 8, 8, [], false, true⟩ (some ⟨"METHOD", true⟩) []
  .node ⟨0, 0, 24, [], false, false⟩ (some ⟨"CLASS", false⟩)
    [(.slot ⟨"getMembers", .list, none⟩,
        .list [.tree constructor, .tree method, .data .null, .tree method]),
      (.slot ⟨"getOwner", .optional, some "getMembers"⟩, .tree (.node {} none []))]

theorem scan_sampleClass_unfolds :
    (∀ u ∈ sampleClass.walk, u.shape.isSome) ∧
      ∃ root, ((ofSource .null none false).scan sampleClass).1.rootRow? = some root ∧
        ((((ofSource .null none false).scan sampleClass).1.unfold 4 root).map Row.face =
          .cons ⟨.element, .str "CLASS", .int 0, .int 24⟩
            (.cons ⟨.holder, .str (Label.ofAccessor "getMembers"), .int 8, .int 20⟩
              (.cons ⟨.element, .str "METHOD", .int 8, .int 20⟩ .nil
                (.cons ⟨.element, .str "METHOD", .int 8, .int 20⟩ .nil .nil)) .nil) .nil) := by
  have typed : ∀ u ∈ sampleClass.walk, u.shape.isSome := by decide
  obtain ⟨-, -, root, found, unfolded⟩ := scan_unfolds_to_view .null none false sampleClass typed
  exact ⟨typed, root, found, (unfolded 4 (by decide +kernel)).1⟩

end Graph

end SyntaxGraph
