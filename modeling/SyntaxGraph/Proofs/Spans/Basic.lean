import SyntaxGraph.Proofs.Conformance
import SyntaxGraph.Proofs.Spans.Order

/-!
# Spans of lowered trees

Which spans the nodes of a lowered tree have if the parse tree is in the order of its source.
-/
namespace SyntaxGraph

open List

/-! ### Nodes and what they hold -/

/-- The trees that a node directly holds, wherever they stand. -/
def Tree.held (t : Tree) : List Tree :=
  t.entries.flatMap (·.2.trees)

/-- The modifiers of a declaration that has none: they stand for no text and hold nothing. -/
structure Tree.IsUnwritten (t : Tree) : Prop where
  kind : t.kind? = some "MODIFIERS"
  start : t.start = noPosition
  stop : t.stop = noPosition
  held : t.held = []

def Tree.face (t : Tree) : Option String × Int × Int :=
  (t.kind?, t.start, t.stop)

variable {t : Tree} {stop : Int}

theorem Tree.face_eq_iff {kind : Option String} {start : Int} :
    t.face = (kind, start, stop) ↔ t.kind? = kind ∧ t.start = start ∧ t.stop = stop := by
  simp [Tree.face]

/-! ### New identities -/

theorem face_renumber (t : Tree) (next : Nat) : (t.renumber next).1.face = t.face := by
  cases t
  rfl

theorem faces_renumberItems (items : List Content) (next : Nat) :
    ((renumberItems next items).1.filterMap Content.tree?).map Tree.face =
      (items.filterMap Content.tree?).map Tree.face := by
  induction items generalizing next with
  | nil => rfl
  | cons item rest ih =>
    cases item with
    | absent | data value | list inner => exact ih _
    | tree t =>
      simp only [renumberItems, Content.renumber, filterMap_cons, Content.tree?,
        map_cons, face_renumber, ih]

theorem faces_renumber (content : Content) (next : Nat) :
    (content.renumber next).1.trees.map Tree.face = content.trees.map Tree.face := by
  cases content with
  | absent | data value => rfl
  | tree t => exact congrArg (fun face => [face]) (face_renumber t next)
  | list items => exact faces_renumberItems items next

theorem faces_renumberEntries (entries : List (Place × Content)) (next : Nat) :
    ((renumberEntries next entries).1.flatMap (·.2.trees)).map Tree.face =
      (entries.flatMap (·.2.trees)).map Tree.face := by
  induction entries generalizing next with
  | nil => rfl
  | cons entry rest ih =>
    simp only [renumberEntries, flatMap_cons, map_append, faces_renumber, ih]

namespace Java

/-! ### Good spans -/

/-- A source text, and where types may end behind their variables: `overhangs stop reach` lets a
variable that ends at `stop` have a type that ends at `reach`. -/
structure Frame where
  text : String
  overhangs : Int → Int → Prop

namespace Frame

variable (frame : Frame)

def source : Source := .ofString frame.text

/-- The number of bytes of the source. -/
def bytes : Nat := byteLength frame.text.toList

/-- A node encloses a tree that it holds, except that an array type may overhang a variable. -/
def Encloses (t child : Tree) : Prop :=
  t.start ≤ child.start ∧ (child.stop ≤ t.stop ∨ t.kind? = some "VARIABLE" ∧
    child.kind? = some "ARRAY_TYPE" ∧ frame.overhangs t.stop child.stop)

/-- A node with a span inside the source, or with none, that encloses what it holds. -/
structure Nests (t : Tree) : Prop where
  span : t.IsUnwritten ∨ 0 ≤ t.start ∧ t.start ≤ t.stop ∧ t.stop ≤ frame.text.length
  encloses : ∀ child ∈ t.held, child.start ≠ noPosition → frame.Encloses t child

/-- A node whose children are in order; where a loop puts dimensions behind the name of its
variable, types may overhang variables. -/
structure Ordered (here : Mark) (children : List Mark) : Prop where
  arranged : Arranged frame.bytes here children
  loops : ∀ stop reach, LoopEnds frame.text here children stop reach → frame.overhangs stop reach

end Frame

variable {frame : Frame}

/-- Whether a node nests depends on the spans and kinds of itself and of what it holds. -/
theorem Frame.Nests.of_faces {t u : Tree} (nests : frame.Nests t) (same : u.face = t.face)
    (held : u.held.map Tree.face = t.held.map Tree.face) : frame.Nests u := by
  obtain ⟨kind, start, stop⟩ := Tree.face_eq_iff.1 same
  refine ⟨?_, fun child member positioned => ?_⟩
  · rw [start, stop]
    refine nests.span.imp (fun unwritten => ⟨kind.trans unwritten.kind, start.trans unwritten.start,
      stop.trans unwritten.stop, ?_⟩) id
    rw [unwritten.held, map_nil, map_eq_nil_iff] at held
    exact held
  · have listed : child.face ∈ t.held.map Tree.face := held ▸ mem_map_of_mem member
    obtain ⟨own, there, alike⟩ := mem_map.1 listed
    obtain ⟨kinded, starts, stops⟩ := Tree.face_eq_iff.1 alike
    have encloses := nests.encloses own there (by rwa [starts])
    unfold Encloses at encloses ⊢
    rw [kind, start, stop, ← kinded, ← starts, ← stops]
    exact encloses

/-- Nodes nest under new identities too. -/
theorem nests_renumber (t : Tree) (nests : ∀ u ∈ t.nodes, frame.Nests u) (next : Nat) :
    ∀ u ∈ (t.renumber next).1.nodes, frame.Nests u := by
  refine forall_nodes_renumber (fun u next own => ?_) t nests next
  obtain ⟨head, shape, entries⟩ := u
  exact own.of_faces rfl (faces_renumberEntries entries _)

end Java

end SyntaxGraph
