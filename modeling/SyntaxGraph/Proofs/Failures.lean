import SyntaxGraph.Graph.Scan
import SyntaxGraph.Proofs.Trace

/-!
# Where scans fail

A scan needs the schema of every node that it comes to. It comes to the root, to the children of the
root, and from those that the programmer wrote to their children in turn; what is below the others
is hidden from it. A scan fails exactly if one of these nodes has no schema, and tells where it is.
-/
namespace SyntaxGraph

open List

/-- Whether a scan of a node comes to another one below it: to a child, or further down from a child
that the programmer wrote. -/
inductive Tree.Finds : Tree → Tree → Prop
  | child {t u : Tree} (member : u ∈ t.children) : Finds t u
  | deeper {t child u : Tree} (member : child ∈ t.children) (visible : child.isVisible)
    (finds : child.Finds u) : Finds t u

/-- Whether a scan comes to a node from some children: it is one of them, or it is found below one
that the programmer wrote. -/
def FoundFrom (children : List Tree) (u : Tree) : Prop :=
  u ∈ children ∨ ∃ t ∈ children, t.isVisible ∧ t.Finds u

variable {t u : Tree}

theorem Tree.finds_iff : t.Finds u ↔ FoundFrom t.children u := by
  constructor
  · rintro (member | ⟨member, visible, finds⟩)
    · exact .inl member
    · exact .inr ⟨_, member, visible, finds⟩
  · rintro (member | ⟨_, member, visible, finds⟩)
    · exact .child member
    · exact .deeper member visible finds

theorem not_foundFrom_nil : ¬FoundFrom [] u := by
  simp [FoundFrom]

theorem foundFrom_append {front back : List Tree} :
    FoundFrom (front ++ back) u ↔ FoundFrom front u ∨ FoundFrom back u := by
  simp only [FoundFrom, mem_append, or_and_right, exists_or]
  exact or_or_or_comm

/-! ### Visible trees -/

theorem Tree.isInSource_of_none (untyped : t.shape = none) :
    t.isInSource = .error (.noSchema t.start t.stop) := by
  simp [isInSource, untyped]

theorem Tree.isInSource_of_some (typed : t.shape.isSome) : t.isInSource = .ok t.isVisible := by
  obtain ⟨shape, shaped⟩ := Option.isSome_iff_exists.1 typed
  simp [isVisible, isInSource, shaped]

theorem shape_of_isVisible (seen : t.isVisible) : t.shape.isSome := by
  cases shaped : t.shape with
  | none => simp [Tree.isVisible, Tree.isInSource_of_none shaped] at seen
  | some shape => rfl

/-- The visible ones are found among trees that all have schemas; the first one without is
reported. -/
theorem visibleTrees_cases (trees : List Tree) :
    (∀ t ∈ trees, t.shape.isSome) ∧ visibleTrees trees = .ok (trees.filter Tree.isVisible) ∨
      ∃ t ∈ trees, t.shape = none ∧ visibleTrees trees = .error (.noSchema t.start t.stop) := by
  induction trees with
  | nil => exact .inl ⟨by simp, rfl⟩
  | cons t rest ih =>
    rw [visibleTrees]
    cases shaped : t.shape with
    | none =>
      rw [t.isInSource_of_none shaped]
      exact .inr ⟨t, mem_cons_self, shaped, rfl⟩
    | some shape =>
      have typed : t.shape.isSome := by rw [shaped]; rfl
      rw [t.isInSource_of_some typed]
      rcases ih with ⟨others, found⟩ | ⟨u, member, untyped, failed⟩
      · rw [found, filter_cons]
        exact .inl ⟨forall_mem_cons.2 ⟨typed, others⟩, rfl⟩
      · rw [failed]
        exact .inr ⟨u, mem_cons_of_mem _ member, untyped, rfl⟩

/-! ### Scans -/

/-- The scan fails exactly if one of the nodes that it comes to has no schema, and it tells where
such a node is. -/
structure Checks (found : Tree → Prop) (run : Scan) : Prop where
  sound : ∀ cause, run.result = .error cause →
    ∃ u, found u ∧ u.shape = none ∧ cause = .noSchema u.start u.stop
  complete : ∀ u, found u → u.shape = none → ∃ cause, run.result = .error cause

namespace Checks

variable {found others : Tree → Prop} {run : Scan}

theorem congr (checks : Checks found run) (same : ∀ u, u.shape = none → (found u ↔ others u)) :
    Checks others run where
  sound cause failed := by
    obtain ⟨u, met, untyped, told⟩ := checks.sound cause failed
    exact ⟨u, (same u untyped).1 met, untyped, told⟩
  complete u met untyped := checks.complete u ((same u untyped).2 met) untyped

theorem pure (next : Nat) (none : ∀ u, ¬found u) : Checks found (pure next) where
  sound _ failed := nomatch failed
  complete u met := absurd met (none u)

theorem bind {second : Nat → Scan} (first : Checks found run)
    (behind : ∀ next, Checks others (second next)) :
    Checks (fun u => found u ∨ others u) (run >>= second) := by
  cases ended : run.result with
  | error cause =>
    obtain ⟨u, met, untyped, told⟩ := first.sound cause ended
    rw [Traced.bind_of_error ended]
    refine ⟨fun other failed => ?_, fun _ _ _ => ⟨cause, rfl⟩⟩
    cases failed
    exact ⟨u, .inl met, untyped, told⟩
  | ok next =>
    have passed : ∀ u, u.shape = none → ¬found u := by
      intro u untyped met
      obtain ⟨cause, failed⟩ := first.complete u met untyped
      cases ended.symm.trans failed
    have same : ∀ u, u.shape = none → (others u ↔ found u ∨ others u) := fun u untyped =>
      (or_iff_right (passed u untyped)).symm
    rw [Traced.bind_of_ok ended]
    obtain ⟨sound, complete⟩ := (behind next).congr same
    exact ⟨sound, complete⟩

theorem emit (emission : Emission) (checks : Checks found run) :
    Checks found (Traced.emit emission >>= fun _ => run) :=
  ⟨checks.sound, checks.complete⟩

theorem of_visible (checks : Checks (fun u => u = t ∨ t.Finds u) run) (visible : t.isVisible) :
    Checks t.Finds run := by
  refine checks.congr fun u untyped => or_iff_right ?_
  rintro rfl
  simpa [untyped] using shape_of_isVisible visible

/-- A group checks the schemas of all its trees, and if one is visible its members check theirs. -/
theorem scanGroup (accessor : String) (owner next : Nat) {trees : List Tree}
    {members : Nat → Nat → Scan}
    (inside : trees.filter Tree.isVisible ≠ [] →
      Checks (fun u => ∃ t ∈ trees, t.isVisible ∧ t.Finds u) (members next (next + 1))) :
    Checks (FoundFrom trees) (scanGroup accessor owner next trees members) := by
  unfold SyntaxGraph.scanGroup
  rcases visibleTrees_cases trees with ⟨typed, seen⟩ | ⟨t, member, untyped, failed⟩
  · have same : ∀ u, u.shape = none →
        ((∃ t ∈ trees, t.isVisible ∧ t.Finds u) ↔ FoundFrom trees u) := by
      refine fun u untyped => (or_iff_right fun member => ?_).symm
      simpa [untyped] using typed u member
    rw [seen]
    cases kept : trees.filter Tree.isVisible with
    | nil =>
      refine (Checks.pure next ?_).congr same
      rintro u ⟨t, member, visible, -⟩
      exact filter_eq_nil_iff.1 kept t member visible
    | cons first rest => exact (((inside (by simp [kept])).emit _).emit _).congr same
  · rw [failed]
    refine ⟨fun cause told => ?_, fun _ _ _ => ⟨_, rfl⟩⟩
    cases told
    exact ⟨t, .inl member, untyped, rfl⟩

end Checks

def childrenIn (entries : List (Place × Content)) : List Tree :=
  entries.flatMap fun (place, content) => if place.isTraversed then content.trees else []

mutual

/-- A scan comes to a node and to those that are found below it. -/
theorem checks_tree (t : Tree) (parent : Option Nat) (next : Nat) :
    Checks (fun u => u = t ∨ t.Finds u) (t.scanFrom parent next) := by
  match t with
  | .node head none entries =>
    refine ⟨fun cause failed => ?_, fun _ _ _ => ⟨_, rfl⟩⟩
    cases failed
    exact ⟨_, .inl rfl, rfl, rfl⟩
  | .node head (some shape) entries =>
    have below := (((checks_entries entries next (next + 1)).emit (attach parent next)).emit
      (.element shape.kind (.node head (some shape) entries)))
    refine below.congr fun u untyped => ?_
    rw [Tree.finds_iff]
    refine (or_iff_right ?_).symm
    rintro rfl
    cases untyped

theorem checks_entries (entries : List (Place × Content)) (owner next : Nat) :
    Checks (FoundFrom (childrenIn entries)) (scanEntries owner next entries) := by
  match entries with
  | [] => exact .pure next fun _ => not_foundFrom_nil
  | (place, content) :: rest =>
    have later := checks_entries rest owner
    rw [scanEntries]
    split
    next traversed =>
      refine ((checks_content content place.name owner next).bind later).congr fun u _ => ?_
      simp [childrenIn, foundFrom_append, traversed]
    next skipped => simpa [childrenIn, skipped] using later next

theorem checks_content (content : Content) (accessor : String) (owner next : Nat) :
    Checks (FoundFrom content.trees) (content.scanFrom accessor owner next) := by
  match content with
  | .absent => exact .pure next fun _ => not_foundFrom_nil
  | .data value => exact .pure next fun _ => not_foundFrom_nil
  | .tree t =>
    rw [Content.scanFrom]
    refine .scanGroup accessor owner next fun some_visible => ?_
    have visible : t.isVisible := by simpa [Content.trees] using some_visible
    refine ((checks_tree t (some next) (next + 1)).of_visible visible).congr fun u _ => ?_
    simp [Content.trees, visible]
  | .list items =>
    rw [Content.scanFrom]
    exact .scanGroup accessor owner next fun _ => checks_items items next (next + 1)

theorem checks_items (items : List Content) (holder next : Nat) :
    Checks (fun u => ∃ t ∈ items.filterMap Content.tree?, t.isVisible ∧ t.Finds u)
      (scanItems holder next items) := by
  match items with
  | [] => exact .pure next (by simp)
  | .absent :: rest => exact checks_items rest holder next
  | .data _ :: rest => exact checks_items rest holder next
  | .list _ :: rest => exact checks_items rest holder next
  | .tree t :: rest =>
    have later := checks_items rest holder
    rw [scanItems]
    split
    next visible =>
      have first := (checks_tree t (some holder) next).of_visible visible
      refine (first.bind later).congr fun u _ => ?_
      simp [Content.tree?, visible]
    next hidden =>
      refine (later next).congr fun u _ => ?_
      simp [Content.tree?, hidden]

end

/-! ### Scans that end -/

/-- A walk meets what a scan finds. -/
theorem Tree.Finds.mem_walk (finds : t.Finds u) : u ∈ t.walk := by
  induction finds with
  | @child t u member =>
    rw [t.walk_eq]
    refine mem_cons_of_mem _ (mem_flatMap.2 ⟨u, member, ?_⟩)
    rw [u.walk_eq]
    exact mem_cons_self
  | @deeper t child u member _ _ ih =>
    rw [t.walk_eq]
    exact mem_cons_of_mem _ (mem_flatMap.2 ⟨child, member, ih⟩)

/-- A scan succeeds if all nodes that a walk meets have schemas. -/
theorem succeeds_tree (t : Tree) (typed : ∀ u ∈ t.walk, u.shape.isSome) (parent : Option Nat)
    (next : Nat) : (t.scanFrom parent next).Succeeds := by
  cases ended : (t.scanFrom parent next).result with
  | ok after => exact ⟨after, ended⟩
  | error cause =>
    obtain ⟨u, met, untyped, -⟩ := (checks_tree t parent next).sound cause ended
    have member : u ∈ t.walk := by
      rcases met with rfl | finds
      · rw [u.walk_eq]
        exact mem_cons_self
      · exact finds.mem_walk
    simpa [untyped] using typed u member

end SyntaxGraph
