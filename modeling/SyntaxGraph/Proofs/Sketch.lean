import SyntaxGraph.Proofs.Failures
import SyntaxGraph.Proofs.Forest

/-!
# What a scan draws

The in-source view of a tree is the forest of the rows that stand for it. A scan emits the rows of
such a forest in pre-order, each with the link that attaches it. A scan that fails has drawn a
forest too, which is then only a part of the view.
-/
namespace SyntaxGraph

open List Traced

/-- A row that a scan asks for. -/
inductive Item
  | element (kind : String) (tree : Tree)
  | holder (accessor : String) (start stop : Int)

namespace Item

def type : Item → RowType
  | .element _ _ => .element
  | .holder _ _ _ => .holder

/-- How a scan asks for the row. -/
def emission : Item → Emission
  | .element kind tree => .element kind tree
  | .holder accessor start stop => .holder accessor start stop

end Item

def RowType.other : RowType → RowType
  | .element => .holder
  | .holder => .element

/-! ### The in-source view -/

/-- A holder for those of some trees that the programmer wrote, unless there are none. -/
def holderOver (accessor : String) (trees : List Tree) (members : Forest Item) : Forest Item :=
  match trees.filter Tree.isVisible with
  | [] => .nil
  | first :: rest =>
    .cons (.holder accessor first.start ((first :: rest).getLastD first).stop) members .nil

mutual

/-- The in-source view of a tree: its element, and below it a holder for each slot with children
that the programmer wrote. A node without a schema has no view. -/
def Tree.view : Tree → Forest Item
  | .node _ none _ => .nil
  | .node head (some shape) entries =>
    .cons (.element shape.kind (.node head (some shape) entries)) (viewEntries entries) .nil

/-- The views of the slots of a node, without alias slots. -/
def viewEntries : List (Place × Content) → Forest Item
  | [] => .nil
  | (place, content) :: rest =>
    (if place.isTraversed then content.view place.name else .nil).append (viewEntries rest)

/-- The view of what a slot holds. -/
def Content.view (accessor : String) : Content → Forest Item
  | .absent => .nil
  | .data _ => .nil
  | .tree t => holderOver accessor [t] t.view
  | .list items => holderOver accessor (items.filterMap Content.tree?) (viewItems items)

/-- The views of those trees of a list that the programmer wrote. -/
def viewItems : List Content → Forest Item
  | [] => .nil
  | .tree t :: rest => (if t.isVisible then t.view else .nil).append (viewItems rest)
  | .absent :: rest => viewItems rest
  | .data _ :: rest => viewItems rest
  | .list _ :: rest => viewItems rest

end

def viewAll (trees : List Tree) : Forest Item :=
  trees.foldr (fun t rest => t.view.append rest) .nil

theorem viewItems_eq (items : List Content) :
    viewItems items = viewAll ((items.filterMap Content.tree?).filter Tree.isVisible) := by
  induction items with
  | nil => rfl
  | cons item rest ih =>
    cases item with
    | absent | data value | list items =>
      simpa [viewItems, filterMap_cons, Content.tree?] using ih
    | tree t =>
      by_cases seen : t.isVisible <;>
        simp [viewItems, Content.tree?, viewAll, seen, ih]

/-- A slot with children that the programmer wrote is seen as a holder, which spans from the first
of them to the last and has the views of them all below it. -/
theorem view_content_eq (accessor : String) (content : Content) :
    content.view accessor =
      holderOver accessor content.trees (viewAll (content.trees.filter Tree.isVisible)) := by
  cases content with
  | absent => rfl
  | data value => rfl
  | list items => rw [Content.view, Content.trees, viewItems_eq]
  | tree t =>
    by_cases seen : t.isVisible <;>
      simp [Content.view, Content.trees, holderOver, viewAll, seen]

/-! ### Emissions of a forest -/

namespace Forest

/-- The emissions for numbered rows in pre-order, each followed by what attaches the row. -/
def emissions (parent : Option Nat) : Forest (Item × Nat) → List Emission
  | .nil => []
  | .cons (item, n) below rest =>
    item.emission :: attach parent n :: (below.emissions (some n) ++ rest.emissions parent)

/-- Below elements there are holders and below holders elements; no holder is empty. -/
def Alternates {α : Type} (typeOf : α → RowType) (type : RowType) : Forest α → Prop
  | .nil => True
  | .cons a below rest =>
    typeOf a = type ∧ (type = .holder → below ≠ .nil) ∧ below.Alternates typeOf type.other ∧
      rest.Alternates typeOf type

@[simp]
theorem emissions_append (parent : Option Nat) (f g : Forest (Item × Nat)) :
    (f.append g).emissions parent = f.emissions parent ++ g.emissions parent := by
  induction f with
  | nil => rfl
  | cons a below rest _ ih => simp [append, emissions, ih]

section Alternates

variable {α β : Type} {typeOf : α → RowType} {type : RowType}

theorem Alternates.append {f g : Forest α} (first : f.Alternates typeOf type)
    (second : g.Alternates typeOf type) : (f.append g).Alternates typeOf type := by
  induction f with
  | nil => exact second
  | cons a below rest _ ih =>
    obtain ⟨here, filled, inBelow, inRest⟩ := first
    exact ⟨here, filled, inBelow, ih inRest⟩

theorem Alternates.map {typeOf' : β → RowType} {g : α → β} (same : ∀ a, typeOf' (g a) = typeOf a)
    {f : Forest α} (alternates : f.Alternates typeOf type) : (f.map g).Alternates typeOf' type := by
  induction f generalizing type with
  | nil => trivial
  | cons a below rest ihBelow ihRest =>
    obtain ⟨here, filled, inBelow, inRest⟩ := alternates
    refine ⟨(same a).trans here, fun isHolder empty => filled isHolder ?_, ihBelow inBelow,
      ihRest inRest⟩
    cases below with
    | nil => rfl
    | cons => cases empty

theorem Alternates.number {f : Forest α} (alternates : f.Alternates typeOf type) (next : Nat) :
    (f.number next).Alternates (fun numbered => typeOf numbered.1) type := by
  induction f generalizing type next with
  | nil => trivial
  | cons a below rest ihBelow ihRest =>
    obtain ⟨here, filled, inBelow, inRest⟩ := alternates
    refine ⟨here, fun isHolder empty => filled isHolder ?_, ihBelow inBelow _, ihRest inRest _⟩
    cases below with
    | nil => rfl
    | cons => cases empty

/-- The ends of a link have different types. -/
theorem Alternates.link {f : Forest α} (alternates : f.Alternates typeOf type) {parent : α}
    (above : typeOf parent = type.other) {link : α × α} (member : link ∈ f.links parent) :
    typeOf link.1 = (typeOf link.2).other := by
  induction f generalizing type parent with
  | nil => simp [links] at member
  | cons a below rest ihBelow ihRest =>
    obtain ⟨here, -, inBelow, inRest⟩ := alternates
    simp only [links, mem_cons, mem_append] at member
    rcases member with rfl | member | member
    · rw [above, here]
    · exact ihBelow inBelow (by cases type <;> exact here) member
    · exact ihRest inRest above member

/-- Something hangs below every holder. -/
theorem Alternates.filled {f : Forest α} (alternates : f.Alternates typeOf type) {a : α}
    (member : a ∈ f.flatten) (isHolder : typeOf a = .holder) (parent : α) :
    ∃ b, (a, b) ∈ f.links parent := by
  induction f generalizing type parent with
  | nil => simp [flatten] at member
  | cons x below rest ihBelow ihRest =>
    obtain ⟨here, filled, inBelow, inRest⟩ := alternates
    simp only [flatten, mem_cons, mem_append] at member
    simp only [links, mem_cons, mem_append]
    rcases member with rfl | member | member
    · cases below with
      | nil => exact absurd rfl (filled (here.symm.trans isHolder))
      | cons y inner others => exact ⟨y, .inr (.inl (by simp [links]))⟩
    · obtain ⟨b, found⟩ := ihBelow inBelow member x
      exact ⟨b, .inr (.inl found)⟩
    · obtain ⟨b, found⟩ := ihRest inRest member parent
      exact ⟨b, .inr (.inr found)⟩

end Alternates

end Forest

/-! ### Scans -/

/-- The scan emits a forest of rows below `parent`, numbered from `next` on. If it ends well, that
forest is `view`, and the next free number follows. -/
def Draws (parent : Option Nat) (next : Nat) (type : RowType) (view : Forest Item) (run : Scan) :
    Prop :=
  ∃ drawn : Forest Item, drawn.Alternates Item.type type ∧
    run.trace = (drawn.number next).emissions parent ∧
    ∀ after, run.result = .ok after → drawn = view ∧ after = next + drawn.size

theorem draws_pure (parent : Option Nat) (next : Nat) (type : RowType) :
    Draws parent next type .nil (pure next) := by
  refine ⟨.nil, trivial, rfl, ?_⟩
  intro after ended
  exact ⟨rfl, (Except.ok.inj ended).symm⟩

theorem draws_fail (parent : Option Nat) (next : Nat) (type : RowType) (view : Forest Item)
    (cause : AccessError) : Draws parent next type view (Traced.fail cause) := by
  refine ⟨.nil, trivial, rfl, ?_⟩
  intro after ended
  cases ended

/-- One scan after another draws one forest behind the other. -/
theorem Draws.bind {parent : Option Nat} {next : Nat} {type : RowType} {view others : Forest Item}
    {first : Scan} {second : Nat → Scan} (before : Draws parent next type view first)
    (behind : ∀ after, Draws parent after type others (second after)) :
    Draws parent next type (view.append others) (first >>= second) := by
  obtain ⟨drawn, alternates, emitted, whole⟩ := before
  cases ended : first.result with
  | error cause =>
    -- Nothing is drawn behind a failure, and nothing is promised about the view.
    refine ⟨drawn, alternates, ?_, ?_⟩
    · rw [bind_of_error ended, emitted]
    · intro after impossible
      rw [bind_of_error ended] at impossible
      cases impossible
  | ok after =>
    -- The second forest is numbered from where the first one ended.
    obtain ⟨rfl, rfl⟩ := whole after ended
    obtain ⟨more, moreAlternates, moreEmitted, moreWhole⟩ := behind (next + drawn.size)
    refine ⟨drawn.append more, alternates.append moreAlternates, ?_, ?_⟩
    · rw [bind_of_ok ended, Forest.number_append, Forest.emissions_append, emitted, moreEmitted]
    · intro final finished
      rw [bind_of_ok ended] at finished
      obtain ⟨rfl, rfl⟩ := moreWhole final finished
      exact ⟨rfl, by rw [Forest.size_append, Nat.add_assoc]⟩

theorem Draws.under {parent : Option Nat} {next : Nat} {view : Forest Item} {run : Scan}
    (item : Item) (inside : Draws (some next) (next + 1) item.type.other view run)
    (filled : item.type = .holder → run.trace ≠ []) :
    Draws parent next item.type (.cons item view .nil)
      (do Traced.emit item.emission; Traced.emit (attach parent next); run) := by
  obtain ⟨drawn, alternates, emitted, whole⟩ := inside
  refine ⟨.cons item drawn .nil, ⟨rfl, ?_, alternates, trivial⟩, ?_, ?_⟩
  · rintro isHolder rfl
    exact filled isHolder emitted
  · simp [Forest.number, Forest.emissions, emitted]
  · intro after ended
    obtain ⟨rfl, rfl⟩ := whole after ended
    refine ⟨rfl, ?_⟩
    simp only [Forest.size]
    omega

/-- A group draws its holder with what its members draw, or nothing. -/
theorem draws_scanGroup (accessor : String) (owner next : Nat) (trees : List Tree)
    {members : Nat → Nat → Scan} {view : Forest Item}
    (inside : Draws (some next) (next + 1) .element view (members next (next + 1)))
    (filled : trees.filter Tree.isVisible ≠ [] → (members next (next + 1)).trace ≠ []) :
    Draws (some owner) next .holder (holderOver accessor trees view)
      (scanGroup accessor owner next trees members) := by
  unfold scanGroup
  rcases visibleTrees_cases trees with ⟨-, found⟩ | ⟨t, -, -, failed⟩
  · rw [found, holderOver]
    cases kept : trees.filter Tree.isVisible with
    | nil => exact draws_pure _ _ _
    | cons first rest =>
      exact Draws.under (.holder accessor first.start ((first :: rest).getLastD first).stop) inside
        fun _ => filled (by simp [kept])
  · rw [failed]
    exact draws_fail _ _ _ _ _

/-- A node with a schema is emitted, whatever happens below it. -/
theorem scanFrom_emits {t : Tree} (typed : t.shape.isSome) (parent : Option Nat) (next : Nat) :
    (t.scanFrom parent next).trace ≠ [] := by
  obtain ⟨head, shape, entries⟩ := t
  cases shape with
  | none => simp [Tree.shape] at typed
  | some shape => simp [Tree.scanFrom]

/-- If one tree of a list is visible, something is emitted for it, even if a later one fails. -/
theorem scanItems_emits (items : List Content) (holder next : Nat)
    (some_visible : (items.filterMap Content.tree?).filter Tree.isVisible ≠ []) :
    (scanItems holder next items).trace ≠ [] := by
  induction items generalizing next with
  | nil => simp at some_visible
  | cons item rest ih =>
    cases item with
    | absent | data value | list items =>
      exact ih next (by simpa [filterMap_cons, Content.tree?] using some_visible)
    | tree t =>
      rw [scanItems]
      by_cases seen : t.isVisible
      · rw [if_pos seen]
        have emits := scanFrom_emits (shape_of_isVisible seen) (some holder) next
        -- The element is out before anything below it or behind it can fail.
        cases ended : (t.scanFrom (some holder) next).result with
        | error cause => rwa [bind_of_error ended]
        | ok after =>
          rw [bind_of_ok ended]
          simp [emits]
      · rw [if_neg seen]
        exact ih next (by simpa [Content.tree?, seen] using some_visible)

mutual

theorem draws_tree (t : Tree) (parent : Option Nat) (next : Nat) :
    Draws parent next .element t.view (t.scanFrom parent next) := by
  match t with
  | .node head none entries => exact draws_fail _ _ _ _ _
  | .node head (some shape) entries =>
    exact Draws.under (.element shape.kind (.node head (some shape) entries))
      (draws_entries entries next (next + 1)) (by simp [Item.type])

theorem draws_entries (entries : List (Place × Content)) (owner next : Nat) :
    Draws (some owner) next .holder (viewEntries entries) (scanEntries owner next entries) := by
  match entries with
  | [] => exact draws_pure _ _ _
  | (place, content) :: rest =>
    rw [scanEntries, viewEntries]
    split
    · exact (draws_content content place.name owner next).bind (draws_entries rest owner)
    · exact (draws_pure _ _ _).bind (draws_entries rest owner)

theorem draws_content (content : Content) (accessor : String) (owner next : Nat) :
    Draws (some owner) next .holder (content.view accessor)
      (content.scanFrom accessor owner next) := by
  match content with
  | .absent => exact draws_pure _ _ _
  | .data value => exact draws_pure _ _ _
  | .tree t =>
    rw [Content.scanFrom, Content.view]
    refine draws_scanGroup accessor owner next [t] (draws_tree t (some next) (next + 1)) ?_
    intro seen
    have visible : t.isVisible := by simpa using seen
    exact scanFrom_emits (shape_of_isVisible visible) _ _
  | .list items =>
    rw [Content.scanFrom, Content.view]
    exact draws_scanGroup accessor owner next _ (draws_items items next (next + 1))
      (scanItems_emits items next (next + 1))

theorem draws_items (items : List Content) (holder next : Nat) :
    Draws (some holder) next .element (viewItems items) (scanItems holder next items) := by
  match items with
  | [] => exact draws_pure _ _ _
  | .absent :: rest => exact draws_items rest holder next
  | .data _ :: rest => exact draws_items rest holder next
  | .list _ :: rest => exact draws_items rest holder next
  | .tree t :: rest =>
    rw [scanItems, viewItems]
    split
    · exact (draws_tree t (some holder) next).bind (draws_items rest holder)
    · exact (draws_pure _ _ _).bind (draws_items rest holder)

end

end SyntaxGraph
