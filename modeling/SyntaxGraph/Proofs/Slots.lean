import Mathlib.Data.List.ReduceOption
import Mathlib.Logic.Function.Iterate
import SyntaxGraph.Proofs.Constructors

/-!
# What built nodes hold

A node that was built through a grammar holds under each name the trees that it was given under it.
A list of trees in which some are missing is refused, so nothing is dropped from a list.
-/
namespace SyntaxGraph

open List

variable {α : Type} {kind : String} {t : Tree}

/-- A run ends as its last step does. -/
theorem Traced.Ends.tail {τ ε β : Type} {good : β → Prop} {first : Traced τ ε α}
    {second : α → Traced τ ε β} (each : ∀ a, (second a).Ends good fun _ => True) :
    (first >>= second).Ends good fun _ => True := by
  have any : first.Ends (fun _ => True) fun _ => True := by
    unfold Ends
    split <;> trivial
  exact any.bind fun a _ => each a

/-! ### Contents -/

namespace Content

theorem trees_ofOption (item : Option Tree) : (Content.ofOption item).trees = item.toList := by
  cases item <;> rfl

theorem trees_ofOptions (items : List (Option Tree)) :
    (Content.ofOptions items).trees = items.reduceOption := by
  have each : tree? ∘ ofOption = id := by
    funext item
    cases item <;> rfl
  rw [ofOptions, trees, filterMap_map, each]
  rfl

end Content

/-! ### Slots -/

/-- A slot is filled with the trees that it was given, and a list that it is given has no gaps. -/
theorem Slot.trees_of_fill {slot : Slot} {given : Option Content} {content : Content}
    (filled : slot.fill given = .ok content) :
    content.trees = (given.getD .absent).trees ∧
      ∀ items, given = some (.list items) → ∀ item ∈ items, item.tree?.isSome := by
  have empty : (given.getD slot.empty).trees = (given.getD .absent).trees := by
    cases given with
    | none =>
      simp only [Slot.empty, Option.getD_none]
      split <;> rfl
    | some content => rfl
  rw [← empty]
  unfold Slot.fill at filled
  split at filled
  case h_1 items isList found =>
    split at filled
    next trees =>
      cases filled
      rw [found]
      refine ⟨rfl, fun own same => ?_⟩
      rw [same] at found
      cases found
      exact all_eq_true.1 trees
    next => cases filled
  case h_2 isList found =>
    cases filled
    rw [found]
    exact ⟨rfl, fun own same => by simp [same] at found⟩
  case h_5 isOptional found =>
    cases filled
    rw [found]
    exact ⟨rfl, fun own same => by simp [same] at found⟩
  case h_6 t found noList =>
    cases filled
    rw [found]
    exact ⟨rfl, fun own same => by simp [same] at found⟩
  -- Contents of any other form are refused.
  all_goals cases filled

theorem Grammar.given?_build {grammar : Grammar} {head : Head} {given : List (String × Content)}
    (built : grammar.build kind head given = .ok t) (name : String) :
    (∃ (slot : Slot) (content : Content), slot.fill (given.lookup name) = .ok content ∧
        t.given? name = some content) ∨
      given.lookup name = none ∧ t.given? name = none := by
  obtain ⟨schema, -, built⟩ := exists_of_bind_eq_ok built
  split at built
  next => cases built
  next entries filled =>
    cases built
    unfold Schema.entries at filled
    split at filled
    next => cases filled
    next known =>
      obtain ⟨places, fills⟩ := Schema.fillAll_eq_ok filled
      cases found : (Tree.node head (some ⟨schema.kind, schema.isMethod⟩) entries).given? name with
      | some content =>
        obtain ⟨place, member, same⟩ := Tree.mem_of_given? found
        obtain ⟨slot, rfl, fill⟩ := fills _ member
        subst same
        exact .inl ⟨slot, content, fill, rfl⟩
      | none =>
        refine .inr ⟨?_, rfl⟩
        -- A name with a content would be declared, and what fills a slot is not absent.
        by_contra some
        obtain ⟨content, here⟩ := Option.ne_none_iff_exists'.1 some
        obtain ⟨before, behind, rfl, -⟩ := lookup_eq_some_iff.1 here
        have declared := find?_eq_none.1 known (name, content) (by simp)
        obtain ⟨slot, own⟩ := Option.ne_none_iff_exists'.1 (by simpa using declared)
        have listed : Place.slot slot ∈ entries.map Prod.fst :=
          places ▸ mem_map_of_mem (mem_of_find?_eq_some own)
        obtain ⟨⟨place, held⟩, member, rfl⟩ := mem_map.1 listed
        obtain ⟨_, ⟨⟩, fill⟩ := fills _ member
        have passed := findSome?_eq_none_iff.1 found _ (mem_reverse.2 member)
        have accepted := (Slot.fill_eq_ok fill).1
        have named : slot.name = name := by simpa using find?_some own
        cases held <;> simp_all [Place.name, Slot.Accepts]

/-- A list without gaps is the list of what it holds. -/
theorem map_some_reduceOption {items : List (Option α)} (full : ∀ item ∈ items, item.isSome) :
    items.reduceOption.map some = items := by
  induction items with
  | nil => rfl
  | cons item rest ih =>
    obtain ⟨first, later⟩ := forall_mem_cons.1 full
    obtain ⟨a, rfl⟩ := Option.isSome_iff_exists.1 first
    rw [reduceOption_cons_of_some, map_cons, ih later]

/-- A node that holds under each name what it was given; lists that it was given have no gaps. -/
structure Tree.Holds (t : Tree) (given : List (String × Content)) : Prop where
  trees : ∀ name, t.treesIn name = ((given.lookup name).getD .absent).trees
  full : ∀ name items, given.lookup name = some (.ofOptions items) →
    items = (t.treesIn name).map some

theorem Grammar.holds_build {grammar : Grammar} {head : Head} {given : List (String × Content)}
    (built : grammar.build kind head given = .ok t) : t.Holds given := by
  have trees : ∀ name, t.treesIn name = ((given.lookup name).getD .absent).trees := by
    intro name
    unfold Tree.treesIn
    rcases Grammar.given?_build built name with ⟨slot, content, fill, found⟩ | ⟨nothing, found⟩
    · rw [found, Option.getD_some, (Slot.trees_of_fill fill).1]
    · rw [found, nothing]
  refine ⟨trees, fun name items own => ?_⟩
  rw [trees, own, Option.getD_some, Content.trees_ofOptions]
  rcases Grammar.given?_build built name with ⟨slot, content, fill, -⟩ | ⟨nothing, -⟩
  · have full := (Slot.trees_of_fill fill).2 _ own
    refine (map_some_reduceOption fun item member => ?_).symm
    have isTree := full _ (mem_map_of_mem member)
    cases item with
    | none => cases isTree
    | some t => rfl
  · rw [own] at nothing
    cases nothing

namespace Java

/-- A node of a kind that holds what it was given. -/
structure Makes (kind : String) (given : Given) (t : Tree) : Prop where
  kind : t.kind? = some kind
  holds : t.Holds given

/-- A tree with the span of a parse node. -/
structure Spans (source : Source) (mark : Mark) (t : Tree) : Prop where
  start : (startOf source mark).result = .ok t.start
  stop : (stopOf source mark).result = .ok t.stop

/-- A lowering whose values, if it ends with one, are good. -/
abbrev Yields {α : Type} (good : α → Prop) (run : Lower α) : Prop :=
  run.Ends good fun _ => True

theorem yields_need (item : Option α) : Yields (· ∈ item) (need item) := by
  cases item with
  | none => exact .fail trivial
  | some a => exact .pure rfl

theorem yields_any (run : Lower α) : Yields (fun _ => True) run := by
  unfold Yields Traced.Ends
  split <;> trivial

theorem yields_result (run : Lower α) : Yields (run.result = .ok ·) run := by
  unfold Yields Traced.Ends
  split
  next found => exact found
  next => trivial

theorem yields_makeAt_makes (kind : String) (start stop : Int) (attributes : Attributes)
    (given : Given) :
    Yields (fun t => Makes kind given t ∧ t.start = start ∧ t.stop = stop)
      (makeAt kind start stop attributes given) := by
  unfold makeAt
  split
  next t built =>
    obtain ⟨kinded, headed⟩ := kind?_build built
    refine .pure ⟨⟨kinded, Grammar.holds_build built⟩, ?_⟩
    simp [Tree.start, Tree.stop, headed]
  next => exact .fail trivial

theorem yields_make_makes (source : Source) (kind : String) (mark : Mark) (attributes : Attributes)
    (given : Given) :
    Yields (fun t => Makes kind given t ∧ Spans source mark t)
      (make source kind mark attributes given) := by
  refine (yields_result (startOf source mark)).bind fun start starts => ?_
  refine (yields_result (stopOf source mark)).bind fun stop stops => ?_
  refine (yields_makeAt_makes kind start stop attributes given).imp fun t ⟨makes, same, also⟩ => ?_
  subst same also
  exact ⟨makes, starts, stops⟩

/-! ### Notes -/

/-- The note of a node is written from its children and their notes. -/
theorem note_lowerable (source : Source) (tree : ParseTree α) (role : Role) :
    (lowerable source tree).note role =
      lowerNode source tree.mark (ParseTree.annotateAll (lowerNode source) tree.children) role := by
  cases tree
  rfl

/-- Whether a node in the role is lowered as what its type says, unless its type has a meaning of
its own in the role. -/
def Role.isOwn : Role → Bool
  | .plain | .statement | .elementValue => true
  | .initializer | .enumConstant => false

variable {source : Source}

/-- Most nodes are lowered alike as a statement, as a value and as what their type says. -/
theorem note_of_meaning {tree : ParseTree α} {construct : Construct}
    (meaning : Construct.ofType tree.type = construct)
    (other : construct ≠ .switch ∧ construct ≠ .other) {role : Role} (own : role.isOwn) :
    (lowerable source tree).note role = lowerConstruct source construct tree.mark
      (ParseTree.annotateAll (lowerNode source) tree.children) := by
  subst meaning
  rw [note_lowerable]
  cases role with
  | plain => rfl
  | statement =>
    refine if_neg fun same => other.1 ?_
    rw [show tree.type = _ from same]
    decide
  | elementValue =>
    refine if_neg fun same => other.2 ?_
    rw [show tree.type = _ from same]
    decide
  | initializer | enumConstant => cases own

theorem Yields.exists_of_some {good : Tree → Prop} {run : Lower Tree} (yields : Yields good run)
    {item : Option Tree} (lowered : (some <$> run).result = .ok item) :
    ∃ t, item = some t ∧ good t := by
  have yields : Yields (fun item => ∃ t, item = some t ∧ good t) (some <$> run) :=
    yields.bind fun t fine => .pure ⟨t, rfl, fine⟩
  exact yields.of_result lowered

/-- A node that is lowered to a good tree wherever its type counts, if it is lowered. -/
def LowersTo {α : Type} (source : Source) (node : ParseTree α) (good : Tree → Prop) : Prop :=
  ∀ role : Role, role.isOwn → ∀ item, ((lowerable source node).note role).result = .ok item →
    ∃ t, item = some t ∧ good t

theorem LowersTo.of_meaning {node : ParseTree α} {good : Tree → Prop} {construct : Construct}
    (meaning : Construct.ofType node.type = construct)
    (other : construct ≠ .switch ∧ construct ≠ .other) {run : Lower Tree}
    (same : lowerConstruct source construct node.mark
      (ParseTree.annotateAll (lowerNode source) node.children) = some <$> run)
    (yields : Yields good run) : LowersTo source node good := by
  intro role own item lowered
  rw [note_of_meaning meaning other own, same] at lowered
  exact yields.exists_of_some lowered

/-! ### Array types -/

/-- The array type around an element, up to an offset. -/
def arrayAround (stop : Int) (element : Tree) : Tree :=
  .node { start := element.start, stop } (some ⟨"ARRAY_TYPE", false⟩)
    [(.slot (single "getType"), .tree element)]

/-- Array types can be built around everything. -/
theorem makeAt_arrayAround (stop : Int) (element : Tree) :
    makeAt "ARRAY_TYPE" element.start stop [] [("getType", .tree element)] =
      pure (arrayAround stop element) := rfl

theorem arrayOf_eq (stop : Int) (count : Nat) (element : Tree) :
    arrayOf stop count element = pure ((arrayAround stop)^[count] element) := by
  induction count generalizing element with
  | zero => rfl
  | succ count ih => exact ih (arrayAround stop element)

theorem start_iterate_arrayAround (stop : Int) (count : Nat) (element : Tree) :
    ((arrayAround stop)^[count] element).start = element.start := by
  induction count generalizing element with
  | zero => rfl
  | succ count ih => exact ih (arrayAround stop element)

/-- What a type becomes with the brackets behind a name: it is wrapped in an array type for each,
up to where they end. -/
def WrapsIn (source : Source) (dimensions : Option Part) (element type : Tree) : Prop :=
  match dimensions with
  | none => type = element
  | some part => ∃ stop, (stopOf source part.mark).result = .ok stop ∧
      type = (arrayAround stop)^[ParseTree.brackets part.children] element

theorem yields_wrapDimensions_wraps (source : Source) (element : Option Tree)
    (dimensions : Option Part) :
    Yields (Option.Rel (WrapsIn source dimensions) element)
      (wrapDimensions source element dimensions) := by
  cases element with
  | none => exact .pure .none
  | some element =>
    cases dimensions with
    | none => exact .pure (.some rfl)
    | some part =>
      refine (yields_result (stopOf source part.mark)).bind fun stop stops => ?_
      rw [arrayOf_eq]
      exact .pure (.some ⟨stop, stops, rfl⟩)

/-- The trees in a slot for a type: what the part of the type is lowered to, if it is there, with
the brackets behind a name. -/
def Typed (source : Source) (type dimensions : Option Part) (trees : List Tree) : Prop :=
  ∃ element item, (lower? .plain type).result = .ok element ∧
    Option.Rel (WrapsIn source dimensions) element item ∧ trees = item.toList

theorem Makes.typed {slot : String} {given : Given} (makes : Makes kind given t)
    {type dimensions : Option Part} {element item : Option Tree}
    (found : given.lookup slot = some (.ofOption item))
    (lowered : (lower? .plain type).result = .ok element)
    (wraps : Option.Rel (WrapsIn source dimensions) element item) :
    Typed source type dimensions (t.treesIn slot) := by
  refine ⟨element, item, lowered, wraps, ?_⟩
  rw [makes.holds.trees, found, Option.getD_some, Content.trees_ofOption]

namespace Typed

variable {source : Source} {type dimensions : Option Part} {trees : List Tree} {element : Tree}

/-- A type comes from a part that is lowered to a tree. -/
theorem origin (typed : Typed source type dimensions trees) (held : t ∈ trees) :
    ∃ part ∈ type, ∃ element, (part.note .plain).result = .ok (some element) ∧
      WrapsIn source dimensions element t := by
  obtain ⟨element, item, lowered, wraps, rfl⟩ := typed
  rw [Option.mem_toList] at held
  subst held
  cases wraps with
  | @some element _ wraps =>
    cases type with
    | none => cases lowered
    | some part => exact ⟨part, rfl, element, lowered, wraps⟩

/-- Where the part is lowered to a tree, there is a type. -/
theorem exists_of_lowered (typed : Typed source type dimensions trees) {part : Part}
    (found : part ∈ type) (lowered : (part.note .plain).result = .ok (some element)) :
    ∃ t, trees = [t] ∧ WrapsIn source dimensions element t := by
  obtain ⟨_, item, told, wraps, rfl⟩ := typed
  cases found
  cases lowered.symm.trans told
  cases wraps with
  | some wraps => exact ⟨_, rfl, wraps⟩

end Typed

end Java

end SyntaxGraph
