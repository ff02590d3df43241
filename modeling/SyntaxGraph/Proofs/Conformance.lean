import Mathlib.Data.List.Forall2
import SyntaxGraph.Proofs.Trace
import SyntaxGraph.Tree.Grammar
import SyntaxGraph.Tree.Walk

/-!
# Trees that conform to a grammar

A tree conforms to a grammar if each of its nodes has the slots that the grammar declares for its
kind, filled as their arities say. What a grammar builds from conforming trees conforms, and new
identities or attributes do not matter.
-/
namespace SyntaxGraph

open List

mutual

/-- All nodes of a tree in pre-order, wherever they stand. -/
def Tree.nodes : Tree → List Tree
  | .node head shape entries => .node head shape entries :: nodesOfEntries entries

def nodesOfEntries : List (Place × Content) → List Tree
  | [] => []
  | (_, content) :: rest => content.nodes ++ nodesOfEntries rest

def Content.nodes : Content → List Tree
  | .absent => []
  | .data _ => []
  | .tree t => t.nodes
  | .list items => nodesOfItems items

def nodesOfItems : List Content → List Tree
  | [] => []
  | item :: rest => item.nodes ++ nodesOfItems rest

end

/-- Whether a content is what a slot holds by its arity: a single slot a tree, an optional slot a
tree or nothing, and a list slot a list of trees. -/
def Slot.Accepts (slot : Slot) : Content → Prop
  | .absent => False
  | .data value => slot.arity = .optional ∧ value = .null
  | .tree _ => slot.arity ≠ .list
  | .list items => slot.arity = .list ∧ ∀ item ∈ items, item.tree?.isSome

/-- A node whose schema is the one of its kind in the grammar, with exactly the slots of that
schema, each holding what it accepts. -/
def Tree.Fits (grammar : Grammar) (t : Tree) : Prop :=
  ∃ schema, grammar.schema? schema.kind = some schema ∧ t.schema? = some schema ∧
    t.entries.map Prod.fst = schema.slots.map .slot ∧
    ∀ slot content, (.slot slot, content) ∈ t.entries → slot.Accepts content

/-- Every node of the tree fits its schema in the grammar. -/
def Tree.Conforms (grammar : Grammar) (t : Tree) : Prop :=
  ∀ u ∈ t.nodes, u.Fits grammar

/-- Every node below the content fits its schema in the grammar. -/
def Content.Conforms (grammar : Grammar) (content : Content) : Prop :=
  ∀ u ∈ content.nodes, u.Fits grammar

variable {grammar : Grammar}

/-! ### Nodes -/

theorem Tree.mem_nodes_self (t : Tree) : t ∈ t.nodes := by
  cases t
  simp [Tree.nodes]

variable {u : Tree} {entries : List (Place × Content)}

theorem mem_nodesOfEntries : u ∈ nodesOfEntries entries ↔ ∃ entry ∈ entries, u ∈ entry.2.nodes := by
  induction entries with
  | nil => simp [nodesOfEntries]
  | cons entry rest ih => simp [nodesOfEntries, ih]

theorem mem_nodesOfItems {items : List Content} :
    u ∈ nodesOfItems items ↔ ∃ item ∈ items, u ∈ item.nodes := by
  induction items with
  | nil => simp [nodesOfItems]
  | cons item rest ih => simp [nodesOfItems, ih]

/-- To prove something of all trees, one proves something of all contents with it, and the first of
a node from the second of its contents. -/
@[elab_as_elim]
theorem Tree.induct_contents (Q : Content → Prop) {motive : Tree → Prop}
    (node : ∀ head shape entries, (∀ entry ∈ entries, Q entry.2) →
      motive (.node head shape entries))
    (absent : Q .absent) (data : ∀ value, Q (.data value)) (tree : ∀ t, motive t → Q (.tree t))
    (list : ∀ items, (∀ item ∈ items, Q item) → Q (.list items)) (t : Tree) : motive t :=
  @Tree.rec motive Q (∀ entry ∈ ·, Q entry.2) (∀ item ∈ ·, Q item) (Q ·.2) node absent data tree
    list (forall_mem_nil _) (fun _ _ first rest => forall_mem_cons.2 ⟨first, rest⟩)
    (forall_mem_nil _) (fun _ _ first rest => forall_mem_cons.2 ⟨first, rest⟩)
    (fun _ _ held => held) t

theorem nodes_subset (t : Tree) : u ∈ t.nodes → u.nodes ⊆ t.nodes := by
  induction t using Tree.induct_contents
    (fun content => u ∈ content.nodes → u.nodes ⊆ content.nodes) with
  | node head shape entries below =>
    rw [Tree.nodes, mem_cons]
    rintro (rfl | met) v here
    · exact here
    · obtain ⟨entry, member, inside⟩ := mem_nodesOfEntries.1 met
      exact mem_cons_of_mem _ (mem_nodesOfEntries.2
        ⟨entry, member, below entry member inside here⟩)
  | absent met | data _ met => cases met
  | tree t ih met => exact ih met
  | list items each met =>
    intro v here
    obtain ⟨item, member, inside⟩ := mem_nodesOfItems.1 met
    exact mem_nodesOfItems.2 ⟨item, member, each item member inside here⟩

/-- A tree that a content directly holds is one of its nodes, with all nodes of its own. -/
theorem Content.nodes_subset_of_mem_trees {content : Content} (member : u ∈ content.trees) :
    u.nodes ⊆ content.nodes := by
  cases content with
  | absent | data value => cases member
  | tree own =>
    cases mem_singleton.1 member
    exact List.Subset.refl _
  | list items =>
    obtain ⟨item, listed, found⟩ := mem_filterMap.1 member
    cases item with
    | absent | data value | list inner => cases found
    | tree own =>
      cases found
      exact fun v below => mem_nodesOfItems.2 ⟨.tree u, listed, below⟩

theorem Tree.mem_children_iff {t : Tree} :
    u ∈ t.children ↔ ∃ entry ∈ t.entries, entry.1.isTraversed ∧ u ∈ entry.2.trees := by
  rw [Tree.children, mem_flatMap]
  refine exists_congr fun entry => and_congr_right fun _ => ?_
  by_cases traversed : entry.1.isTraversed <;> simp [traversed]

theorem mem_nodes_of_mem_walk (t : Tree) : u ∈ t.walk → u ∈ t.nodes := by
  induction t using Tree.induct_contents
    (fun content => ∀ child ∈ content.trees, u ∈ child.walk → u ∈ child.nodes) with
  | node head shape entries below =>
    rw [Tree.walk_eq, Tree.nodes, mem_cons, mem_cons]
    refine Or.imp_right fun met => ?_
    obtain ⟨child, listed, walked⟩ := mem_flatMap.1 met
    obtain ⟨entry, member, -, held⟩ := Tree.mem_children_iff.1 listed
    exact mem_nodesOfEntries.2 ⟨entry, member,
      Content.nodes_subset_of_mem_trees held (below entry member child held walked)⟩
  | absent child held | data _ child held => cases held
  | tree t ih child held walked =>
    cases mem_singleton.1 held
    exact ih walked
  | list items each child held walked =>
    obtain ⟨item, member, same⟩ := mem_filterMap.1 held
    refine each item member child ?_ walked
    cases item <;> cases same
    exact mem_singleton_self child

variable {P : Tree → Prop} {item : Option Tree}

theorem forall_nodes_ofOption (all : ∀ t ∈ item, ∀ u ∈ t.nodes, P u) : ∀ u ∈
    (Content.ofOption item).nodes, P u := by
  cases item with
  | none => exact forall_mem_nil _
  | some t => exact all t rfl

variable {items : List (Option Tree)}

theorem forall_nodes_ofOptions (all : ∀ item ∈ items, ∀ t ∈ item, ∀ u ∈ t.nodes, P u) :
    ∀ u ∈ (Content.ofOptions items).nodes, P u := by
  intro u member
  obtain ⟨content, listed, below⟩ := mem_nodesOfItems.1 member
  obtain ⟨item, own, rfl⟩ := mem_map.1 listed
  exact forall_nodes_ofOption (all item own) u below

theorem ofTrees_eq_ofOptions (trees : List Tree) :
    Content.ofTrees trees = .ofOptions (trees.map some) := by
  simp [Content.ofTrees, Content.ofOptions, Function.comp_def, Content.ofOption]

theorem forall_nodes_ofTrees {trees : List Tree}
    (all : ∀ t ∈ trees, ∀ u ∈ t.nodes, P u) : ∀ u ∈ (Content.ofTrees trees).nodes, P u := by
  rw [ofTrees_eq_ofOptions]
  refine forall_nodes_ofOptions (forall_mem_map.2 fun t member => ?_)
  rintro _ ⟨⟩
  exact all t member

/-! ### Conformance by parts -/

variable {head : Head} {shape : Option Shape} {t : Tree}

theorem conforms_node_iff :
    (Tree.node head shape entries).Conforms grammar ↔
      (Tree.node head shape entries).Fits grammar ∧
        ∀ entry ∈ entries, entry.2.Conforms grammar := by
  simp only [Tree.Conforms, Tree.nodes, forall_mem_cons, mem_nodesOfEntries, Content.Conforms]
  exact and_congr_right fun _ =>
    ⟨fun all entry member u below => all u ⟨entry, member, below⟩,
      fun all u ⟨entry, member, below⟩ => all entry member u below⟩

@[simp]
theorem conforms_data (value : Json) : (Content.data value).Conforms grammar := by
  simp [Content.Conforms, Content.nodes]

@[simp]
theorem conforms_tree_iff : (Content.tree t).Conforms grammar ↔ t.Conforms grammar := Iff.rfl

@[simp]
theorem conforms_list_iff {items : List Content} :
    (Content.list items).Conforms grammar ↔ ∀ item ∈ items, item.Conforms grammar := by
  simp only [Content.Conforms, Content.nodes, mem_nodesOfItems]
  exact ⟨fun all item member u below => all u ⟨item, member, below⟩,
    fun all u ⟨item, member, below⟩ => all item member u below⟩

@[simp]
theorem conforms_ofOption_iff :
    (Content.ofOption item).Conforms grammar ↔ ∀ t ∈ item, t.Conforms grammar := by
  cases item <;> simp [Content.ofOption]

@[simp]
theorem conforms_ofTrees_iff {trees : List Tree} :
    (Content.ofTrees trees).Conforms grammar ↔ ∀ t ∈ trees, t.Conforms grammar := by
  simp [Content.ofTrees]

theorem Tree.Fits.typed (fits : t.Fits grammar) : t.shape.isSome := by
  obtain ⟨schema, -, own, -⟩ := fits
  obtain ⟨shape, same, -⟩ := Option.map_eq_some_iff.1 own
  simp [same]

namespace Tree.Conforms

variable {t : Tree}

theorem fits (conforms : t.Conforms grammar) : t.Fits grammar := by
  obtain ⟨head, shape, entries⟩ := t
  exact (conforms_node_iff.1 conforms).1

theorem entry (conforms : t.Conforms grammar) {entry : Place × Content}
    (member : entry ∈ t.entries) : entry.2.Conforms grammar := by
  obtain ⟨head, shape, entries⟩ := t
  exact (conforms_node_iff.1 conforms).2 entry member

theorem of_mem_walk (conforms : t.Conforms grammar) (met : u ∈ t.walk) : u.Conforms grammar :=
  fun _ below => conforms _ (nodes_subset t (mem_nodes_of_mem_walk t met) below)

theorem typed (conforms : t.Conforms grammar) : ∀ u ∈ t.walk, u.shape.isSome :=
  fun _ met => (conforms.of_mem_walk met).fits.typed

end Tree.Conforms

/-! ### What a grammar builds -/

variable {slot : Slot} {content : Content}

/-- A slot is filled with what it was given, or with the empty list, and it accepts that. -/
theorem Slot.fill_eq_ok {given : Option Content} (filled : slot.fill given = .ok content) :
    slot.Accepts content ∧ (content = given.getD slot.empty ∨ content = .list []) := by
  unfold Slot.fill at filled
  split at filled
  case h_1 items isList found =>
    split at filled
    next trees =>
      cases filled
      exact ⟨⟨isList, all_eq_true.1 trees⟩, .inl found.symm⟩
    next => cases filled
  case h_2 isList found =>
    cases filled
    exact ⟨⟨isList, by simp⟩, .inr rfl⟩
  case h_5 isOptional found =>
    cases filled
    exact ⟨⟨isOptional, rfl⟩, .inl found.symm⟩
  case h_6 t found noList =>
    cases filled
    exact ⟨noList, .inl found.symm⟩
  -- Contents of any other form are refused.
  all_goals cases filled

theorem Slot.conforms_empty (slot : Slot) : slot.empty.Conforms grammar := by
  unfold Slot.empty
  split <;> simp

theorem Slot.conforms_of_fill {given : Option Content} (filled : slot.fill given = .ok content)
    (conform : ∀ c ∈ given, c.Conforms grammar) :
    content.Conforms grammar := by
  obtain ⟨-, rfl | rfl⟩ := Slot.fill_eq_ok filled
  · cases given with
    | none => exact slot.conforms_empty
    | some c => exact conform c rfl
  · simp

variable {given : List (String × Content)}

/-- The places are the slots in order, each filled with what was given under its name. -/
theorem Schema.fillAll_eq_ok {slots : List Slot}
    (filled : Schema.fillAll given slots = .ok entries) :
    entries.map Prod.fst = slots.map .slot ∧
      ∀ entry ∈ entries, ∃ slot, entry.1 = .slot slot ∧
        slot.fill (given.lookup slot.name) = .ok entry.2 := by
  induction slots generalizing entries with
  | nil =>
    cases filled
    simp
  | cons slot rest ih =>
    obtain ⟨content, here, filled⟩ := exists_of_bind_eq_ok filled
    obtain ⟨others, later, filled⟩ := exists_of_bind_eq_ok filled
    obtain ⟨places, fills⟩ := ih later
    cases filled
    exact ⟨by simp [places], forall_mem_cons.2 ⟨⟨slot, rfl, here⟩, fills⟩⟩

theorem Schema.fillAll_cons {rest : List Slot}
    (here : slot.fill (given.lookup slot.name) = .ok content)
    (later : Schema.fillAll given rest = .ok entries) :
    Schema.fillAll given (slot :: rest) = .ok ((.slot slot, content) :: entries) := by
  rw [Schema.fillAll, here, later]
  rfl

variable {kind : String}

theorem Grammar.schemaOf_eq_ok {schema : Schema}
    (found : grammar.schemaOf kind = .ok schema) :
    schema.kind = kind ∧ grammar.schema? schema.kind = some schema := by
  unfold Grammar.schemaOf at found
  split at found
  next declared here =>
    cases found
    have same : schema.kind = kind := by simpa using find?_some here
    exact ⟨same, same ▸ here⟩
  next => cases found

/-- A node of a declared kind is built from the contents of its slots. -/
theorem Grammar.build_eq {schema : Schema}
    (found : grammar.schema? kind = some schema) (head : Head) (given : List (String × Content)) :
    grammar.build kind head given =
      match schema.entries given with
      | .error fault => .error ⟨kind, fault⟩
      | .ok entries => .ok (.node head (some ⟨schema.kind, schema.isMethod⟩) entries) := by
  unfold Grammar.build Grammar.schemaOf
  rw [found]
  rfl

theorem Grammar.build_eq_ok (built : grammar.build kind head given = .ok t) :
    ∃ schema entries, schema.kind = kind ∧ grammar.schema? schema.kind = some schema ∧
      t = .node head (some ⟨schema.kind, schema.isMethod⟩) entries ∧
      Schema.fillAll given schema.slots = .ok entries := by
  obtain ⟨schema, found, built⟩ := exists_of_bind_eq_ok built
  obtain ⟨same, declared⟩ := schemaOf_eq_ok found
  split at built
  next => cases built
  next entries filled =>
    cases built
    unfold Schema.entries at filled
    split at filled
    · cases filled
    · exact ⟨schema, entries, same, declared, rfl, filled⟩

/-- The slots of a schema are read off the places of the node. -/
theorem schema?_node (head : Head) (shape : Option Shape) (entries : List (Place × Content)) :
    (Tree.node head shape entries).schema? = shape.map fun shape =>
      ⟨shape.kind, (entries.map Prod.fst).filterMap Place.slot?, shape.isMethod⟩ := by
  rw [filterMap_map]
  rfl

theorem Grammar.conforms_build (built : grammar.build kind head given = .ok t)
    (conform : ∀ entry ∈ given, entry.2.Conforms grammar) : t.Conforms grammar := by
  obtain ⟨schema, entries, -, declared, rfl, filled⟩ := build_eq_ok built
  obtain ⟨places, fills⟩ := Schema.fillAll_eq_ok filled
  refine conforms_node_iff.2 ⟨⟨schema, declared, ?_, places, ?_⟩, ?_⟩
  · -- The places are the slots of the schema, so the node has that very schema.
    have slots : (schema.slots.map Place.slot).filterMap Place.slot? = schema.slots := by
      rw [filterMap_map]
      exact filterMap_some
    rw [schema?_node, places, slots, Option.map_some]
  · intro slot content member
    obtain ⟨own, same, fill⟩ := fills _ member
    cases same
    exact (Slot.fill_eq_ok fill).1
  · intro entry member
    obtain ⟨slot, -, fill⟩ := fills entry member
    refine Slot.conforms_of_fill fill fun content found => ?_
    obtain ⟨before, behind, rfl, -⟩ := lookup_eq_some_iff.1 found
    exact conform (slot.name, content) (by simp)

/-! ### What a node was given -/

/-- What stands in a place of a node was given to it, or is empty. -/
theorem given_or_empty (built : grammar.build kind head given = .ok t) :
    ∀ entry ∈ t.entries, (∃ name, (name, entry.2) ∈ given) ∨ entry.2.nodes = [] := by
  obtain ⟨schema, entries, -, -, rfl, filled⟩ := Grammar.build_eq_ok built
  intro entry member
  obtain ⟨slot, -, fill⟩ := (Schema.fillAll_eq_ok filled).2 entry member
  obtain ⟨-, same | same⟩ := Slot.fill_eq_ok fill
  · cases found : given.lookup slot.name with
    | none =>
      rw [found, Slot.empty] at same
      split at same <;> exact .inr (by simp [same, Content.nodes, nodesOfItems])
    | some content =>
      rw [found] at same
      obtain ⟨before, behind, rfl, -⟩ := lookup_eq_some_iff.1 found
      exact .inl ⟨slot.name, by simp [same]⟩
  · exact .inr (by simp [same, Content.nodes, nodesOfItems])

theorem kind?_build (built : grammar.build kind head given = .ok t) :
    t.kind? = some kind ∧ t.head = head := by
  obtain ⟨schema, entries, rfl, -, rfl, -⟩ := Grammar.build_eq_ok built
  exact ⟨rfl, rfl⟩

theorem forall_nodes_build (built : grammar.build kind head given = .ok t) (own : P t)
    (below : ∀ entry ∈ given, ∀ u ∈ entry.2.nodes, P u) : ∀ u ∈ t.nodes, P u := by
  have places := given_or_empty built
  obtain ⟨head, shape, entries⟩ := t
  refine forall_mem_cons.2 ⟨own, fun u member => ?_⟩
  obtain ⟨entry, listed, inside⟩ := mem_nodesOfEntries.1 member
  rcases places entry listed with ⟨name, given⟩ | empty
  · exact below _ given u inside
  · rw [empty] at inside
    cases inside

variable {name : String}

theorem Tree.mem_of_given? (found : t.given? name = some content) :
    ∃ place, (place, content) ∈ t.entries ∧ place.name = name := by
  obtain ⟨⟨place, held⟩, member, here⟩ := exists_of_findSome?_eq_some found
  simp only at here
  split at here
  next same =>
    refine ⟨place, ?_, same⟩
    split at here
    · cases here
    · cases here
      simpa using member
  next => cases here

namespace Tree.Fits

variable {t : Tree} {schema : Schema}

/-- What a fitting node was given under a name, a slot of that name in its schema accepts. -/
theorem accepts_given? (fits : t.Fits grammar) (found : t.given? name = some content) :
    ∃ schema ∈ grammar.schemas, t.schema? = some schema ∧
      ∃ slot ∈ schema.slots, slot.name = name ∧ slot.Accepts content := by
  obtain ⟨schema, declared, own, places, accepts⟩ := fits
  obtain ⟨place, member, same⟩ := mem_of_given? found
  have listed : place ∈ schema.slots.map .slot :=
    places ▸ mem_map_of_mem member
  obtain ⟨slot, here, rfl⟩ := mem_map.1 listed
  exact ⟨schema, mem_of_find?_eq_some declared, own, slot, here, same, accepts _ _ member⟩

theorem given?_isSome (fits : t.Fits grammar) (own : t.schema? = some schema)
    (declared : slot ∈ schema.slots) : (t.given? slot.name).isSome := by
  obtain ⟨same, -, found, places, accepts⟩ := fits
  cases own.symm.trans found
  have listed : Place.slot slot ∈ t.entries.map Prod.fst :=
    places ▸ mem_map_of_mem declared
  obtain ⟨⟨place, content⟩, member, rfl⟩ := mem_map.1 listed
  refine findSome?_isSome_iff.2 ⟨_, mem_reverse.2 member, ?_⟩
  -- No slot accepts a content that is absent.
  have accepted := accepts slot content member
  cases content <;> simp_all [Place.name, Slot.Accepts]

end Tree.Fits

theorem Tree.Conforms.given? (conforms : t.Conforms grammar)
    (found : t.given? name = some content) : content.Conforms grammar := by
  obtain ⟨place, member, -⟩ := mem_of_given? found
  exact conforms.entry member

/-! ### Replacing contents -/

/-- Contents that stand in the places of others and are accepted wherever these were. -/
def Alike : List (Place × Content) → List (Place × Content) → Prop :=
  List.Forall₂ fun old new => new.1 = old.1 ∧ ∀ slot : Slot, slot.Accepts old.2 → slot.Accepts new.2

variable {old new : List (Place × Content)}

theorem Alike.places (alike : Alike old new) : new.map Prod.fst = old.map Prod.fst := by
  induction alike with
  | nil => rfl
  | cons here _ ih => simp [here.1, ih]

theorem Alike.accepts (alike : Alike old new)
    (accepts : ∀ slot content, (.slot slot, content) ∈ old → slot.Accepts content) :
    ∀ slot content, (.slot slot, content) ∈ new → slot.Accepts content := by
  induction alike with
  | nil => simp
  | @cons a b rest others here _ ih =>
    intro slot content member
    rcases mem_cons.1 member with rfl | later
    · -- The old content stands in the same slot, which accepted it.
      have first : a = (.slot slot, a.2) := Prod.ext here.1.symm rfl
      exact here.2 slot (accepts slot a.2 (first ▸ mem_cons_self))
    · exact ih (fun slot content member => accepts slot content (mem_cons_of_mem _ member))
        slot content later

theorem Tree.Fits.replace {other : Head} (fits : (Tree.node head shape old).Fits grammar)
    (alike : Alike old new) : (Tree.node other shape new).Fits grammar := by
  obtain ⟨schema, declared, own, places, accepts⟩ := fits
  refine ⟨schema, declared, ?_, alike.places.trans places, alike.accepts accepts⟩
  rw [schema?_node] at own ⊢
  rw [alike.places, own]

theorem Tree.Conforms.replace {other : Head}
    (conforms : (Tree.node head shape old).Conforms grammar)
    (alike : Alike old new) (conform : ∀ entry ∈ new, entry.2.Conforms grammar) :
    (Tree.node other shape new).Conforms grammar :=
  conforms_node_iff.2 ⟨conforms.fits.replace alike, conform⟩

theorem Tree.Conforms.withAttribute (conforms : t.Conforms grammar) (name : String) (value : Json) :
    (t.withAttribute name value).Conforms grammar := by
  obtain ⟨head, shape, entries⟩ := t
  have alike : Alike entries entries := List.forall₂_same.2 fun _ _ => ⟨rfl, fun _ kept => kept⟩
  exact conforms.replace alike fun _ => conforms.entry

/-! ### New identities -/

theorem isTree_renumber {items : List Content} (trees : ∀ item ∈ items, item.tree?.isSome)
    (next : Nat) : ∀ item ∈ (renumberItems next items).1, item.tree?.isSome := by
  induction items generalizing next with
  | nil => exact trees
  | cons item rest ih =>
    have first := trees item mem_cons_self
    refine forall_mem_cons.2 ⟨?_, ih (fun item member => trees item (by simp [member])) _⟩
    cases item with
    | tree t => rfl
    | absent | data value | list items => cases first

theorem Slot.accepts_renumber (accepted : slot.Accepts content)
    (next : Nat) : slot.Accepts (content.renumber next).1 := by
  cases content with
  | absent | data value | tree t => exact accepted
  | list items => exact ⟨accepted.1, isTree_renumber accepted.2 next⟩

theorem alike_renumber (entries : List (Place × Content)) (next : Nat) :
    Alike entries (renumberEntries next entries).1 := by
  induction entries generalizing next with
  | nil => exact .nil
  | cons entry rest ih =>
    exact .cons ⟨rfl, fun _ accepted => Slot.accepts_renumber accepted _⟩ (ih _)

mutual

/-- What new identities leave alone in each node they leave alone in all nodes of a tree. -/
theorem forall_nodes_renumber (kept : ∀ u next, P u → P (u.renumber next).1) (t : Tree)
    (all : ∀ u ∈ t.nodes, P u) (next : Nat) : ∀ u ∈ (t.renumber next).1.nodes, P u := by
  match t with
  | .node head shape entries =>
    obtain ⟨own, below⟩ := forall_mem_cons.1 all
    exact forall_mem_cons.2 ⟨kept _ next own, forall_nodes_renumberEntries kept entries below _⟩

theorem forall_nodes_renumberEntries (kept : ∀ u next, P u → P (u.renumber next).1)
    (entries : List (Place × Content)) (all : ∀ u ∈ nodesOfEntries entries, P u) (next : Nat) :
    ∀ u ∈ nodesOfEntries (renumberEntries next entries).1, P u := by
  match entries with
  | [] => exact all
  | (place, content) :: rest =>
    obtain ⟨first, later⟩ := forall_mem_append.1 all
    exact forall_mem_append.2 ⟨forall_nodes_renumberContent kept content first _,
      forall_nodes_renumberEntries kept rest later _⟩

theorem forall_nodes_renumberContent (kept : ∀ u next, P u → P (u.renumber next).1)
    (content : Content) (all : ∀ u ∈ content.nodes, P u) (next : Nat) :
    ∀ u ∈ (content.renumber next).1.nodes, P u := by
  match content with
  | .absent | .data _ => exact all
  | .tree t => exact forall_nodes_renumber kept t all next
  | .list items => exact forall_nodes_renumberItems kept items all next

theorem forall_nodes_renumberItems (kept : ∀ u next, P u → P (u.renumber next).1)
    (items : List Content) (all : ∀ u ∈ nodesOfItems items, P u) (next : Nat) :
    ∀ u ∈ nodesOfItems (renumberItems next items).1, P u := by
  match items with
  | [] => exact all
  | item :: rest =>
    obtain ⟨first, later⟩ := forall_mem_append.1 all
    exact forall_mem_append.2 ⟨forall_nodes_renumberContent kept item first _,
      forall_nodes_renumberItems kept rest later _⟩

end

theorem Tree.Conforms.renumber (t : Tree) (conforms : t.Conforms grammar) (next : Nat) :
    (t.renumber next).1.Conforms grammar := by
  refine forall_nodes_renumber (fun u next fits => ?_) t conforms next
  obtain ⟨head, shape, entries⟩ := u
  exact fits.replace (alike_renumber entries _)

theorem forall_renumberOption (kept : ∀ t next, P t → P (t.renumber next).1)
    (holds : ∀ t ∈ item, P t) (next : Nat) :
    ∀ t ∈ (renumberOption next item).1, P t := by
  cases item with
  | none => exact holds
  | some t =>
    rintro _ ⟨⟩
    exact kept t next (holds t rfl)

theorem forall_renumberOptions (kept : ∀ t next, P t → P (t.renumber next).1)
    (hold : ∀ item ∈ items, ∀ t ∈ item, P t) (next : Nat) :
    ∀ item ∈ (renumberOptions next items).1, ∀ t ∈ item, P t := by
  induction items generalizing next with
  | nil => exact hold
  | cons item rest ih =>
    obtain ⟨here, later⟩ := forall_mem_cons.1 hold
    exact forall_mem_cons.2 ⟨forall_renumberOption kept here next, ih later _⟩

end SyntaxGraph
