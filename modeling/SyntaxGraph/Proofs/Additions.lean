import SyntaxGraph.Proofs.Constructors
import SyntaxGraph.Proofs.Traversal

/-!
# What adding constructors changes

A type declaration that lacks a constructor gains one before its other members, and nothing else in
the tree changes. Nodes are told apart by their identities here: a type declaration that stands in
several places of a tree is one node, and has one constructor.

Main statement: constructors are added for the type declarations on the walk that lack one, as many
as there are, and no type declaration lacks one then.
-/
namespace SyntaxGraph

open List

/-- Nodes of the tree with one identity are the same node. -/
def Tree.IsIdentified (t : Tree) : Prop :=
  ∀ u ∈ t.nodes, ∀ v ∈ t.nodes, u.id = v.id → u = v

mutual

/-- The second tree is the first with the constructor of each lacking node before the members of
that node, wherever it stands. -/
inductive Tree.Gains (lacking : List Tree) (constructor : Tree → Tree) : Tree → Tree → Prop
  | kept {head : Head} {shape : Option Shape} {old new : List (Place × Content)}
    (complete : .node head shape old ∉ lacking)
    (below : List.Forall₂ (EntryGains lacking constructor) old new) :
    Tree.Gains lacking constructor (.node head shape old) (.node head shape new)
  | gained {head : Head} {shape : Option Shape} {place : Place} {items newItems : List Content}
    {front back newFront newBack : List (Place × Content)} {t : Tree}
    (incomplete : t ∈ lacking)
    (parts : t = .node head shape (front ++ (place, .list items) :: back))
    (isMembers : place.name = "getMembers")
    (before : List.Forall₂ (EntryGains lacking constructor) front newFront)
    (members : List.Forall₂ (Content.Gains lacking constructor) items newItems)
    (behind : List.Forall₂ (EntryGains lacking constructor) back newBack) :
    Tree.Gains lacking constructor t
      (.node head shape (newFront ++ (place, .list (.tree (constructor t) :: newItems)) :: newBack))

/-- What stands in a place of a node gains constructors. -/
inductive EntryGains (lacking : List Tree) (constructor : Tree → Tree) :
    Place × Content → Place × Content → Prop
  | entry {place : Place} {old new : Content} (content : old.Gains lacking constructor new) :
    EntryGains lacking constructor (place, old) (place, new)

/-- The trees of a content gain constructors. -/
inductive Content.Gains (lacking : List Tree) (constructor : Tree → Tree) :
    Content → Content → Prop
  | absent : Content.Gains lacking constructor .absent .absent
  | data {value : Json} : Content.Gains lacking constructor (.data value) (.data value)
  | tree {old new : Tree} (gains : old.Gains lacking constructor new) :
    Content.Gains lacking constructor (.tree old) (.tree new)
  | list {old new : List Content}
    (each : List.Forall₂ (Content.Gains lacking constructor) old new) :
    Content.Gains lacking constructor (.list old) (.list new)

end

variable {t : Tree}

namespace Java

/-- The names of the parameters in the constructor of a type declaration: those of its components,
if it is a record. -/
def parameterNames (t : Tree) : List Json :=
  if t.kind? = some "RECORD" then
    ((t.treesIn "getMembers").filter isComponent).map fun component =>
      (component.attribute? "name").getD (.str "")
  else []

/-- The constructor that nobody wrote for a type declaration: a generated method at the start of the
declaration. -/
structure IsDefaultConstructor (owner t : Tree) : Prop where
  shape : t.shape = some ⟨"METHOD", true⟩
  attributes : t.head.attributes = [("name", .str constructorName), ("compact", .bool false)]
  generated : t.head.generated = true
  start : t.start = owner.start
  stop : t.stop = owner.start
  parameters : (t.treesIn "getParameters").map (·.attribute? "name") =
    (parameterNames owner).map some

variable {plan : Plan}

/-! ### Nodes with planned constructors -/

theorem trees_addToContent (plan : Plan) (content : Content) :
    (addToContent plan content).trees = content.trees.map (addTo plan) := by
  cases content with
  | absent | data value | tree t => rfl
  | list items => exact trees_addToItems plan items

/-- What a node was given is given to it still, with the planned constructors; only the members of a
node that is planned itself may be more. -/
theorem given?_addTo {name : String}
    (kept : plan.lookup t.id = none ∨ name ≠ "getMembers") :
    (addTo plan t).given? name = (t.given? name).map (addToContent plan) := by
  obtain ⟨head, shape, entries⟩ := t
  have below : (Tree.node head shape (addToEntries plan entries)).given? name =
      ((Tree.node head shape entries).given? name).map (addToContent plan) := by
    simp only [Tree.given?, Tree.entries, addToEntries_eq, ← map_reverse, findSome?_map,
      map_findSome?]
    congr 1
    funext entry
    obtain ⟨place, content⟩ := entry
    by_cases same : place.name = name
    · cases content <;> simp [same, addToContent]
    · simp [same]
  rw [addTo_node]
  split
  next planned =>
    -- The constructor of the node comes under another name.
    have other : name ≠ "getMembers" := kept.resolve_left (by simp [Tree.id, Tree.head, planned])
    rw [← below]
    simp only [Tree.given?, Tree.entries, withConstructor, ← map_reverse, findSome?_map]
    congr 1
    funext entry
    obtain ⟨place, content⟩ := entry
    by_cases isMembers : place.name = "getMembers"
    · simp [isMembers, other.symm]
    · simp [isMembers]
  next => exact below

theorem treesIn_addTo {name : String}
    (kept : plan.lookup t.id = none ∨ name ≠ "getMembers") :
    (addTo plan t).treesIn name = (t.treesIn name).map (addTo plan) := by
  rw [Tree.treesIn, Tree.treesIn, given?_addTo kept]
  cases t.given? name with
  | none => rfl
  | some content => exact trees_addToContent plan content

theorem kind?_addTo (plan : Plan) (t : Tree) : (addTo plan t).kind? = t.kind? := by
  rw [Tree.kind?, shape_addTo, Tree.kind?]

theorem attribute?_addTo (plan : Plan) (t : Tree) (name : String) :
    (addTo plan t).attribute? name = t.attribute? name := by
  rw [Tree.attribute?, head_addTo, Tree.attribute?]

theorem isConstructor_addTo (plan : Plan) (t : Tree) :
    isConstructor (addTo plan t) = isConstructor t := by
  simp only [isConstructor, kind?_addTo, attribute?_addTo]

theorem isComponent_addTo (plan : Plan) (t : Tree) :
    isComponent (addTo plan t) = isComponent t := by
  simp only [isComponent, attribute?_addTo]

theorem isCompact_addTo (plan : Plan) (t : Tree) : isCompact (addTo plan t) = isCompact t := by
  simp only [isCompact, attribute?_addTo]

theorem length_parameters_addTo (plan : Plan) (t : Tree) :
    ((addTo plan t).treesIn "getParameters").length = (t.treesIn "getParameters").length := by
  rw [treesIn_addTo (.inr (by decide)), length_map]

theorem lacksConstructor_addTo_iff (unplanned : plan.lookup t.id = none) :
    LacksConstructor (addTo plan t) ↔ LacksConstructor t := by
  simp only [LacksConstructor, kind?_addTo, treesIn_addTo (.inl unplanned), forall_mem_map,
    isConstructor_addTo, isCompact_addTo, length_parameters_addTo, countP_map,
    Function.comp_def, isComponent_addTo]

/-! ### Type declarations -/

theorem exists_parts (java : IsJava t)
    (constructed : t.kind?.getD "" ∈ constructedKinds) : ∃ head shape front items,
      t = .node head (some shape) (front ++ [(.slot (list "getMembers"), .list items)]) ∧
      ∀ entry ∈ front, entry.1.name ≠ "getMembers" := by
  have known : ∀ schema ∈ grammar.schemas, schema.kind ∈ constructedKinds →
      schema.slots = classSlots := by decide +kernel
  obtain ⟨head, _ | shape, entries⟩ := t
  · simp [Tree.kind?, Tree.shape, constructedKinds] at constructed
  · obtain ⟨schema, declared, own, places, accepts⟩ := java.fits
    have kind : shape.kind = schema.kind := congrArg Schema.kind (Option.some.inj own)
    rw [known schema (mem_of_find?_eq_some declared) (kind ▸ constructed)] at places
    -- Of the five places the last one is split off.
    obtain ⟨front, last, rfl, before, here⟩ := map_eq_append_iff.1
      (show entries.map Prod.fst = (classSlots.take 4).map .slot ++ [.slot (list "getMembers")]
        from places)
    obtain ⟨⟨place, content⟩, rest, rfl, rfl, none⟩ := map_eq_cons_iff.1 here
    cases map_eq_nil_iff.1 none
    -- A slot for a list accepts nothing else.
    have accepted := accepts (list "getMembers") content (by simp [Tree.entries])
    cases content with
    | absent => exact accepted.elim
    | data value => cases accepted.1
    | tree t => exact absurd rfl accepted
    | list items =>
      refine ⟨head, shape, front, items, rfl, fun entry member => ?_⟩
      have others : ∀ place ∈ (classSlots.take 4).map Place.slot, place.name ≠ "getMembers" := by
        decide
      exact others _ (before ▸ mem_map_of_mem member)

/-- The constructor of a planned type declaration, for its members with their own constructors. -/
def constructorOf (plan : Plan) (t : Tree) : Tree :=
  match defaultConstructor (t.kind?.getD "") t.start ((plan.lookup t.id).getD 0)
    ((t.treesIn "getMembers").map (addTo plan)) with
  | .ok constructor => constructor
  | .error _ => t

theorem defaultConstructor_eq_constructorOf (plan : Plan) (java : IsJava t)
    (constructed : t.kind?.getD "" ∈ constructedKinds) :
    defaultConstructor (t.kind?.getD "") t.start ((plan.lookup t.id).getD 0)
      ((t.treesIn "getMembers").map (addTo plan)) = .ok (constructorOf plan t) := by
  have members : AreJava ((t.treesIn "getMembers").map (addTo plan)) :=
    forall_mem_map.2 fun u member =>
      isJava_addTo plan u ((exists_members java constructed).2 u member)
  obtain ⟨constructor, built, -⟩ := exists_defaultConstructor (t.kind?.getD "") t.start
    ((plan.lookup t.id).getD 0) members
  rw [constructorOf, built]

variable {position : Int} {next : Nat} {parameters : List Tree}

/-- A parameter was made from a component, whose name and type it has. -/
def MadeFrom (position : Int) (parameter component : Tree) : Prop :=
  ∃ number flags, implicitModifiers (number + 1) = .ok flags ∧
    nodeAt number "VARIABLE" position [("name", (component.attribute? "name").getD (.str ""))]
      [("getModifiers", .tree flags),
        ("getType", (component.given? "getType").getD (.data .null))] = .ok parameter

theorem madeFrom_of_componentParameters {components : List Tree}
    (made : componentParameters position next components = .ok parameters) :
    List.Forall₂ (MadeFrom position) parameters components := by
  induction components generalizing next parameters with
  | nil =>
    cases made
    exact .nil
  | cons component rest ih =>
    obtain ⟨flags, flagged, made⟩ := exists_of_bind_eq_ok made
    obtain ⟨first, built, made⟩ := exists_of_bind_eq_ok made
    obtain ⟨others, listed, made⟩ := exists_of_bind_eq_ok made
    cases made
    exact .cons ⟨next, flags, flagged, built⟩ (ih listed)

theorem names_of_componentParameters {components : List Tree}
    (made : componentParameters position next components = .ok parameters) :
    parameters.map (·.attribute? "name") =
      components.map fun component => some ((component.attribute? "name").getD (.str "")) := by
  rw [← List.forall₂_eq_eq_eq, List.forall₂_map_left_iff, List.forall₂_map_right_iff]
  refine (madeFrom_of_componentParameters made).imp ?_
  rintro parameter component ⟨_, _, -, built⟩
  rw [Tree.attribute?, (kind?_build built).2]
  rfl

theorem parts_of_constructorWith {statements : List Tree}
    (made : constructorWith position next parameters statements = .ok t) :
    t.head = { id := next, start := position, stop := position, generated := true
               attributes := [("name", .str constructorName), ("compact", .bool false)] } ∧
      t.treesIn "getParameters" = parameters := by
  obtain ⟨flags, -, made⟩ := exists_of_bind_eq_ok made
  obtain ⟨body, -, made⟩ := exists_of_bind_eq_ok made
  rw [build_constructor] at made
  cases made
  exact ⟨rfl, Content.trees_ofTrees parameters⟩

theorem isDefaultConstructor_constructorOf (plan : Plan) (java : IsJava t)
    (constructed : t.kind?.getD "" ∈ constructedKinds) :
    IsDefaultConstructor t (constructorOf plan t) := by
  have built := defaultConstructor_eq_constructorOf plan java constructed
  have shape := (isGenerated_of_defaultConstructor built).1
  obtain ⟨parameters, statements, made, listed, -⟩ := exists_of_defaultConstructor built
  obtain ⟨head, given⟩ := parts_of_constructorWith made
  refine ⟨shape, by rw [head], by rw [head], by rw [Tree.start, head], by rw [Tree.stop, head], ?_⟩
  rw [given, parameterNames]
  -- Constructors were built for the members as they are with their own constructors, which have
  -- the same names.
  have isRecord : t.kind?.getD "" = "RECORD" ↔ t.kind? = some "RECORD" := by
    cases t.kind? <;> simp
  simp only [isRecord] at listed
  split at listed
  next record =>
    rw [if_pos record, names_of_componentParameters listed, filter_map, map_map, map_map]
    simp only [Function.comp_def, isComponent_addTo, attribute?_addTo]
  next other => simp [listed, if_neg other]

theorem id_constructorOf (java : IsJava t)
    (constructed : t.kind?.getD "" ∈ constructedKinds) :
    (constructorOf plan t).id = (plan.lookup t.id).getD 0 := by
  obtain ⟨parameters, statements, made, -⟩ :=
    exists_of_defaultConstructor (defaultConstructor_eq_constructorOf plan java constructed)
  rw [Tree.id, (parts_of_constructorWith made).1]

theorem withConstructor_of_others {entries : List (Place × Content)}
    (others : ∀ entry ∈ entries, entry.1.name ≠ "getMembers") (kind : String) (position : Int)
    (next : Nat) : withConstructor kind position next entries = entries := by
  refine (map_congr_left fun entry member => ?_).trans (map_id _)
  exact if_neg (others entry member)

variable {kind : String}

theorem insertConstructor_list {items : List Content} {constructor : Tree}
    (built : defaultConstructor kind position next (items.filterMap Content.tree?) =
      .ok constructor) :
    insertConstructor kind position next (.list items) = .list (.tree constructor :: items) := by
  simp only [insertConstructor, built]

variable {head : Head}

theorem addTo_planned {shape : Shape} {front : List (Place × Content)}
    {items : List Content}
    (parts : t = .node head (some shape) (front ++ [(.slot (list "getMembers"), .list items)]))
    (others : ∀ entry ∈ front, entry.1.name ≠ "getMembers") (java : IsJava t)
    (constructed : t.kind?.getD "" ∈ constructedKinds) (planned : (plan.lookup t.id).isSome) :
    addTo plan t = .node head (some shape) (addToEntries plan front ++
      [(.slot (list "getMembers"),
        .list (.tree (constructorOf plan t) :: addToItems plan items))]) := by
  have built := defaultConstructor_eq_constructorOf plan java constructed
  obtain ⟨next, found⟩ := Option.isSome_iff_exists.1 planned
  have members : t.treesIn "getMembers" = items.filterMap Content.tree? := by
    subst parts
    simp [Tree.treesIn, Tree.given?, Tree.entries, Place.name, list, Content.trees]
  rw [found, members, ← trees_addToItems] at built
  generalize constructorOf plan t = constructor at built ⊢
  subst parts
  have names : ∀ entry ∈ addToEntries plan front, entry.1.name ≠ "getMembers" := by
    rw [addToEntries_eq]
    exact forall_mem_map.2 others
  -- The members are in the last place, and the others have no constructor put in.
  have apart : withConstructor shape.kind head.start next
      (addToEntries plan (front ++ [(.slot (list "getMembers"), .list items)])) =
        withConstructor shape.kind head.start next (addToEntries plan front) ++
          [(.slot (list "getMembers"), insertConstructor shape.kind head.start next
            (.list (addToItems plan items)))] := by
    simp [addToEntries_eq, withConstructor, addToContent, Place.name, list]
  have put : insertConstructor shape.kind head.start next (.list (addToItems plan items)) =
      .list (.tree constructor :: addToItems plan items) := insertConstructor_list built
  rw [addTo_node]
  simp only [show plan.lookup head.id = some next from found, apart,
    withConstructor_of_others names, put]

/-! ### What is gained -/

variable {lacking : List Tree}

/-- A tree where the planned nodes are those that lack a constructor. -/
def Suits (plan : Plan) (lacking : List Tree) (t : Tree) : Prop :=
  IsJava t ∧ (t ∈ lacking → t.kind?.getD "" ∈ constructedKinds) ∧
    ((plan.lookup t.id).isSome ↔ t ∈ lacking)

theorem gains_node {shape : Option Shape} {entries : List (Place × Content)}
    (suits : Suits plan lacking (.node head shape entries))
    (below : ∀ entry ∈ entries,
      entry.2.Gains lacking (constructorOf plan) (addToContent plan entry.2)) :
    (Tree.node head shape entries).Gains lacking (constructorOf plan)
      (addTo plan (.node head shape entries)) := by
  obtain ⟨java, known, planned⟩ := suits
  -- Contents gain what they gain one by one.
  have each {part : List (Place × Content)} (inside : part ⊆ entries) :
      List.Forall₂ (EntryGains lacking (constructorOf plan)) part (addToEntries plan part) := by
    rw [addToEntries_eq]
    exact List.forall₂_map_right_iff.2 (List.forall₂_same.2 fun entry member =>
      .entry (below entry (inside member)))
  by_cases lacks : Tree.node head shape entries ∈ lacking
  -- A node that lacks a constructor is a type declaration, and has one place for members.
  · obtain ⟨head, shape, front, items, parts, others⟩ := exists_parts java (known lacks)
    rw [addTo_planned parts others java (known lacks) (planned.2 lacks)]
    cases parts
    cases below _ (mem_append_right front (mem_singleton_self _)) with
    | list members => exact .gained lacks rfl rfl (each (subset_append_left _ _)) members .nil
  · have unplanned : plan.lookup head.id = none := by
      rw [← Option.not_isSome_iff_eq_none]
      exact fun found => lacks (planned.1 found)
    have same : addTo plan (.node head shape entries) =
        .node head shape (addToEntries plan entries) := by
      rw [addTo_node]
      cases shape <;> simp only [unplanned]
    rw [same]
    exact .kept lacks (each (List.Subset.refl _))

theorem gains_addTo (t : Tree) : (∀ u ∈ t.nodes, Suits plan lacking u) →
    t.Gains lacking (constructorOf plan) (addTo plan t) := by
  induction t using Tree.induct_contents
    (fun content => (∀ u ∈ content.nodes, Suits plan lacking u) →
      content.Gains lacking (constructorOf plan) (addToContent plan content)) with
  | node head shape entries below =>
    intro suit
    rw [Tree.nodes, forall_mem_cons] at suit
    exact gains_node suit.1 fun entry member => below entry member fun u inside =>
      suit.2 u (mem_nodesOfEntries.2 ⟨entry, member, inside⟩)
  | absent => exact .absent
  | data => exact .data
  | tree t ih suit => exact .tree (ih suit)
  | list items each suit =>
    rw [addToContent, addToItems_eq]
    exact .list (List.forall₂_map_right_iff.2 (List.forall₂_same.2 fun item member =>
      each item member fun u inside => suit u (mem_nodesOfItems.2 ⟨item, member, inside⟩)))

/-! ### Type declarations in added constructors -/

/-- Of some nodes, the type declarations are as wanted. -/
def Declared (P : Tree → Prop) (nodes : List Tree) : Prop :=
  ∀ u ∈ nodes, u.kind?.getD "" ∈ constructedKinds → P u

section Declared

variable {P : Tree → Prop}

theorem declared_build {given : Given} (built : grammar.build kind head given = .ok t)
    (other : kind ∉ constructedKinds)
    (below : ∀ entry ∈ given, Declared P entry.2.walk) : Declared P t.walk := by
  intro u met constructed
  rw [Tree.walk_eq, mem_cons] at met
  rcases met with rfl | met
  · rw [(kind?_build built).1] at constructed
    exact absurd constructed other
  · obtain ⟨child, listed, inside⟩ := mem_flatMap.1 met
    obtain ⟨entry, stands, -, held⟩ := Tree.mem_children_iff.1 listed
    rcases given_or_empty built entry stands with ⟨name, given⟩ | empty
    · refine below _ given u ?_ constructed
      rw [Content.walk_eq]
      exact mem_flatMap.2 ⟨child, held, inside⟩
    · have nowhere := Content.nodes_subset_of_mem_trees held (mem_nodes_of_mem_walk child inside)
      rw [empty] at nowhere
      cases nowhere

theorem declared_ofTrees {trees : List Tree} (each : ∀ t ∈ trees, Declared P t.walk) :
    Declared P (Content.ofTrees trees).walk := by
  intro u met
  rw [Content.walk_eq, Content.trees_ofTrees] at met
  obtain ⟨t, member, inside⟩ := mem_flatMap.1 met
  exact each t member u inside

theorem declared_implicitModifiers {id : Nat} (built : implicitModifiers id = .ok t) :
    Declared P t.walk :=
  declared_build built (by decide) (forall_mem_nil _)

theorem declared_superCall (made : superCall position next = .ok t) : Declared P t.walk := by
  obtain ⟨name, named, made⟩ := exists_of_bind_eq_ok made
  obtain ⟨call, called, made⟩ := exists_of_bind_eq_ok made
  have inner : Declared P name.walk := declared_build named (by decide) (forall_mem_nil _)
  have middle : Declared P call.walk :=
    declared_build called (by decide) (forall_mem_singleton.2 inner)
  exact declared_build made (by decide) (forall_mem_singleton.2 middle)

theorem walk_type_subset (java : IsJava t) :
    ((t.given? "getType").getD (.data .null)).walk ⊆ t.walk := by
  cases found : t.given? "getType" with
  | none => exact nil_subset _
  | some content =>
    have known : ∀ schema ∈ grammar.schemas, ∀ slot ∈ schema.slots, slot.name = "getType" →
        slot.isTraversed := by decide +kernel
    obtain ⟨schema, declared, own, places, -⟩ := java.fits
    obtain ⟨place, member, named⟩ := Tree.mem_of_given? found
    obtain ⟨slot, here, rfl⟩ := mem_map.1 (places ▸ mem_map_of_mem member)
    have traversed := known schema (mem_of_find?_eq_some declared) slot here named
    intro u met
    rw [Content.walk_eq] at met
    obtain ⟨child, listed, inside⟩ := mem_flatMap.1 met
    rw [Tree.walk_eq]
    exact mem_cons_of_mem _ (mem_flatMap.2
      ⟨child, Tree.mem_children_iff.2 ⟨_, member, traversed, listed⟩, inside⟩)

theorem declared_componentParameters {components : List Tree} (java : AreJava components)
    (made : componentParameters position next components = .ok parameters)
    (each : ∀ t ∈ components, Declared P t.walk) : ∀ t ∈ parameters, Declared P t.walk := by
  replace made := madeFrom_of_componentParameters made
  induction made with
  | nil => exact forall_mem_nil _
  | cons first _ ih =>
    obtain ⟨_, _, flagged, built⟩ := first
    obtain ⟨own, later⟩ := forall_mem_cons.1 java
    obtain ⟨here, below⟩ := forall_mem_cons.1 each
    refine forall_mem_cons.2 ⟨declared_build built (by decide) ?_, ih later below⟩
    exact forall_mem_cons.2 ⟨declared_implicitModifiers flagged,
      forall_mem_singleton.2 fun u met => here u (walk_type_subset own met)⟩

/-- The only type declarations in a default constructor are those in the types of components. -/
theorem declared_defaultConstructor {members : List Tree} (java : AreJava members)
    (made : defaultConstructor kind position next members = .ok t)
    (each : ∀ member ∈ members, Declared P member.walk) : Declared P t.walk := by
  obtain ⟨parameters, statements, made, listed, calls⟩ := exists_of_defaultConstructor made
  obtain ⟨flags, flagged, made⟩ := exists_of_bind_eq_ok made
  obtain ⟨body, filled, made⟩ := exists_of_bind_eq_ok made
  have typed : ∀ t ∈ parameters, Declared P t.walk := by
    split at listed
    · exact declared_componentParameters (fun t member => java t (mem_filter.1 member).1)
        listed fun t member => each t (mem_filter.1 member).1
    · simp [listed]
  have block : Declared P body.walk := declared_build filled (by decide)
    (forall_mem_singleton.2 (declared_ofTrees fun t member =>
      declared_superCall (calls t member)))
  exact declared_build made (by decide) (forall_mem_cons.2
    ⟨declared_implicitModifiers flagged, forall_mem_cons.2
      ⟨declared_ofTrees typed, forall_mem_singleton.2 block⟩⟩)

end Declared

theorem children_addToEntries (plan : Plan) (head : Head) (shape : Option Shape)
    (entries : List (Place × Content)) :
    (Tree.node head shape (addToEntries plan entries)).children =
      (Tree.node head shape entries).children.map (addTo plan) := by
  simp only [Tree.children, Tree.entries, addToEntries_eq, flatMap_map, map_flatMap]
  congr 1
  funext entry
  obtain ⟨place, content⟩ := entry
  by_cases traversed : place.isTraversed <;> simp [traversed, trees_addToContent]

/-- With the planned constructors, a node has its old children, and perhaps a constructor that was
made for some of them. -/
theorem mem_children_addTo {child : Tree} (member : child ∈ (addTo plan t).children) :
    child ∈ t.children.map (addTo plan) ∨ ∃ kind position next members,
      defaultConstructor kind position next members = .ok child ∧
        members ⊆ t.children.map (addTo plan) := by
  obtain ⟨head, shape, entries⟩ := t
  rw [← children_addToEntries]
  rw [addTo_node] at member
  split at member
  next shape number _ =>
    obtain ⟨_, listed, traversed, held⟩ := Tree.mem_children_iff.1 member
    obtain ⟨⟨place, content⟩, old, rfl⟩ := mem_map.1 listed
    simp only at traversed held
    split at held
    -- A constructor is put into the list of members only.
    next isMembers =>
      rw [if_pos isMembers] at traversed
      have kept : content.trees ⊆
          (Tree.node head (some shape) (addToEntries plan entries)).children :=
        fun u inside => Tree.mem_children_iff.2 ⟨_, old, traversed, inside⟩
      cases content with
      | absent | data value | tree t => exact .inl (kept held)
      | list items =>
        rw [insertConstructor] at held
        split at held
        next constructor built =>
          rcases mem_cons.1 held with rfl | inside
          · exact .inr ⟨_, _, _, _, built, kept⟩
          · exact .inl (kept inside)
        next => exact .inl (kept held)
    next other =>
      rw [if_neg other] at traversed
      exact .inl (Tree.mem_children_iff.2 ⟨_, old, traversed, held⟩)
  next => exact .inl member

/-- No type declarations come with the planned constructors: on the walk are the old ones, with
their constructors. -/
theorem declared_addTo (plan : Plan) (t : Tree) (java : IsJava t) :
    Declared (fun v => ∃ u ∈ t.walk, v = addTo plan u) (addTo plan t).walk := by
  intro v met constructed
  rw [Tree.walk_eq, mem_cons] at met
  -- The induction is on the length of the walk. It is used for the children of the node, and for
  -- them once more where an added constructor has the types of some.
  rcases met with rfl | met
  · exact ⟨t, t.mem_walk_self, rfl⟩
  · obtain ⟨child, member, inside⟩ := mem_flatMap.1 met
    have further {child : Tree} (listed : child ∈ t.children.map (addTo plan)) :
        IsJava child ∧ Declared (fun v => ∃ u ∈ t.walk, v = addTo plan u) child.walk := by
      obtain ⟨u, own, rfl⟩ := mem_map.1 listed
      have met : u ∈ t.walk := by
        rw [t.walk_eq]
        exact mem_cons_of_mem _ (mem_flatMap.2 ⟨u, own, u.mem_walk_self⟩)
      have inner : IsJava u := java.of_mem_walk met
      refine ⟨isJava_addTo plan u inner, fun v inside constructed => ?_⟩
      have shorter := Tree.length_walk_lt own
      obtain ⟨w, walked, same⟩ := declared_addTo plan u inner v inside constructed
      exact ⟨w, Tree.walk_subset met walked, same⟩
    rcases mem_children_addTo member with old | ⟨kind, position, next, members, built, subset⟩
    · exact (further old).2 v inside constructed
    · exact declared_defaultConstructor (fun u listed => (further (subset listed)).1) built
        (fun u listed => (further (subset listed)).2) v inside constructed
termination_by t.walk.length

/-! ### Adding constructors again -/

theorem addTo_nil (t : Tree) : addTo [] t = t := by
  induction t using Tree.induct_contents (fun content => addToContent [] content = content) with
  | node head shape entries below =>
    have same : addToEntries [] entries = entries := by
      rw [addToEntries_eq]
      exact (map_congr_left fun entry member => by rw [below entry member, id_eq]).trans (map_id _)
    rw [addTo_node, same]
    cases shape <;> rfl
  | absent | data => rfl
  | tree t ih => rw [addToContent, ih]
  | list items each => rw [addToContent, addToItems_eq, map_congr_left each, map_id']

theorem members_of_planned (java : IsJava t)
    (constructed : t.kind?.getD "" ∈ constructedKinds) (planned : (plan.lookup t.id).isSome) :
    (addTo plan t).treesIn "getMembers" =
        constructorOf plan t :: (t.treesIn "getMembers").map (addTo plan) ∧
      isConstructor (constructorOf plan t) ∧ ¬isComponent (constructorOf plan t) := by
  obtain ⟨head, shape, front, items, parts, others⟩ := exists_parts java constructed
  have made := isDefaultConstructor_constructorOf plan java constructed
  refine ⟨?_, ?_, ?_⟩
  · rw [addTo_planned parts others java constructed planned, parts]
    simp [Tree.treesIn, Tree.given?, Tree.entries, Place.name, list, Content.trees,
      trees_addToItems, Content.tree?]
  · simp [isConstructor, Tree.kind?, made.shape, Tree.attribute?, made.attributes]
  · rw [isComponent, Tree.attribute?, made.attributes]
    decide

theorem not_lacksConstructor_of_planned (java : IsJava t)
    (constructed : t.kind?.getD "" ∈ constructedKinds) (planned : (plan.lookup t.id).isSome) :
    ¬LacksConstructor (addTo plan t) := by
  have made := isDefaultConstructor_constructorOf plan java constructed
  obtain ⟨members, isOne, noComponent⟩ := members_of_planned java constructed planned
  rw [LacksConstructor, members, kind?_addTo]
  rintro (⟨-, none⟩ | ⟨isRecord, canonical⟩)
  · exact none _ mem_cons_self isOne
  · -- The constructor has a parameter for each component.
    refine (canonical _ mem_cons_self isOne).2 ?_
    rw [countP_cons_of_neg noComponent, countP_map]
    have names := congrArg List.length made.parameters
    simpa [parameterNames, isRecord, countP_eq_length_filter, Function.comp_def,
      isComponent_addTo] using names

theorem addConstructors_addTo (java : IsJava t)
    (covers : ∀ u ∈ t.walk, LacksConstructor u → (plan.lookup u.id).isSome) :
    addConstructors (addTo plan t) = .ok (addTo plan t, 0) := by
  obtain ⟨again, next, lacking, done, served⟩ := exists_plan (isJava_addTo plan t java)
  have none : lacking = [] := by
    refine eq_nil_iff_forall_not_mem.2 fun v member => ?_
    obtain ⟨met, lacks⟩ := served.lacks v member
    obtain ⟨u, walked, rfl⟩ := declared_addTo plan t java v met lacks.mem_constructedKinds
    have constructed := lacks.mem_constructedKinds
    rw [kind?_addTo] at constructed
    -- A type declaration was planned, or had no need of a constructor.
    cases planned : plan.lookup u.id with
    | some number =>
      exact not_lacksConstructor_of_planned (java.of_mem_walk walked) constructed
        (by rw [planned]; rfl) lacks
    | none =>
      have covered := covers u walked ((lacksConstructor_addTo_iff planned).1 lacks)
      rw [planned] at covered
      cases covered
  have nothing : again = [] := by
    rw [← map_eq_nil_iff, served.ids, none]
    rfl
  rw [done, nothing, addTo_nil]
  rfl

theorem Plan.Serves.exists_number {first : Nat} {declarations : List Tree}
    (served : plan.Serves first next declarations lacking) (member : t ∈ lacking) :
    ∃ number, plan.lookup t.id = some number ∧ (t.id, number) ∈ plan := by
  obtain ⟨number, found⟩ := Option.isSome_iff_exists.1
    ((served.isSome_lookup_iff t.id).2 (mem_map_of_mem member))
  obtain ⟨before, behind, rfl, -⟩ := lookup_eq_some_iff.1 found
  exact ⟨number, found, by simp⟩

/-- Adding constructors completes a tree of the grammar. Each type declaration on the walk that
lacks a constructor gains a default constructor of its own, with a new identity, before its members;
it is one node, wherever it stands. They are counted, and nothing else changes. Adding constructors
again adds none. -/
theorem addConstructors_completes {t : Tree} (java : IsJava t) (identified : t.IsIdentified) :
    ∃ (lacking : List Tree) (constructor : Tree → Tree) (entered : Tree),
      addConstructors t = .ok (entered, lacking.length) ∧
      lacking.Nodup ∧ (∀ u, u ∈ lacking ↔ u ∈ t.walk ∧ LacksConstructor u) ∧
      (∀ u ∈ lacking, IsDefaultConstructor u (constructor u) ∧ t.maxId < (constructor u).id) ∧
      (∀ u ∈ lacking, ∀ v ∈ lacking, (constructor u).id = (constructor v).id → u = v) ∧
      t.Gains lacking constructor entered ∧
      addConstructors entered = .ok (entered, 0) := by
  obtain ⟨plan, next, lacking, done, served⟩ := exists_plan java
  have inside {u : Tree} (member : u ∈ lacking) : u ∈ t.nodes :=
    mem_nodes_of_mem_walk t (served.lacks u member).1
  -- Where a node has the identity of one that lacks a constructor, it is that one.
  have mem_iff {u : Tree} (node : u ∈ t.nodes) : u.id ∈ lacking.map Tree.id ↔ u ∈ lacking := by
    refine ⟨fun member => ?_, mem_map_of_mem⟩
    obtain ⟨v, listed, same⟩ := mem_map.1 member
    exact identified v (inside listed) u node same ▸ listed
  have covers (u : Tree) (met : u ∈ t.walk) (lacks : LacksConstructor u) : u ∈ lacking :=
    (mem_iff (mem_nodes_of_mem_walk t met)).1 (served.covers u met lacks)
  have made {u : Tree} (member : u ∈ lacking) :
      IsJava u ∧ u.kind?.getD "" ∈ constructedKinds := by
    obtain ⟨met, lacks⟩ := served.lacks u member
    exact ⟨java.of_mem_walk met, lacks.mem_constructedKinds⟩
  have numbered {u : Tree} (member : u ∈ lacking) : (u.id, (constructorOf plan u).id) ∈ plan := by
    obtain ⟨number, found, listed⟩ := served.exists_number member
    rw [id_constructorOf (made member).1 (made member).2, found]
    exact listed
  have suit (u : Tree) (node : u ∈ t.nodes) : Suits plan lacking u :=
    ⟨fun v below => java v (nodes_subset t node below), fun member => (made member).2,
      (served.isSome_lookup_iff u.id).trans (mem_iff node)⟩
  refine ⟨lacking, constructorOf plan, addTo plan t, ?_, served.distinct.of_map, fun u => ?_,
    fun u member => ⟨?_, ?_⟩, fun u first v second same => ?_, gains_addTo t suit, ?_⟩
  · rw [done, ← length_map Prod.fst, served.ids, length_map]
  · exact ⟨served.lacks u, fun ⟨met, lacks⟩ => covers u met lacks⟩
  · exact isDefaultConstructor_constructorOf plan (made member).1 (made member).2
  · exact (served.range _ (mem_map_of_mem (numbered member))).1
  · -- Numbers rise, so they are different.
    have one := inj_on_of_nodup_map served.rising.nodup (numbered first) (numbered second) same
    exact identified u (inside first) v (inside second) (congrArg Prod.fst one)
  · exact addConstructors_addTo java fun u met lacks =>
      (served.isSome_lookup_iff u.id).2 (mem_map_of_mem (covers u met lacks))

/-! ### A shared class -/

def sampleFlags (id : Nat) : Tree :=
  .node { id } (some ⟨"MODIFIERS", false⟩) [(.slot (list "getAnnotations"), .list [])]

def sampleDeclaration (id : Nat) (kind : String) (members : List Tree) : Tree :=
  .node { id, start := id, stop := 50 } (some ⟨kind, false⟩)
    [(.slot (single "getModifiers"), .tree (sampleFlags (id + 1))),
      (.slot (list "getTypeParameters"), .list []),
      (.slot (optional "getExtendsClause"), .data .null),
      (.slot (list "getImplementsClause"), .list []),
      (.slot (list "getMembers"), .ofTrees members)]

def sharedClass : Tree := sampleDeclaration 1 "CLASS" []

/-- A component whose type is the class. -/
def sampleComponent : Tree :=
  .node { id := 5, attributes := [("name", .str "x"), ("record_component", .bool true)] }
    (some ⟨"VARIABLE", false⟩)
    [(.slot (single "getModifiers"), .tree (sampleFlags 6)),
      (.slot (optional "getType"), .tree sharedClass),
      (.slot (optional "getInitializer"), .data .null)]

def sampleRecord : Tree := sampleDeclaration 3 "RECORD" [sampleComponent]

/-- A block where the class stands twice, and once more in the record. -/
def sharingBlock : Tree :=
  .node { id := 7 } (some ⟨"BLOCK", false⟩)
    [(.slot (list "getStatements"), .ofTrees [sharedClass, sampleRecord, sharedClass])]

theorem isJava_sharingBlock : IsJava sharingBlock := by
  have flags (id : Nat) : IsJava (sampleFlags id) :=
    Grammar.conforms_build (build_modifiers _) (forall_mem_nil _)
  have ofClass : IsJava sharedClass := by
    have built : grammar.build "CLASS" { id := 1, start := 1, stop := 50 }
        [("getModifiers", .tree (sampleFlags 2))] = .ok sharedClass := rfl
    exact Grammar.conforms_build built (by simpa using flags 2)
  have component : IsJava sampleComponent :=
    Grammar.conforms_build (build_parameter _ (sampleFlags 6) (some sharedClass))
      (by simpa using ⟨flags 6, ofClass⟩)
  have ofRecord : IsJava sampleRecord := by
    have built : grammar.build "RECORD" { id := 3, start := 3, stop := 50 }
        [("getModifiers", .tree (sampleFlags 4)), ("getMembers", .ofTrees [sampleComponent])] =
          .ok sampleRecord := rfl
    exact Grammar.conforms_build built (by simpa using ⟨flags 4, component⟩)
  exact Grammar.conforms_build (build_block _ [sharedClass, sampleRecord, sharedClass])
    (by simpa using ⟨ofClass, ofRecord, ofClass⟩)

theorem nodes_sharingBlock : sharingBlock.nodes = [sharingBlock, sharedClass, sampleFlags 2,
    sampleRecord, sampleFlags 4, sampleComponent, sampleFlags 6, sharedClass, sampleFlags 2,
    sharedClass, sampleFlags 2] := rfl

theorem isIdentified_sharingBlock : sharingBlock.IsIdentified := by
  have nodes : sharingBlock.nodes ⊆ [sharingBlock, sharedClass, sampleFlags 2, sampleRecord,
      sampleFlags 4, sampleComponent, sampleFlags 6] := by
    rw [nodes_sharingBlock]
    simp
  intro u first v second same
  exact inj_on_of_nodup_map (by decide) (nodes first) (nodes second) same

theorem lacksConstructor_sharedClass : LacksConstructor sharedClass :=
  .inl ⟨.inl rfl, forall_mem_nil _⟩

theorem lacksConstructor_sampleRecord : LacksConstructor sampleRecord :=
  .inr ⟨rfl, forall_mem_singleton.2 fun isOne => absurd isOne (by decide)⟩

theorem addConstructors_completes_sharingBlock : IsJava sharingBlock ∧ sharingBlock.IsIdentified ∧
    ∃ (lacking : List Tree) (constructor : Tree → Tree) (entered : Tree),
      addConstructors sharingBlock = .ok (entered, 2) ∧
      sharedClass ∈ lacking ∧ sampleRecord ∈ lacking ∧
      sharingBlock.Gains lacking constructor entered ∧
      addConstructors entered = .ok (entered, 0) := by
  obtain ⟨lacking, constructor, entered, done, -, members, -, -, gains, again⟩ :=
    addConstructors_completes isJava_sharingBlock isIdentified_sharingBlock
  have two : (addConstructors sharingBlock).map Prod.snd = .ok 2 := by decide +kernel
  have walk : sharingBlock.walk = sharingBlock.nodes := rfl
  refine ⟨isJava_sharingBlock, isIdentified_sharingBlock, lacking, constructor, entered, ?_,
    (members _).2 ⟨?_, lacksConstructor_sharedClass⟩,
    (members _).2 ⟨?_, lacksConstructor_sampleRecord⟩, gains, again⟩
  · rw [done] at two ⊢
    have count : lacking.length = 2 := Except.ok.inj two
    rw [count]
  · rw [walk, nodes_sharingBlock]
    simp
  · rw [walk, nodes_sharingBlock]
    simp

end Java

end SyntaxGraph
