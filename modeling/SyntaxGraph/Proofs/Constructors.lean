import SyntaxGraph.Java.Constructors
import SyntaxGraph.Proofs.Lowering.Unit

/-!
# Implicit constructors

The constructor of a type declaration can be built whenever the members are trees of the Java
grammar; it is a generated method of that grammar. Adding the planned constructors therefore keeps
a tree in the grammar. A plan has an entry for each type declaration that lacks a constructor.
-/
namespace SyntaxGraph

open List

def Tree.treesIn (t : Tree) (name : String) : List Tree :=
  ((t.given? name).getD .absent).trees

namespace Java

/-! ### Nodes of constructors -/

theorem build_modifiers (head : Head) :
    grammar.build "MODIFIERS" head [] =
      .ok (.node head (some ⟨"MODIFIERS", false⟩) [(.slot (list "getAnnotations"), .list [])]) := by
  rfl

theorem build_parameter (head : Head) (flags : Tree) (type : Option Tree) :
    grammar.build "VARIABLE" head [("getModifiers", .tree flags), ("getType", .ofOption type)] =
      .ok (.node head (some ⟨"VARIABLE", false⟩)
        [(.slot (single "getModifiers"), .tree flags), (.slot (optional "getType"), .ofOption type),
          (.slot (optional "getInitializer"), .data .null)]) := by
  cases type <;> rfl

theorem build_identifier (head : Head) :
    grammar.build "IDENTIFIER" head [] = .ok (.node head (some ⟨"IDENTIFIER", false⟩) []) := by
  rfl

theorem build_call (head : Head) (method : Tree) :
    grammar.build "METHOD_INVOCATION" head [("getMethodSelect", .tree method)] =
      .ok (.node head (some ⟨"METHOD_INVOCATION", false⟩)
        [(.slot (list "getTypeArguments"), .list []),
          (.slot (single "getMethodSelect"), .tree method),
          (.slot (list "getArguments"), .list [])]) := by
  rfl

theorem build_statement (head : Head) (expression : Tree) :
    grammar.build "EXPRESSION_STATEMENT" head [("getExpression", .tree expression)] =
      .ok (.node head (some ⟨"EXPRESSION_STATEMENT", false⟩)
        [(.slot (single "getExpression"), .tree expression)]) := by
  rfl

theorem fill_ofTrees (name : String) (trees : List Tree) :
    (list name).fill (some (.ofTrees trees)) = .ok (.ofTrees trees) := by
  simp [Slot.fill, list, Content.ofTrees, Content.tree?]

theorem build_block (head : Head) (statements : List Tree) :
    grammar.build "BLOCK" head [("getStatements", .ofTrees statements)] =
      .ok (.node head (some ⟨"BLOCK", false⟩)
        [(.slot (list "getStatements"), .ofTrees statements)]) := by
  have found : grammar.schema? "BLOCK" = some ⟨"BLOCK", [list "getStatements"], false⟩ := by rfl
  have filled : (Schema.mk "BLOCK" [list "getStatements"] false).entries
      [("getStatements", .ofTrees statements)] =
        .ok [(.slot (list "getStatements"), .ofTrees statements)] :=
    Schema.fillAll_cons (fill_ofTrees _ statements) rfl
  rw [Grammar.build_eq found, filled]

def methodSlots : List Slot :=
  [single "getModifiers", list "getTypeParameters", optional "getReturnType",
    optional "getReceiverParameter", list "getParameters", list "getThrows", optional "getBody",
    optional "getDefaultValue"]

theorem build_constructor (head : Head) (flags body : Tree) (parameters : List Tree) :
    grammar.build "METHOD" head [("getModifiers", .tree flags),
        ("getParameters", .ofTrees parameters), ("getBody", .tree body)] =
      .ok (.node head (some ⟨"METHOD", true⟩)
        [(.slot (single "getModifiers"), .tree flags), (.slot (list "getTypeParameters"), .list []),
          (.slot (optional "getReturnType"), .data .null),
          (.slot (optional "getReceiverParameter"), .data .null),
          (.slot (list "getParameters"), .ofTrees parameters), (.slot (list "getThrows"), .list []),
          (.slot (optional "getBody"), .tree body),
          (.slot (optional "getDefaultValue"), .data .null)]) := by
  have found : grammar.schema? "METHOD" = some ⟨"METHOD", methodSlots, true⟩ := by rfl
  have filled : (Schema.mk "METHOD" methodSlots true).entries [("getModifiers", .tree flags),
      ("getParameters", .ofTrees parameters), ("getBody", .tree body)] = .ok _ :=
    Schema.fillAll_cons rfl (Schema.fillAll_cons rfl (Schema.fillAll_cons rfl
      (Schema.fillAll_cons rfl (Schema.fillAll_cons (fill_ofTrees _ parameters)
        (Schema.fillAll_cons rfl (Schema.fillAll_cons rfl (Schema.fillAll_cons rfl rfl)))))))
  rw [Grammar.build_eq found, filled]

/-! ### Constructors -/

variable {kind : String} {t : Tree} {members : List Tree} {position : Int} {next : Nat}
  {items : List Content}

theorem exists_of_build {head : Head} {given : Given}
    (built : grammar.build kind head given = .ok t)
    (java : ∀ entry ∈ given, entry.2.Conforms grammar) :
    ∃ t, grammar.build kind head given = .ok t ∧ IsJava t :=
  ⟨t, built, Grammar.conforms_build built java⟩

theorem exists_implicitModifiers (id : Nat) : ∃ t, implicitModifiers id = .ok t ∧ IsJava t :=
  exists_of_build (build_modifiers _) (forall_mem_nil _)

/-- What a tree of the grammar was given as its type is a tree of the grammar or nothing. -/
theorem exists_type (java : IsJava t) :
    ∃ type, IsJavaOption type ∧ (t.given? "getType").getD (.data .null) = .ofOption type := by
  cases found : t.given? "getType" with
  | none => exact ⟨none, isJavaOption_none, rfl⟩
  | some content =>
    have below : ∀ u ∈ t.nodes, IsJava u := fun u member v inside =>
      java v (nodes_subset t member inside)
    cases filling_given? java below (by simp) found with
    | @tree type typed => exact ⟨some type, isJavaOption_some typed, rfl⟩
    | @option type typed => exact ⟨type, typed, rfl⟩

theorem exists_componentParameters (position : Int) (next : Nat) {components : List Tree}
    (java : AreJava components) :
    ∃ parameters, componentParameters position next components = .ok parameters ∧
      AreJava parameters := by
  induction components generalizing next with
  | nil => exact ⟨[], rfl, forall_mem_nil _⟩
  | cons component rest ih =>
    obtain ⟨first, later⟩ := forall_mem_cons.1 java
    obtain ⟨flags, flagged, plain⟩ := exists_implicitModifiers (next + 1)
    obtain ⟨type, typed, given⟩ := exists_type first
    obtain ⟨own, built, made⟩ : ∃ t, nodeAt next "VARIABLE" position
        [("name", (component.attribute? "name").getD (.str ""))]
        [("getModifiers", .tree flags), ("getType", .ofOption type)] = .ok t ∧ IsJava t :=
      exists_of_build (build_parameter _ flags type) (by simp_all)
    obtain ⟨others, listed, behind⟩ := ih (next + 2) later
    refine ⟨own :: others, ?_, forall_mem_cons.2 ⟨made, behind⟩⟩
    rw [componentParameters, flagged, ok_bind, given, built, listed]
    rfl

theorem exists_superCall (position : Int) (next : Nat) :
    ∃ t, superCall position next = .ok t ∧ IsJava t := by
  obtain ⟨name, named, plain⟩ : ∃ t, nodeAt (next + 2) "IDENTIFIER" position
      [("name", .str "super")] [] = .ok t ∧ IsJava t :=
    exists_of_build (build_identifier _) (forall_mem_nil _)
  obtain ⟨call, called, made⟩ : ∃ t, nodeAt (next + 1) "METHOD_INVOCATION" position []
      [("getMethodSelect", .tree name)] = .ok t ∧ IsJava t :=
    exists_of_build (build_call _ name) (by simpa using plain)
  obtain ⟨statement, stated, java⟩ : ∃ t, nodeAt next "EXPRESSION_STATEMENT" position []
      [("getExpression", .tree call)] = .ok t ∧ IsJava t :=
    exists_of_build (build_statement _ call) (by simpa using made)
  exact ⟨statement, by rw [superCall, named, ok_bind, called, ok_bind, stated], java⟩

/-- Only the constructor of a record has parameters, and only that of a class a statement. -/
theorem defaultConstructor_eq (kind : String) (position : Int) (next : Nat)
    (members : List Tree) :
    defaultConstructor kind position next members =
      if kind = "RECORD" then
        componentParameters position (next + 3) (members.filter isComponent) >>=
          fun parameters => constructorWith position next parameters []
      else if kind = "CLASS" then
        superCall position (next + 3) >>= fun call => constructorWith position next [] [call]
      else constructorWith position next [] [] := by
  dsimp only [defaultConstructor]
  split
  next isRecord =>
    have noClass : kind ≠ "CLASS" := by rw [isRecord]; decide
    simp only [if_neg noClass]
    rfl
  next =>
    split
    · rfl
    · rfl

theorem exists_constructorWith (position : Int) (next : Nat) {parameters statements : List Tree}
    (typed : AreJava parameters) (made : AreJava statements) :
    ∃ t, constructorWith position next parameters statements = .ok t ∧ IsJava t := by
  obtain ⟨flags, flagged, plain⟩ := exists_implicitModifiers (next + 1)
  obtain ⟨body, filled, block⟩ : ∃ t, nodeAt (next + 2) "BLOCK" position [("static", .bool false)]
      [("getStatements", .ofTrees statements)] = .ok t ∧ IsJava t :=
    exists_of_build (build_block _ statements) (by simpa using made)
  rw [constructorWith, flagged, ok_bind, filled, ok_bind]
  exact exists_of_build (build_constructor _ flags body parameters) (by simp_all)

theorem exists_defaultConstructor (kind : String) (position : Int) (next : Nat)
    (java : AreJava members) :
    ∃ t, defaultConstructor kind position next members = .ok t ∧ IsJava t := by
  have none : AreJava [] := forall_mem_nil _
  rw [defaultConstructor_eq]
  split
  · obtain ⟨parameters, listed, typed⟩ := exists_componentParameters position (next + 3)
      fun t member => java t (mem_filter.1 member).1
    rw [listed]
    exact exists_constructorWith position next typed none
  · split
    · obtain ⟨call, called, made⟩ := exists_superCall position (next + 3)
      rw [called]
      exact exists_constructorWith position next none (forall_mem_singleton.2 made)
    · exact exists_constructorWith position next none none

def IsGeneratedConstructor (t : Tree) : Prop :=
  t.shape = some ⟨"METHOD", true⟩ ∧ t.head.generated = true

theorem isGenerated_of_constructorWith {parameters statements : List Tree}
    (made : constructorWith position next parameters statements = .ok t) :
    IsGeneratedConstructor t := by
  obtain ⟨flags, -, made⟩ := exists_of_bind_eq_ok made
  obtain ⟨body, -, made⟩ := exists_of_bind_eq_ok made
  rw [build_constructor] at made
  cases made
  exact ⟨rfl, rfl⟩

/-- What a default constructor is made of: parameters for the components of a record, and at most
the call of the constructor of the superclass. -/
theorem exists_of_defaultConstructor
    (made : defaultConstructor kind position next members = .ok t) :
    ∃ parameters statements,
      constructorWith position next parameters statements = .ok t ∧
      (if kind = "RECORD" then
        componentParameters position (next + 3) (members.filter isComponent) = .ok parameters
      else parameters = []) ∧
      ∀ call ∈ statements, superCall position (next + 3) = .ok call := by
  rw [defaultConstructor_eq] at made
  split at made
  next isRecord =>
    obtain ⟨parameters, listed, made⟩ := exists_of_bind_eq_ok made
    exact ⟨parameters, [], made, by rwa [if_pos isRecord], forall_mem_nil _⟩
  next noRecord =>
    split at made
    · obtain ⟨call, called, made⟩ := exists_of_bind_eq_ok made
      exact ⟨[], [call], made, by rw [if_neg noRecord], forall_mem_singleton.2 called⟩
    · exact ⟨[], [], made, by rw [if_neg noRecord], forall_mem_nil _⟩

theorem isGenerated_of_defaultConstructor
    (made : defaultConstructor kind position next members = .ok t) : IsGeneratedConstructor t := by
  obtain ⟨parameters, statements, made, -⟩ := exists_of_defaultConstructor made
  exact isGenerated_of_constructorWith made

/-! ### Adding constructors -/

theorem areJava_trees (java : ∀ item ∈ items, item.Conforms grammar) :
    AreJava (items.filterMap Content.tree?) := by
  refine forall_mem_filterMap.2 fun item member t same => ?_
  cases item with
  | tree own =>
    cases same
    exact java _ member
  | absent | data value | list items => cases same

theorem conforms_insertConstructor (kind : String) (position : Int) (next : Nat)
    {content : Content} (java : content.Conforms grammar) :
    (insertConstructor kind position next content).Conforms grammar := by
  cases content with
  | absent | data value | tree t => exact java
  | list items =>
    have members := conforms_list_iff.1 java
    obtain ⟨t, built, own⟩ := exists_defaultConstructor kind position next (areJava_trees members)
    rw [insertConstructor, built]
    exact conforms_list_iff.2 (forall_mem_cons.2 ⟨own, members⟩)

theorem accepts_insertConstructor (kind : String) (position : Int) (next : Nat) {slot : Slot}
    {content : Content} (accepted : slot.Accepts content) :
    slot.Accepts (insertConstructor kind position next content) := by
  cases content with
  | absent | data value | tree t => exact accepted
  | list items =>
    rw [insertConstructor]
    split
    · exact ⟨accepted.1, forall_mem_cons.2 ⟨rfl, accepted.2⟩⟩
    · exact accepted

theorem addToEntries_eq (plan : Plan) (entries : List (Place × Content)) :
    addToEntries plan entries = entries.map fun entry => (entry.1, addToContent plan entry.2) := by
  induction entries with
  | nil => rfl
  | cons entry rest ih => rw [addToEntries, ih, map_cons]

theorem addToItems_eq (plan : Plan) (items : List Content) :
    addToItems plan items = items.map (addToContent plan) := by
  induction items with
  | nil => rfl
  | cons item rest ih => rw [addToItems, ih, map_cons]

theorem isTree_addToItems (plan : Plan) (trees : ∀ item ∈ items, item.tree?.isSome) :
    ∀ item ∈ addToItems plan items, item.tree?.isSome := by
  rw [addToItems_eq]
  refine forall_mem_map.2 fun item member => ?_
  have isTree := trees item member
  cases item with
  | tree t => rfl
  | absent | data value | list items => cases isTree

theorem alike_addToEntries (plan : Plan) (entries : List (Place × Content)) :
    Alike entries (addToEntries plan entries) := by
  rw [addToEntries_eq]
  refine List.forall₂_map_right_iff.2 (List.forall₂_same.2 fun entry _ =>
    ⟨rfl, fun slot accepted => ?_⟩)
  obtain ⟨place, content⟩ := entry
  cases content with
  | absent | data value | tree t => exact accepted
  | list items => exact ⟨accepted.1, isTree_addToItems plan accepted.2⟩

/-- The entries of a type declaration with its constructor before its members. -/
def withConstructor (kind : String) (position : Int) (next : Nat)
    (entries : List (Place × Content)) : List (Place × Content) :=
  entries.map fun (place, content) =>
    if place.name = "getMembers" then (place, insertConstructor kind position next content)
    else (place, content)

theorem addTo_node (plan : Plan) (head : Head) (shape : Option Shape)
    (entries : List (Place × Content)) :
    addTo plan (.node head shape entries) =
      match shape, plan.lookup head.id with
      | some shape, some next =>
        .node head (some shape)
          (withConstructor shape.kind head.start next (addToEntries plan entries))
      | shape, _ => .node head shape (addToEntries plan entries) := by
  cases shape <;> cases planned : plan.lookup head.id <;>
    simp only [addTo, planned, withConstructor]

theorem head_addTo (plan : Plan) (t : Tree) : (addTo plan t).head = t.head := by
  obtain ⟨head, shape, entries⟩ := t
  rw [addTo_node]
  split <;> rfl

theorem shape_addTo (plan : Plan) (t : Tree) : (addTo plan t).shape = t.shape := by
  obtain ⟨head, shape, entries⟩ := t
  rw [addTo_node]
  split <;> rfl

theorem trees_addToItems (plan : Plan) (items : List Content) :
    (addToItems plan items).filterMap Content.tree? =
      (items.filterMap Content.tree?).map (addTo plan) := by
  induction items with
  | nil => rfl
  | cons item rest ih =>
    cases item <;> simp [addToItems, addToContent, filterMap_cons, Content.tree?, ih]

theorem conforms_withConstructor {head : Head} {shape : Shape} {entries : List (Place × Content)}
    (java : IsJava (.node head (some shape) entries)) (kind : String) (position : Int)
    (next : Nat) :
    IsJava (.node head (some shape) (withConstructor kind position next entries)) := by
  refine java.replace ?_ fun entry member => ?_
  · refine List.forall₂_map_right_iff.2 (List.forall₂_same.2 fun entry _ => ?_)
    simp only
    split
    · exact ⟨rfl, fun _ => accepts_insertConstructor kind position next⟩
    · exact ⟨rfl, fun _ kept => kept⟩
  · obtain ⟨old, listed, rfl⟩ := mem_map.1 member
    have kept : old.2.Conforms grammar := java.entry listed
    simp only
    split
    · exact conforms_insertConstructor kind position next kept
    · exact kept

theorem isJava_addTo (plan : Plan) (t : Tree) : IsJava t → IsJava (addTo plan t) := by
  induction t using Tree.induct_contents
    (fun content => content.Conforms grammar → (addToContent plan content).Conforms grammar) with
  | node head shape entries below =>
    intro java
    have inside := (conforms_node_iff.1 java).2
    -- First constructors are added below the node, then one to the node itself.
    have replaced : IsJava (.node head shape (addToEntries plan entries)) := by
      refine java.replace (alike_addToEntries plan entries) ?_
      rw [addToEntries_eq]
      exact forall_mem_map.2 fun entry member => below entry member (inside entry member)
    rw [addTo_node]
    split
    · exact conforms_withConstructor replaced _ _ _
    · exact replaced
  | absent java | data _ java => exact java
  | tree t ih java => exact ih java
  | list items each java =>
    rw [conforms_list_iff] at java
    rw [addToContent, addToItems_eq, conforms_list_iff]
    exact forall_mem_map.2 fun item member => each item member (java item member)

/-! ### Planning constructors -/

theorem exists_given_list (java : IsJava t) {name : String} {forms : List (String × Bool)}
    (own : t.kind? = some kind) (declared : declares kind forms = true)
    (form : (name, true) ∈ forms) :
    ∃ items, t.given? name = some (.list items) ∧
      (∀ item ∈ items, item.tree?.isSome) ∧ ∀ item ∈ items, item.Conforms grammar := by
  obtain ⟨schema, found, known⟩ := exists_of_declares declared
  obtain ⟨slot, here, isList⟩ := known name true form
  have same : t.schema? = some schema := by
    obtain ⟨other, listed, held, -⟩ := java.fits
    have kinds : t.schema?.map Schema.kind = t.kind? := by
      simp [Tree.schema?, Tree.kind?, Function.comp_def]
    rw [own, held] at kinds
    cases kinds
    rw [held, ← listed, ← found]
  have named : slot.name = name := by simpa using find?_some here
  obtain ⟨content, given⟩ := Option.isSome_iff_exists.1
    (java.fits.given?_isSome same (mem_of_find?_eq_some here))
  rw [named] at given
  obtain ⟨_, listed, held, other, member, rfl, accepted⟩ := java.fits.accepts_given? given
  -- No other slot of the schema has the name.
  cases same.symm.trans held
  cases (slot?_of_mem _ listed other member).symm.trans here
  have conforms := java.given? given
  cases content with
  | absent => exact accepted.elim
  | data value => simp [accepted.1] at isList
  | tree t => exact absurd (of_decide_eq_true isList) accepted
  | list items => exact ⟨items, given, accepted.2, conforms_list_iff.1 conforms⟩

theorem membersOf_eq (trees : ∀ item ∈ items, item.tree?.isSome)
    (java : ∀ item ∈ items, item.Conforms grammar) :
    membersOf items = .ok (items.filterMap Content.tree?) := by
  induction items with
  | nil => rfl
  | cons item rest ih =>
    obtain ⟨isTree, later⟩ := forall_mem_cons.1 trees
    obtain ⟨own, behind⟩ := forall_mem_cons.1 java
    cases item with
    | absent | data value | list items => cases isTree
    | tree t =>
      have java := conforms_tree_iff.1 own
      rw [membersOf, if_pos java.fits.typed, ih later behind]
      rfl

/-- One of the constructors of a record is canonical if it is compact or has a parameter for each
component. -/
theorem hasCanonical_eq (components : Nat) {constructors : List Tree}
    (java : AreJava constructors) (known : ∀ t ∈ constructors, isConstructor t) :
    hasCanonical components constructors = .ok (constructors.any fun t =>
      isCompact t || (t.treesIn "getParameters").length == components) := by
  induction constructors with
  | nil => rfl
  | cons t rest ih =>
    obtain ⟨own, later⟩ := forall_mem_cons.1 java
    obtain ⟨isMethod, methods⟩ := forall_mem_cons.1 known
    have kind : t.kind? = some "METHOD" := by
      simp only [isConstructor, Bool.and_eq_true, decide_eq_true_eq] at isMethod
      exact isMethod.1
    -- A constructor is a method, and methods have lists of parameters.
    obtain ⟨parameters, given, trees, -⟩ :=
      exists_given_list own kind declares_method (by simp : ("getParameters", true) ∈ _)
    have count : (t.treesIn "getParameters").length = parameters.length := by
      rw [Tree.treesIn, given]
      exact filterMap_length_eq_length.2 trees
    rw [hasCanonical, given, any_cons, count, ih later methods]
    by_cases compact : isCompact t
    · simp [compact]
    · by_cases same : parameters.length = components <;>
        simp [compact, same, contentLength, ok_bind, pure, Except.pure]

/-- A class or enumeration without a constructor, or a record without a canonical one: none of its
constructors is compact or has as many parameters as the record has components. -/
def LacksConstructor (t : Tree) : Prop :=
  (t.kind? = some "CLASS" ∨ t.kind? = some "ENUM") ∧
      (∀ member ∈ t.treesIn "getMembers", ¬isConstructor member) ∨
    t.kind? = some "RECORD" ∧ ∀ member ∈ t.treesIn "getMembers", isConstructor member →
      ¬isCompact member ∧
        (member.treesIn "getParameters").length ≠ (t.treesIn "getMembers").countP isComponent

theorem LacksConstructor.mem_constructedKinds (lacks : LacksConstructor t) :
    t.kind?.getD "" ∈ constructedKinds := by
  rcases lacks with ⟨own | own, -⟩ | ⟨own, -⟩ <;> simp [own, constructedKinds]

theorem exists_needsConstructor (java : AreJava (t.treesIn "getMembers"))
    (constructed : t.kind?.getD "" ∈ constructedKinds) :
    ∃ needed, needsConstructor (t.kind?.getD "") (t.treesIn "getMembers") = .ok needed ∧
      (needed = true ↔ LacksConstructor t) := by
  have decided := hasCanonical_eq ((t.treesIn "getMembers").countP isComponent)
    (fun u member => java u (mem_filter.1 member).1)
    (fun u member => (mem_filter.1 member).2)
  cases own : t.kind? with
  | none => simp [own, constructedKinds] at constructed
  | some kind =>
    simp only [own, constructedKinds, Option.getD_some, mem_cons, not_mem_nil,
      or_false] at constructed
    rcases constructed with rfl | rfl | rfl
    · exact ⟨_, rfl, by simp [LacksConstructor, own]⟩
    · exact ⟨_, rfl, by simp [LacksConstructor, own]⟩
    · simp only [needsConstructor, Option.getD_some, if_true, decided, ok_bind]
      exact ⟨_, rfl, by simp [LacksConstructor, own]⟩

theorem exists_members (java : IsJava t) (constructed : t.kind?.getD "" ∈ constructedKinds) :
    membersIn (t.given? "getMembers") = .ok (t.treesIn "getMembers") ∧
      AreJava (t.treesIn "getMembers") := by
  obtain ⟨kind, own⟩ : ∃ kind, t.kind? = some kind := by
    cases own : t.kind? with
    | none => simp [own, constructedKinds] at constructed
    | some kind => exact ⟨kind, rfl⟩
  have declared : kind ∈ classKinds := by
    -- All kinds with constructors are kinds of type declarations.
    have subset : constructedKinds ⊆ classKinds := by decide
    exact subset (by simpa [own] using constructed)
  obtain ⟨items, given, trees, conform⟩ := exists_given_list java own
    (declares_typeDeclaration kind declared) (by simp : ("getMembers", true) ∈ _)
  rw [Tree.treesIn, given]
  exact ⟨membersOf_eq trees conform, areJava_trees conform⟩

/-- A type declaration of the grammar demands numbers exactly if it lacks a constructor. -/
theorem demand_cases (java : IsJava t) (constructed : t.kind?.getD "" ∈ constructedKinds)
    (next : Nat) :
    (LacksConstructor t ∧ ∃ size, 0 < size ∧ demand t next = .ok (some size)) ∨
      (¬LacksConstructor t ∧ demand t next = .ok none) := by
  obtain ⟨given, members⟩ := exists_members java constructed
  obtain ⟨needed, decided, lacks⟩ := exists_needsConstructor members constructed
  obtain ⟨constructor, built, -⟩ :=
    exists_defaultConstructor (t.kind?.getD "") t.start next members
  simp only [demand, given, ok_bind, decided, built, ← lacks]
  cases needed with
  | true => exact .inl ⟨rfl, _, by unfold constructorSize; omega, rfl⟩
  | false => exact .inr ⟨Bool.false_ne_true, rfl⟩

/-- What a plan says for some type declarations: `lacking` are those without a constructor, one for
each identity, and their numbers rise from `first` on and end before `next`. -/
structure Plan.Serves (plan : Plan) (first next : Nat) (declarations lacking : List Tree) :
    Prop where
  ids : plan.map Prod.fst = lacking.map Tree.id
  distinct : (lacking.map Tree.id).Nodup
  lacks : ∀ t ∈ lacking, t ∈ declarations ∧ LacksConstructor t
  covers : ∀ t ∈ declarations, LacksConstructor t → t.id ∈ lacking.map Tree.id
  rising : (plan.map Prod.snd).Pairwise (· < ·)
  range : ∀ number ∈ plan.map Prod.snd, first ≤ number ∧ number < next

namespace Plan.Serves

variable {plan : Plan} {first next : Nat} {declarations lacking : List Tree} {t : Tree}

theorem empty (first : Nat) : Plan.Serves [] first first [] [] :=
  ⟨rfl, by simp, by simp, by simp, .nil, by simp⟩

theorem isSome_lookup_iff (served : plan.Serves first next declarations lacking) (id : Nat) :
    (plan.lookup id).isSome ↔ id ∈ lacking.map Tree.id := by
  rw [← served.ids, lookup_isSome_iff, mem_map]
  exact exists_congr fun entry => and_congr_right fun _ => beq_iff_eq.trans eq_comm

/-- A declaration that has a constructor, or that was met before, changes nothing. -/
theorem pass (served : plan.Serves first next declarations lacking)
    (settled : LacksConstructor t → t.id ∈ lacking.map Tree.id) :
    plan.Serves first next (declarations ++ [t]) lacking where
  ids := served.ids
  distinct := served.distinct
  lacks u member := (served.lacks u member).imp_left (mem_append_left _)
  covers u member lacking := by
    rcases mem_append.1 member with before | here
    · exact served.covers u before lacking
    · cases mem_singleton.1 here
      exact settled lacking
  rising := served.rising
  range := served.range

/-- A declaration that lacks a constructor is planned when it is first met. -/
theorem take (served : plan.Serves first next declarations lacking) (lacks : LacksConstructor t)
    (unmet : t.id ∉ lacking.map Tree.id) (ordered : first ≤ next) {size : Nat}
    (positive : 0 < size) :
    Plan.Serves (plan ++ [(t.id, next)]) first (next + size) (declarations ++ [t])
      (lacking ++ [t]) where
  ids := by simp [served.ids]
  distinct := by
    rw [map_append, nodup_append]
    refine ⟨served.distinct, by simp, fun id member other own same => ?_⟩
    cases mem_singleton.1 own
    exact unmet (same ▸ member)
  lacks u member := by
    rcases mem_append.1 member with before | here
    · exact (served.lacks u before).imp_left (mem_append_left _)
    · cases mem_singleton.1 here
      exact ⟨by simp, lacks⟩
  covers u member lacking := by
    rw [map_append, mem_append]
    rcases mem_append.1 member with before | here
    · exact .inl (served.covers u before lacking)
    · cases mem_singleton.1 here
      exact .inr (by simp)
  rising := by
    rw [map_append, pairwise_append]
    refine ⟨served.rising, by simp, fun number member last own => ?_⟩
    cases mem_singleton.1 own
    exact (served.range number member).2
  range number member := by
    rw [map_append, mem_append] at member
    rcases member with before | here
    · exact (served.range number before).imp_right (Nat.lt_add_right size)
    · cases mem_singleton.1 here
      exact ⟨ordered, Nat.lt_add_of_pos_right positive⟩

end Plan.Serves

/-- Planning goes through the type declarations one after the other, and serves them all. -/
theorem exists_planFor {plan : Plan} {first : Nat} {declarations lacking trees : List Tree}
    (served : plan.Serves first next declarations lacking) (ordered : first ≤ next)
    (possible : ∀ t ∈ trees, IsJava t ∧ t.kind?.getD "" ∈ constructedKinds) :
    ∃ all after chosen, planFor plan next trees = (all, .ok ()) ∧
      Plan.Serves all first after (declarations ++ trees) chosen := by
  induction trees generalizing plan next declarations lacking with
  | nil => exact ⟨plan, next, lacking, rfl, by simpa using served⟩
  | cons t rest ih =>
    obtain ⟨⟨java, constructed⟩, later⟩ := forall_mem_cons.1 possible
    -- A declaration that is met again is passed, and so is one that demands nothing.
    rw [planFor, append_cons declarations]
    by_cases met : t.id ∈ lacking.map Tree.id
    · rw [if_pos ((served.isSome_lookup_iff t.id).2 met)]
      exact ih (served.pass fun _ => met) ordered later
    · rw [if_neg fun found => met ((served.isSome_lookup_iff t.id).1 found)]
      rcases demand_cases java constructed next with ⟨lacks, size, positive, own⟩ | ⟨has, own⟩
      · rw [own]
        exact ih (served.take lacks met ordered positive) (by omega) later
      · rw [own]
        exact ih (served.pass fun lacks => absurd lacks has) ordered later

theorem exists_plan_of_addConstructors {entered : Tree} {added : Nat}
    (done : addConstructors t = .ok (entered, added)) : ∃ plan, entered = addTo plan t := by
  rw [addConstructors] at done
  split at done
  next plan _ =>
    cases done
    exact ⟨plan, rfl⟩
  next => cases done

theorem exists_plan (java : IsJava t) :
    ∃ plan next lacking,
    addConstructors t = .ok (addTo plan t, plan.length) ∧
      plan.Serves (t.maxId + 1) next t.walk lacking := by
  -- All nodes have schemas, and each type declaration on the walk is a tree of the grammar.
  have possible (u : Tree) (member : u ∈ t.walk.filter fun t =>
      constructedKinds.contains (t.kind?.getD "")) :
      IsJava u ∧ u.kind?.getD "" ∈ constructedKinds :=
    (mem_filter.1 member).imp java.of_mem_walk contains_iff_mem.1
  obtain ⟨plan, next, lacking, planned, served⟩ :=
    exists_planFor (.empty (t.maxId + 1)) (Nat.le_refl _) possible
  refine ⟨plan, next, lacking, ?_, { served with
    lacks := fun u member => (served.lacks u member).imp_left fun met => (mem_filter.1 met).1
    covers := fun u met lacks => served.covers u (mem_filter.2
      ⟨met, contains_iff_mem.2 lacks.mem_constructedKinds⟩) lacks }⟩
  rw [addConstructors, planConstructors, if_pos (all_eq_true.2 java.typed), planned]

theorem exists_addConstructors (java : IsJava t) :
    ∃ entered added, addConstructors t = .ok (entered, added) := by
  obtain ⟨plan, -, -, done, -⟩ := exists_plan java
  exact ⟨_, _, done⟩

end Java

end SyntaxGraph
