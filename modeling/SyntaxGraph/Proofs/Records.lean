import SyntaxGraph.Proofs.Additions

/-!
# Constructors of records

A record that gains a constructor has a canonical one then: its parameters have the types of the
components. But a record gains none where a constructor of its own has as many parameters as there
are components, whatever their types; so such a record may stay without a canonical constructor.
-/
namespace SyntaxGraph

open List

/-! ### Forms -/

mutual

/-- A tree without identities, positions and marks: kinds, attributes and slots are left. -/
def Tree.form : Tree → Tree
  | .node head shape entries =>
    .node { attributes := head.attributes } shape (formOfEntries entries)

def formOfEntries : List (Place × Content) → List (Place × Content)
  | [] => []
  | (place, content) :: rest => (place, content.form) :: formOfEntries rest

def Content.form : Content → Content
  | .absent => .absent
  | .data value => .data value
  | .tree t => .tree t.form
  | .list items => .list (formOfItems items)

def formOfItems : List Content → List Content
  | [] => []
  | item :: rest => item.form :: formOfItems rest

end

/-- The type that a variable was declared with, if it was. -/
def Tree.type (t : Tree) : Content := (t.given? "getType").getD (.data .null)

namespace Java

def components (record : Tree) : List Tree := (record.treesIn "getMembers").filter isComponent

/-- A constructor with a parameter for each component of a record, in order and of the same type. -/
def TakesComponents (record constructor : Tree) : Prop :=
  List.Forall₂ (fun parameter component => parameter.type.form = component.type.form)
    (constructor.treesIn "getParameters") (components record)

def HasCanonical (record : Tree) : Prop :=
  ∃ member ∈ record.treesIn "getMembers",
    isConstructor member ∧ (isCompact member ∨ TakesComponents record member)

/-! ### Added constructors -/

variable {t : Tree} {plan : Plan}

/-- A parameter was given the very type of its component. -/
theorem MadeFrom.type_form {position : Int} {parameter component : Tree}
    (made : MadeFrom position parameter component) (java : IsJava component) :
    parameter.type.form = component.type.form := by
  obtain ⟨_, _, -, built⟩ := made
  obtain ⟨type, -, given⟩ := exists_type java
  rw [given, nodeAt, build_parameter] at built
  cases built
  rw [Tree.type, Tree.type, given]
  cases type <;> rfl

theorem takesComponents_constructorOf (java : IsJava t) (isRecord : t.kind? = some "RECORD")
    (planned : (plan.lookup t.id).isSome) :
    TakesComponents (addTo plan t) (constructorOf plan t) := by
  have constructed : t.kind?.getD "" ∈ constructedKinds := by simp [isRecord, constructedKinds]
  obtain ⟨parameters, statements, made, listed, -⟩ :=
    exists_of_defaultConstructor (defaultConstructor_eq_constructorOf plan java constructed)
  obtain ⟨members, -, noComponent⟩ := members_of_planned java constructed planned
  rw [if_pos (by rw [isRecord]; rfl)] at listed
  rw [TakesComponents, (parts_of_constructorWith made).2, components, members,
    filter_cons_of_neg noComponent]
  have typed : ∀ u ∈ ((t.treesIn "getMembers").map (addTo plan)).filter isComponent, IsJava u := by
    intro u member
    obtain ⟨v, old, rfl⟩ := mem_map.1 (mem_filter.1 member).1
    exact isJava_addTo plan v ((exists_members java constructed).2 v old)
  have made := (List.forall₂_and_left _ _).2 ⟨typed, (madeFrom_of_componentParameters listed).flip⟩
  exact (made.imp fun _ _ pair => MadeFrom.type_form pair.2 pair.1).flip

/-- A record that keeps its members has a constructor that is compact, or that has as many
parameters as there are components. -/
theorem exists_of_not_lacksConstructor (isRecord : t.kind? = some "RECORD")
    (has : ¬LacksConstructor t) : ∃ member ∈ t.treesIn "getMembers", isConstructor member ∧
      (isCompact member ∨ (member.treesIn "getParameters").length = (components t).length) := by
  by_contra none
  refine has (.inr ⟨isRecord, fun member listed isOne => ?_⟩)
  rw [countP_eq_length_filter]
  exact not_or.1 fun found => none ⟨member, listed, isOne, found⟩

/-- A record of a tree of the grammar has a canonical constructor once constructors are added, or it
gained none because a constructor of its own has as many parameters as there are components. -/
theorem addConstructors_gives_canonical {t : Tree} (java : IsJava t) :
    ∃ entered added, addConstructors t = .ok (entered, added) ∧
      ∀ record ∈ entered.walk, record.kind? = some "RECORD" → HasCanonical record ∨
        ∃ old ∈ t.walk, old.id = record.id ∧
          (record.treesIn "getMembers").length = (old.treesIn "getMembers").length ∧
          ∃ member ∈ old.treesIn "getMembers", isConstructor member ∧ ¬isCompact member ∧
            (member.treesIn "getParameters").length = (components old).length := by
  obtain ⟨plan, next, lacking, done, served⟩ := exists_plan java
  refine ⟨_, _, done, fun record met isRecord => ?_⟩
  have constructed : record.kind?.getD "" ∈ constructedKinds := by
    simp [isRecord, constructedKinds]
  -- Records do not come with the constructors, so this one was there before.
  obtain ⟨old, walked, rfl⟩ := declared_addTo plan t java record met constructed
  rw [kind?_addTo] at isRecord constructed
  cases planned : plan.lookup old.id with
  | some number =>
    have found : (plan.lookup old.id).isSome := by rw [planned]; rfl
    obtain ⟨members, isOne, -⟩ := members_of_planned (java.of_mem_walk walked) constructed found
    refine .inl ⟨constructorOf plan old, by rw [members]; exact mem_cons_self, isOne, .inr ?_⟩
    exact takesComponents_constructorOf (java.of_mem_walk walked) isRecord found
  | none =>
    have members : (addTo plan old).treesIn "getMembers" = _ := treesIn_addTo (.inl planned)
    have has : ¬LacksConstructor old := fun lacks => by
      have covered := (served.isSome_lookup_iff old.id).2 (served.covers old walked lacks)
      rw [planned] at covered
      cases covered
    obtain ⟨member, listed, isOne, accepted⟩ := exists_of_not_lacksConstructor isRecord has
    by_cases compact : isCompact member
    · refine .inl ⟨addTo plan member, ?_, ?_, .inl ?_⟩
      · rw [members]
        exact mem_map_of_mem listed
      · rwa [isConstructor_addTo]
      · rwa [isCompact_addTo]
    · refine .inr ⟨old, walked, ?_, by rw [members, length_map], member, listed, isOne, compact,
        accepted.resolve_left compact⟩
      rw [Tree.id, Tree.id, head_addTo]

/-- In the sample both type declarations gain their constructors. -/
theorem addConstructors_gives_canonical_sharingBlock : IsJava sharingBlock ∧
    ∃ entered added, addConstructors sharingBlock = .ok (entered, added) ∧
      ∀ record ∈ entered.walk, record.kind? = some "RECORD" → HasCanonical record := by
  obtain ⟨entered, added, done, canonical⟩ := addConstructors_gives_canonical isJava_sharingBlock
  refine ⟨isJava_sharingBlock, entered, added, done, fun record met isRecord => ?_⟩
  refine (canonical record met isRecord).resolve_right ?_
  rintro ⟨old, walked, -, -, member, listed, isOne, -⟩
  have none : ∀ old ∈ sharingBlock.walk, ∀ member ∈ old.treesIn "getMembers",
      ¬isConstructor member := by decide
  exact none old walked member listed isOne

/-! ### A record without a canonical constructor -/

def sampleVariable (id : Nat) (attributes : Attributes) (type : Tree) : Tree :=
  .node { id, attributes } (some ⟨"VARIABLE", false⟩)
    [(.slot (single "getModifiers"), .tree (sampleFlags (id + 1))),
      (.slot (optional "getType"), .tree type), (.slot (optional "getInitializer"), .data .null)]

theorem type_sampleVariable (id : Nat) (attributes : Attributes) (type : Tree) :
    (sampleVariable id attributes type).type = .tree type := rfl

def sampleName (id : Nat) (name : String) : Tree :=
  .node { id, attributes := [("name", .str name)] } (some ⟨"IDENTIFIER", false⟩) []

def convertingConstructor : Tree :=
  .node { id := 6, attributes := [("name", .str constructorName), ("compact", .bool false)] }
    (some ⟨"METHOD", true⟩)
    [(.slot (single "getModifiers"), .tree (sampleFlags 7)),
      (.slot (list "getTypeParameters"), .list []), (.slot (optional "getReturnType"), .data .null),
      (.slot (optional "getReceiverParameter"), .data .null),
      (.slot (list "getParameters"),
        .ofTrees [sampleVariable 8 [("name", .str "text")] (sampleName 10 "String")]),
      (.slot (list "getThrows"), .list []),
      (.slot (optional "getBody"), .tree (.node { id := 11 } (some ⟨"BLOCK", false⟩)
        [(.slot (list "getStatements"), .list [])])),
      (.slot (optional "getDefaultValue"), .data .null)]

/-- A record of a count, with a constructor that takes a text. -/
def convertingRecord : Tree :=
  sampleDeclaration 1 "RECORD"
    [sampleVariable 3 [("name", .str "count"), ("record_component", .bool true)]
      (sampleName 5 "Integer"), convertingConstructor]

theorem isJava_convertingRecord : IsJava convertingRecord := by
  have flags (id : Nat) : IsJava (sampleFlags id) :=
    Grammar.conforms_build (build_modifiers _) (forall_mem_nil _)
  have typed (id : Nat) (attributes : Attributes) (number : Nat) (name : String) :
      IsJava (sampleVariable id attributes (sampleName number name)) := by
    have type : IsJava (sampleName number name) :=
      Grammar.conforms_build (build_identifier _) (forall_mem_nil _)
    exact Grammar.conforms_build (build_parameter _ (sampleFlags (id + 1)) (some _))
      (by simpa using ⟨flags (id + 1), type⟩)
  have block : IsJava (.node { id := 11 } (some ⟨"BLOCK", false⟩)
      [(.slot (list "getStatements"), .list [])]) :=
    Grammar.conforms_build (build_block _ []) (by simp)
  have own : IsJava convertingConstructor :=
    Grammar.conforms_build (build_constructor _ _ _ _)
      (by simpa using ⟨flags 7, typed 8 _ 10 _, block⟩)
  have built : grammar.build "RECORD" { id := 1, start := 1, stop := 50 }
      [("getModifiers", .tree (sampleFlags 2)), ("getMembers", .ofTrees
        [sampleVariable 3 [("name", .str "count"), ("record_component", .bool true)]
          (sampleName 5 "Integer"), convertingConstructor])] = .ok convertingRecord := rfl
  exact Grammar.conforms_build built (by simpa using ⟨flags 2, typed 3 _ 5 _, own⟩)

/-- The record gains no constructor, for its own has one parameter; but that is no count. -/
theorem convertingRecord_lacks_canonical : IsJava convertingRecord ∧
    addConstructors convertingRecord = .ok (convertingRecord, 0) ∧
      convertingRecord ∈ convertingRecord.walk ∧ convertingRecord.kind? = some "RECORD" ∧
      ¬HasCanonical convertingRecord := by
  have planned : planConstructors (convertingRecord.maxId + 1) convertingRecord = ([], .ok ()) := by
    decide +kernel
  refine ⟨isJava_convertingRecord, ?_, convertingRecord.mem_walk_self, rfl, ?_⟩
  · rw [addConstructors, planned]
    simp [addTo_nil]
  · rintro ⟨member, listed, isOne, accepted⟩
    have members : convertingRecord.treesIn "getMembers" =
        components convertingRecord ++ [convertingConstructor] := rfl
    rw [members, mem_append, mem_singleton] at listed
    rcases listed with component | rfl
    · have none : ∀ u ∈ components convertingRecord, ¬isConstructor u := by decide
      exact none member component isOne
    · cases accepted.resolve_left (by decide) with
      | cons types _ => simp [type_sampleVariable, Content.form, Tree.form, sampleName] at types

end Java

end SyntaxGraph
