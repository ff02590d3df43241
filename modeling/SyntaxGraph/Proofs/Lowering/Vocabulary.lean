import SyntaxGraph.Proofs.Spelling

/-!
# The vocabulary of lowerings

A lowering is sound if it ends with trees of the Java grammar in which identifiers and literals
spell their text, or fails without asking the grammar for a node that it does not declare. Building
nodes is the only step at which the grammar matters: what lowerings build it with is declared, so a
node is refused only for a gap.
-/
namespace SyntaxGraph.Java

open List

/-! ### What lowerings give -/

abbrev IsJava (t : Tree) : Prop := t.Conforms grammar

/-- A tree of the Java grammar, or nothing. -/
abbrev IsJavaOption (item : Option Tree) : Prop := ∀ t ∈ item, IsJava t

abbrev AreJava (trees : List Tree) : Prop := ∀ t ∈ trees, IsJava t

theorem isJavaOption_none : IsJavaOption none := by
  rintro t ⟨⟩

variable {t : Tree}

theorem isJavaOption_some (java : IsJava t) : IsJavaOption (some t) := by
  rintro _ ⟨⟩
  exact java

/-- What a source is lowered to: a tree of the Java grammar that spells its text. -/
structure IsLowered (source : Source) (t : Tree) : Prop where
  java : IsJava t
  spelled : ∀ u ∈ t.nodes, u.IsSpelled source

variable {source : Source}

theorem IsLowered.of_mem_nodes {u : Tree} (lowered : IsLowered source t) (member : u ∈ t.nodes) :
    IsLowered source u :=
  ⟨fun v below => lowered.java v (nodes_subset t member below),
    fun v below => lowered.spelled v (nodes_subset t member below)⟩

theorem IsLowered.withAttribute (lowered : IsLowered source t) {key : String}
    (other : key ∉ ["name", "value"]) (value : Json) :
    IsLowered source (t.withAttribute key value) :=
  ⟨lowered.java.withAttribute key value, Tree.isSpelled_withAttribute lowered.spelled other value⟩

theorem IsLowered.renumber (lowered : IsLowered source t) (next : Nat) :
    IsLowered source (t.renumber next).1 :=
  ⟨Tree.Conforms.renumber t lowered.java next, isSpelled_renumber lowered.spelled next⟩

/-- Whether an error may come from a lowering: a node is refused only because a single slot is
empty or a list has a gap, and the grammar declares that slot for its kind. -/
def LoweringError.IsExpected : LoweringError → Prop
  | .shape cause =>
    ∃ schema, grammar.schema? cause.kind = some schema ∧ ∃ slot ∈ schema.slots,
      (slot.arity = .single ∧ cause.fault = .required slot.name) ∨
        (slot.arity = .list ∧ cause.fault = .notATree slot.name)
  | _ => True

/-- A lowering whose values are good and whose errors are expected. -/
abbrev Sound {α : Type} (good : α → Prop) (run : Lower α) : Prop :=
  run.Ends good LoweringError.IsExpected

/-! ### Steps without trees -/

theorem sound_need {α : Type} (item : Option α) : Sound (· ∈ item) (need item) := by
  cases item with
  | none => exact .fail trivial
  | some a => exact .pure rfl

theorem sound_needSome {α : Type} (item : Option α) : Sound (· ∈ item) (needSome item) := by
  cases item with
  | none => exact .fail trivial
  | some a => exact .pure rfl

theorem sound_offsetAt_eq (source : Source) (byte : Nat) :
    Sound (fun offset : Int => ∃ n : Nat, source.offset? byte = some n ∧ offset = n)
      (offsetAt source byte) := by
  unfold offsetAt
  split
  next offset found => exact .pure ⟨offset, found, rfl⟩
  next => exact .fail trivial

theorem sound_textOf_eq (source : Source) (mark : Mark) :
    Sound (fun text => ∃ part, sliceBytes source.chars mark.start mark.stop = some part ∧
      text = String.ofList part) (textOf source mark) := by
  unfold textOf
  split
  next part cut => exact .pure ⟨part, cut, rfl⟩
  next => exact .fail trivial

theorem sound_textOf {source : Source} {mark : Mark} : Sound (fun _ => True) (textOf source mark) :=
  (sound_textOf_eq source mark).imp fun _ _ => trivial

theorem sound_textOf? {source : Source} {part : Option Part} :
    Sound (fun _ => True) (textOf? source part) := by
  cases part with
  | none => exact .pure trivial
  | some part => exact sound_textOf

/-! ### Building nodes -/

/-- A content with good trees as lowerings give it to a slot, and whether it is a list. -/
inductive Filling (good : Tree → Prop) : Content → Bool → Prop
  | tree {t : Tree} (holds : good t) : Filling good (.tree t) false
  | option {item : Option Tree} (hold : ∀ t ∈ item, good t) : Filling good (.ofOption item) false
  | trees {items : List Tree} (hold : ∀ t ∈ items, good t) : Filling good (.ofTrees items) true
  | options {items : List (Option Tree)} (hold : ∀ item ∈ items, ∀ t ∈ item, good t) :
    Filling good (.ofOptions items) true

/-- Contents with good trees as they are given to a node; the forms say for each slot whether it is
given a list. -/
inductive Filled (good : Tree → Prop) : Given → List (String × Bool) → Prop
  | nil : Filled good [] []
  | cons {name : String} {content : Content} {isList : Bool} {given : Given}
    {forms : List (String × Bool)} (first : Filling good content isList)
    (rest : Filled good given forms) :
    Filled good ((name, content) :: given) ((name, isList) :: forms)

/-- Whether the grammar declares a kind with slots of such names and forms. -/
def declares (kind : String) (forms : List (String × Bool)) : Bool :=
  match grammar.schema? kind with
  | none => false
  | some schema => forms.all fun (name, isList) =>
    match schema.slot? name with
    | none => false
    | some slot => decide (slot.arity = .list) == isList

/-- Whether nodes of a kind spell their text. -/
def isSpelling (kind : String) : Bool :=
  kind == "IDENTIFIER" || literalKinds.contains kind

/-- Whether the grammar declares a kind that is made without children and does not spell its
text. -/
def declaresBare (kind : String) : Bool :=
  declares kind [] && !isSpelling kind

theorem declares_wildcard : ∀ kind ∈ ["UNBOUNDED_WILDCARD", "EXTENDS_WILDCARD", "SUPER_WILDCARD"],
    declares kind [("getBound", false)] := by
  decide +kernel

theorem declares_typeDeclaration : ∀ kind ∈ classKinds, declares kind
    [("getModifiers", false), ("getTypeParameters", true), ("getExtendsClause", false),
      ("getImplementsClause", true), ("getMembers", true)] := by
  decide +kernel

theorem declares_method : declares "METHOD"
    [("getModifiers", false), ("getTypeParameters", true), ("getReturnType", false),
      ("getReceiverParameter", false), ("getParameters", true), ("getThrows", true),
      ("getBody", false), ("getDefaultValue", false)] := by
  decide +kernel

theorem declares_literal : ∀ kind ∈ literalKinds, declares kind [] := by decide +kernel

theorem declares_binary : ∀ kind ∈ binaryOperators.map Prod.snd,
    declares kind [("getLeftOperand", false), ("getRightOperand", false)] := by
  decide +kernel

theorem declares_unary : ∀ kind ∈ unaryOperators.map Prod.snd ++ updateKinds,
    declares kind [("getExpression", false)] := by
  decide +kernel

theorem declares_assignment : ∀ kind ∈ "ASSIGNMENT" :: assignmentOperators.map Prod.snd,
    declares kind [("getVariable", false), ("getExpression", false)] := by
  decide +kernel

variable {kind : String} {forms : List (String × Bool)}

/-- Spelled nodes have no children, so no kind that is declared with slots is one of theirs. -/
theorem isSpelling_of_declares {form : String × Bool} (declared : declares kind (form :: forms)) :
    isSpelling kind = false := by
  -- The grammar has these kinds without slots, so it declares them with none.
  have bare : ∀ kind ∈ "IDENTIFIER" :: literalKinds,
      grammar.schema? kind = some { kind := kind } := by decide +kernel
  refine Bool.eq_false_iff.2 fun spelling => ?_
  have known : kind ∈ "IDENTIFIER" :: literalKinds := by simpa [isSpelling] using spelling
  simp [declares, bare kind known, Schema.slot?] at declared

variable {good : Tree → Prop} {content : Content} {isList : Bool}

/-- All nodes below a content with good trees are as wanted if they are so in good trees. -/
theorem Filling.forall_nodes {P : Tree → Prop} (fills : Filling good content isList)
    (below : ∀ t, good t → ∀ u ∈ t.nodes, P u) : ∀ u ∈ content.nodes, P u := by
  cases fills with
  | @tree t holds => exact below t holds
  | option hold => exact forall_nodes_ofOption fun t found => below t (hold t found)
  | trees hold => exact forall_nodes_ofTrees fun t member => below t (hold t member)
  | options hold =>
    exact forall_nodes_ofOptions fun item member t found => below t (hold item member t found)

theorem Filling.form (fills : Filling good content isList) :
    (isList = true ∧ ∃ items, content = .list items) ∨
      (isList = false ∧ ∃ item, content = .ofOption item) := by
  cases fills with
  | tree => exact .inr ⟨rfl, some _, rfl⟩
  | option => exact .inr ⟨rfl, _, rfl⟩
  | trees | options => exact .inl ⟨rfl, _, rfl⟩

theorem Filling.forall_trees (fills : Filling good content isList) :
    ∀ t ∈ content.trees, good t := by
  -- Gaps in a list hold no trees, so lists with and without gaps are one case.
  have listed : ∀ {items : List (Option Tree)}, (∀ item ∈ items, ∀ t ∈ item, good t) →
      ∀ t ∈ (Content.ofOptions items).trees, good t := by
    intro items hold t member
    obtain ⟨content, listed, found⟩ := mem_filterMap.1 member
    obtain ⟨_ | u, own, rfl⟩ := mem_map.1 listed
    · cases found
    · cases found
      exact hold _ own t rfl
  cases fills with
  | tree holds => exact forall_mem_singleton.2 holds
  | @option item hold =>
    cases item with
    | none => exact forall_mem_nil _
    | some t => exact forall_mem_singleton.2 (hold t rfl)
  | trees hold =>
    rw [ofTrees_eq_ofOptions]
    refine listed (forall_mem_map.2 fun t member => ?_)
    rintro _ ⟨⟩
    exact hold t member
  | options hold => exact listed hold

variable {given : Given}

theorem Filled.entry (filled : Filled good given forms) :
    ∀ entry ∈ given, ∃ isList, (entry.1, isList) ∈ forms ∧ Filling good entry.2 isList := by
  induction filled with
  | nil => simp
  | cons first rest ih =>
    refine forall_mem_cons.2 ⟨⟨_, mem_cons_self, first⟩, fun entry member => ?_⟩
    obtain ⟨isList, listed, fills⟩ := ih entry member
    exact ⟨isList, mem_cons_of_mem _ listed, fills⟩

theorem slot?_of_mem : ∀ schema ∈ grammar.schemas, ∀ slot ∈ schema.slots,
    schema.slot? slot.name = some slot := by
  decide +kernel

/-- A slot that is given a content of its form refuses it only for a gap. -/
theorem gap_of_fill {slot : Slot} {given : Option Content}
    {fault : ShapeFault}
    (fills : ∀ content ∈ given, Filling good content (decide (slot.arity = .list)))
    (failed : slot.fill given = .error fault) :
    (slot.arity = .single ∧ fault = .required slot.name) ∨
      (slot.arity = .list ∧ fault = .notATree slot.name) := by
  -- Given or left empty, the slot holds a list exactly if it is declared as one.
  have form : (slot.arity = .list ∧ ∃ items, given.getD slot.empty = .list items) ∨
      (slot.arity ≠ .list ∧ ∃ item, given.getD slot.empty = .ofOption item) := by
    cases given with
    | some content => simpa using (fills content rfl).form
    | none =>
      cases arity : slot.arity with
      | list => exact .inl ⟨rfl, [], by simp [Slot.empty, arity]⟩
      | single | optional =>
        exact .inr ⟨by simp, none, by simp [Slot.empty, arity, Content.ofOption]⟩
  unfold Slot.fill at failed
  obtain ⟨isList, items, held⟩ | ⟨noList, item, held⟩ := form
  · rw [isList, held] at failed
    simp only at failed
    -- A list is refused only if one of its items is no tree.
    split at failed <;> cases failed
    exact .inr ⟨isList, rfl⟩
  · rw [held] at failed
    -- Elsewhere nothing is refused but nothing, and that by a single slot only.
    cases item with
    | some t => simp [Content.ofOption] at failed
    | none =>
      cases arity : slot.arity with
      | list => exact absurd arity noList
      | single =>
        simp only [Content.ofOption, arity] at failed
        cases failed
        exact .inl ⟨rfl, rfl⟩
      | optional => simp [Content.ofOption, arity] at failed

theorem exists_fill_of_fillAll {slots : List Slot} {fault : ShapeFault}
    (failed : Schema.fillAll given slots = .error fault) :
    ∃ slot ∈ slots, slot.fill (given.lookup slot.name) = .error fault := by
  induction slots with
  | nil => cases failed
  | cons slot rest ih =>
    cases here : slot.fill (given.lookup slot.name) with
    | error cause =>
      simp only [Schema.fillAll, here] at failed
      cases failed
      exact ⟨slot, mem_cons_self, here⟩
    | ok content =>
      -- The slot itself takes what it is given, so a later one is at fault.
      cases later : Schema.fillAll given rest with
      | error cause =>
        simp only [Schema.fillAll, here, later] at failed
        cases failed
        obtain ⟨other, member, fill⟩ := ih later
        exact ⟨other, mem_cons_of_mem _ member, fill⟩
      | ok entries =>
        simp only [Schema.fillAll, here, later] at failed
        cases failed

theorem exists_of_declares (declared : declares kind forms = true) :
    ∃ schema, grammar.schema? kind = some schema ∧ ∀ name isList, (name, isList) ∈ forms →
      ∃ slot, schema.slot? name = some slot ∧ decide (slot.arity = .list) = isList := by
  unfold declares at declared
  split at declared
  · cases declared
  next schema found =>
    refine ⟨schema, found, fun name isList form => ?_⟩
    have agrees := all_eq_true.1 declared _ form
    simp only at agrees
    split at agrees
    · cases agrees
    next slot here => exact ⟨slot, here, beq_iff_eq.1 agrees⟩

/-- A node with declared slots is refused only for a gap. -/
theorem expected_of_build {head : Head} {cause : ShapeError} (filled : Filled good given forms)
    (declared : declares kind forms = true)
    (failed : grammar.build kind head given = .error cause) :
    (LoweringError.shape cause).IsExpected := by
  obtain ⟨schema, found, known⟩ := exists_of_declares declared
  -- Every content is given to a slot of its form.
  have slots : ∀ entry ∈ given, ∃ slot, schema.slot? entry.1 = some slot ∧
      Filling good entry.2 (decide (slot.arity = .list)) := by
    intro entry member
    obtain ⟨isList, form, fills⟩ := filled.entry entry member
    obtain ⟨slot, here, rfl⟩ := known _ _ form
    exact ⟨slot, here, fills⟩
  rw [Grammar.build_eq found] at failed
  split at failed
  next fault refused =>
    cases failed
    refine ⟨schema, found, ?_⟩
    unfold Schema.entries at refused
    split at refused
    next name content unknown =>
      -- A name that the schema lacks would not have been declared.
      obtain ⟨slot, here, -⟩ := slots _ (mem_of_find?_eq_some unknown)
      have missing := find?_some unknown
      simp [here] at missing
    next =>
      -- Otherwise some slot refuses what it is given, which has the form of the slot.
      obtain ⟨slot, member, fill⟩ := exists_fill_of_fillAll refused
      have fills : ∀ content ∈ given.lookup slot.name,
          Filling good content (decide (slot.arity = .list)) := by
        intro content given
        obtain ⟨before, behind, rfl, -⟩ := lookup_eq_some_iff.1 given
        obtain ⟨own, here, fills⟩ := slots (slot.name, content) (by simp)
        rw [slot?_of_mem schema (mem_of_find?_eq_some found) slot member] at here
        cases here
        exact fills
      exact ⟨slot, member, gap_of_fill fills fill⟩
  next => cases failed

theorem isSpelled_of_other (other : isSpelling kind = false) (own : t.kind? = some kind) :
    t.IsSpelled source := by
  simp only [isSpelling, Bool.or_eq_false_iff, beq_eq_false_iff_ne, contains_eq_mem,
    decide_eq_false_iff_not] at other
  refine ⟨fun identifier => ?_, fun name known literal => ?_⟩
  · exact absurd (Option.some.inj (own.symm.trans identifier)) other.1
  · exact absurd (Option.some.inj (own.symm.trans literal) ▸ known) other.2

end SyntaxGraph.Java
