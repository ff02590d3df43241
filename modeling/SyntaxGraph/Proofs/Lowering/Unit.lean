import SyntaxGraph.Java.Lowering.Unit
import SyntaxGraph.Proofs.Lowering.Statements

/-!
# Compilation units are lowered soundly

Every node of an annotated parse tree is lowered soundly in every role, since its note is written
from those of its children. A whole parse tree is lowered to a tree of the Java grammar or not at
all. Main statements: a node is refused only because a slot of its kind is empty that must not be,
or because a list has a gap; and identifiers and literals of the tree carry what stands in the text
between their offsets.
-/
namespace SyntaxGraph.Java

open List

variable {stage : Stage} {low high : Int} {here : Mark} {parts : List Part}

/-! ### Constructs -/

/-- Whether a type declaration is of a kind that the grammar has. -/
def Construct.isDeclared : Construct → Bool
  | .typeDeclaration kind => classKinds.contains kind
  | _ => true

theorem isDeclared_ofType (type : String) : (Construct.ofType type).isDeclared := by
  have all : ∀ entry ∈ constructs, entry.2.isDeclared := by decide +kernel
  unfold Construct.ofType
  cases found : constructs.lookup type with
  | none => rfl
  | some construct =>
    obtain ⟨before, behind, same, -⟩ := lookup_eq_some_iff.1 found
    exact all (type, construct) (by simp [same])

theorem sound_otherConstruct (laid : stage.Laid here parts) :
    Sound (stage.Over here) (otherConstruct stage.source here parts) := by
  refine (Traced.Ends.emit here.type).bind fun _ _ => ?_
  refine (sound_lowerAll laid.allLie.contents .plain).bind fun children within => ?_
  exact laid.make (.cons (.options within) .nil) rfl

theorem sound_some {run : Lower Tree} (sound : Sound (stage.Over here) run) :
    Sound (fun item => ∀ t ∈ item, stage.Over here t) (some <$> run) :=
  sound.bind fun _ spanned => .pure spanned.some

/-- The types of array types, of loops over collections, and of what declares methods. -/
theorem type_of_ofType {type : String} :
    (Construct.ofType type = .arrayType → type = "array_type") ∧
      (Construct.ofType type = .enhancedFor → type = "enhanced_for_statement") ∧
      ∀ form, Construct.ofType type = .method form → type ≠ "spread_parameter" := by
  have array : ∀ entry ∈ constructs, entry.2 = .arrayType → entry.1 = "array_type" := by
    decide +kernel
  have loop : ∀ entry ∈ constructs, entry.2 = .enhancedFor →
      entry.1 = "enhanced_for_statement" := by
    decide +kernel
  have other : ∀ entry ∈ constructs, entry.1 ≠ "spread_parameter" := by decide +kernel
  exact ⟨fun same => array _ (Construct.mem_of_ofType same (by simp)) rfl,
    fun same => loop _ (Construct.mem_of_ofType same (by simp)) rfl,
    fun form same => other _ (Construct.mem_of_ofType same (by simp))⟩

theorem sound_lowerConstruct {construct : Construct} (laid : stage.Laid here parts)
    (declared : construct.isDeclared)
    (array : construct = .arrayType → here.type = "array_type")
    (loop : construct = .enhancedFor → here.type = "enhanced_for_statement")
    (method : ∀ form, construct = .method form → here.type ≠ "spread_parameter") :
    Sound (fun item => ∀ t ∈ item, stage.Over here t)
      (lowerConstruct stage.source construct here parts) := by
  cases construct
  -- An array type may be lowered to nothing; every other construct gives a tree.
  case arrayType => exact sound_arrayType laid (array rfl)
  all_goals refine sound_some ?_
  case emptyStatement => exact laid.makeBare rfl
  case identifier => exact sound_identifier laid
  case scopedName => exact sound_scopedName laid
  case scopedType => exact sound_scopedType laid
  case fieldAccess => exact sound_fieldAccess laid
  case classLiteral => exact sound_classLiteral laid
  case literal form => exact sound_literal form laid
  case parenthesized => exact sound_parenthesized laid
  case binary => exact sound_binary laid
  case unary => exact sound_unary laid
  case update => exact sound_update laid
  case assignment => exact sound_assignment laid
  case ternary => exact sound_ternary laid
  case cast => exact sound_cast laid
  case instanceOf => exact sound_instanceOf laid
  case lambda => exact sound_lambda laid
  case invocation => exact sound_invocation laid
  case objectCreation => exact sound_objectCreation laid
  case arrayCreation => exact sound_arrayCreation laid
  case arrayInitializer => exact sound_arrayInitializer laid
  case arrayAccess => exact sound_arrayAccess laid
  case methodReference => exact sound_methodReference laid
  case switch => exact sound_switch rfl laid
  case genericType => exact sound_genericType laid
  case wildcard => exact sound_wildcard laid
  case annotatedType => exact sound_annotatedType laid
  case primitiveType => exact sound_primitiveType laid
  case annotationUse => exact sound_annotationUse laid
  case block => exact sound_block laid
  case expressionStatement => exact sound_expressionOnly rfl laid
  case ifStatement => exact sound_ifStatement laid
  case whileStatement => exact sound_whileStatement laid
  case doStatement => exact sound_doStatement laid
  case forStatement => exact sound_forStatement laid
  case enhancedFor => exact sound_enhancedFor laid (loop rfl)
  case labeled => exact sound_labeled laid
  case breakStatement => exact sound_jump rfl laid
  case continueStatement => exact sound_jump rfl laid
  case returnStatement => exact sound_expressionOnly rfl laid
  case throwStatement => exact sound_expressionOnly rfl laid
  case yieldStatement => exact sound_expressionOnly rfl laid
  case assertion => exact sound_assertion laid
  case synchronized => exact sound_synchronized laid
  case tryStatement => exact sound_tryStatement laid
  case constructorCall => exact sound_constructorCall laid
  case typeDeclaration kind => exact sound_typeDeclaration (contains_iff_mem.1 declared) laid
  case method form => exact sound_methodDeclaration form laid (method form rfl)
  case other => exact sound_otherConstruct laid

theorem sound_lowerNode (laid : stage.Laid here parts) (role : Role) :
    Sound (fun item => ∀ t ∈ item, stage.Over here t) (lowerNode stage.source here parts role) := by
  obtain ⟨array, loop, method⟩ := @type_of_ofType here.type
  have plain := sound_lowerConstruct laid (isDeclared_ofType here.type) array loop method
  cases role with
  | plain => exact plain
  | statement =>
    dsimp only [lowerNode]
    split
    · exact sound_some (sound_switch rfl laid)
    · exact plain
  | elementValue =>
    dsimp only [lowerNode]
    split
    · exact sound_some (sound_elementValueArray laid)
    · exact plain
  | initializer => exact sound_some (sound_staticInitializer laid)
  | enumConstant => exact sound_some (sound_enumConstant laid)

mutual

/-- The note of a parse node is written from those of its children, so each node is lowered to trees
in its span. -/
theorem placedPart_lowerable {α : Type} (tree : ParseTree α)
    (ordered : stage.inOrder → ∀ node ∈ tree.nodes, stage.Ordered node.mark node.childMarks) :
    stage.PlacedPart (lowerable stage.source tree) := by
  match tree with
  | .node mark note children =>
    have nodes (sure : stage.inOrder) := ParseTree.forall_nodes_iff.1 (ordered sure)
    have parts := placedParts_annotateAll children fun sure => (nodes sure).2
    have laid : stage.Laid mark (ParseTree.annotateAll (lowerNode stage.source) children) :=
      ⟨fun sure => by rw [ParseTree.map_mark_annotateAll]; exact (nodes sure).1, parts⟩
    exact .node laid.ordered (sound_lowerNode laid) parts

theorem placedParts_annotateAll {α : Type} (trees : List (ParseTree α))
    (ordered : stage.inOrder → ∀ node ∈ ParseTree.allNodes trees,
      stage.Ordered node.mark node.childMarks) :
    ∀ part ∈ ParseTree.annotateAll (lowerNode stage.source) trees, stage.PlacedPart part := by
  match trees with
  | [] => exact forall_mem_nil _
  | tree :: rest =>
    have nodes (sure : stage.inOrder) := ParseTree.forall_allNodes_cons.1 (ordered sure)
    exact forall_mem_cons.2 ⟨placedPart_lowerable tree fun sure => (nodes sure).1,
      placedParts_annotateAll rest fun sure => (nodes sure).2⟩

end

/-! ### Units -/

theorem sound_unitParts (lie : stage.AllLie low high parts) :
    Sound (fun unit => stage.WithinOption low high unit.package ∧
      stage.AllWithin low high unit.imports ∧ stage.AllWithinOptions low high unit.types)
      (unitParts stage.source parts) := by
  induction parts with
  | nil => exact .pure ⟨Stage.withinOption_none, forall_mem_nil _, forall_mem_nil _⟩
  | cons part rest ih =>
    obtain ⟨first, later⟩ := forall_mem_cons.1 lie
    unfold unitParts
    split
    · refine (sound_packageDeclaration first.placed).bind fun package spanned => ?_
      refine (ih later).bind fun others ⟨further, imports, types⟩ => .pure ⟨?_, imports, types⟩
      intro t found
      -- The last package declaration counts.
      rcases Option.or_eq_some_iff.1 found with behind | ⟨-, own⟩
      · exact further t behind
      · exact Option.some.inj own ▸ first.within spanned
    · split
      next imports =>
        refine (sound_importDeclaration first.placed imports).bind fun imported spanned => ?_
        refine (ih later).bind fun others ⟨package, imports, types⟩ => .pure ⟨package, ?_, types⟩
        exact forall_mem_cons.2 ⟨first.within spanned, imports⟩
      next =>
        refine (sound_member first.placed).bind fun members ⟨spanned, _⟩ => ?_
        refine (ih later).bind fun others ⟨package, imports, types⟩ => .pure ⟨package, imports, ?_⟩
        exact forall_mem_append.2
          ⟨fun item member t found => first.within (spanned item member t found), types⟩

theorem arity_ne_list : ∀ schema ∈ grammar.schemas, ∀ slot ∈ schema.slots,
    slot.name ∈ ["getPackageName", "getType"] → slot.arity ≠ .list := by
  decide +kernel

theorem filling_given? {good : Tree → Prop} {t : Tree} (java : IsJava t)
    (all : ∀ u ∈ t.nodes, good u)
    {name : String} (known : name ∈ ["getPackageName", "getType"]) {content : Content}
    (found : t.given? name = some content) : Filling good content false := by
  obtain ⟨schema, listed, -, slot, declared, rfl, accepted⟩ := java.fits.accepts_given? found
  obtain ⟨place, member, -⟩ := Tree.mem_of_given? found
  cases content with
  | absent => exact accepted.elim
  | data value =>
    cases accepted.2
    have nothing : ∀ t ∈ (none : Option Tree), good t := by rintro t ⟨⟩
    exact .option nothing
  | tree inner =>
    refine .tree (all inner ?_)
    obtain ⟨head, shape, entries⟩ := t
    exact mem_cons_of_mem _ (mem_nodesOfEntries.2 ⟨_, member, inner.mem_nodes_self⟩)
  | list items => exact absurd accepted.1 (arity_ne_list schema listed slot declared known)

namespace Stage.Lowered

variable {t : Tree}

theorem of_mem_nodes {u : Tree} (lowered : stage.Lowered t) (member : u ∈ t.nodes) :
    stage.Lowered u :=
  ⟨lowered.plain.of_mem_nodes member,
    fun sure v below => lowered.nests sure v (nodes_subset t member below)⟩

theorem renumber (lowered : stage.Lowered t) (next : Nat) : stage.Lowered (t.renumber next).1 :=
  ⟨lowered.plain.renumber next, fun sure => nests_renumber t (lowered.nests sure) next⟩

end Stage.Lowered

/-- A unit is built from lowered trees, one after the other under new identities. It spans the whole
source, and so encloses whatever nests. -/
theorem assembleUnit_eq_build {unit : UnitParts} (package : ∀ t ∈ unit.package, stage.Lowered t)
    (imports : ∀ t ∈ unit.imports, stage.Lowered t)
    (types : ∀ item ∈ unit.types, ∀ t ∈ item, stage.Lowered t) :
    ∃ given, assembleUnit stage.text.length unit = grammar.build "COMPILATION_UNIT"
        { start := 0, stop := stage.text.length } given ∧
      Filled (stage.Seated "COMPILATION_UNIT" 0 stage.text.length) given
        [("getPackage", false), ("getPackageName", false), ("getImports", true),
          ("getTypeDecls", true)] := by
  have kept : ∀ (t : Tree) (next : Nat), stage.Lowered t → stage.Lowered (t.renumber next).1 :=
    fun _ next lowered => lowered.renumber next
  have package := forall_renumberOption kept package 1
  -- The name is taken from the package as it was renumbered.
  have name : Filling (stage.Seated "COMPILATION_UNIT" 0 stage.text.length)
      (((renumberOption 1 unit.package).1.bind (·.given? "getPackageName")).getD (.data .null))
      false := by
    cases found : (renumberOption 1 unit.package).1.bind (·.given? "getPackageName") with
    | none => exact Stage.Inside.option Stage.withinOption_none
    | some content =>
      obtain ⟨t, there, given⟩ := Option.bind_eq_some_iff.1 found
      have lowered := package t there
      exact filling_given? lowered.plain.java (fun u member => (lowered.of_mem_nodes member).seated)
        (by simp) given
  have imported : ∀ item ∈ unit.imports.map some, ∀ t ∈ item, stage.Lowered t := by
    refine forall_mem_map.2 fun t member => ?_
    rintro _ ⟨⟩
    exact imports t member
  have imports := forall_renumberOptions kept imported
  have types := forall_renumberOptions kept types
  exact ⟨_, rfl, .cons (.option fun t found => (package t found).seated) (.cons name
    (.cons (.options fun item member t found => (imports _ item member t found).seated)
      (.cons (.options fun item member t found => (types _ item member t found).seated) .nil)))⟩

/-- Whatever the parse tree, it is lowered soundly; if it is in order, the nodes nest. -/
theorem Stage.sound_lowerUnit {α : Type} (stage : Stage) (root : ParseTree α)
    (ordered : stage.inOrder → ∀ node ∈ root.nodes, stage.Ordered node.mark node.childMarks) :
    Sound stage.Lowered (lowerUnit stage.source root) := by
  have inside := (placedPart_lowerable root ordered).laid.allLie.contents
  refine (sound_unitParts inside).bind fun parts ⟨package, imports, types⟩ => ?_
  refine (sound_offsetAt stage stage.bytes).bind fun stop same => ?_
  have whole : stop = stage.text.length := by
    rw [same, placeOf_eq (Nat.le_refl _), Frame.bytes, place_byteLength]
  subst whole
  obtain ⟨given, built, filled⟩ := assembleUnit_eq_build
    (fun t found => (package t found).toLowered) (fun t member => (imports t member).toLowered)
    fun item member t found => (types item member t found).toLowered
  rw [built]
  exact (sound_build (.refl _) (fun _ => Int.natCast_nonneg _) (.refl _) filled
    rfl fun t own _ => isSpelled_of_other rfl own).imp fun _ made => made.1.toLowered

theorem sound_unit {α : Type} (source : Source) (root : ParseTree α) :
    Sound (IsLowered source) (lowerUnit source root) := by
  obtain ⟨chars, table, rfl⟩ := source
  let stage : Stage := ⟨⟨String.ofList chars, fun _ _ => False⟩, False⟩
  have same : stage.source = { chars } := by
    simp only [stage, Frame.source, Source.ofString, String.toList_ofList]
  rw [← same]
  exact (stage.sound_lowerUnit root False.elim).imp fun _ lowered => lowered.plain

theorem sound_lowerUnit {α : Type} (source : Source) (root : ParseTree α) :
    Sound IsJava (lowerUnit source root) :=
  (sound_unit source root).imp fun _ lowered => lowered.java

/-- Whatever the parse tree, lowering asks for no node that the grammar does not declare. A node is
refused only for a gap: the grammar has its kind, and either a slot that this declares as single is
empty, or a slot that it declares as a list holds something else than trees. -/
theorem lowerUnit_refuses_gaps {α : Type} (source : Source) (root : ParseTree α)
    {cause : ShapeError} (refused : (lowerUnit source root).result = .error (.shape cause)) :
    ∃ schema ∈ grammar.schemas, schema.kind = cause.kind ∧ ∃ slot ∈ schema.slots,
      (∀ other ∈ schema.slots, other.name = slot.name → other = slot) ∧
      ((slot.arity = .single ∧ cause.fault = .required slot.name ∧
          cause.fault.reason = s!"slot '{slot.name}' is required") ∨
        (slot.arity = .list ∧ cause.fault = .notATree slot.name ∧
          cause.fault.reason = s!"slot '{slot.name}' holds a non-tree value")) := by
  obtain ⟨schema, found, slot, declared, gap⟩ := (sound_unit source root).of_error refused
  have listed := mem_of_find?_eq_some found
  have kind : schema.kind = cause.kind := by
    rw [Grammar.schema?] at found
    simpa using find?_some found
  refine ⟨schema, listed, kind, slot, declared, ?_, ?_⟩
  · intro other member same
    have here := slot?_of_mem schema listed slot declared
    rw [← same, slot?_of_mem schema listed other member] at here
    exact Option.some.inj here
  · rcases gap with ⟨single, fault⟩ | ⟨isList, fault⟩
    · exact .inl ⟨single, fault, by rw [fault]; rfl⟩
    · exact .inr ⟨isList, fault, by rw [fault]; rfl⟩

/-- A unit with one part that has no parts itself. -/
def bareParse (type : String) : ParseTree Unit :=
  .node { type := "program", named := true, start := 0, stop := 0 } ()
    [.node { type, named := true, start := 0, stop := 0 } () []]

/-- A loop without a condition is refused, and so is a unit with a type that comes to nothing. -/
theorem refusals_bareParse :
    ((lowerUnit (.ofString "") (bareParse "while_statement")).result.map fun _ => ()) =
        .error (.shape ⟨"WHILE_LOOP", .required "getCondition"⟩) ∧
      ((lowerUnit (.ofString "") (bareParse "array_type")).result.map fun _ => ()) =
        .error (.shape ⟨"COMPILATION_UNIT", .notATree "getTypeDecls"⟩) := by
  decide +kernel

theorem lowerUnit_bareParse_refused : ∃ loop unit : ShapeError,
    (lowerUnit (.ofString "") (bareParse "while_statement")).result = .error (.shape loop) ∧
    (∃ schema ∈ grammar.schemas, schema.kind = loop.kind ∧ ∃ slot ∈ schema.slots,
      slot.arity = .single ∧ loop.fault.reason = s!"slot '{slot.name}' is required") ∧
    (lowerUnit (.ofString "") (bareParse "array_type")).result = .error (.shape unit) ∧
    ∃ schema ∈ grammar.schemas, schema.kind = unit.kind ∧ ∃ slot ∈ schema.slots,
      slot.arity = .list ∧ unit.fault.reason = s!"slot '{slot.name}' holds a non-tree value" := by
  have refusedLoop := error_of_map_eq_error refusals_bareParse.1
  have refusedUnit := error_of_map_eq_error refusals_bareParse.2
  refine ⟨_, _, refusedLoop, ?_, refusedUnit, ?_⟩
  · obtain ⟨schema, listed, kind, slot, declared, -, ⟨single, -, reason⟩ | ⟨-, fault, -⟩⟩ :=
      lowerUnit_refuses_gaps _ _ refusedLoop
    · exact ⟨schema, listed, kind, slot, declared, single, reason⟩
    · cases fault
  · obtain ⟨schema, listed, kind, slot, declared, -, ⟨-, fault, -⟩ | ⟨isList, -, reason⟩⟩ :=
      lowerUnit_refuses_gaps _ _ refusedUnit
    · cases fault
    · exact ⟨schema, listed, kind, slot, declared, isList, reason⟩

/-- In whatever a text is lowered to, the name of an identifier and the value of a literal are what
stands in the text between the offsets of the node. -/
theorem lowerUnit_showsText {α : Type} (text : String) (root : ParseTree α) {unit : Tree}
    (lowers : (lowerUnit (.ofString text) root).result = .ok unit) :
    ∀ u ∈ unit.nodes, (u.kind? = some "IDENTIFIER" → u.ShowsText text "name") ∧
      ∀ kind ∈ literalKinds, u.kind? = some kind → u.ShowsText text "value" := by
  intro u member
  have spelled := ((sound_unit _ root).of_result lowers).spelled u member
  exact ⟨fun identifier => (spelled.identifier identifier).showsText,
    fun kind known literal => (spelled.literal kind known literal).showsText⟩

/-- An assignment with characters of one to four bytes before and in its operands. -/
def wideText : String := "/*ß*/ é = \"😀€\";"

def wideParse : ParseTree Unit :=
  part "program" 0 22
    [part "block_comment" 0 6,
      part "expression_statement" 7 22
        [part "assignment_expression" 7 21
          [part "identifier" 7 9 [] "left", token "=" 10 "operator",
            part "string_literal" 12 21 [] "right"]]]

/-- The kinds and spans of the nodes of the lowered sample. -/
def wideSpans : List (Option String × Int × Int) :=
  [("COMPILATION_UNIT", 0, 15), ("EXPRESSION_STATEMENT", 6, 15), ("ASSIGNMENT", 6, 14),
    ("IDENTIFIER", 6, 7), ("STRING_LITERAL", 10, 14)]

theorem spans_lowerUnit_wideParse :
    (lowerUnit (.ofString wideText) wideParse).result.map
      (fun unit => unit.nodes.map fun u => (u.kind?, u.start, u.stop)) = .ok wideSpans := by
  decide +kernel

theorem lowerUnit_wideParse_showsText :
    ∃ unit, (lowerUnit (.ofString wideText) wideParse).result = .ok unit ∧
      unit.nodes.map (fun u => (u.kind?, u.start, u.stop)) = wideSpans ∧
        ∀ u ∈ unit.nodes, (u.kind? = some "IDENTIFIER" → u.ShowsText wideText "name") ∧
          ∀ kind ∈ literalKinds, u.kind? = some kind → u.ShowsText wideText "value" := by
  obtain ⟨unit, lowers, spans⟩ := exists_of_map_eq_ok spans_lowerUnit_wideParse
  exact ⟨unit, lowers, spans, lowerUnit_showsText wideText wideParse lowers⟩

end SyntaxGraph.Java
