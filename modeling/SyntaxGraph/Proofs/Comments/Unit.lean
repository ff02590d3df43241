import SyntaxGraph.Proofs.Comments.Lowering
import SyntaxGraph.Proofs.Conformance

/-!
# Comments do not matter

Main statement: a parse tree whose comments stand aside is lowered as it is without them, with the
same outcome and the same trace.
-/
namespace SyntaxGraph.Java

open ParseTree
open Mark (isLoose)

/-- Comments among the children of a node that stand aside: none is under a field, none is first or
last in an increment or decrement, and none is first in a creation of an object. -/
def CommentsAside (here : Mark) (children : List Mark) : Prop :=
  (∀ child ∈ children, child.isComment = true → child.field = none) ∧
    (here.type = "update_expression" →
      (∀ first ∈ children.head?, first.isComment = false) ∧
        ∀ last ∈ children.getLast?, last.isComment = false) ∧
    (here.type = "object_creation_expression" → ∀ first ∈ children.head?, first.isComment = false)

instance (here : Mark) (children : List Mark) : Decidable (CommentsAside here children) := by
  unfold CommentsAside
  infer_instance

variable {source : Source} {here : Mark} {parts : List Part}

/-! ### Constructs -/

@[simp]
theorem otherConstruct_without : PassesOver (otherConstruct source here) := fun _ => by
  simp [otherConstruct]

/-- Only two constructs look at parts by their position, and there comments are somewhere else. -/
theorem lowerConstruct_without {construct : Construct}
    (update : construct = .update → (∀ part ∈ parts.head?, part.mark.isComment = false) ∧
      ∀ part ∈ parts.getLast?, part.mark.isComment = false)
    (creation : construct = .objectCreation → ∀ part ∈ parts.head?, part.mark.isComment = false) :
    lowerConstruct source construct here (withoutAll isLoose parts) =
      lowerConstruct source construct here parts := by
  cases construct
  case update =>
    obtain ⟨first, last⟩ := update rfl
    exact congrArg (some <$> ·) (update_without source here parts first last)
  case objectCreation =>
    exact congrArg (some <$> ·) (objectCreation_without source here parts (creation rfl))
  -- The others ask for parts in ways to which comments do not matter.
  all_goals
    simp [lowerConstruct, scopedName, fieldAccess, classLiteral, arrayType, genericType, wildcard,
      annotatedType, annotationUse, parenthesized, binary, unary, assignment, ternary, cast,
      instanceOf, lambda, arrayInitializer, arrayAccess, methodReference, ifStatement,
      whileStatement, doStatement, forStatement, enhancedFor, labeled, synchronized, select,
      behindColon_without, commentTypes, each_map, List.filter_map, Function.comp_def]

theorem type_of_update {type : String} (same : Construct.ofType type = .update) :
    type = "update_expression" := by
  have listed : ∀ entry ∈ constructs, entry.2 = .update → entry.1 = "update_expression" := by
    decide +kernel
  exact listed _ (Construct.mem_of_ofType same (by simp)) rfl

theorem type_of_objectCreation {type : String} (same : Construct.ofType type = .objectCreation) :
    type = "object_creation_expression" := by
  have listed : ∀ entry ∈ constructs, entry.2 = .objectCreation →
      entry.1 = "object_creation_expression" := by
    decide +kernel
  exact listed _ (Construct.mem_of_ofType same (by simp)) rfl

theorem lowerNode_without (aside : CommentsAside here (parts.map ParseTree.mark)) (role : Role) :
    lowerNode source here (withoutAll isLoose parts) role = lowerNode source here parts role := by
  obtain ⟨-, update, creation⟩ := aside
  simp only [List.head?_map, List.getLast?_map, Option.mem_def, Option.map_eq_some_iff,
    forall_exists_index, and_imp, forall_apply_eq_imp_iff₂] at update creation
  have plain : lowerConstruct source (.ofType here.type) here (withoutAll isLoose parts) =
      lowerConstruct source (.ofType here.type) here parts :=
    lowerConstruct_without (fun same => update (type_of_update same))
      (fun same => creation (type_of_objectCreation same))
  cases role with
  | plain => exact plain
  | statement => simp only [lowerNode, plain, switch_without]
  | elementValue => simp only [lowerNode, plain, elementValueArray_without]
  | initializer => simp only [lowerNode, staticInitializer_without]
  | enumConstant => simp only [lowerNode, enumConstant_without]

/-! ### Trees -/

mutual

/-- Comments may be deleted before or after notes are written. -/
theorem lowerable_without {α : Type} (source : Source) (tree : ParseTree α)
    (aside : ∀ node ∈ tree.nodes, CommentsAside node.mark node.childMarks) :
    lowerable source (tree.without isLoose) = (lowerable source tree).without isLoose := by
  match tree with
  | .node mark note children =>
    obtain ⟨here, below⟩ := forall_nodes_iff.1 aside
    have parts := annotateAll_without source children below
    have marks := map_mark_annotateAll (lowerNode source) children
    have noted : lowerNode source mark
        (withoutAll isLoose (ParseTree.annotateAll (lowerNode source) children)) =
          lowerNode source mark (ParseTree.annotateAll (lowerNode source) children) :=
      funext fun role => lowerNode_without (marks ▸ here) role
    simp only [lowerable, without, ParseTree.annotate, parts, noted]

theorem annotateAll_without {α : Type} (source : Source) (trees : List (ParseTree α))
    (aside : ∀ node ∈ ParseTree.allNodes trees, CommentsAside node.mark node.childMarks) :
    ParseTree.annotateAll (lowerNode source) (withoutAll isLoose trees) =
      withoutAll isLoose (ParseTree.annotateAll (lowerNode source) trees) := by
  match trees with
  | [] => simp [ParseTree.annotateAll]
  | tree :: rest =>
    obtain ⟨inside, behind⟩ := forall_allNodes_cons.1 aside
    have first := lowerable_without source tree inside
    have later := annotateAll_without source rest behind
    simp only [lowerable] at first
    rw [withoutAll, ParseTree.annotateAll, withoutAll, mark_annotate]
    split
    · exact later
    · rw [ParseTree.annotateAll, first, later]

end

theorem unitParts_map_without :
    unitParts source (parts.map (without isLoose)) = unitParts source parts := by
  induction parts with
  | nil => rfl
  | cons part rest ih =>
    simp [unitParts, packageDeclaration_without, importDeclaration_without, ih]

/-- Comments that stand aside do not matter: without them a parse tree is lowered to the same tree,
or it fails with the same error. -/
theorem lowerUnit_withoutComments {α : Type} (source : Source) (root : ParseTree α)
    (aside : ∀ node ∈ root.nodes, CommentsAside node.mark node.childMarks) :
    lowerUnit source root.withoutComments = lowerUnit source root := by
  -- No comment is under a field, so the ones that are deleted are those that handlers pass over.
  have loose : root.withoutComments = root.without isLoose := by
    refine without_congr root fun node member mark child => ?_
    cases comment : mark.isComment with
    | false => simp [isLoose, comment]
    | true => simp [isLoose, comment, (aside node member).1 mark child comment]
  rw [lowerUnit, loose, lowerable_without source root aside, children_without,
    contents_withoutAll, unitParts_map_without, lowerUnit]

/-- A text with comments between members, in a declarator and inside an increment. -/
def commentedText : String := "class A\x7b/**/int i/**/=n/**/++;\x7d"

def commentedParse : ParseTree Unit :=
  let comment (start : Nat) := part "block_comment" start (start + 4)
  let increment := part "update_expression" 22 29
    [part "identifier" 22 23, comment 23, token "++" 27] "value"
  let declarator := part "variable_declarator" 16 29
    [part "identifier" 16 17 [] "name", comment 17, token "=" 21, increment] "declarator"
  let field := part "field_declaration" 12 30
    [part "integral_type" 12 15 [token "int" 12] "type", declarator, token ";" 29]
  classUnit 7 7 31 [comment 8, field]

theorem lowerUnit_commentedParse :
    (∀ node ∈ commentedParse.nodes, CommentsAside node.mark node.childMarks) ∧
      commentedParse.withoutComments.nodes.length + 3 = commentedParse.nodes.length ∧
      lowerUnit (.ofString commentedText) commentedParse.withoutComments =
        lowerUnit (.ofString commentedText) commentedParse ∧
      (lowerUnit (.ofString commentedText) commentedParse).result.map
          (fun unit => unit.nodes.filterMap Tree.kind?) =
        .ok ["COMPILATION_UNIT", "CLASS", "MODIFIERS", "VARIABLE", "MODIFIERS", "PRIMITIVE_TYPE",
          "POSTFIX_INCREMENT", "IDENTIFIER"] := by
  have aside : ∀ node ∈ commentedParse.nodes, CommentsAside node.mark node.childMarks := by
    decide +kernel
  exact ⟨aside, by decide +kernel, lowerUnit_withoutComments _ commentedParse aside,
    by decide +kernel⟩

end SyntaxGraph.Java
