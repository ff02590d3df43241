import SyntaxGraph.Java.Lowering.Expressions

/-!
# Constructs

What the types of parse nodes stand for.
-/
namespace SyntaxGraph.Java

inductive Construct
  | emptyStatement
  | identifier
  | scopedName
  | scopedType
  | fieldAccess
  | classLiteral
  | literal (form : LiteralForm)
  | parenthesized
  | binary
  | unary
  | update
  | assignment
  | ternary
  | cast
  | instanceOf
  | lambda
  | invocation
  | objectCreation
  | arrayCreation
  | arrayInitializer
  | arrayAccess
  | methodReference
  | switch
  | genericType
  | arrayType
  | wildcard
  | annotatedType
  | primitiveType
  | annotationUse
  | block
  | expressionStatement
  | ifStatement
  | whileStatement
  | doStatement
  | forStatement
  | enhancedFor
  | labeled
  | breakStatement
  | continueStatement
  | returnStatement
  | throwStatement
  | yieldStatement
  | assertion
  | synchronized
  | tryStatement
  | constructorCall
  | typeDeclaration (kind : String)
  | method (form : MethodForm)
  | other
deriving DecidableEq

/-- The types of parse nodes that have a meaning of their own. -/
def constructs : List (String × Construct) :=
  [(";", .emptyStatement),
    ("identifier", .identifier), ("type_identifier", .identifier), ("this", .identifier),
    ("super", .identifier), ("scoped_identifier", .scopedName),
    ("scoped_type_identifier", .scopedType), ("field_access", .fieldAccess),
    ("class_literal", .classLiteral),
    ("true", .literal .boolean), ("false", .literal .boolean), ("null_literal", .literal .null),
    ("character_literal", .literal .character), ("string_literal", .literal .text),
    ("text_block", .literal .text), ("decimal_integer_literal", .literal .integer),
    ("hex_integer_literal", .literal .integer), ("octal_integer_literal", .literal .integer),
    ("binary_integer_literal", .literal .integer),
    ("decimal_floating_point_literal", .literal .floating),
    ("hex_floating_point_literal", .literal .floating),
    ("parenthesized_expression", .parenthesized), ("binary_expression", .binary),
    ("unary_expression", .unary), ("update_expression", .update),
    ("assignment_expression", .assignment), ("ternary_expression", .ternary),
    ("cast_expression", .cast), ("instanceof_expression", .instanceOf),
    ("lambda_expression", .lambda), ("method_invocation", .invocation),
    ("object_creation_expression", .objectCreation),
    ("array_creation_expression", .arrayCreation), ("array_initializer", .arrayInitializer),
    ("array_access", .arrayAccess), ("method_reference", .methodReference),
    ("switch_expression", .switch), ("generic_type", .genericType), ("array_type", .arrayType),
    ("wildcard", .wildcard), ("annotated_type", .annotatedType),
    ("integral_type", .primitiveType), ("floating_point_type", .primitiveType),
    ("boolean_type", .primitiveType), ("void_type", .primitiveType),
    ("marker_annotation", .annotationUse), ("annotation", .annotationUse), ("block", .block),
    ("constructor_body", .block), ("expression_statement", .expressionStatement),
    ("if_statement", .ifStatement), ("while_statement", .whileStatement),
    ("do_statement", .doStatement), ("for_statement", .forStatement),
    ("enhanced_for_statement", .enhancedFor), ("labeled_statement", .labeled),
    ("break_statement", .breakStatement), ("continue_statement", .continueStatement),
    ("return_statement", .returnStatement), ("throw_statement", .throwStatement),
    ("yield_statement", .yieldStatement), ("assert_statement", .assertion),
    ("synchronized_statement", .synchronized), ("try_statement", .tryStatement),
    ("try_with_resources_statement", .tryStatement),
    ("explicit_constructor_invocation", .constructorCall),
    ("class_declaration", .typeDeclaration "CLASS"),
    ("interface_declaration", .typeDeclaration "INTERFACE"),
    ("enum_declaration", .typeDeclaration "ENUM"),
    ("record_declaration", .typeDeclaration "RECORD"),
    ("annotation_type_declaration", .typeDeclaration "ANNOTATION_TYPE"),
    ("method_declaration", .method .method),
    ("constructor_declaration", .method .constructor),
    ("compact_constructor_declaration", .method .compactConstructor),
    ("annotation_type_element_declaration", .method .annotationElement)]

/-- What a type of parse nodes stands for. -/
def Construct.ofType (type : String) : Construct :=
  (constructs.lookup type).getD .other

theorem Construct.mem_of_ofType {type : String} {construct : Construct}
    (same : ofType type = construct) (own : construct ≠ .other) :
    (type, construct) ∈ constructs := by
  unfold ofType at same
  cases found : constructs.lookup type with
  | none =>
    rw [found] at same
    exact absurd same.symm own
  | some listed =>
    rw [found] at same
    cases same
    obtain ⟨before, behind, here, -⟩ := List.lookup_eq_some_iff.1 found
    simp [here]

end SyntaxGraph.Java
