import SyntaxGraph.Tree.Grammar

/-!
# The Java grammar

The kinds of nodes in Java trees. Slots are named after accessors and listed in source order.
-/
namespace SyntaxGraph.Java

/-- A slot that must be filled. -/
def single (name : String) : Slot := { name }

def optional (name : String) : Slot := { name, arity := .optional }

/-- A slot for any number of children. -/
def list (name : String) : Slot := { name, arity := .list }

def binaryOperators : List (String × String) :=
  [("+", "PLUS"), ("-", "MINUS"), ("*", "MULTIPLY"), ("/", "DIVIDE"), ("%", "REMAINDER"),
    ("<", "LESS_THAN"), (">", "GREATER_THAN"), ("<=", "LESS_THAN_EQUAL"),
    (">=", "GREATER_THAN_EQUAL"), ("==", "EQUAL_TO"), ("!=", "NOT_EQUAL_TO"),
    ("&&", "CONDITIONAL_AND"), ("||", "CONDITIONAL_OR"), ("&", "AND"), ("|", "OR"), ("^", "XOR"),
    ("<<", "LEFT_SHIFT"), (">>", "RIGHT_SHIFT"), (">>>", "UNSIGNED_RIGHT_SHIFT")]

def assignmentOperators : List (String × String) :=
  [("+=", "PLUS_ASSIGNMENT"), ("-=", "MINUS_ASSIGNMENT"), ("*=", "MULTIPLY_ASSIGNMENT"),
    ("/=", "DIVIDE_ASSIGNMENT"), ("%=", "REMAINDER_ASSIGNMENT"), ("&=", "AND_ASSIGNMENT"),
    ("|=", "OR_ASSIGNMENT"), ("^=", "XOR_ASSIGNMENT"), ("<<=", "LEFT_SHIFT_ASSIGNMENT"),
    (">>=", "RIGHT_SHIFT_ASSIGNMENT"), (">>>=", "UNSIGNED_RIGHT_SHIFT_ASSIGNMENT")]

def unaryOperators : List (String × String) :=
  [("+", "UNARY_PLUS"), ("-", "UNARY_MINUS"), ("!", "LOGICAL_COMPLEMENT"),
    ("~", "BITWISE_COMPLEMENT")]

def literalKinds : List String :=
  ["INT_LITERAL", "LONG_LITERAL", "FLOAT_LITERAL", "DOUBLE_LITERAL", "BOOLEAN_LITERAL",
    "CHAR_LITERAL", "STRING_LITERAL", "NULL_LITERAL"]

def classKinds : List String :=
  ["CLASS", "INTERFACE", "ENUM", "RECORD", "ANNOTATION_TYPE"]

def updateKinds : List String :=
  ["PREFIX_INCREMENT", "PREFIX_DECREMENT", "POSTFIX_INCREMENT", "POSTFIX_DECREMENT"]

def classSlots : List Slot :=
  [single "getModifiers", list "getTypeParameters", optional "getExtendsClause",
    list "getImplementsClause", list "getMembers"]

/-- The schemas of declarations. The name of the package is reached through the package node too. -/
def declarationSchemas : List Schema :=
  [ { kind := "COMPILATION_UNIT"
      slots := [optional "getPackage",
        { name := "getPackageName", arity := .optional, aliasOf := some "getPackage" },
        list "getImports", list "getTypeDecls"] },
    { kind := "PACKAGE", slots := [list "getAnnotations", single "getPackageName"] },
    { kind := "IMPORT", slots := [single "getQualifiedIdentifier"] }] ++
  (classKinds.map fun kind => { kind, slots := classSlots }) ++
  [ { kind := "MODIFIERS", slots := [list "getAnnotations"] },
    { kind := "METHOD"
      slots := [single "getModifiers", list "getTypeParameters", optional "getReturnType",
        optional "getReceiverParameter", list "getParameters", list "getThrows",
        optional "getBody", optional "getDefaultValue"]
      isMethod := true },
    { kind := "VARIABLE"
      slots := [single "getModifiers", optional "getType", optional "getInitializer"] },
    { kind := "TYPE_PARAMETER", slots := [list "getAnnotations", list "getBounds"] }]

def statementSchemas : List Schema :=
  [ { kind := "BLOCK", slots := [list "getStatements"] },
    { kind := "EMPTY_STATEMENT" },
    { kind := "EXPRESSION_STATEMENT", slots := [single "getExpression"] },
    { kind := "IF"
      slots := [single "getCondition", single "getThenStatement", optional "getElseStatement"] },
    { kind := "WHILE_LOOP", slots := [single "getCondition", single "getStatement"] },
    { kind := "DO_WHILE_LOOP", slots := [single "getStatement", single "getCondition"] },
    { kind := "FOR_LOOP"
      slots := [list "getInitializer", optional "getCondition", list "getUpdate",
        single "getStatement"] },
    { kind := "ENHANCED_FOR_LOOP"
      slots := [single "getVariable", single "getExpression", single "getStatement"] },
    { kind := "LABELED_STATEMENT", slots := [single "getStatement"] },
    { kind := "BREAK" },
    { kind := "CONTINUE" },
    { kind := "RETURN", slots := [optional "getExpression"] },
    { kind := "THROW", slots := [single "getExpression"] },
    { kind := "YIELD", slots := [single "getValue"] },
    { kind := "ASSERT", slots := [single "getCondition", optional "getDetail"] },
    { kind := "SYNCHRONIZED", slots := [single "getExpression", single "getBlock"] },
    { kind := "TRY"
      slots := [list "getResources", single "getBlock", list "getCatches",
        optional "getFinallyBlock"] },
    { kind := "CATCH", slots := [single "getParameter", single "getBlock"] },
    { kind := "SWITCH", slots := [single "getExpression", list "getCases"] },
    { kind := "SWITCH_EXPRESSION", slots := [single "getExpression", list "getCases"] },
    { kind := "CASE", slots := [list "getExpressions", list "getStatements", optional "getBody"] }]

def expressionSchemas : List Schema :=
  [ { kind := "IDENTIFIER" },
    { kind := "MEMBER_SELECT", slots := [single "getExpression"] }] ++
  (literalKinds.map fun kind => { kind := kind }) ++
  [ { kind := "PARENTHESIZED", slots := [single "getExpression"] }] ++
  (binaryOperators.map fun (_, kind) =>
      { kind, slots := [single "getLeftOperand", single "getRightOperand"] }) ++
  (unaryOperators.map fun (_, kind) => { kind, slots := [single "getExpression"] }) ++
  (updateKinds.map fun kind => { kind, slots := [single "getExpression"] }) ++
  [ { kind := "ASSIGNMENT", slots := [single "getVariable", single "getExpression"] }] ++
  (assignmentOperators.map fun (_, kind) =>
      { kind, slots := [single "getVariable", single "getExpression"] }) ++
  [ { kind := "CONDITIONAL_EXPRESSION"
      slots := [single "getCondition", single "getTrueExpression", single "getFalseExpression"] },
    { kind := "TYPE_CAST", slots := [single "getType", single "getExpression"] },
    { kind := "INSTANCE_OF"
      slots := [single "getExpression", optional "getType", optional "getPattern"] },
    { kind := "BINDING_PATTERN", slots := [single "getVariable"] },
    { kind := "ARRAY_ACCESS", slots := [single "getExpression", single "getIndex"] },
    { kind := "METHOD_INVOCATION"
      slots := [list "getTypeArguments", single "getMethodSelect", list "getArguments"] },
    { kind := "NEW_CLASS"
      slots := [optional "getEnclosingExpression", list "getTypeArguments",
        optional "getIdentifier", list "getArguments", optional "getClassBody"] },
    { kind := "NEW_ARRAY"
      slots := [optional "getType", list "getDimensions", list "getInitializers"] },
    { kind := "LAMBDA_EXPRESSION", slots := [list "getParameters", single "getBody"] },
    { kind := "MEMBER_REFERENCE"
      slots := [single "getQualifierExpression", list "getTypeArguments"] },
    { kind := "ANNOTATION", slots := [single "getAnnotationType", list "getArguments"] }]

def typeSchemas : List Schema :=
  [ { kind := "PRIMITIVE_TYPE" },
    { kind := "ARRAY_TYPE", slots := [single "getType"] },
    { kind := "PARAMETERIZED_TYPE", slots := [single "getType", list "getTypeArguments"] },
    { kind := "UNION_TYPE", slots := [list "getTypeAlternatives"] },
    { kind := "INTERSECTION_TYPE", slots := [list "getBounds"] },
    { kind := "ANNOTATED_TYPE", slots := [list "getAnnotations", single "getUnderlyingType"] },
    { kind := "UNBOUNDED_WILDCARD", slots := [optional "getBound"] },
    { kind := "EXTENDS_WILDCARD", slots := [single "getBound"] },
    { kind := "SUPER_WILDCARD", slots := [single "getBound"] }]

def otherSchema : Schema := { kind := "OTHER", slots := [list "getChildren"] }

def grammar : Grammar where
  name := "java"
  schemas :=
    declarationSchemas ++ statementSchemas ++ expressionSchemas ++ typeSchemas ++ [otherSchema]

end SyntaxGraph.Java
