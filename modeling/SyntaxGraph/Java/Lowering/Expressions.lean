import SyntaxGraph.Java.Lowering.Declarations

/-!
# Lowering of expressions
-/
namespace SyntaxGraph.Java

open ParseTree (contents field? fields ofType?)

inductive LiteralForm
  | integer
  | floating
  | boolean
  | character
  | null
  | text
deriving DecidableEq

/-- Whether the last character of a text is one of two; the text must not be empty. -/
def endsIn (text : String) (lower upper : Char) : Lower Bool := do
  let last ← needSome text.toList.getLast?
  return last = lower || last = upper

def LiteralForm.kind (form : LiteralForm) (text : String) : Lower String :=
  match form with
  -- A suffix makes the literal a long one or a float.
  | .integer => do
    return if ← endsIn text 'l' 'L' then "LONG_LITERAL" else "INT_LITERAL"
  | .floating => do
    return if ← endsIn text 'f' 'F' then "FLOAT_LITERAL" else "DOUBLE_LITERAL"
  | .boolean => pure "BOOLEAN_LITERAL"
  | .character => pure "CHAR_LITERAL"
  | .null => pure "NULL_LITERAL"
  | .text => pure "STRING_LITERAL"

def literal (source : Source) (form : LiteralForm) (here : Mark) : Lower Tree := do
  let text ← textOf source here
  let kind ← form.kind text
  make source kind here [("value", .str text)] []

def parenthesized (source : Source) (here : Mark) (parts : List Part) : Lower Tree := do
  let expression ← lower? .plain (contents parts).head?
  make source "PARENTHESIZED" here [] [("getExpression", .ofOption expression)]

def operatorKind (operators : List (String × String)) (text : String) : Lower String :=
  match operators.lookup text with
  | some kind => pure kind
  | none => Traced.fail (.unknownOperator text)

def binary (source : Source) (here : Mark) (parts : List Part) : Lower Tree := do
  let operator ← textOf? source (field? parts "operator")
  let kind ← operatorKind binaryOperators operator
  let left ← lower? .plain (field? parts "left")
  let right ← lower? .plain (field? parts "right")
  make source kind here []
    [("getLeftOperand", .ofOption left), ("getRightOperand", .ofOption right)]

def unary (source : Source) (here : Mark) (parts : List Part) : Lower Tree := do
  let operator ← textOf? source (field? parts "operator")
  let kind ← operatorKind unaryOperators operator
  let expression ← lower? .plain (field? parts "operand")
  make source kind here [] [("getExpression", .ofOption expression)]

/-- The kind of an increment or decrement: by its first part if that is an operator, else by its
last. -/
def updateKind (first last : String) : String :=
  if first = "++" then "PREFIX_INCREMENT"
  else if first = "--" then "PREFIX_DECREMENT"
  else if last = "++" then "POSTFIX_INCREMENT"
  else "POSTFIX_DECREMENT"

def update (source : Source) (here : Mark) (parts : List Part) : Lower Tree := do
  let first ← needSome parts.head?
  let last ← needSome parts.getLast?
  -- An increment in front is no content, so the operand is the first content either way.
  let expression ← lower? .plain (contents parts).head?
  make source (updateKind first.type last.type) here [] [("getExpression", .ofOption expression)]

def assignment (source : Source) (here : Mark) (parts : List Part) : Lower Tree := do
  let operator ← textOf? source (field? parts "operator")
  let kind ←
    if operator = "=" then pure "ASSIGNMENT" else operatorKind assignmentOperators operator
  let target ← lower? .plain (field? parts "left")
  let value ← lower? .plain (field? parts "right")
  make source kind here [] [("getVariable", .ofOption target), ("getExpression", .ofOption value)]

def ternary (source : Source) (here : Mark) (parts : List Part) : Lower Tree := do
  let condition ← lower? .plain (field? parts "condition")
  let consequence ← lower? .plain (field? parts "consequence")
  let alternative ← lower? .plain (field? parts "alternative")
  make source "CONDITIONAL_EXPRESSION" here []
    [("getCondition", .ofOption condition), ("getTrueExpression", .ofOption consequence),
      ("getFalseExpression", .ofOption alternative)]

/-- The type of a cast; several types make an intersection. -/
def castType : List (Option Tree) → Lower (Option Tree)
  | [type] => pure type
  | types => do
    -- The intersection has no node of its own, so it spans from the first type to the last.
    let first ← need (← needSome types.head?)
    let last ← need (← needSome types.getLast?)
    let type ← makeAt "INTERSECTION_TYPE" first.start last.stop []
      [("getBounds", .ofOptions types)]
    return some type

def cast (source : Source) (here : Mark) (parts : List Part) : Lower Tree := do
  let types ← lowerAll .plain (fields parts "type")
  let type ← castType types
  let expression ← lower? .plain (field? parts "value")
  make source "TYPE_CAST" here []
    [("getType", .ofOption type), ("getExpression", .ofOption expression)]

def bindingPattern (source : Source) (type name : Part) : Lower Tree := do
  let start ← startOf source type.mark
  let stop ← stopOf source name.mark
  let text ← textOf source name.mark
  let flags ← noModifiers
  let bound ← type.note .plain
  let binding ← makeAt "VARIABLE" start stop [("name", .str text)]
    [("getModifiers", .tree flags), ("getType", .ofOption bound)]
  makeAt "BINDING_PATTERN" start stop [] [("getVariable", .tree binding)]

def typeTest (source : Source) (parts : List Part) : Lower (Option Tree × Option Tree) :=
  match field? parts "name", field? parts "right" with
  -- A name binds the value; without one there may be a pattern of its own.
  | some name, some type => do
    let pattern ← bindingPattern source type name
    return (none, some pattern)
  | _, right =>
    match field? parts "pattern" with
    | some pattern => do
      let pattern ← pattern.note .plain
      return (none, pattern)
    | none => do
      let type ← lower? .plain right
      return (type, none)

def instanceOf (source : Source) (here : Mark) (parts : List Part) : Lower Tree := do
  let (type, pattern) ← typeTest source parts
  let expression ← lower? .plain (field? parts "left")
  make source "INSTANCE_OF" here []
    [("getExpression", .ofOption expression), ("getType", .ofOption type),
      ("getPattern", .ofOption pattern)]

def lambdaParameters (source : Source) : Option Part → Lower (List Tree)
  | none => pure []
  | some list =>
    -- A single parameter may stand without parentheses.
    if list.type = "identifier" then do
      let parameter ← implicitParameter source list
      return [parameter]
    else if list.type = "inferred_parameters" then
      Traced.each (implicitParameter source) (contents list.children)
    else
      Traced.each (parameter source) ((contents list.children).filter isParameter)

def lambda (source : Source) (here : Mark) (parts : List Part) : Lower Tree := do
  let parameters ← lambdaParameters source (field? parts "parameters")
  let body ← need (field? parts "body")
  let kind := if body.type = "block" then "STATEMENT" else "EXPRESSION"
  let lowered ← body.note .plain
  make source "LAMBDA_EXPRESSION" here [("body_kind", .str kind)]
    [("getParameters", .ofTrees parameters), ("getBody", .ofOption lowered)]

def selected (source : Source) (target : Part) (name : Option Part) : Lower Tree := do
  let start ← startOf source target.mark
  let name ← need name
  let stop ← stopOf source name.mark
  let text ← textOf source name.mark
  let expression ← target.note .plain
  makeAt "MEMBER_SELECT" start stop [("identifier", .str text)]
    [("getExpression", .ofOption expression)]

def invocation (source : Source) (here : Mark) (parts : List Part) : Lower Tree := do
  let name := field? parts "name"
  let method ← match field? parts "object" with
    | some target => selected source target name
    | none => neededIdentifier source name
  let typeArguments ← arguments (field? parts "type_arguments")
  let arguments ← arguments (field? parts "arguments")
  make source "METHOD_INVOCATION" here []
    [("getTypeArguments", .ofOptions typeArguments), ("getMethodSelect", .tree method),
      ("getArguments", .ofOptions arguments)]

def objectCreation (source : Source) (here : Mark) (parts : List Part) : Lower Tree := do
  let first ← needSome parts.head?
  -- A leading expression is the object around the new one.
  let enclosing ← if first.isContent then first.note .plain else pure none
  let typeArguments ← arguments (field? parts "type_arguments")
  let type ← lower? .plain (field? parts "type")
  let arguments ← arguments (field? parts "arguments")
  let body ← anonymousClass? source (ofType? parts "class_body")
  make source "NEW_CLASS" here []
    [("getEnclosingExpression", .ofOption enclosing),
      ("getTypeArguments", .ofOptions typeArguments), ("getIdentifier", .ofOption type),
      ("getArguments", .ofOptions arguments), ("getClassBody", .ofOption body)]

def extraDimensions (parts : List Part) : Nat :=
  let dimensions := (fields parts "dimensions").filter (·.type = "dimensions")
  let brackets := dimensions.foldl (fun count part => count + ParseTree.brackets part.children) 0
  -- A new array with initial values is itself one of the dimensions.
  if (field? parts "value").isSome then brackets - 1 else brackets

def elementType (parts : List Part) (element : Option Tree) : Lower (Option Tree) :=
  match extraDimensions parts with
  | 0 => pure element
  | count + 1 => do
    let element ← need element
    let type ← arrayOf element.stop (count + 1) element
    return some type

def arrayCreation (source : Source) (here : Mark) (parts : List Part) : Lower Tree := do
  let element ← lower? .plain (field? parts "type")
  let type ← elementType parts element
  let dimensions ← Traced.each
    (fun part => lower? .plain (contents part.children).head?)
    ((fields parts "dimensions").filter (·.type = "dimensions_expr"))
  let values ← lowerAll .plain
    (contents (ParseTree.parts (field? parts "value")))
  make source "NEW_ARRAY" here []
    [("getType", .ofOption type), ("getDimensions", .ofOptions dimensions),
      ("getInitializers", .ofOptions values)]

def arrayInitializer (source : Source) (here : Mark) (parts : List Part) : Lower Tree := do
  let values ← lowerAll .plain (contents parts)
  make source "NEW_ARRAY" here [] [("getInitializers", .ofOptions values)]

def arrayAccess (source : Source) (here : Mark) (parts : List Part) : Lower Tree := do
  let array ← lower? .plain (field? parts "array")
  let index ← lower? .plain (field? parts "index")
  make source "ARRAY_ACCESS" here []
    [("getExpression", .ofOption array), ("getIndex", .ofOption index)]

def referenceName (source : Source) (parts : List Part) : Lower String :=
  if parts.any (·.type = "new") then pure "new"
  else
    match contents parts with
    -- Behind the qualifier and type arguments comes the name.
    | _ :: second :: rest => textOf source ((second :: rest).getLastD second).mark
    | _ => pure ""

def methodReference (source : Source) (here : Mark) (parts : List Part) : Lower Tree := do
  let name ← referenceName source parts
  let qualifier ← lower? .plain (contents parts).head?
  let typeArguments ← arguments (ofType? parts "type_arguments")
  make source "MEMBER_REFERENCE" here [("name", .str name)]
    [("getQualifierExpression", .ofOption qualifier),
      ("getTypeArguments", .ofOptions typeArguments)]

end SyntaxGraph.Java
