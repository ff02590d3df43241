import SyntaxGraph.Java.Lowering.Expressions

/-!
# Lowering of statements
-/
namespace SyntaxGraph.Java

open ParseTree (contents field? fields ofType?)

/-- A statement with nothing but the expression that it starts with. -/
def expressionOnly (source : Source) (kind slot : String) (here : Mark) (parts : List Part) :
    Lower Tree := do
  let expression ← lower? .plain (contents parts).head?
  make source kind here [] [(slot, .ofOption expression)]

def wrapped (source : Source) (part : Part) : Lower Tree := do
  let expression ← part.note .plain
  make source "EXPRESSION_STATEMENT" part.mark [] [("getExpression", .ofOption expression)]

/-- The statement that calls a constructor, where the call has the given span. -/
def callBetween (source : Source) (here : Mark) (parts : List Part) (method : Tree)
    (start stop : Int) : Lower Tree := do
  let typeArguments ← arguments (field? parts "type_arguments")
  let arguments ← arguments (field? parts "arguments")
  let call ← makeAt "METHOD_INVOCATION" start stop []
    [("getTypeArguments", .ofOptions typeArguments), ("getMethodSelect", .tree method),
      ("getArguments", .ofOptions arguments)]
  make source "EXPRESSION_STATEMENT" here [] [("getExpression", .tree call)]

def constructorCall (source : Source) (here : Mark) (parts : List Part) : Lower Tree := do
  let constructor ← need (field? parts "constructor")
  -- The constructor is named by a keyword, which is an identifier here.
  let plain ← identifier source constructor.mark
  let method ← match field? parts "object" with
    | none => pure plain
    | some target => selected source target (some constructor)
  let list := field? parts "arguments"
  let start ← startOf source here
  -- The call ends before the semicolon, the statement behind it.
  let stop ← match list with
    | some list => stopOf source list.mark
    | none => stopOf source here
  callBetween source here parts method start stop

def ifStatement (source : Source) (here : Mark) (parts : List Part) : Lower Tree := do
  let condition ← lower? .plain (field? parts "condition")
  let consequence ← lower? .statement (field? parts "consequence")
  let alternative ← lower? .statement (field? parts "alternative")
  make source "IF" here []
    [("getCondition", .ofOption condition), ("getThenStatement", .ofOption consequence),
      ("getElseStatement", .ofOption alternative)]

def whileStatement (source : Source) (here : Mark) (parts : List Part) : Lower Tree := do
  let condition ← lower? .plain (field? parts "condition")
  let body ← lower? .statement (field? parts "body")
  make source "WHILE_LOOP" here []
    [("getCondition", .ofOption condition), ("getStatement", .ofOption body)]

def doStatement (source : Source) (here : Mark) (parts : List Part) : Lower Tree := do
  let body ← lower? .statement (field? parts "body")
  let condition ← lower? .plain (field? parts "condition")
  make source "DO_WHILE_LOOP" here []
    [("getStatement", .ofOption body), ("getCondition", .ofOption condition)]

def loopStart (source : Source) (part : Part) : Lower (List Tree) :=
  if part.type = "local_variable_declaration" then declaredVariables source part
  else do
    let statement ← wrapped source part
    return [statement]

def forStatement (source : Source) (here : Mark) (parts : List Part) : Lower Tree := do
  let starts ← Traced.each (loopStart source) (fields parts "init")
  let condition ← lower? .plain (field? parts "condition")
  let updates ← Traced.each (wrapped source) (fields parts "update")
  let body ← lower? .statement (field? parts "body")
  make source "FOR_LOOP" here []
    [("getInitializer", .ofTrees starts.flatten), ("getCondition", .ofOption condition),
      ("getUpdate", .ofTrees updates), ("getStatement", .ofOption body)]

/-- The variable of a loop over a collection; it spans from its first part to its name. -/
def loopVariable (source : Source) (parts : List Part) : Lower Tree := do
  let type := field? parts "type"
  let name := field? parts "name"
  let first ← need ((ofType? parts "modifiers").or type)
  let start ← startOf source first.mark
  let last ← need name
  -- Brackets behind the name are beyond the span of the variable.
  let stop ← stopOf source last.mark
  let text ← textOf? source name
  let flags ← modifiers source parts
  let element ← lower? .plain type
  let type ← wrapDimensions source element (field? parts "dimensions")
  makeAt "VARIABLE" start stop [("name", .str text)]
    [("getModifiers", .tree flags), ("getType", .ofOption type)]

def enhancedFor (source : Source) (here : Mark) (parts : List Part) : Lower Tree := do
  let loopVariable ← loopVariable source parts
  let expression ← lower? .plain (field? parts "value")
  let body ← lower? .statement (field? parts "body")
  make source "ENHANCED_FOR_LOOP" here []
    [("getVariable", .tree loopVariable), ("getExpression", .ofOption expression),
      ("getStatement", .ofOption body)]

/-- The first part behind a colon that is no comment. -/
def behindColon (parts : List Part) : Option Part :=
  ((parts.dropWhile (·.type ≠ ":")).drop 1).find? (!·.mark.isComment)

def labeled (source : Source) (here : Mark) (parts : List Part) : Lower Tree := do
  let label ← textOf? source (ofType? parts "identifier")
  let statement ← lower? .statement (behindColon parts)
  make source "LABELED_STATEMENT" here [("label", .str label)]
    [("getStatement", .ofOption statement)]

def jump (source : Source) (kind : String) (here : Mark) (parts : List Part) : Lower Tree := do
  let label ← match ofType? parts "identifier" with
    | none => pure Json.null
    | some label => do
      let text ← textOf source label.mark
      pure (.str text)
  make source kind here [("label", label)] []

def assertion (source : Source) (here : Mark) (parts : List Part) : Lower Tree := do
  let named := contents parts
  let condition ← lower? .plain named.head?
  let detail ← lower? .plain (named.drop 1).head?
  make source "ASSERT" here []
    [("getCondition", .ofOption condition), ("getDetail", .ofOption detail)]

def synchronized (source : Source) (here : Mark) (parts : List Part) : Lower Tree := do
  let expression ← lower? .plain (ofType? parts "parenthesized_expression")
  let block ← neededBlock source (field? parts "body")
  make source "SYNCHRONIZED" here []
    [("getExpression", .ofOption expression), ("getBlock", .tree block)]

/-- A resource: a variable, or an expression for one that exists. -/
def resource (source : Source) (part : Part) : Lower (Option Tree) :=
  let parts := part.children
  match field? parts "type" with
  -- A resource that exists already is an expression.
  | none => lower? .plain (contents parts).head?
  | some type => do
    let name ← textOf? source (field? parts "name")
    let flags ← modifiers source parts
    let type ← type.note .plain
    let value ← lower? .plain (field? parts "value")
    let declared ← make source "VARIABLE" part.mark [("name", .str name)]
      [("getModifiers", .tree flags), ("getType", .ofOption type),
        ("getInitializer", .ofOption value)]
    return some declared

/-- The type that a handler catches; several types make a union. -/
def caughtType (source : Source) (list : Option Part) : Lower (Option Tree) := do
  -- The alternatives are lowered before it is known that there is a list.
  let alternatives ← lowerAll .plain (contents (ParseTree.parts list))
  match alternatives with
  | [type] => return type
  | _ =>
    let list ← need list
    let type ← make source "UNION_TYPE" list.mark []
      [("getTypeAlternatives", .ofOptions alternatives)]
    return some type

def handler (source : Source) (part : Part) : Lower Tree := do
  let declared := ofType? part.children "catch_formal_parameter"
  let type ← caughtType source (ofType? (ParseTree.parts declared) "catch_type")
  let declared ← need declared
  let name ← textOf? source (field? declared.children "name")
  let flags ← modifiers source declared.children
  let caught ← make source "VARIABLE" declared.mark [("name", .str name)]
    [("getModifiers", .tree flags), ("getType", .ofOption type)]
  let block ← neededBlock source (field? part.children "body")
  make source "CATCH" part.mark [] [("getParameter", .tree caught), ("getBlock", .tree block)]

def tryStatement (source : Source) (here : Mark) (parts : List Part) : Lower Tree := do
  let resources ← Traced.each (resource source)
    ((contents (ParseTree.parts (field? parts "resources"))).filter
      (·.type = "resource"))
  let handlers ← Traced.each (handler source)
    ((contents parts).filter (·.type = "catch_clause"))
  let final ← match ofType? parts "finally_clause" with
    | none => pure none
    | some clause => do
      let block ← neededBlock source (ofType? clause.children "block")
      pure (some block)
  let block ← neededBlock source (field? parts "body")
  make source "TRY" here []
    [("getResources", .ofOptions resources), ("getBlock", .tree block),
      ("getCatches", .ofTrees handlers), ("getFinallyBlock", .ofOption final)]

/-- Whether a label is the default one, and the values that it lists otherwise. -/
def caseLabel (source : Source) (label : Option Part) : Lower (Bool × List (Option Tree)) := do
  let text ← textOf? source label
  if text.startsWith "default" then return (true, [])
  else
    let values ← lowerAll .plain (contents (ParseTree.parts label))
    return (false, values)

/-- The cases of the labels before some statements, which belong to the last of them. -/
def casesOf (source : Source) (statements : List (Option Tree)) : List Part → Lower (List Tree)
  | [] => pure []
  | label :: rest => do
    let (isDefault, values) ← caseLabel source (some label)
    -- Statements behind several labels belong to the last of them.
    let own := if rest.isEmpty then statements else []
    let stop ← match own.getLast? with
      | some last => do
        let last ← need last
        pure last.stop
      | none => stopOf source label.mark
    let start ← startOf source label.mark
    let first ← makeAt "CASE" start stop [("default", .bool isDefault)]
      [("getExpressions", .ofOptions values), ("getStatements", .ofOptions own)]
    let others ← casesOf source statements rest
    return first :: others

def caseGroup (source : Source) (group : Part) : Lower (List Tree) := do
  let statements ← statementList source
    (group.children.filter fun part => part.type ≠ "switch_label" && part.type ≠ ":")
  casesOf source statements (group.children.filter (·.type = "switch_label"))

def ruleBody (body : Option Part) : Lower (Option Tree) :=
  match body with
  | some body =>
    if body.type = "expression_statement" then
      -- An expression with an arrow is no statement.
      lower? .plain (contents body.children).head?
    else body.note .statement
  | none => pure none

def caseRule (source : Source) (rule : Part) : Lower Tree := do
  let (isDefault, values) ← caseLabel source (ofType? rule.children "switch_label")
  let body ← ruleBody
    ((contents rule.children).filter (·.type ≠ "switch_label")).head?
  make source "CASE" rule.mark [("default", .bool isDefault), ("rule", .bool true)]
    [("getExpressions", .ofOptions values), ("getBody", .ofOption body)]

def casesIn (source : Source) (part : Part) : Lower (List Tree) :=
  if part.type = "switch_block_statement_group" then caseGroup source part
  else if part.type = "switch_rule" then do
    let rule ← caseRule source part
    return [rule]
  else pure []

def switch (source : Source) (kind : String) (here : Mark) (parts : List Part) : Lower Tree := do
  let cases ← Traced.each (casesIn source)
    (contents (ParseTree.parts (field? parts "body")))
  let expression ← lower? .plain (field? parts "condition")
  make source kind here []
    [("getExpression", .ofOption expression), ("getCases", .ofTrees cases.flatten)]

end SyntaxGraph.Java
