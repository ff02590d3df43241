import SyntaxGraph.Java.Lowering.Types

/-!
# Lowering of declarations
-/
namespace SyntaxGraph.Java

open ParseTree (contents field? fields ofType?)

def modifiers (source : Source) (parts : List Part) : Lower Tree :=
  match ofType? parts "modifiers" with
  | none => noModifiers
  | some list => do
    let annotations ← lowerAll .plain ((contents list.children).filter isAnnotationPart)
    let flags ← Traced.each (fun part => textOf source part.mark)
      -- Comments among the modifiers are no flags.
      (list.children.filter fun part => !isAnnotationPart part && !part.mark.isComment)
    make source "MODIFIERS" list.mark [("flags", .arr (flags.map .str))]
      [("getAnnotations", .ofOptions annotations)]

def annotationArgument (source : Source) (argument : Part) : Lower (Option Tree) :=
  if argument.type = "element_value_pair" then do
    let key ← neededIdentifier source (field? argument.children "key")
    let value ← lower? .elementValue (field? argument.children "value")
    let assignment ← make source "ASSIGNMENT" argument.mark []
      [("getVariable", .tree key), ("getExpression", .ofOption value)]
    return some assignment
  else argument.note .elementValue

def annotationUse (source : Source) (here : Mark) (parts : List Part) : Lower Tree := do
  let arguments ← Traced.each (annotationArgument source)
    -- A single value may stand without a name.
    (contents (ParseTree.parts (field? parts "arguments")))
  let type ← lower? .plain (field? parts "name")
  make source "ANNOTATION" here []
    [("getAnnotationType", .ofOption type), ("getArguments", .ofOptions arguments)]

def elementValueArray (source : Source) (here : Mark) (parts : List Part) : Lower Tree := do
  let values ← lowerAll .elementValue (contents parts)
  make source "NEW_ARRAY" here [] [("getInitializers", .ofOptions values)]

def typeParameter (source : Source) (parameter : Part) : Lower Tree := do
  let named := contents parameter.children
  let annotations ← lowerAll .plain (named.filter isAnnotationPart)
  let name ← textOf? source
    (named.find? fun part => part.type = "type_identifier" || part.type = "identifier")
  let bounds ← lowerAll .plain
    (contents (ParseTree.parts (ofType? parameter.children "type_bound")))
  make source "TYPE_PARAMETER" parameter.mark [("name", .str name)]
    [("getAnnotations", .ofOptions annotations), ("getBounds", .ofOptions bounds)]

def typeParameters (source : Source) (parts : List Part) : Lower (List Tree) :=
  let list := (field? parts "type_parameters").or
    (ofType? parts "type_parameters")
  Traced.each (typeParameter source)
    ((contents (ParseTree.parts list)).filter (·.type = "type_parameter"))

/-- A parameter that takes any number of arguments. -/
def spreadParameter (source : Source) (parameter : Part) : Lower Tree := do
  let parts := parameter.children
  let declarator := ofType? parts "variable_declarator"
  -- The type is not under a field here: it is whatever is left.
  let element ← lower? .plain ((contents parts).find? fun part =>
    part.type ≠ "modifiers" && part.type ≠ "variable_declarator" && !isAnnotationPart part)
  let type ← match element with
    | none => pure none
    | some element => do
      -- The array type ends with the dots.
      let stop ← match ofType? parts "..." with
        | some dots => stopOf source dots.mark
        | none => pure element.stop
      let array ← makeAt "ARRAY_TYPE" element.start stop [] [("getType", .tree element)]
      pure (some array)
  let name ← textOf? source (field? (ParseTree.parts declarator) "name")
  let flags ← modifiers source parts
  make source "VARIABLE" parameter.mark [("name", .str name), ("varargs", .bool true)]
    [("getModifiers", .tree flags), ("getType", .ofOption type)]

def formalParameter (source : Source) (parameter : Part) : Lower Tree := do
  let parts := parameter.children
  let name ← textOf? source (field? parts "name")
  let flags ← modifiers source parts
  let element ← lower? .plain (field? parts "type")
  let type ← wrapDimensions source element (field? parts "dimensions")
  make source "VARIABLE" parameter.mark [("name", .str name)]
    [("getModifiers", .tree flags), ("getType", .ofOption type)]

def isParameter (part : Part) : Bool :=
  part.type = "formal_parameter" || part.type = "spread_parameter"

def parameter (source : Source) (part : Part) : Lower Tree :=
  if part.type = "spread_parameter" then spreadParameter source part
  else formalParameter source part

/-- The receiver of a method, written out among its parameters. -/
def receiverParameter (source : Source) (part : Part) : Lower Tree := do
  let flags ← modifiers source part.children
  let type ← lower? .plain ((contents part.children).find? fun part =>
    !isAnnotationPart part && part.type ≠ "identifier" && part.type ≠ "this")
  make source "VARIABLE" part.mark [("name", .str "this"), ("receiver", .bool true)]
    [("getModifiers", .tree flags), ("getType", .ofOption type)]

def implicitParameter (source : Source) (part : Part) : Lower Tree := do
  let name ← textOf source part.mark
  let flags ← noModifiers
  make source "VARIABLE" part.mark [("name", .str name)] [("getModifiers", .tree flags)]

def variableOf (source : Source) (here : Mark) (parts : List Part) (declarator : Part) :
    Lower Tree := do
  -- All variables of a declaration start with it, and each ends with its declarator.
  let start ← startOf source here
  let stop ← stopOf source declarator.mark
  let name ← textOf? source (field? declarator.children "name")
  let flags ← modifiers source parts
  let element ← lower? .plain (field? parts "type")
  let type ← wrapDimensions source element (field? declarator.children "dimensions")
  let value ← lower? .plain (field? declarator.children "value")
  makeAt "VARIABLE" start stop [("name", .str name)]
    [("getModifiers", .tree flags), ("getType", .ofOption type),
      ("getInitializer", .ofOption value)]

def declaredVariables (source : Source) (declaration : Part) : Lower (List Tree) :=
  Traced.each (variableOf source declaration.mark declaration.children)
    (fields declaration.children "declarator")

def variableDeclarations : List String :=
  ["field_declaration", "constant_declaration", "local_variable_declaration"]

/-- A member of a body, which may stand for several nodes. -/
def member (source : Source) (part : Part) : Lower (List (Option Tree)) :=
  if variableDeclarations.contains part.type then do
    let declared ← declaredVariables source part
    return declared.map some
  else if part.type = "static_initializer" then do
    let block ← part.note .initializer
    return [block]
  else do
    let statement ← part.note .statement
    return [statement]

/-- The statements in a list of parts. Comments and other punctuation than semicolons vanish. -/
def statementList (source : Source) : List Part → Lower (List (Option Tree))
  | [] => pure []
  | part :: rest => do
    let first ←
      if part.type = ";" then do
        -- Each semicolon is an empty statement.
        let statement ← make source "EMPTY_STATEMENT" part.mark [] []
        pure [some statement]
      else if part.isContent then member source part
      else pure []
    let others ← statementList source rest
    return first ++ others

def blockAt (source : Source) (here : Mark) (isStatic : Bool) (parts : List Part) :
    Lower Tree := do
  let statements ← statementList source parts
  make source "BLOCK" here [("static", .bool isStatic)] [("getStatements", .ofOptions statements)]

def neededBlock (source : Source) (block : Option Part) : Lower Tree := do
  let block ← need block
  blockAt source block.mark false block.children

def block? (source : Source) : Option Part → Lower (Option Tree)
  | none => pure none
  | some block => do
    let block ← blockAt source block.mark false block.children
    return some block

def staticInitializer (source : Source) (here : Mark) (parts : List Part) : Lower Tree := do
  let block ← need (ofType? parts "block")
  blockAt source here true block.children

mutual

/-- The parts of a body that declare members. The declarations that follow the constants of an
enumeration stand in a part of their own, which is opened up. -/
def bodyParts : List Part → List Part
  | [] => []
  | part :: rest => (if part.isContent then openedPart part else []) ++ bodyParts rest

def openedPart : Part → List Part
  | .node mark note children =>
    -- The declarations behind the constants of an enumeration stand in a part of their own.
    if mark.type = "enum_body_declarations" then bodyParts children
    else [.node mark note children]

end

def bodyMember (source : Source) (part : Part) : Lower (List (Option Tree)) :=
  if part.type = "enum_constant" then do
    let constant ← part.note .enumConstant
    return [constant]
  else member source part

def classBody (source : Source) (parts : List Part) : Lower (List (Option Tree)) := do
  let members ← Traced.each (bodyMember source) (bodyParts parts)
  return members.flatten

def anonymousClass (source : Source) (body : Part) : Lower Tree := do
  let flags ← noModifiers
  let members ← classBody source body.children
  make source "CLASS" body.mark [("name", .str ""), ("anonymous", .bool true)]
    [("getModifiers", .tree flags), ("getMembers", .ofOptions members)]

def anonymousClass? (source : Source) : Option Part → Lower (Option Tree)
  | none => pure none
  | some body => do
    let body ← anonymousClass source body
    return some body

def arguments (list : Option Part) : Lower (List (Option Tree)) :=
  lowerAll .plain (contents (ParseTree.parts list))

/-- A constant of an enumeration: a variable that is initialized with a new object. -/
def enumConstant (source : Source) (here : Mark) (parts : List Part) : Lower Tree := do
  let arguments ← arguments (field? parts "arguments")
  let body ← anonymousClass? source (field? parts "body")
  -- The new object has no name of a class, since it is of the enumeration itself.
  let value ← make source "NEW_CLASS" here []
    [("getArguments", .ofOptions arguments), ("getClassBody", .ofOption body)]
  let name ← textOf? source (field? parts "name")
  let flags ← modifiers source parts
  make source "VARIABLE" here [("name", .str name), ("enum_constant", .bool true)]
    [("getModifiers", .tree flags), ("getInitializer", .tree value)]

/-- The types that a declaration extends or implements as interfaces. -/
def interfaceTypes (clause : Option Part) : Lower (List (Option Tree)) :=
  match clause with
  | none => pure []
  | some clause => typeList clause

def recordComponents (source : Source) (parts : List Part) : Lower (List Tree) := do
  let components ← Traced.each (parameter source)
    ((contents (ParseTree.parts (field? parts "parameters"))).filter
      isParameter)
  return components.map (·.withAttribute "record_component" (.bool true))

def typeDeclaration (source : Source) (kind : String) (here : Mark) (parts : List Part) :
    Lower Tree := do
  let extended ← match field? parts "superclass" with
    | none => pure none
    | some superclass => lower? .plain (contents superclass.children).head?
  let implemented ← interfaceTypes (field? parts "interfaces")
  let inherited ← interfaceTypes (ofType? parts "extends_interfaces")
  let components ← if kind = "RECORD" then recordComponents source parts else pure []
  let members ← classBody source (ParseTree.parts (field? parts "body"))
  let name ← textOf? source (field? parts "name")
  let flags ← modifiers source parts
  let parameters ← typeParameters source parts
  make source kind here [("name", .str name)]
    [("getModifiers", .tree flags), ("getTypeParameters", .ofTrees parameters),
      ("getExtendsClause", .ofOption extended),
      -- What an interface extends is listed here.
      ("getImplementsClause", .ofOptions (implemented ++ inherited)),
      ("getMembers", .ofOptions (components.map some ++ members))]

inductive MethodForm
  | method
  | constructor
  | compactConstructor
  | annotationElement
deriving DecidableEq

def MethodForm.isConstructor : MethodForm → Bool
  | .constructor | .compactConstructor => true
  | .method | .annotationElement => false

def constructorName : String := "<init>"

/-- The receiver and the parameters in a parameter list. -/
def parameterList (source : Source) : List Part → Lower (Option Tree × List Tree)
  | [] => pure (none, [])
  | part :: rest =>
    if part.type = "receiver_parameter" then do
      let first ← receiverParameter source part
      let (receiver, parameters) ← parameterList source rest
      -- Of several receivers the last counts.
      return (receiver.or (some first), parameters)
    else if isParameter part then do
      let first ← parameter source part
      let (receiver, parameters) ← parameterList source rest
      return (receiver, first :: parameters)
    else parameterList source rest

def methodDeclaration (source : Source) (form : MethodForm) (here : Mark) (parts : List Part) :
    Lower Tree := do
  let returned ←
    if form.isConstructor then pure none
    else do
      let type ← lower? .plain (field? parts "type")
      -- Brackets may stand behind the parameters.
      wrapDimensions source type (field? parts "dimensions")
  let (receiver, parameters) ← parameterList source
    (contents (ParseTree.parts (field? parts "parameters")))
  let default ←
    if form = .annotationElement then lower? .elementValue (field? parts "value")
    else pure none
  let name ←
    if form.isConstructor then pure constructorName
    else textOf? source (field? parts "name")
  let flags ← modifiers source parts
  let typeParameters ← typeParameters source parts
  let thrown ← lowerAll .plain
    (contents (ParseTree.parts (ofType? parts "throws")))
  let body ← block? source (field? parts "body")
  make source "METHOD" here
    [("name", .str name), ("compact", .bool (form = .compactConstructor))]
    [("getModifiers", .tree flags), ("getTypeParameters", .ofTrees typeParameters),
      ("getReturnType", .ofOption returned), ("getReceiverParameter", .ofOption receiver),
      ("getParameters", .ofTrees parameters), ("getThrows", .ofOptions thrown),
      ("getBody", .ofOption body), ("getDefaultValue", .ofOption default)]

def packageDeclaration (source : Source) (declaration : Part) : Lower Tree := do
  let named := contents declaration.children
  let annotations ← lowerAll .plain (named.filter isAnnotationPart)
  let name ← lower? .plain (named.filter (!isAnnotationPart ·)).head?
  make source "PACKAGE" declaration.mark []
    [("getAnnotations", .ofOptions annotations), ("getPackageName", .ofOption name)]

def importDeclaration (source : Source) (declaration : Part) : Lower Tree := do
  let parts := declaration.children
  let qualified ← lower? .plain
    ((contents parts).filter (·.type ≠ "asterisk")).head?
  let imported ← match ofType? parts "asterisk", qualified with
    | some asterisk, some package => do
      let stop ← stopOf source asterisk.mark
      -- An asterisk selects all members of what is named.
      let all ← makeAt "MEMBER_SELECT" package.start stop [("identifier", .str "*")]
        [("getExpression", .tree package)]
      pure (some all)
    | _, _ => pure qualified
  make source "IMPORT" declaration.mark
    [("static", .bool (parts.any (·.type = "static")))]
    [("getQualifiedIdentifier", .ofOption imported)]

end SyntaxGraph.Java
