import SyntaxGraph.Java.Construct
import SyntaxGraph.Java.Lowering.Statements
import SyntaxGraph.Tree.Walk

/-!
# Lowering of compilation units
-/
namespace SyntaxGraph.Java

/-- A construct without a kind of its own; it is noted in the trace. -/
def otherConstruct (source : Source) (here : Mark) (parts : List Part) : Lower Tree := do
  Traced.emit here.type
  let children ← lowerAll .plain (ParseTree.contents parts)
  make source "OTHER" here [("syntax_type", .str here.type)]
    [("getChildren", .ofOptions children)]

/-- Lowers a parse node as the construct it stands for. -/
def lowerConstruct (source : Source) (construct : Construct) (here : Mark) (parts : List Part) :
    Lower (Option Tree) :=
  match construct with
  | .emptyStatement => some <$> make source "EMPTY_STATEMENT" here [] []
  | .identifier => some <$> identifier source here
  | .scopedName => some <$> scopedName source here parts
  | .scopedType => some <$> scopedType source here parts
  | .fieldAccess => some <$> fieldAccess source here parts
  | .classLiteral => some <$> classLiteral source here parts
  | .literal form => some <$> literal source form here
  | .parenthesized => some <$> parenthesized source here parts
  | .binary => some <$> binary source here parts
  | .unary => some <$> unary source here parts
  | .update => some <$> update source here parts
  | .assignment => some <$> assignment source here parts
  | .ternary => some <$> ternary source here parts
  | .cast => some <$> cast source here parts
  | .instanceOf => some <$> instanceOf source here parts
  | .lambda => some <$> lambda source here parts
  | .invocation => some <$> invocation source here parts
  | .objectCreation => some <$> objectCreation source here parts
  | .arrayCreation => some <$> arrayCreation source here parts
  | .arrayInitializer => some <$> arrayInitializer source here parts
  | .arrayAccess => some <$> arrayAccess source here parts
  | .methodReference => some <$> methodReference source here parts
  | .switch => some <$> switch source "SWITCH_EXPRESSION" here parts
  | .genericType => some <$> genericType source here parts
  -- Only an array type may come to nothing.
  | .arrayType => arrayType source parts
  | .wildcard => some <$> wildcard source here parts
  | .annotatedType => some <$> annotatedType source here parts
  | .primitiveType => some <$> primitiveType source here
  | .annotationUse => some <$> annotationUse source here parts
  | .block => some <$> blockAt source here false parts
  | .expressionStatement =>
    some <$> expressionOnly source "EXPRESSION_STATEMENT" "getExpression" here parts
  | .ifStatement => some <$> ifStatement source here parts
  | .whileStatement => some <$> whileStatement source here parts
  | .doStatement => some <$> doStatement source here parts
  | .forStatement => some <$> forStatement source here parts
  | .enhancedFor => some <$> enhancedFor source here parts
  | .labeled => some <$> labeled source here parts
  | .breakStatement => some <$> jump source "BREAK" here parts
  | .continueStatement => some <$> jump source "CONTINUE" here parts
  | .returnStatement => some <$> expressionOnly source "RETURN" "getExpression" here parts
  | .throwStatement => some <$> expressionOnly source "THROW" "getExpression" here parts
  | .yieldStatement => some <$> expressionOnly source "YIELD" "getValue" here parts
  | .assertion => some <$> assertion source here parts
  | .synchronized => some <$> synchronized source here parts
  | .tryStatement => some <$> tryStatement source here parts
  | .constructorCall => some <$> constructorCall source here parts
  | .typeDeclaration kind => some <$> typeDeclaration source kind here parts
  | .method form => some <$> methodDeclaration source form here parts
  | .other => some <$> otherConstruct source here parts

def lowerNode (source : Source) (here : Mark) (parts : List Part) (role : Role) :
    Lower (Option Tree) :=
  -- A construct is lowered only if its node has no other meaning in the role.
  let plain := fun _ : Unit => lowerConstruct source (.ofType here.type) here parts
  match role with
  | .plain => plain ()
  | .statement =>
    if here.type = "switch_expression" then some <$> switch source "SWITCH" here parts
    else plain ()
  | .elementValue =>
    if here.type = "element_value_array_initializer" then
      some <$> elementValueArray source here parts
    else plain ()
  | .initializer => some <$> staticInitializer source here parts
  | .enumConstant => some <$> enumConstant source here parts

/-- The parse tree whose notes say how its nodes are lowered. -/
def lowerable {α : Type} (source : Source) (tree : ParseTree α) : Part :=
  tree.annotate (lowerNode source)

structure UnitParts where
  package : Option Tree := none
  imports : List Tree := []
  types : List (Option Tree) := []

def unitParts (source : Source) : List Part → Lower UnitParts
  | [] => pure {}
  | part :: rest =>
    if part.type = "package_declaration" then do
      let package ← packageDeclaration source part
      let others ← unitParts source rest
      -- Of several packages the last counts.
      return { others with package := others.package.or (some package) }
    else if part.type = "import_declaration" then do
      let first ← importDeclaration source part
      let others ← unitParts source rest
      return { others with imports := first :: others.imports }
    else do
      let first ← member source part
      let others ← unitParts source rest
      return { others with types := first ++ others.types }

/-- Builds a compilation unit. Nodes get identities of their own, and the name of the package is
the one inside the package node. -/
def assembleUnit (stop : Int) (parts : UnitParts) : Except ShapeError Tree :=
  -- Identities count on from one part to the next.
  let (package, next) := renumberOption 1 parts.package
  let (imports, next) := renumberOptions next (parts.imports.map some)
  let (types, _) := renumberOptions next parts.types
  let name := (package.bind (·.given? "getPackageName")).getD (.data .null)
  grammar.build "COMPILATION_UNIT" { start := 0, stop }
    [("getPackage", .ofOption package), ("getPackageName", name),
      ("getImports", .ofOptions imports), ("getTypeDecls", .ofOptions types)]

def lowerUnit {α : Type} (source : Source) (root : ParseTree α) : Lower Tree := do
  let parts ← unitParts source (ParseTree.contents (lowerable source root).children)
  -- The unit spans the whole source, also what stands outside of its parts.
  let stop ← offsetAt source (byteLength source.chars)
  match assembleUnit stop parts with
  | .ok unit => return unit
  | .error e => Traced.fail (.shape e)

end SyntaxGraph.Java
