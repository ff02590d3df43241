import SyntaxGraph.Java.Lowering.Basic
import SyntaxGraph.Text.Case

/-!
# Lowering of types and names
-/
namespace SyntaxGraph.Java

open ParseTree (contents field? ofType?)

/-- A selection of a member of something that may be missing. -/
def select (source : Source) (here : Mark) (target : Option Part) (name : String) :
    Lower Tree := do
  let expression ← lower? .plain target
  make source "MEMBER_SELECT" here [("identifier", .str name)]
    [("getExpression", .ofOption expression)]

def scopedName (source : Source) (here : Mark) (parts : List Part) : Lower Tree := do
  let name ← textOf? source (field? parts "name")
  select source here (field? parts "scope") name

def scopedType (source : Source) (here : Mark) (parts : List Part) : Lower Tree := do
  -- Annotations inside a dotted name are dropped.
  let named := (contents parts).filter (!isAnnotationPart ·)
  let first ← needSome named.head?
  let last ← needSome named.getLast?
  let name ← textOf source last.mark
  select source here (some first) name

def fieldAccess (source : Source) (here : Mark) (parts : List Part) : Lower Tree := do
  let name ← textOf? source (field? parts "field")
  select source here (field? parts "object") name

def classLiteral (source : Source) (here : Mark) (parts : List Part) : Lower Tree :=
  select source here (contents parts).head? "class"

def primitiveType (source : Source) (here : Mark) : Lower Tree := do
  let text ← textOf source here
  make source "PRIMITIVE_TYPE" here [("type_kind", .str (Text.upper text))] []

def arrayType (source : Source) (parts : List Part) : Lower (Option Tree) := do
  let element ← lower? .plain (field? parts "element")
  wrapDimensions source element (field? parts "dimensions")

def genericType (source : Source) (here : Mark) (parts : List Part) : Lower Tree := do
  let type ← lower? .plain (contents parts).head?
  let arguments ← lowerAll .plain
    (contents (ParseTree.parts (ofType? parts "type_arguments")))
  make source "PARAMETERIZED_TYPE" here []
    [("getType", .ofOption type), ("getTypeArguments", .ofOptions arguments)]

def wildcardKind (parts : List Part) : String :=
  -- The last keyword decides.
  parts.foldl (fun kind part =>
    if part.type = "extends" then "EXTENDS_WILDCARD"
    else if part.type = "super" then "SUPER_WILDCARD"
    else kind) "UNBOUNDED_WILDCARD"

def wildcard (source : Source) (here : Mark) (parts : List Part) : Lower Tree := do
  let kind := wildcardKind parts
  let bound ←
    if kind = "UNBOUNDED_WILDCARD" then pure none
    -- The bound comes last; the keyword may be a named node, too.
    else lower? .plain ((contents parts).filter fun part =>
      !isAnnotationPart part && part.type ≠ "super").getLast?
  make source kind here [] [("getBound", .ofOption bound)]

def annotatedType (source : Source) (here : Mark) (parts : List Part) : Lower Tree := do
  let named := contents parts
  let annotations ← lowerAll .plain (named.filter isAnnotationPart)
  let underlying ← lower? .plain (named.filter (!isAnnotationPart ·)).head?
  make source "ANNOTATED_TYPE" here []
    [("getAnnotations", .ofOptions annotations), ("getUnderlyingType", .ofOption underlying)]

def typeList (clause : Part) : Lower (List (Option Tree)) :=
  match ofType? clause.children "type_list" with
  | some types => lowerAll .plain (contents types.children)
  | none => lowerAll .plain (contents clause.children)

end SyntaxGraph.Java
