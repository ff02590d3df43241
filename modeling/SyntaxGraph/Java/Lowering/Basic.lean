import SyntaxGraph.Java.Grammar
import SyntaxGraph.Parse.Source
import SyntaxGraph.Trace

/-!
# Lowering

Lowering turns the parse tree of a Java source into a syntax tree of the Java grammar. Each node
of the parse tree is given a note that says how it is lowered in each role; the notes of a node
are written from those of its descendants.
-/
namespace SyntaxGraph.Java

/-- The role in which a parse node is lowered. -/
inductive Role
  /-- As what its type says. -/
  | plain
  /-- As a statement, where a `switch` yields no value. -/
  | statement
  /-- As a value in an annotation, where braces make an array. -/
  | elementValue
  | initializer
  | enumConstant
deriving DecidableEq

inductive LoweringError
  /-- A node would not fit its schema. -/
  | shape (cause : ShapeError)
  | unknownOperator (text : String)
  /-- A part that the construct cannot do without is missing. -/
  | missingPart
  /-- A text or a list of parts that cannot be empty is empty. -/
  | nothingThere
  /-- An offset lies inside a character. -/
  | brokenText
  | outsideText
deriving DecidableEq

/-- A lowering in progress; its trace are the types of the constructs without a kind. -/
abbrev Lower := Traced String LoweringError

/-- A parse node whose note says how it is lowered. -/
abbrev Part := ParseTree (Role → Lower (Option Tree))

abbrev Attributes := List (String × Json)

/-- Contents for the slots of a node. -/
abbrev Given := List (String × Content)

def need {α : Type} : Option α → Lower α
  | some a => pure a
  | none => Traced.fail .missingPart

/-- Insists on a part of something that cannot be empty. -/
def needSome {α : Type} : Option α → Lower α
  | some a => pure a
  | none => Traced.fail .nothingThere

def offsetAt (source : Source) (byte : Nat) : Lower Int :=
  match source.offset? byte with
  | some offset => pure offset
  | none => Traced.fail .outsideText

def startOf (source : Source) (mark : Mark) : Lower Int := offsetAt source mark.start

def stopOf (source : Source) (mark : Mark) : Lower Int := offsetAt source mark.stop

def textOf (source : Source) (mark : Mark) : Lower String :=
  match sliceBytes source.chars mark.start mark.stop with
  | some chars => pure (String.ofList chars)
  | none => Traced.fail .brokenText

def textOf? (source : Source) : Option Part → Lower String
  | none => pure ""
  | some part => textOf source part.mark

/-- Builds a node between two offsets. -/
def makeAt (kind : String) (start stop : Int) (attributes : Attributes) (given : Given) :
    Lower Tree :=
  match grammar.build kind { start, stop, attributes } given with
  | .ok t => pure t
  | .error e => Traced.fail (.shape e)

/-- Builds a node that spans a parse node. -/
def make (source : Source) (kind : String) (mark : Mark) (attributes : Attributes)
    (given : Given) : Lower Tree := do
  let start ← startOf source mark
  let stop ← stopOf source mark
  makeAt kind start stop attributes given

def lower? (role : Role) : Option Part → Lower (Option Tree)
  | none => pure none
  | some part => part.note role

def lowerAll (role : Role) (parts : List Part) : Lower (List (Option Tree)) :=
  Traced.each (·.note role) parts

def noModifiers : Lower Tree :=
  -- Nobody wrote such modifiers, so they have no position.
  makeAt "MODIFIERS" noPosition noPosition [("flags", .arr [])] []

def annotationTypes : List String := ["marker_annotation", "annotation"]

def isAnnotationPart (part : Part) : Bool := annotationTypes.contains part.type

/-- Wraps a type in an array type for each of `count` dimensions, up to the offset `stop`. -/
def arrayOf (stop : Int) : Nat → Tree → Lower Tree
  | 0, element => pure element
  | count + 1, element => do
    -- Each array type starts with the element and ends with the last bracket.
    let array ← makeAt "ARRAY_TYPE" element.start stop [] [("getType", .tree element)]
    arrayOf stop count array

def wrapDimensions (source : Source) (element : Option Tree) (dimensions : Option Part) :
    Lower (Option Tree) :=
  match element, dimensions with
  | some element, some dimensions => do
    let stop ← stopOf source dimensions.mark
    let array ← arrayOf stop (ParseTree.brackets dimensions.children) element
    return some array
  | element, _ => pure element

def identifier (source : Source) (mark : Mark) : Lower Tree := do
  let name ← textOf source mark
  make source "IDENTIFIER" mark [("name", .str name)] []

def neededIdentifier (source : Source) (part : Option Part) : Lower Tree := do
  let part ← need part
  identifier source part.mark

end SyntaxGraph.Java
