import SyntaxGraph.Java.Lowering.Unit

/-!
# Implicit constructors

A class or enumeration without a constructor has one without parameters, and a record without a
canonical constructor has one that takes its components. This module adds them to a tree.
-/
namespace SyntaxGraph.Java

inductive ConstructorError
  /-- A slot was never given anything. -/
  | absentSlot
  | notASequence
  /-- A slot holds something that does not take members, or is no tree with a schema. -/
  | notATree
  | shape (cause : ShapeError)
deriving DecidableEq

def constructedKinds : List String := ["CLASS", "ENUM", "RECORD"]

def isConstructor (t : Tree) : Bool :=
  t.kind? = some "METHOD" && t.attribute? "name" = some (.str constructorName)

def isComponent (t : Tree) : Bool :=
  ((t.attribute? "record_component").getD .null).isTruthy

/-- Whether a constructor takes the components of its record without naming them. -/
def isCompact (t : Tree) : Bool :=
  ((t.attribute? "compact").getD .null).isTruthy

def contentLength : Content → Except ConstructorError Nat
  | .list items => .ok items.length
  | .data (.arr items) => .ok items.length
  | .data (.obj fields) => .ok fields.length
  | .data (.brokenObj fields) => .ok fields.length
  | .data (.str text) => .ok text.length
  | .data (.broken codes) => .ok codes.length
  | .absent => .error .absentSlot
  | .tree _ | .data .null | .data (.bool _) | .data (.int _) | .data (.real _) =>
    .error .notASequence

def hasCanonical (components : Nat) : List Tree → Except ConstructorError Bool
  | [] => .ok false
  | constructor :: rest =>
    if isCompact constructor then .ok true
    else do
      let count ← contentLength ((constructor.given? "getParameters").getD .absent)
      -- Only the number of parameters is compared, not their types.
      if count = components then return true else hasCanonical components rest

/-- Whether a type declaration with the given members needs a constructor. -/
def needsConstructor (kind : String) (members : List Tree) : Except ConstructorError Bool :=
  let constructors := members.filter isConstructor
  if kind = "RECORD" then do
    let found ← hasCanonical (members.countP isComponent) constructors
    return !found
  else .ok constructors.isEmpty

def membersOf : List Content → Except ConstructorError (List Tree)
  | [] => .ok []
  | .tree t :: rest =>
    if t.shape.isSome then do
      let others ← membersOf rest
      return t :: others
    else .error .notATree
  | _ :: _ => .error .notATree

def membersIn : Option Content → Except ConstructorError (List Tree)
  | none | some .absent => .error .absentSlot
  | some (.list items) => membersOf items
  | some (.data (.str _)) | some (.data (.broken _)) | some (.data (.obj _))
  | some (.data (.brokenObj _)) | some (.data (.arr _)) => .error .notATree
  | some (.tree _) | some (.data .null) | some (.data (.bool _)) | some (.data (.int _))
  | some (.data (.real _)) => .error .notASequence

def nodeAt (id : Nat) (kind : String) (position : Int) (attributes : Attributes)
    (given : Given) : Except ShapeError Tree :=
  grammar.build kind { id, start := position, stop := position, attributes } given

/-- Modifiers of a declaration that nobody wrote. -/
def implicitModifiers (id : Nat) : Except ShapeError Tree :=
  nodeAt id "MODIFIERS" noPosition [("flags", .arr [])] []

/-- The parameters for the components of a record, numbered from `next`. -/
def componentParameters (position : Int) (next : Nat) :
    List Tree → Except ShapeError (List Tree)
  | [] => .ok []
  | component :: rest => do
    let modifiers ← implicitModifiers (next + 1)
    let first ← nodeAt next "VARIABLE" position
      [("name", (component.attribute? "name").getD (.str ""))]
      [("getModifiers", .tree modifiers),
        -- The parameter has the very type of its component, not a copy.
        ("getType", (component.given? "getType").getD (.data .null))]
    let others ← componentParameters position (next + 2) rest
    return first :: others

def superCall (position : Int) (next : Nat) : Except ShapeError Tree := do
  let name ← nodeAt (next + 2) "IDENTIFIER" position [("name", .str "super")] []
  let call ← nodeAt (next + 1) "METHOD_INVOCATION" position [] [("getMethodSelect", .tree name)]
  nodeAt next "EXPRESSION_STATEMENT" position [] [("getExpression", .tree call)]

/-- The constructor that has given parameters and statements, numbered from `next`. -/
def constructorWith (position : Int) (next : Nat) (parameters statements : List Tree) :
    Except ShapeError Tree := do
  -- Three numbers go to the constructor itself, its modifiers and its body.
  let modifiers ← implicitModifiers (next + 1)
  let body ← nodeAt (next + 2) "BLOCK" position [("static", .bool false)]
    [("getStatements", .ofTrees statements)]
  grammar.build "METHOD"
    { id := next, start := position, stop := position
      attributes := [("name", .str constructorName), ("compact", .bool false)]
      generated := true }
    [("getModifiers", .tree modifiers), ("getParameters", .ofTrees parameters),
      ("getBody", .tree body)]

/-- The constructor of a type declaration that needs one, numbered from `next`. -/
def defaultConstructor (kind : String) (position : Int) (next : Nat) (members : List Tree) :
    Except ShapeError Tree := do
  let parameters ←
    if kind = "RECORD" then
      componentParameters position (next + 3) (members.filter isComponent)
    else .ok []
  let statements ←
    if kind = "CLASS" then do
      let call ← superCall position (next + 3)
      .ok [call]
    else .ok []
  constructorWith position next parameters statements

def constructorSize (members : List Tree) : Nat :=
  6 + 2 * members.length

/-- Which type declarations get a constructor: their identities, each with the number from which
the nodes of its constructor are numbered. -/
abbrev Plan := List (Nat × Nat)

/-- How many numbers the constructor of a type declaration takes; `none` if it needs no
constructor. -/
def demand (t : Tree) (next : Nat) : Except ConstructorError (Option Nat) := do
  let kind := t.kind?.getD ""
  let members ← membersIn (t.given? "getMembers")
  if ← needsConstructor kind members then
    -- The constructor is built here only to see whether it fits.
    match defaultConstructor kind t.start next members with
    | .ok _ => return some (constructorSize members)
    | .error e => .error (.shape e)
  else return none

/-- Plans the constructors of type declarations in order. What was planned before an error
stands. -/
def planFor (plan : Plan) (next : Nat) : List Tree → Plan × Except ConstructorError Unit
  | [] => (plan, .ok ())
  | t :: rest =>
    -- A declaration that stands in several places is planned once.
    if (plan.lookup t.id).isSome then planFor plan next rest
    else
      match demand t next with
      | .error e => (plan, .error e)
      | .ok none => planFor plan next rest
      | .ok (some size) => planFor (plan ++ [(t.id, next)]) (next + size) rest

/-- Plans the constructors of a tree; identities from `next` on are free. -/
def planConstructors (next : Nat) (t : Tree) : Plan × Except ConstructorError Unit :=
  -- Nodes without a schema are refused before anything is planned.
  if t.walk.all (·.shape.isSome) then
    planFor [] next (t.walk.filter fun t => constructedKinds.contains (t.kind?.getD ""))
  else ([], .error .notATree)

def insertConstructor (kind : String) (position : Int) (next : Nat) (content : Content) :
    Content :=
  match content with
  | .list items =>
    match defaultConstructor kind position next (items.filterMap Content.tree?) with
    | .ok constructor => .list (.tree constructor :: items)
    -- What was planned was built before, so this does not happen.
    | .error _ => .list items
  | content => content

mutual

/-- Adds the planned constructors everywhere in a tree. -/
def addTo (plan : Plan) : Tree → Tree
  | .node head shape entries =>
    let entries := addToEntries plan entries
    match shape, plan.lookup head.id with
    | some shape, some next =>
      .node head (some shape) (entries.map fun (place, content) =>
        if place.name = "getMembers" then
          (place, insertConstructor shape.kind head.start next content)
        else (place, content))
    | shape, _ => .node head shape entries

def addToEntries (plan : Plan) : List (Place × Content) → List (Place × Content)
  | [] => []
  | (place, content) :: rest => (place, addToContent plan content) :: addToEntries plan rest

def addToContent (plan : Plan) : Content → Content
  | .absent => .absent
  | .data value => .data value
  | .tree t => .tree (addTo plan t)
  | .list items => .list (addToItems plan items)

def addToItems (plan : Plan) : List Content → List Content
  | [] => []
  | item :: rest => addToContent plan item :: addToItems plan rest

end

def addConstructors (t : Tree) : Except ConstructorError (Tree × Nat) :=
  match planConstructors (t.maxId + 1) t with
  | (plan, .ok ()) => .ok (addTo plan t, plan.length)
  | (_, .error e) => .error e

end SyntaxGraph.Java
