/-!
# Parse trees

What a parser reports about a source: typed nodes with byte offsets, some of them named, some
attached to their parent under a field. Each node may carry a note of the reader's own.
-/
namespace SyntaxGraph

/-- What a parser says about one node. Offsets count bytes of the UTF-8 form of the source. -/
structure Mark where
  type : String
  named : Bool
  start : Nat
  stop : Nat
  field : Option String := none
  missing : Bool := false
deriving DecidableEq

/-- A parse tree whose nodes carry notes. -/
inductive ParseTree (α : Type)
  | node (mark : Mark) (note : α) (children : List (ParseTree α))

def commentTypes : List String := ["line_comment", "block_comment", "comment"]

/-- The type of the nodes for text that the parser could not make sense of. -/
def errorType : String := "ERROR"

namespace Mark

def isComment (mark : Mark) : Bool :=
  commentTypes.contains mark.type

/-- Whether the parser could not make sense of the node, or found it missing. -/
def isFaulty (mark : Mark) : Bool :=
  mark.missing || mark.type == errorType

end Mark

namespace ParseTree

variable {α β : Type}

def mark : ParseTree α → Mark
  | .node mark _ _ => mark

def note : ParseTree α → α
  | .node _ note _ => note

def children : ParseTree α → List (ParseTree α)
  | .node _ _ children => children

def type (part : ParseTree α) : String := part.mark.type

def isContent (part : ParseTree α) : Bool :=
  part.mark.named && !part.mark.isComment

mutual

/-- Writes a note on each node, from what the parser says about it and its children with their
notes. -/
def annotate (write : Mark → List (ParseTree β) → β) : ParseTree α → ParseTree β
  | .node mark _ children =>
    let children := annotateAll write children
    .node mark (write mark children) children

def annotateAll (write : Mark → List (ParseTree β) → β) :
    List (ParseTree α) → List (ParseTree β)
  | [] => []
  | part :: rest => part.annotate write :: annotateAll write rest

end

def parts : Option (ParseTree α) → List (ParseTree α)
  | none => []
  | some part => part.children

/-- The nodes that are named and no comments. -/
def contents (children : List (ParseTree α)) : List (ParseTree α) :=
  children.filter isContent

def ofType? (children : List (ParseTree α)) (type : String) : Option (ParseTree α) :=
  children.find? (·.type = type)

def field? (children : List (ParseTree α)) (name : String) : Option (ParseTree α) :=
  children.find? (·.mark.field = some name)

def fields (children : List (ParseTree α)) (name : String) : List (ParseTree α) :=
  children.filter (·.mark.field = some name)

def brackets (children : List (ParseTree α)) : Nat :=
  children.countP (·.type = "[")

mutual

def hasFault : ParseTree α → Bool
  | .node mark _ children => mark.isFaulty || anyFault children

def anyFault : List (ParseTree α) → Bool
  | [] => false
  | part :: rest => part.hasFault || anyFault rest

end

mutual

def size : ParseTree α → Nat
  | .node _ _ children => sizes children + 1

def sizes : List (ParseTree α) → Nat
  | [] => 0
  | part :: rest => part.size + sizes rest

end

theorem sizes_append (parts others : List (ParseTree α)) :
    sizes (parts ++ others) = sizes parts + sizes others := by
  induction parts with
  | nil => simp [sizes]
  | cons part rest ih => simp [sizes, ih, Nat.add_assoc]

/-- The faulty nodes that a search from a stack of trees meets, its top first. -/
def faultsOn (stack : List (ParseTree α)) : List Mark :=
  match stack with
  | [] => []
  | .node mark note children :: rest =>
    -- What is below a fault is not told.
    if mark.isFaulty then mark :: faultsOn rest
    -- Trees without faults are passed over.
    else if (ParseTree.node mark note children).hasFault then faultsOn (children ++ rest)
    else faultsOn rest
termination_by sizes stack
decreasing_by all_goals simp [sizes, size, sizes_append]; try omega

end ParseTree

end SyntaxGraph
