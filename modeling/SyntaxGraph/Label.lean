import SyntaxGraph.Text.Case

/-!
# Labels of slots

Slots are named after accessors such as `getThenStatement`; the group of children in a slot is
labelled with the upper snake case form of the name without `get`: `THEN_STATEMENT`.
-/
namespace SyntaxGraph.Label

/-- The name without a leading `get`, which counts only before an ASCII capital. -/
def stem : List Char → List Char
  | 'g' :: 'e' :: 't' :: c :: rest =>
    -- Before anything but a capital it belongs to the name.
    if 'A' ≤ c ∧ c ≤ 'Z' then c :: rest else 'g' :: 'e' :: 't' :: c :: rest
  | name => name

/-- Puts an underscore before each capital that follows a character other than an underscore. -/
def separated (previous : Char) : List Char → List Char
  | [] => []
  | c :: rest =>
    if Text.isUpper c && previous != '_' then '_' :: c :: separated c rest
    else c :: separated c rest

def words : List Char → List Char
  | [] => []
  | c :: rest => c :: separated c rest

def ofAccessor (name : String) : String :=
  match stem name.toList with
  | [] => "UNNAMED"
  | chars => Text.upper (String.ofList (words chars))

def complaint? (name : String) : Option String :=
  match stem name.toList with
  | [] => some "Empty accessor name, labeling it UNNAMED"
  | c :: _ =>
    if Text.isUpper c then none
    else some s!"Accessor name '{name}' is not upper camel case, labeling it as-is"

/-- The labels that were asked for, by their names, and the complaints about the names in order. -/
structure Memory where
  labels : List (String × String) := []
  complaints : List String := []

namespace Memory

/-- Asks for the label of a name. -/
def ask (m : Memory) (name : String) : String × Memory :=
  match m.labels.lookup name with
  -- Names are complained about the first time only.
  | some label => (label, m)
  | none =>
    let label := ofAccessor name
    (label, ⟨(name, label) :: m.labels, m.complaints ++ (complaint? name).toList⟩)

def askAll (m : Memory) : List String → List String × Memory
  | [] => ([], m)
  | name :: rest =>
    let (label, m) := m.ask name
    let (labels, m) := m.askAll rest
    (label :: labels, m)

end Memory

end SyntaxGraph.Label
