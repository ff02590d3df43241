import Mathlib.Tactic.MkIffOfInductiveProp
import SyntaxGraph.Java.Lowering.Basic
import SyntaxGraph.Proofs.Offsets
import SyntaxGraph.Proofs.Parse

/-!
# Parse trees in the order of the source

Parsers count bytes and trees count characters, but both count in the same direction: the character
offset of a byte never falls as the byte moves on. What a parser says about the order of the
children of a node therefore carries over to offsets of characters.
-/
namespace SyntaxGraph

/-! ### Offsets -/

/-- The place of a byte in a text, in characters. -/
def place (text : String) (byte : Nat) : Int := charIndex text.toList byte

theorem place_le_length (text : String) (byte : Nat) : place text byte ≤ text.length := by
  have bounded := charIndex_le_length text.toList byte
  exact Int.ofNat_le.2 bounded

theorem place_byteLength (text : String) : place text (byteLength text.toList) = text.length := by
  rw [place, charIndex_byteLength, String.length_toList]

/-! ### What parsers say about siblings -/

namespace Mark

def under? (marks : List Mark) (field : String) : Option Mark :=
  marks.find? (·.field = some field)

def ofType? (marks : List Mark) (type : String) : Option Mark :=
  marks.find? (·.type = type)

def isContent (mark : Mark) : Bool :=
  mark.named && !mark.isComment

/-- A node ends before another starts, if both are there. -/
def Precedes (first second : Option Mark) : Prop :=
  ∀ a ∈ first, ∀ b ∈ second, a.stop ≤ b.start

instance (first second : Option Mark) : Decidable (Precedes first second) := by
  unfold Precedes
  infer_instance

end Mark

namespace ParseTree

variable {α : Type} {parts : List (ParseTree α)} {part : ParseTree α}

theorem mark_mem_under? {field : String} (found : part ∈ field? parts field) :
    part.mark ∈ Mark.under? (parts.map mark) field := by
  rw [Mark.under?, List.find?_map]
  exact Option.mem_map_of_mem mark found

theorem mark_mem_ofType? {type : String} (found : part ∈ ofType? parts type) :
    part.mark ∈ Mark.ofType? (parts.map mark) type := by
  rw [Mark.ofType?, List.find?_map]
  exact Option.mem_map_of_mem mark found

/-- The first part with a property among those that are named and no comments. -/
theorem mark_mem_find?_contents {wanted : Mark → Bool}
    (found : part ∈ (contents parts).find? fun part => wanted part.mark) :
    part.mark ∈ (parts.map mark).find? fun mark => mark.isContent && wanted mark := by
  rw [contents, List.find?_filter] at found
  rw [List.find?_map]
  simp only [Bool.decide_and, Bool.decide_eq_true] at found
  exact Option.mem_map_of_mem mark found

end ParseTree

namespace Java

/-- What stands for the type among the children of a node: the child under that field, or, in a
parameter that takes any number of arguments, the first child that can be one. -/
def typeMark (here : Mark) (children : List Mark) : Option Mark :=
  if here.type = "spread_parameter" then
    children.find? fun mark => mark.isContent && (mark.type ≠ "modifiers" &&
      mark.type ≠ "variable_declarator" && !annotationTypes.contains mark.type)
  else Mark.under? children "type"

/-- Fields whose nodes follow each other in every construct that has both. -/
def fieldOrder : List (String × String) :=
  [("object", "name"), ("object", "constructor"), ("constructor", "arguments"),
    ("type_arguments", "arguments"), ("right", "name")]

open Mark (Precedes under? ofType?)

/-- A node of a source with so many bytes whose children are in the order of the source: they lie
inside the node one after the other, and what Java writes first comes first. -/
@[mk_iff]
structure Arranged (bytes : Nat) (here : Mark) (children : List Mark) : Prop where
  ordered : here.start ≤ here.stop
  bounded : here.stop ≤ bytes
  inside : ∀ child ∈ children, here.start ≤ child.start ∧ child.stop ≤ here.stop
  siblings : children.Pairwise fun a b => a.stop ≤ b.start
  fields : ∀ pair ∈ fieldOrder, Precedes (under? children pair.1) (under? children pair.2)
  modifiers : Precedes (ofType? children "modifiers") (under? children "type") ∧
    Precedes (ofType? children "modifiers") (under? children "name") ∧
    ∀ child ∈ children, child.field = some "declarator" →
      Precedes (ofType? children "modifiers") (some child)
  type : Precedes (typeMark here children) (under? children "name") ∧
    Precedes (typeMark here children) (under? children "dimensions") ∧
    Precedes (typeMark here children) (ofType? children "...") ∧
    ∀ child ∈ children, child.field = some "declarator" →
      Precedes (typeMark here children) (some child)
  element : here.type = "array_type" →
    Precedes (under? children "element") (under? children "dimensions")
  imported : here.type = "import_declaration" →
    Precedes (children.find? fun mark => mark.isContent && mark.type ≠ "asterisk")
      (ofType? children "asterisk")
  labels : here.type = "switch_block_statement_group" →
    ∀ label ∈ children, label.type = "switch_label" →
      ∀ child ∈ children, child.type ≠ "switch_label" → child.type ≠ ":" →
        (child.type = ";" ∨ child.isContent) → label.stop ≤ child.start

set_option synthInstance.maxSize 512 in
instance (bytes : Nat) (here : Mark) (children : List Mark) :
    Decidable (Arranged bytes here children) :=
  decidable_of_iff _ (arranged_iff bytes here children).symm

/-- Where the name and the dimensions behind it end in a loop over a collection. -/
def LoopEnds (text : String) (here : Mark) (children : List Mark) (stop reach : Int) : Prop :=
  here.type = "enhanced_for_statement" ∧
    ∃ name ∈ under? children "name", ∃ dimensions ∈ under? children "dimensions",
      stop = place text name.stop ∧ reach = place text dimensions.stop

end Java

end SyntaxGraph
