import SyntaxGraph.Text.Encoding.Japanese
import SyntaxGraph.Text.Encoding.Jis0213Table

/-!
# Encodings of JIS X 0213

JIS X 0213 extends JIS X 0208 by more cells in its rows and by a second plane. Its second edition
has ten cells more. The cells of some ASCII characters depend on the encoding.
-/
namespace SyntaxGraph.Text

inductive JisEdition
  | first
  | second
deriving DecidableEq

def jis0213FirstCells : Array Char :=
  overwrite (cellsOf 8836 packedJis0208) packedJis0213First

def jis0213SecondCells : Array Char := cellsOf 8836 packedJis0213Second

/-- The cells of the first plane that came with the second edition. -/
def lateCells : List Nat := [1222, 1409, 4375, 4417, 7808, 8831, 8832, 8833, 8834, 8835]

/-- The cells that hold other characters where escape sequences choose the plane. -/
def mailCells : List (Nat × Char) := [(111, '~')]

/-- The cells that hold other characters where pairs of bytes are shifted. -/
def shiftedCells : List (Nat × Char) := [(31, '\\'), (111, '~')]

/-- Whether an edition lacks a cell of the first plane. -/
def isLate (edition : JisEdition) (index : Nat) : Bool :=
  edition = .first && lateCells.contains index

/-- The characters in a cell of the first plane, some of which are given. -/
def firstPlane? (edition : JisEdition) (given : List (Nat × Char)) (index : Nat) :
    Option (List Char) :=
  if isLate edition index then none
  else
    match given.lookup index, jis0213Pairs.lookup index with
    | some c, _ => some [c]
    | none, some (letter, mark) => some [letter, mark]
    | none, none => (cell? jis0213FirstCells index).map fun c => [c]

def secondPlane? (edition : JisEdition) (index : Nat) : Option Char :=
  if edition = .first && index = 8674 then some (Char.ofNat 0x9B1D)
  else cell? jis0213SecondCells index

/-- Reads a pair of bytes that stands for a cell. -/
def readCell (edition : JisEdition) (chars? : Nat → Option (List Char)) (index? : Option Nat) :
    Reading Unit :=
  match index?.bind chars? with
  | some found => .chars found 2 ()
  -- A cell that only the edition lacks makes both bytes senseless.
  | none => .bad (if index?.any (isLate edition) then 2 else 1) illegalSequence

def squareIndex? (lead trail : Nat) : Option Nat :=
  if 0xA1 ≤ lead && lead ≤ 0xFE && 0xA1 ≤ trail && trail ≤ 0xFE then
    some ((lead - 0xA1) * 94 + (trail - 0xA1))
  else none

/-- Reads a character in pairs of bytes from 0xA1 on; one byte announces narrow syllables, and
another one the second plane or JIS X 0212. -/
def readEucJis (edition : JisEdition) (bytes : List UInt8) : Reading Unit :=
  match bytes with
  | [0x8E] => .bad 1 incompleteSequence
  | 0x8E :: byte :: _ => .ofOption (narrowChar? byte.toNat) 2 illegalSequence
  | 0x8F :: lead :: trail :: _ =>
    let found := (squareIndex? lead.toNat trail.toNat).bind fun index =>
      (secondPlane? edition index).or (cell? jis0212Cells index)
    .ofOption found 3 illegalSequence
  | 0x8F :: rest => .bad (rest.length + 1) incompleteSequence
  | byte :: rest =>
    if byte < 0x80 then .one (Char.ofNat byte.toNat) 1
    else
      match rest with
      | trail :: _ =>
        readCell edition (firstPlane? edition []) (squareIndex? byte.toNat trail.toNat)
      | [] => .bad 1 incompleteSequence
  | [] => .bad 1 incompleteSequence

/-- The row of the second plane that a shifted row beyond the first plane stands for. -/
def secondPlaneRow (row : Nat) : Nat :=
  [0, 7, 2, 3, 4, 11, 12, 13, 14].getD row (row + 68)

def shiftedPlane? (edition : JisEdition) (index : Nat) : Option (List Char) :=
  if index < 8836 then firstPlane? edition shiftedCells index
  else
    (secondPlane? edition (secondPlaneRow (index / 94 - 94) * 94 + index % 94)).map fun c => [c]

/-- The character of a single byte beside shifted pairs; two ASCII characters give way to others. -/
def romanSingle? (byte : Nat) : Option Char :=
  if byte = 0x5C then some (Char.ofNat 0xA5)
  else if byte = 0x7E then some (Char.ofNat 0x203E)
  else shiftedSingle? byte

def readShiftedJis (edition : JisEdition) (bytes : List UInt8) : Reading Unit :=
  match bytes with
  | byte :: rest =>
    match romanSingle? byte.toNat, rest with
    | some c, _ => .one c 1
    | none, [] =>
      .bad 1 (if byte = 0x80 || byte = 0xA0 || 0xFC < byte then illegalSequence
        else incompleteSequence)
    | none, trail :: _ =>
      readCell edition (shiftedPlane? edition) (shiftedIndex? byte.toNat trail.toNat)
  | [] => .bad 1 incompleteSequence

end SyntaxGraph.Text
