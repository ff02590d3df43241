import SyntaxGraph.Text.Packed

/-!
# Tables of characters

A character set is a table of numbered cells. Packed, it is a number for each cell in turn, which
tells how far the code of a character is from the one before.
-/
namespace SyntaxGraph.Text

def noChar : Char := Char.ofNat 0

/-- The code to which a number leads from another code: even numbers lead up, and odd ones down. -/
def codeFrom (before number : Nat) : Nat :=
  if number % 2 = 0 then before + number / 2 else before - (number + 1) / 2

/-- A table with characters written from a cell on, given the code of the character before. Where
the number is zero, the cell stays as it is. -/
def writeCells (cells : Array Char) (place before : Nat) : List Nat → Array Char
  | [] => cells
  | 0 :: rest => writeCells cells (place + 1) before rest
  | (number + 1) :: rest =>
    let code := codeFrom before number
    writeCells (cells.setIfInBounds place (Char.ofNat code)) (place + 1) code rest

/-- The numbers of a packed table. First it says how often 128 is in each of them, then what is
left. -/
def packedNumbers (table : Packed) : List Nat :=
  let parts := (unpack table).toList.map Char.toNat
  let (high, low) := parts.splitAt (parts.length / 2)
  List.zipWith (fun (often left : Nat) => often * 128 + left) high low

def overwrite (cells : Array Char) (table : Packed) : Array Char :=
  writeCells cells 0 0 (packedNumbers table)

def cellsOf (size : Nat) (table : Packed) : Array Char :=
  overwrite (Array.replicate size noChar) table

def cell? (cells : Array Char) (index : Nat) : Option Char :=
  match cells[index]? with
  | none => none
  | some c => if c = noChar then none else some c

/-- The codes of the characters in a table between two bounds, in their order. -/
def codesBetween (low high : Nat) (cells : Array Char) : List Nat :=
  ((cells.toList.map Char.toNat).filter fun code => low ≤ code && code ≤ high).mergeSort

/-- The codes that are missing in an ordered list, among the next `count` codes from `next` on. -/
def missingCodes : Nat → Nat → List Nat → List Nat
  | 0, _, _ => []
  | count + 1, next, [] => next :: missingCodes count (next + 1) []
  | count + 1, next, code :: rest =>
    if code = next then missingCodes count (next + 1) rest
    else next :: missingCodes count (next + 1) (code :: rest)

end SyntaxGraph.Text
