/-!
# Lines

The newlines of a text are looked up once; the line of a position is then found by halving.
-/
namespace SyntaxGraph

/-- The offsets of the newlines in a text, counted from `offset`. -/
def newlineOffsets (offset : Nat) : List Char → List Nat
  | [] => []
  | c :: rest =>
    if c = '\n' then offset :: newlineOffsets (offset + 1) rest
    else newlineOffsets (offset + 1) rest

/-- The index of the first item that is not early, if early items come before all others and the
index is known to be at least `low` and at most `high`. -/
def bisect (isEarly : Nat → Bool) (items : Array Nat) (low high : Nat) : Nat :=
  if low < high then
    let middle := (low + high) / 2
    if items[middle]?.any isEarly then bisect isEarly items (middle + 1) high
    else bisect isEarly items low middle
  else low
termination_by high - low

/-- The line, counted from 1, behind all newlines at early offsets. -/
def lineBehind (isEarly : Nat → Bool) (newlines : Array Nat) : Int :=
  1 + bisect isEarly newlines 0 newlines.size

end SyntaxGraph
