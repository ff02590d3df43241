/-!
# Ranking

Sorting by bisection: the run at the front of a list is kept, and each further item is put in by
bisection, behind those that it is not less than. The outcome is definite even where some items
compare with no others.
-/
namespace SyntaxGraph

variable {α : Type}

def runAfter (goesOn : α → α → Bool) (last : α) : List α → List α × List α
  | [] => ([], [])
  | a :: rest =>
    if goesOn last a then
      let (run, others) := runAfter goesOn a rest
      (a :: run, others)
    else ([], a :: rest)

/-- The run at the front of a list in ascending order, and what follows it. -/
def leadingRun (less : α → α → Bool) : List α → List α × List α
  | a :: b :: rest =>
    if less b a then
      let (run, others) := runAfter (fun x y => less y x) a (b :: rest)
      -- A run that descends is turned round.
      ((a :: run).reverse, others)
    else
      let (run, others) := runAfter (fun x y => !less y x) a (b :: rest)
      (a :: run, others)
  | items => (items, [])

/-- The place for an item between two places of a sorted list, found in at most as many steps as
there is fuel. -/
def placeFor (less : α → α → Bool) (item : α) (sorted : List α) (low high : Nat) : Nat → Nat
  | 0 => low
  | fuel + 1 =>
    if high ≤ low then low
    else
      let middle := (low + high) / 2
      match sorted[middle]? with
      | none => low
      | some other =>
        if less item other then placeFor less item sorted low middle fuel
        -- An item goes behind those that it is not less than.
        else placeFor less item sorted (middle + 1) high fuel

def insertRanked (less : α → α → Bool) (sorted : List α) (item : α) : List α :=
  let place := placeFor less item sorted 0 sorted.length sorted.length
  sorted.take place ++ item :: sorted.drop place

def ranked (less : α → α → Bool) (items : List α) : List α :=
  let (run, others) := leadingRun less items
  others.foldl (insertRanked less) run

end SyntaxGraph
