import SyntaxGraph.Fault
import SyntaxGraph.Parse.Tree

/-!
# Parse trees as data

A node is an array of its type, whether it is named, its first and last offset, its field, its
children, and whether it is missing; parts at the end may be left out. A value of any other form
stands for an empty node.
-/
namespace SyntaxGraph

def Mark.empty : Mark := { type := "", named := false, start := 0, stop := 0 }

def offsetOfJson (value : Json) : Nat :=
  (value.toInt?.getD 0).toNat

def Mark.ofJson (type named start stop : Json) (field missing : Option Json) : Mark where
  type := type.plain
  named := named.isTruthy
  start := offsetOfJson start
  stop := offsetOfJson stop
  field := match field with
    | some (.str name) => some name
    | _ => none
  missing := missing.any Json.isTruthy

namespace ParseTree

mutual

def ofJson : Json → ParseTree Unit
  | .arr (type :: named :: start :: stop :: field :: .arr children :: rest) =>
    .node (.ofJson type named start stop (some field) rest.head?) () (ofItems children)
  | .arr (type :: named :: start :: stop :: rest) =>
    -- Without children the parts behind them may still be there.
    .node (.ofJson type named start stop rest.head? (rest.drop 2).head?) () []
  | _ => .node .empty () []

def ofItems : List Json → List (ParseTree Unit)
  | [] => []
  | item :: rest => ofJson item :: ofItems rest

end

end ParseTree

def parserOf (trees : List (String × ParseTree Unit)) (text : String) :
    Except Fault (ParseTree Unit) :=
  (trees.lookup text).elim (.error .missingKey) .ok

end SyntaxGraph
