import SyntaxGraph.Report
import SyntaxGraph.Tree.Grammar

/-!
# Reports about trees
-/
namespace SyntaxGraph

def AccessError.report : AccessError → Report
  | .noSchema start stop => .access (.str s!"at {start}..{stop}") .null
  | .noSlot kind slot => .access (.str kind) (.str slot)

def ShapeError.report (e : ShapeError) : Report :=
  .shape (.str e.kind) (.str e.fault.reason)

end SyntaxGraph
