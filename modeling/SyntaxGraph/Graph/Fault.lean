import SyntaxGraph.Fault
import SyntaxGraph.Graph.Data

/-!
# Faults of graphs

What stands behind a refused change, and what is asked about rows that a graph does not have.
-/
namespace SyntaxGraph

def DataFault.fault (fault : DataFault) : Fault :=
  match fault.report? with
  | some report => .report report
  | none => if fault = .notAnObject then .missingPart else .wrongForm

def GraphError.named? : GraphError → Option Json
  | .sourceMissing id | .destinationMissing id | .rootSet id _ | .rootMissing id => some id
  | .alreadyScanned _ | .access _ | .notAnId => none

/-- The fault behind a change that was refused. -/
def GraphError.fault (e : GraphError) : Fault :=
  -- A report cannot name an id that cannot be written.
  if e.named?.any (!·.isWritable 0) then .badValue
  else
    match e.report? with
    | some report => .report report
    | none => .wrongForm

namespace Graph

/-- The answer to a question about a row, which has to be a row of the graph. -/
def ask {α : Type} (g : Graph) (id : Json) (answer : Json → α) : Except Fault α :=
  if !id.isKey then .error .wrongForm
  else if g.hasRow id then .ok (answer id)
  else .error .unknownRow

def childrenOf (g : Graph) (id : Json) : Except Fault (List Row) := g.ask id g.children

def parentOf (g : Graph) (id : Json) : Except Fault (Option Row) := g.ask id g.parent?

end Graph

end SyntaxGraph
