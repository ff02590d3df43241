import SyntaxGraph.Fault
import SyntaxGraph.Java.Constructors
import SyntaxGraph.Log
import SyntaxGraph.Parse.Diagnostic
import SyntaxGraph.Tree.Report

/-!
# Compilation

A source compiles if its parse tree has no faults and can be lowered; the result is its syntax
tree with implicit constructors.
-/
namespace SyntaxGraph.Java

inductive CompileError
  | diagnostics (file : Json) (found : List Diagnostic)
  | lowering (cause : LoweringError)
  | constructors (cause : ConstructorError)
deriving DecidableEq

def LoweringError.fault : LoweringError → Fault
  | .shape cause => .report cause.report
  | .unknownOperator _ => .missingKey
  | .missingPart => .missingPart
  | .nothingThere => .outOfRange
  | .brokenText => .brokenText
  | .outsideText => .outOfRange

def ConstructorError.fault : ConstructorError → Fault
  | .absentSlot => .missingKey
  | .notASequence => .wrongForm
  | .notATree => .missingPart
  | .shape cause => .report cause.report

def CompileError.fault : CompileError → Fault
  | .diagnostics file found => .report (.compilation file (found.map (·.text)))
  | .lowering cause => cause.fault
  | .constructors cause => cause.fault

/-- A compilation in progress with what it logs. -/
abbrev Compile := Traced LogRecord CompileError

def otherRecord (type : String) : LogRecord :=
  .ofText .debug "astfeatures.frontend.java.lowering"
    s!"No dedicated kind for {type}, lowering to OTHER"

def constructorsRecord (added : Nat) : LogRecord :=
  .ofText .debug "astfeatures.frontend.java.enter" s!"Entered {added} default constructors"

def frontEndRecord (message : String) : LogRecord :=
  .ofText .debug "astfeatures.frontend.java.frontend" message

def enterUnit (unit : Tree) : Compile Tree :=
  match addConstructors unit with
  | .error cause => Traced.fail (.constructors cause)
  | .ok (unit, added) => do
    Traced.emit (constructorsRecord added)
    return unit

/-- Compiles a source with its parse tree; diagnostics name the file. -/
def compile {α : Type} (file : Json) (source : Source) (root : ParseTree α) : Compile Tree :=
  let name := file.plain
  match Diagnostic.ofTree source root with
  | [] => do
    let lowered ← ((lowerUnit source root).mapTrace otherRecord).mapError .lowering
    let unit ← enterUnit lowered
    Traced.emit (frontEndRecord s!"Compiled {name}")
    return unit
  | diagnostics => do
    Traced.emit (frontEndRecord s!"{name}: {diagnostics.length} syntax diagnostics")
    -- A parse tree with a fault is not lowered at all.
    Traced.fail (.diagnostics file diagnostics)

end SyntaxGraph.Java
