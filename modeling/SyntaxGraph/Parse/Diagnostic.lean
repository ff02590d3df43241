import SyntaxGraph.Parse.Source
import SyntaxGraph.Text.Utf8

/-!
# Diagnostics

The faults that a parser met, as lines and columns counted from 1.
-/
namespace SyntaxGraph

structure Diagnostic where
  line : Int
  column : Int
  message : String
deriving DecidableEq

namespace Diagnostic

/-- A line that tells a place and what is wrong there. -/
def lineOf (line column message : String) : String :=
  s!"{line}:{column}: {message}"

def text (d : Diagnostic) : String :=
  lineOf (toString d.line) (toString d.column) d.message

def le (a b : Diagnostic) : Bool :=
  a.line < b.line || (a.line == b.line && a.column ≤ b.column)

def messageFor (mark : Mark) : String :=
  -- A missing node is missing whatever its type.
  if mark.missing then s!"missing '{mark.type}'" else "syntax error"

def newline : UInt8 := 0x0A

/-- The diagnostic of a faulty node. Its line is counted in the bytes before the node; its column,
in the characters that the bytes behind the last newline among these spell. -/
def ofMark (source : Source) (mark : Mark) : Diagnostic :=
  let before := (Text.encodeChars source.chars).take mark.start
  let lineBytes := (before.reverse.takeWhile (· ≠ newline)).reverse
  { line := before.count newline + 1
    -- The node may start inside a character, so the bytes before it need not make sense.
    column := (Text.decodeLossy lineBytes).length + 1
    message := messageFor mark }

/-- The diagnostics of a parse tree, by position. -/
def ofTree {α : Type} (source : Source) (tree : ParseTree α) : List Diagnostic :=
  if tree.hasFault then ((ParseTree.faultsOn [tree]).map (ofMark source)).mergeSort le else []

end Diagnostic

end SyntaxGraph
