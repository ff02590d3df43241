import SyntaxGraph.Log.Format
import SyntaxGraph.Path

/-!
# Log channels

A channel shows the records that matter enough, one line for each, and may keep a copy of the lines
in a file.
-/
namespace SyntaxGraph

/-- Where records are shown. -/
structure Channel where
  /-- The rank that a record needs to be shown. -/
  threshold : Nat := 20
  form : String := usualLogForm
  time : String
  /-- The file that keeps a copy. -/
  file : Option Path := none

/-- What becomes of a record on a channel. -/
inductive Shown
  | hidden
  | line (line : List Text.CodePoint)
  /-- The form of the lines does not fit it. -/
  | unfit
deriving DecidableEq

def Channel.shown (channel : Channel) (record : LogRecord) : Shown :=
  if record.level.rank < channel.threshold then .hidden
  else
    match record.line? channel.form channel.time with
    | some line => .line line
    | none => .unfit

end SyntaxGraph
