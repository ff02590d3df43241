import SyntaxGraph.Action
import SyntaxGraph.Text.Case

/-!
# Setting up the log

The level, the file and the form of log lines come from settings, so they may have any form.
-/
namespace SyntaxGraph

def logFileOf (value : Json) : Except Fault (Option Path) :=
  if value.isTruthy then
    match value with
    | .str text => .ok (some (.ofString text))
    | .broken _ => .error .unencodable
    | _ => .error .wrongForm
  else .ok none

/-- The names that settings may use for ranks: those of the levels, one for no rank at all, and two
that are known and stand for something else. -/
def thresholds (name : String) : Option (Except Fault Nat) :=
  match Level.ofName? name with
  | some level => some (.ok level.rank)
  | none =>
    [("NOTSET", .ok 0), ("BASIC_FORMAT", .error .badValue), ("_STYLES", .error .wrongForm)].lookup
      name

def logThreshold : Json → Except Fault (Except Fault Nat)
  | .str name =>
    match thresholds (Text.upper name) with
    | some threshold => .ok threshold
    | none => .error .missingPart
  | _ => .error .missingPart

/-- The form of log lines that a setting gives: `null` stands for the usual form, and an empty value
for the bare message. -/
def logForm (value : Json) : Except Fault String :=
  match value with
  | .null => .ok usualLogForm
  | .str text =>
    if text = "" then .ok "%(message)s"
    -- A form without any field is refused.
    else if hasLogField text then .ok text
    else .error .badValue
  | value => if value.isTruthy then .error .wrongForm else .ok "%(message)s"

/-- Shows records from now on. Double dots in the path of the file lead back along the path as it is
written. -/
def setUpLog (level file form : Json) (time : String) : Action Unit := do
  let file ← Action.ofExcept (logFileOf file)
  match file with
  | none => pure ()
  | some path => do
    makeParent path
    -- The file is made even if the level or the form is refused later.
    appendFile path.collapsed ""
  let threshold ← Action.ofExcept (logThreshold level)
  let form ← Action.ofExcept (logForm form)
  -- Whether the level is a rank is asked behind the form.
  let threshold ← Action.ofExcept threshold
  Action.useChannel { threshold, form, time, file := file.map Path.collapsed }

end SyntaxGraph
