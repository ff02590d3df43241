import SyntaxGraph.Command.Basic
import SyntaxGraph.Extraction.Batch
import SyntaxGraph.Graph.Statistics
import SyntaxGraph.Log.Setup
import SyntaxGraph.Ranking
import SyntaxGraph.Settings.Storage

/-!
# Running commands

A command works in a world and with settings. Faults that a user can understand are told in one
line; all others end the program.
-/
namespace SyntaxGraph

/-- How a run ends. -/
inductive Ending
  | exit (code : Nat)
  | usage (error : UsageError)
  | fault (fault : Fault)
deriving DecidableEq

def Ending.ofRejection : Rejection → Ending
  | .usage e => .usage e
  | .fault cause => .fault cause

/-- How a run ends, and the settings that it leaves. -/
structure Outcome where
  settings : Settings
  ending : Ending

def Ending.exitCode : Ending → Nat
  | .exit code => code
  | .usage _ => 2
  | .fault _ => 1

def programName : String := "cli"

def programVersion : String := "1.0.0"

def helpLines : List String := [
  s!"Usage: {programName} [OPTIONS] COMMAND [ARGS]...",
  "",
  "Options:",
  "  -v, --verbose    Show debug messages",
  "  --log-file PATH  Keep a copy of the log",
  "  --config PATH    Read settings from a file",
  "  --version        Show the version",
  "  --help           Show this message",
  "",
  "Commands:",
  "  extract FILE [-o PATH] [--compress]",
  "  batch DIRECTORY [-o PATH] [--compress]",
  "  stats GRAPH_FILE [--top N]",
  "  init [-o PATH]",
  "  list-languages"]

namespace Action

/-- Tells a fault and ends with an exit code; in verbose mode its place is told, too. -/
def giveUp (verbose : Bool) (fault : Fault) : Action Nat := do
  complain s!"Error: {fault.text}"
  if verbose then emit .backtrace
  return 1

/-- Goes on with the value of an action. A fault that is to be told is told, any other is kept. -/
def orGiveUp {α : Type} (verbose : Bool) (isTold : Fault → Bool) (action : Action α)
    (next : α → Action Nat) : Action Nat := do
  match ← attempt action with
  | .ok a => next a
  -- Any other fault ends the program.
  | .error fault => if isTold fault then giveUp verbose fault else fail fault

def printAll (lines : List String) : Action Unit := forEach print lines

def printEach (lines : List (Except Fault String)) : Action Unit :=
  forEach (fun line => do print (← ofExcept line)) lines

end Action

/-- A line that shows a value, which cannot be written if it is a string with half a pair. -/
def shownLine (value : Json) (line : String → String) : Except Fault String :=
  match value with
  | .broken _ => .error .unencodable
  | value => .ok (line value.plain)

def ruler (c : Char) (length : Nat) : String :=
  String.ofList (List.replicate length c)

def Summary.lines (s : Summary) : List (Except Fault String) :=
  let line := ruler '=' 60
  let skipped := s.skipped.length
  [line, "EXTRACTION COMPLETE", line, s!"Succeeded: {s.succeeded}", s!"Failed:    {s.failed}",
    s!"Skipped:   {skipped}", s!"Nodes:     {s.nodes}", s!"Edges:     {s.edges}"].map .ok ++
    [s.outputDir.elim (.error .unencodable) fun dir => .ok s!"Output:    {dir}", .ok line]

/-- Whether a label is shown before another: the more frequent first, then in their order. -/
def labelBefore (a b : Json × Nat) : Bool :=
  b.2 < a.2 || (a.2 = b.2 && a.1.lt? b.1 = some true)

/-- Labels in the order in which they are shown. Labels that occur equally often have to be
comparable. -/
def rankLabels (labels : List (Json × Nat)) : Except Fault (List (Json × Nat)) :=
  if labels.all fun a => labels.all fun b => a = b || a.2 ≠ b.2 || (a.1.lt? b.1).isSome then
    .ok (ranked labelBefore labels)
  else .error .wrongForm

/-- The first so many items; a negative number counts from the end. -/
def takeTop {α : Type} (top : Int) (items : List α) : List α :=
  items.take (if top < 0 then items.length + top else top).toNat

def countLine (count : Nat) (name : String) : String := s!"  {name}: {count}"

def Graph.statisticsLines (g : Graph) (s : Statistics) : List (Except Fault String) :=
  let root := (g.rootRow?.map (·.contents)).getD (.str "-")
  let types := (s.types.map fun (type, count) => (type.text, count)).mergeSort fun a b =>
    decide (a.1 ≤ b.1)
  [.ok "Graph Statistics:", .ok (ruler '-' 40), shownLine g.sourceFile ("  Source file: " ++ ·),
    shownLine root ("  Root: " ++ ·), .ok s!"  Nodes: {s.nodeCount}",
    .ok s!"  Edges: {s.edgeCount}", .ok s!"  Depth: {s.depth}"] ++
    types.map fun (name, count) => .ok (countLine count name)

def labelLines (top : Int) (labels : List (Json × Nat)) : List (Except Fault String) :=
  if labels.isEmpty then []
  else
    .ok "Most frequent labels:" ::
      (takeTop top labels).map fun (label, count) => shownLine label (countLine count)

namespace Command

def runExtract (x : Extractor) (verbose : Bool) (file output : String) (compress : Bool) :
    Action Nat := do
  let files ← Action.files
  match ← Action.ofExcept (files.fileProblem x.mayRead file) with
  | some problem => do
    let reason := problem.message file
    Action.complain s!"Error: {reason}"
    return 1
  | none =>
    Action.orGiveUp verbose Fault.isReport (x.extractFile (.ofString file)) fun g =>
      -- Without an output path the graph is shown.
      if output = "" then do
        Action.print (g.toJson.render (.indented 2))
        return 0
      else
        Action.orGiveUp verbose Fault.isFileFault
          (g.save (.ofString output) (if compress then .bool true else .null)) fun path => do
            Action.print s!"Nodes: {g.rows.length}, edges: {g.links.length}"
            Action.print s!"Graph saved to: {path.text}"
            return 0

def runBatch (x : Extractor) (verbose : Bool) (directory outputDir : String) : Action Nat := do
  let files ← Action.files
  match ← Action.ofExcept (files.directoryProblem x.mayRead directory) with
  | some problem => do
    let reason := problem.message directory
    Action.complain s!"Error: {reason}"
    return 1
  | none =>
    let output := if outputDir = "" then none else some (Path.ofString outputDir)
    Action.orGiveUp verbose Fault.isReport (x.extractDirectory (.ofString directory) output)
      fun summary => do
        Action.printEach summary.lines
        Action.forEach (fun (name, reason) => Action.complain s!"  {name}: {reason}")
          summary.failures
        return if summary.failures.isEmpty then 0 else 1

def runStats (verbose : Bool) (graphFile : String) (top : Int) : Action Nat :=
  Action.orGiveUp verbose Fault.isReport (Graph.load (.ofString graphFile)) fun g => do
    -- Nothing is shown of a graph that cannot be counted.
    let s ← Action.ofExcept g.countedStatistics
    Action.printEach (g.statisticsLines s)
    let labels ← Action.ofExcept (rankLabels s.contents)
    Action.printEach (labelLines top labels)
    return 0

def runInit (settings : Settings) (output : String) : Action Nat := do
  settings.save (.ofString output)
  Action.print s!"Configuration saved to: {output}"
  return 0

def runListLanguages (registry : Registry) : Action Nat := do
  Action.printAll ["Supported Languages:", ruler '-' 40]
  let frontEnds := (registry.frontEnds.map fun (language, frontEnd) =>
    (language.plain, frontEnd)).mergeSort fun a b => decide (a.1 ≤ b.1)
  Action.printAll (frontEnds.map fun (language, frontEnd) =>
    let endings := ", ".intercalate ((frontEnd.extensions.members?.getD []).map Json.plain)
    s!"  {language}: {endings}")
  return 0

/-- The settings that a command works with. A batch turns compression on if it is asked to and its
directory is right. -/
def settingsFor (command : Command) (x : Extractor) (files : FileSystem) :
    Except Fault Settings :=
  match command with
  | .batch directory _ true =>
    match files.directoryProblem x.mayRead directory with
    -- Compression is turned on for good, but not for a directory that is turned down.
    | .ok none => x.settings.setIn "storage" "enable_compression" (.bool true)
    | _ => .ok x.settings
  | _ => .ok x.settings

def run (command : Command) (x : Extractor) (verbose : Bool) : Action Nat :=
  match command with
  | .extract file output compress => runExtract x verbose file output compress
  | .batch directory outputDir _ => runBatch x verbose directory outputDir
  | .stats graphFile top => runStats verbose graphFile top
  | .init output => runInit x.settings output
  | .listLanguages => runListLanguages x.registry

end Command

/-- The settings for a run, and whether they could be read: from the file that is named, or else
from the environment. -/
def Invocation.settings (i : Invocation) (reader : VariableReader) (env : Environment)
    (settings : Settings) : Action (Settings × Except Fault Unit) :=
  if i.settingsFile = "" then settings.overriddenBy reader env none
  else settings.replacedFrom (.ofString i.settingsFile)

/-- Runs an invocation with an extractor, whose settings are those from before. -/
def Invocation.run (i : Invocation) (x : Extractor) (reader : VariableReader) (env : Environment)
    (time : String) : Action Outcome := do
  let (settings, read) ← i.settings reader env x.settings
  -- The settings are kept, however the run ends.
  let verbose := i.verbose || settings.verbose.isTruthy
  let logFile := if i.logFile = "" then settings.logFile else .str i.logFile
  let level := if verbose then "DEBUG" else "INFO"
  let ready ← Action.attempt do
    Action.ofExcept read
    setUpLog (.str level) logFile .null time
  match ready with
  | .error fault => return ⟨settings, .fault fault⟩
  | .ok () =>
    let files ← Action.files
    match Command.read files i.command i.arguments with
    | .error rejection => return ⟨settings, .ofRejection rejection⟩
    -- A version that is asked for behind the command is answered like help.
    | .ok .version | .ok .help => do
      Action.printAll helpLines
      return ⟨settings, .exit 0⟩
    | .ok (.run command) =>
      match command.settingsFor { x with settings } files with
      | .error fault => return ⟨settings, .fault fault⟩
      | .ok settings =>
        match ← Action.attempt (command.run { x with settings } verbose) with
        | .ok code => return ⟨settings, .exit code⟩
        | .error fault => return ⟨settings, .fault fault⟩

def runProgram (x : Extractor) (reader : VariableReader) (env : Environment) (time : String)
    (arguments : List String) : Action Outcome := do
  let files ← Action.files
  match Invocation.read files arguments with
  | .error rejection => return ⟨x.settings, .ofRejection rejection⟩
  | .ok .help => do
    Action.printAll helpLines
    return ⟨x.settings, .exit 0⟩
  | .ok .version => do
    Action.print s!"{programName}, version {programVersion}"
    return ⟨x.settings, .exit 0⟩
  | .ok (.run i) => i.run x reader env time

end SyntaxGraph
