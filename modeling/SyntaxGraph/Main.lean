import Std.Time.Format
import SyntaxGraph.Command.Run
import SyntaxGraph.Files.Listing
import SyntaxGraph.Parse.Data
import SyntaxGraph.Settings.VariableFile
import SyntaxGraph.Text.Encoding

/-!
# The program

The program works on the files below the directory that it is started in. A parser hands it the
parse trees of the sources through the standard input, as a JSON array of pairs of a text and its
tree.
-/
namespace SyntaxGraph.Program

/-- Reads an entry of a directory on the disk. -/
partial def readEntry (entry : IO.FS.DirEntry) : IO (Option (String × Entry)) := do
  let data ← entry.path.symlinkMetadata
  if data.type == .dir then
    let found ← (← entry.path.readDir).toList.filterMapM readEntry
    return some (entry.fileName, .dir found)
  -- Links to directories are left out.
  else if ← entry.path.isDir then return none
  else if ← entry.path.pathExists then
    let bytes ← IO.FS.readBinFile entry.path
    return some (entry.fileName, .file bytes.toList)
  else return none

def readFiles : IO FileSystem := do
  let here ← IO.currentDir
  let entries ← (← here.readDir).toList.filterMapM readEntry
  return { root := .dir entries }

def writeEntry (before : FileSystem) (way : List String) (entry : Entry) : IO Unit := do
  let path := "/".intercalate way
  match entry with
  | .dir _ => IO.FS.createDirAll path
  | .link _ => return ()
  | .file bytes =>
    -- Files that did not change are not written again.
    if ((before.root.at? way).bind Entry.bytes?) ≠ some bytes then
      IO.FS.writeBinFile path (ByteArray.mk bytes.toArray)

def treesOf (text : String) : List (String × ParseTree Unit) :=
  match Json.parse? text with
  | some (.arr pairs) => pairs.filterMap fun
    | .arr [.str source, tree] => some (source, ParseTree.ofJson tree)
    | _ => none
  | _ => []

/-- Whether arguments ask for something that needs parse trees. -/
def needsTrees (files : FileSystem) (arguments : List String) : Bool :=
  match Invocation.read files arguments with
  | .ok (.run i) => i.command = "extract" || i.command = "batch"
  | _ => false

def readEnvironment : IO Environment :=
  Settings.variableTable.filterMapM fun (name, _) => do
    return (← IO.getEnv name).map fun text => (name, text)

def readTime : IO String := do
  let now ← Std.Time.PlainDateTime.now
  return now.format "uuuu-MM-dd HH:mm:ss,SSS"

def showEvent (event : Event) : IO Unit :=
  match event with
  | .out text => IO.print text
  | .err text => IO.eprint text
  | .log _ | .backtrace => return ()

def showEnding (ending : Ending) : IO Unit :=
  match ending with
  | .exit _ => return ()
  | .usage e => IO.eprintln e.message
  | .fault fault => IO.eprintln (fault.text?.getD "The program ended early.")

end SyntaxGraph.Program

open SyntaxGraph in
def main (arguments : List String) : IO UInt32 := do
  let files ← Program.readFiles
  let input ← if Program.needsTrees files arguments then (← IO.getStdin).readToEnd else pure ""
  let parser := parserOf (Program.treesOf input)
  let extractor : Extractor := { parser, decoder? := Text.Encoding.decoder? }
  -- Variables may also stand in a file beside the sources.
  let reader := VariableFile.reader fun _ => some ".env"
  let action := runProgram extractor reader (← Program.readEnvironment) (← Program.readTime)
    arguments
  let (run, world) := action { files }
  run.trace.forM Program.showEvent
  world.files.underHere.forM fun (way, entry) => Program.writeEntry files way entry
  match run.result with
  | .ok outcome =>
    Program.showEnding outcome.ending
    return outcome.ending.exitCode.toUInt32
  | .error _ => return 1
