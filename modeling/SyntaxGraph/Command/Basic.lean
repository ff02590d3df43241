import SyntaxGraph.Command.Arguments
import SyntaxGraph.Files.System

/-!
# Commands

What the command line asks for. Options in front of the name of the command are for all commands.
-/
namespace SyntaxGraph

/-- What a reader of arguments makes of them: something to run, or a question about the program. -/
inductive Request (α : Type)
  | run (what : α)
  | version
  | help
deriving DecidableEq

inductive Command
  /-- Extracts the graph of one file. -/
  | extract (file output : String) (compress : Bool)
  /-- Extracts the graphs of all sources below a directory. -/
  | batch (directory outputDir : String) (compress : Bool)
  /-- Tells about a stored graph. -/
  | stats (graphFile : String) (top : Int)
  | init (output : String)
  | listLanguages
deriving DecidableEq

/-- The command to run, the arguments for it, and the options for all commands; an option that is
not given is empty. -/
structure Invocation where
  verbose : Bool
  logFile : String
  settingsFile : String
  command : String
  arguments : List String
deriving DecidableEq

def helpOption : OptionSpec := { key := "help", long := "--help" }

def compressOption : OptionSpec := { key := "compress", long := "--compress" }

/-- The question about the program that is asked first, if one is. -/
def Given.question? {α : Type} (given : Given) : Option (Request α) :=
  given.options.findSome? fun (key, _) =>
    if key = "version" then some .version
    else if key = "help" then some .help
    else none

/-- Why arguments are turned down: they make no sense, or they cannot even be looked at. -/
inductive Rejection
  | usage (error : UsageError)
  | fault (fault : Fault)
deriving DecidableEq

def checkPath (fs : FileSystem) (rule : PathRule) (text : String) : Except Rejection Unit :=
  match fs.getWritten text with
  | .error cause =>
    -- Some faults end the program, however the path is used.
    if !cause.isRefusal then .error (.fault (.file cause text))
    else if rule.mustExist then .error (.usage (.badArgument text))
    else .ok ()
  | .ok entry =>
    if if entry.isDir then rule.mayBeDir else rule.mayBeFile then .ok ()
    else .error (.usage (.badArgument text))

def checkValue (fs : FileSystem) (text : String) : ValueRule → Except Rejection Unit
  | .path rule => checkPath fs rule text
  | .integer =>
    if (Text.integer? text).isSome then .ok () else .error (.usage (.badArgument text))

def Given.check (given : Given) (fs : FileSystem) (specs : List OptionSpec) :
    Except Rejection Unit :=
  -- Options are checked in the order in which they came first.
  given.keys.forM fun key =>
    match (specs.find? (·.key = key)).bind (·.rule), given.value? key with
    | some rule, some text => checkValue fs text rule
    | _, _ => .ok ()

/-- Reads options and arguments; what they amount to is made from them unless a question is
asked. -/
def readRequest {α : Type} (fs : FileSystem) (specs : List OptionSpec) (mixed : Bool)
    (arguments : List String) (make : Given → Except Rejection α) :
    Except Rejection (Request α) := do
  let given ← (readArguments specs mixed arguments).mapError .usage
  match given.question? with
  -- A question is answered before anything is checked.
  | some question => return question
  | none =>
    given.check fs specs
    let made ← make given
    return .run made

def existingFile : PathRule := { mustExist := true, mayBeDir := false }

namespace Invocation

def options : List OptionSpec := [
  { key := "verbose", long := "--verbose", short := some 'v' },
  { key := "log-file", long := "--log-file", rule := some (.path {}) },
  { key := "config", long := "--config", rule := some (.path existingFile) },
  { key := "version", long := "--version" },
  helpOption]

def commands : List String := ["extract", "batch", "stats", "init", "list-languages"]

def read (fs : FileSystem) (arguments : List String) : Except Rejection (Request Invocation) :=
  readRequest fs options false arguments fun given =>
    match given.arguments with
    | [] => .error (.usage .missingCommand)
    | command :: arguments =>
      if commands.contains command then
        .ok {
          verbose := given.has "verbose"
          logFile := (given.value? "log-file").getD ""
          settingsFile := (given.value? "config").getD ""
          command, arguments }
      else .error (.usage (.unknownCommand command))

end Invocation

namespace Command

def noMore (arguments : List String) : Except Rejection Unit :=
  match arguments with
  | [] => .ok ()
  | extra :: _ => .error (.usage (.extraArgument extra))

/-- Exactly one argument. -/
def oneArgument (given : Given) (check : String → Except Rejection Unit) :
    Except Rejection String :=
  match given.arguments with
  | [] => .error (.usage .missingArgument)
  | argument :: rest => do
    -- The argument is checked before others are turned down.
    check argument
    noMore rest
    return argument

def readWith {α : Type} (fs : FileSystem) (specs : List OptionSpec) (arguments : List String)
    (make : Given → Except Rejection α) : Except Rejection (Request α) :=
  readRequest fs (specs ++ [helpOption]) true arguments make

def outputOption (long : String) (rule : PathRule) : OptionSpec :=
  { key := "output", long, short := some 'o', rule := some (.path rule) }

def readExtract (fs : FileSystem) (arguments : List String) :
    Except Rejection (Request Command) :=
  readWith fs [outputOption "--output" {}, compressOption] arguments fun given => do
    let file ← oneArgument given fun _ => .ok ()
    return .extract file ((given.value? "output").getD "") (given.has "compress")

def readBatch (fs : FileSystem) (arguments : List String) : Except Rejection (Request Command) :=
  -- The output may not be a file.
  readWith fs [outputOption "--output-dir" { mayBeFile := false }, compressOption] arguments
    fun given => do
      let directory ← oneArgument given fun _ => .ok ()
      return .batch directory ((given.value? "output").getD "") (given.has "compress")

/-- How many labels are shown if nobody says. -/
def usualTop : Int := 10

def readStats (fs : FileSystem) (arguments : List String) : Except Rejection (Request Command) :=
  readWith fs [{ key := "top", long := "--top", rule := some .integer }] arguments fun given => do
    let file ← oneArgument given (checkPath fs existingFile)
    return .stats file (((given.value? "top").bind Text.integer?).getD usualTop)

def readInit (fs : FileSystem) (arguments : List String) : Except Rejection (Request Command) :=
  readWith fs [outputOption "--output" {}] arguments fun given => do
    noMore given.arguments
    return .init ((given.value? "output").getD "config.json")

def read (fs : FileSystem) (name : String) (arguments : List String) :
    Except Rejection (Request Command) :=
  match name with
  | "extract" => readExtract fs arguments
  | "batch" => readBatch fs arguments
  | "stats" => readStats fs arguments
  | "init" => readInit fs arguments
  | "list-languages" => readWith fs [] arguments fun given => do
    noMore given.arguments
    return .listLanguages
  | name => .error (.usage (.unknownCommand name))

end Command

end SyntaxGraph
