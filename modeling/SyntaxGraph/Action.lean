import SyntaxGraph.Files.System
import SyntaxGraph.Log.Channel
import SyntaxGraph.Trace

/-!
# Actions

An action works in a world of files and a log channel. It may show something and fail; what it
changed and showed before it failed stays.
-/
namespace SyntaxGraph

/-- What an action lets others see. -/
inductive Event
  /-- A record is logged, whether a channel shows it or not. -/
  | log (record : LogRecord)
  | out (text : String)
  /-- A message beside the output. -/
  | err (text : String)
  /-- The place of a fault in the program is told beside the output. -/
  | backtrace
deriving DecidableEq

structure World where
  files : FileSystem
  channel : Option Channel := none

/-- A computation in a world. -/
def Action (α : Type) := World → Traced Event Fault α × World

namespace Action

variable {α β : Type}

protected def bind (first : Action α) (second : α → Action β) : Action β := fun world =>
  match first world with
  -- What was done and shown before stays.
  | (⟨trace, .error e⟩, world) => (⟨trace, .error e⟩, world)
  | (⟨trace, .ok a⟩, world) =>
    let (rest, world) := second a world
    (⟨trace ++ rest.trace, rest.result⟩, world)

instance : Monad Action where
  pure a := fun world => (pure a, world)
  bind := Action.bind

theorem bind_of_error {first : Action α} (second : α → Action β) {world after : World}
    {trace : List Event} {e : Fault} (h : first world = (⟨trace, .error e⟩, after)) :
    (first >>= second) world = (⟨trace, .error e⟩, after) := by
  show Action.bind first second world = _
  unfold Action.bind
  rw [h]

theorem bind_of_ok {first : Action α} (second : α → Action β) {world after : World}
    {trace : List Event} {a : α} (h : first world = (⟨trace, .ok a⟩, after)) :
    (first >>= second) world =
      (⟨trace ++ (second a after).1.trace, (second a after).1.result⟩, (second a after).2) := by
  show Action.bind first second world = _
  unfold Action.bind
  rw [h]

/-- A computation outside the world that shows nothing. -/
def ofExcept (result : Except Fault α) : Action α := fun world => (Traced.ofExcept result, world)

def fail (fault : Fault) : Action α := ofExcept (.error fault)

def emit (event : Event) : Action Unit := fun world => (Traced.emit event, world)

def print (line : String) : Action Unit := emit (.out (line ++ "\n"))

def notify (text : String) : Action Unit := emit (.err text)

def complain (line : String) : Action Unit := notify (line ++ "\n")

def files : Action FileSystem := fun world => (pure world.files, world)

/-- Changes the files, unless that fails. -/
def change (step : FileSystem → Except Fault FileSystem) : Action Unit := fun world =>
  match step world.files with
  | .ok files => (pure (), { world with files })
  | .error fault => (Traced.fail fault, world)

def useChannel (channel : Channel) : Action Unit := fun world =>
  (pure (), { world with channel := some channel })

/-- How an action ends, as a value. -/
def attempt (action : Action α) : Action (Except Fault α) := fun world =>
  let (run, world) := action world
  (⟨run.trace, .ok run.result⟩, world)

/-- Runs an action for each item of a list, in order, and threads a value through. -/
def fold (step : β → α → Action β) (start : β) : List α → Action β
  | [] => pure start
  | a :: rest => do
    let next ← step start a
    fold step next rest

def forEach (step : α → Action Unit) (items : List α) : Action Unit :=
  fold (fun _ a => step a) () items

end Action

def readFile (path : Path) : Action (List UInt8) := do
  let fs ← Action.files
  match fs.read path with
  | .ok bytes => return bytes
  | .error e => Action.fail (.file e path.text)

def writeFile (path : Path) (bytes : List UInt8) : Action Unit :=
  Action.change fun fs => (fs.write path bytes).mapError (.file · path.text)

/-- Writes a text behind what a file holds; the file is made if it is missing. -/
def appendFile (path : Path) (text : String) : Action Unit :=
  Action.change fun fs => (fs.append path (Text.encodeUtf8 text)).mapError (.file · path.text)

def makeParent (path : Path) : Action Unit :=
  Action.change fun fs => fs.makeDirs path.parent

namespace Action

def tellUnlogged : Action Unit := do
  emit (.err "--- Logging error ---\n")
  emit .backtrace

/-- Shows a line beside the output, with halves of pairs shown by their code, and keeps it in the
file of a channel. -/
def showOn (channel : Channel) (line : List Text.CodePoint) : Action Unit := do
  complain (Text.codedHalves line)
  match channel.file, Text.ofCodePoints? line with
  | none, _ => return ()
  -- A file cannot keep half a pair.
  | some _, none => tellUnlogged
  | some file, some line => do
    -- A file that cannot be written any more is left alone.
    let _ ← attempt (appendFile file (line ++ "\n"))
    return ()

def channel : Action (Option Channel) := fun world => (pure world.channel, world)

def log (record : LogRecord) : Action Unit := do
  emit (.log record)
  match ← channel with
  | none => return ()
  | some channel =>
    match channel.shown record with
    | .hidden => return ()
    | .line line => showOn channel line
    | .unfit => tellUnlogged

/-- A computation outside the world that logs. -/
def ofLogged {α : Type} (run : Traced LogRecord Fault α) : Action α := do
  forEach log run.trace
  ofExcept run.result

end Action

end SyntaxGraph
