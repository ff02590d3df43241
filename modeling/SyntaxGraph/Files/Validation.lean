import SyntaxGraph.Files.System

/-!
# Paths of the right kind

What is wrong with a path that should lead to a file or to a directory, and to one that may be
read. Which places may be read is for the system to say: of a file the bytes, of a directory the
names in it.
-/
namespace SyntaxGraph

/-- What is wrong with a path. -/
inductive PathProblem
  | empty
  | missing
  | notAFile
  | notADirectory
  | notReadable
deriving DecidableEq

def PathProblem.message (problem : PathProblem) (path : String) : String :=
  match problem with
  | .empty => "Path cannot be empty"
  | .missing => s!"Path does not exist: {path}"
  | .notAFile => s!"Path is not a file: {path}"
  | .notADirectory => s!"Path is not a directory: {path}"
  | .notReadable => s!"Path is not readable: {path}"

namespace FileSystem

/-- Whether a path leads to a place that may be read. -/
def permits (fs : FileSystem) (mayRead : List String → Bool) (path : Path) : Bool :=
  match fs.resolve path with
  | .ok place => mayRead place
  | .error _ => false

def pathProblem (fs : FileSystem) (mayRead : List String → Bool) (path : String)
    (isRight : Entry → Bool) (wrong : PathProblem) : Except Fault (Option PathProblem) :=
  if path = "" then .ok (some .empty)
  else
    match fs.probe (.ofString path) with
    | .error fault => .error (.file fault path)
    | .ok none => .ok (some .missing)
    | .ok (some entry) =>
      -- What is there is looked at before the right to read it.
      .ok (if !isRight entry then some wrong
        else if fs.permits mayRead (.ofString path) then none
        else some .notReadable)

def fileProblem (fs : FileSystem) (mayRead : List String → Bool) (path : String) :
    Except Fault (Option PathProblem) :=
  fs.pathProblem mayRead path (·.bytes?.isSome) .notAFile

def directoryProblem (fs : FileSystem) (mayRead : List String → Bool) (path : String) :
    Except Fault (Option PathProblem) :=
  fs.pathProblem mayRead path (·.isDir) .notADirectory

end FileSystem

end SyntaxGraph
