import SyntaxGraph.Extraction.File
import SyntaxGraph.Extraction.Ignore

/-!
# The search for sources

All files below a directory that end like sources, are not ignored and are not too large. Of each
directory the files come first, then the directories in it, both in the order of their names;
directories behind links are not entered, and those that may not be listed are passed over.
-/
namespace SyntaxGraph

inductive Finding
  | source (path : Path)
  | tooLarge (path : Path)
deriving DecidableEq

structure Search where
  files : FileSystem
  root : Path
  endings : List String
  ignored : Json
  maxSize : Json
  mayRead : List String → Bool := fun _ => true

/-- An entry of a directory as the search sees it: a file, or a directory with what lies below. -/
inductive Visit
  | file (findings : Logged (List Finding))
  | dir (findings : Logged (List Finding))

def textMember? : Json → Except Fault (Option String)
  | .str text => .ok (some text)
  | .arr _ | .obj _ | .brokenObj _ => .error .wrongForm
  | .null | .bool _ | .int _ | .real _ | .broken _ => .ok none

/-- The file endings among the keys of a table or the items of a list. -/
def endingsOf (value : Json) : Except Fault (List String) :=
  match value.members? with
  | some members => do
    let texts ← members.mapM textMember?
    return texts.filterMap id
  | none => .error .wrongForm

def joinFindings : List (Logged (List Finding)) → Logged (List Finding)
  | [] => pure []
  | first :: rest => do
    let found ← first
    let others ← joinFindings rest
    return found ++ others

namespace Search

def logger : String := "astfeatures.engine"

/-- Weighs a file that ends like a source and is not ignored. -/
def weigh (s : Search) (path : Path) : Logged (List Finding) :=
  match s.files.get path with
  | .error fault => do
    let reason := (Fault.file fault path.text).text
    Traced.emit (.ofText .warning logger s!"Error accessing file {path.text}: {reason}")
    return []
  | .ok entry => do
    let size := (entry.bytes?.map List.length).getD 0
    let tooLarge ← Traced.ofExcept (exceeds size s.maxSize)
    if tooLarge then do
      let shown := kilobytes size
      Traced.emit (.ofText .debug logger s!"Skipping large file: {path.text} ({shown})")
      return [.tooLarge path]
    else return [.source path]

def consider (s : Search) (path : Path) : Logged (List Finding) :=
  if s.endings.contains (Text.lower path.suffix) then do
    let ignored ← Traced.ofExcept (path.isIgnored s.root s.ignored)
    if ignored then return [] else s.weigh path
  else return []

/-- The findings in a directory that is entered unless it is ignored. -/
def enter (s : Search) (path : Path) (findings : Logged (List Finding)) :
    Logged (List Finding) := do
  let ignored ← Traced.ofExcept (path.isIgnored s.root s.ignored)
  if ignored then return [] else findings

def inOrder (visits : List (String × Visit)) : List (String × Visit) :=
  visits.mergeSort fun a b => decide (a.1 ≤ b.1)

def filesOf (visits : List (String × Visit)) : List (String × Logged (List Finding)) :=
  visits.filterMap fun
    | (name, .file run) => some (name, run)
    | (_, .dir _) => none

def dirsOf (visits : List (String × Visit)) : List (String × Logged (List Finding)) :=
  visits.filterMap fun
    | (_, .file _) => none
    | (name, .dir run) => some (name, run)

/-- The findings in a directory, from the visits to its entries in their order. -/
def gather (s : Search) (path : Path) (visits : List (String × Visit)) :
    Logged (List Finding) := do
  let dirs := dirsOf visits
  -- Whether its directories can be checked is asked before its files are looked at.
  let _ ← Traced.ofExcept
    (dirs.mapM fun (name, _) => (path.child name).isIgnored s.root s.ignored)
  let here ← joinFindings ((filesOf visits).map (·.2))
  let below ← joinFindings (dirs.map fun (name, findings) => s.enter (path.child name) findings)
  return here ++ below

def arrange (s : Search) (path : Path) (visits : List (String × Visit)) : Logged (List Finding) :=
  s.gather path (inOrder visits)

/-- Whether the names in a directory can be listed. -/
def lists (s : Search) (path : Path) : Bool :=
  s.files.isDir path && s.files.permits s.mayRead path

mutual

/-- Visits an entry at a path. -/
def visit (s : Search) (path : Path) : Entry → Visit
  | .file _ => .file (s.consider path)
  -- Directories behind links are not entered.
  | .link _ => if s.files.isDir path then .dir (pure []) else .file (s.consider path)
  | .dir entries =>
    -- A directory that cannot be listed, for its path or for want of the right, is passed over.
    .dir (if s.lists path then s.arrange path (visitAll s path entries) else pure [])

def visitAll (s : Search) (path : Path) : List (String × Entry) → List (String × Visit)
  | [] => []
  | (name, entry) :: rest => (name, visit s (path.child name) entry) :: visitAll s path rest

end

/-- What is found below the root, if that is a directory. -/
def findings (s : Search) : Logged (List Finding) :=
  match (s.files.get? s.root).map (s.visit s.root) with
  | some (.dir run) => run
  | _ => pure []

end Search

end SyntaxGraph
