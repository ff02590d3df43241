import SyntaxGraph.Fault
import SyntaxGraph.Path

/-!
# File systems

A file system is a tree of directories, files and symbolic links, together with the directory that
relative paths start from. A file stands in one place only, and every directory may be entered and
written to.
-/
namespace SyntaxGraph

inductive Entry
  | file (bytes : List UInt8)
  | link (target : String)
  | dir (entries : List (String × Entry))

namespace Entry

def isDir : Entry → Bool
  | .dir _ => true
  | _ => false

def bytes? : Entry → Option (List UInt8)
  | .file bytes => some bytes
  | _ => none

def entries : Entry → List (String × Entry)
  | .dir entries => entries
  | _ => []

/-- The entry that names lead to, without following links. -/
def at? (entry : Entry) : List String → Option Entry
  | [] => some entry
  | name :: rest => (entry.entries.lookup name).bind (at? · rest)

def putIn (name : String) (new : Entry) : List (String × Entry) → List (String × Entry)
  | [] => [(name, new)]
  | (n, old) :: rest => if n = name then (n, new) :: rest else (n, old) :: putIn name new rest

/-- Puts an entry where names lead to; directories that are missing on the way are made. -/
def putAt (new : Entry) : List String → Entry → Entry
  | [], _ => new
  | name :: rest, entry =>
    .dir (putIn name (putAt new rest ((entry.entries.lookup name).getD (.dir []))) entry.entries)

end Entry

structure FileSystem where
  root : Entry := .dir []
  here : List String := []

def maxLinks : Nat := 40

def maxNameBytes : Nat := 255

def maxPathBytes : Nat := 4095

def checkPathText (text : String) : Except FileFault Unit :=
  if text.toList.contains (Char.ofNat 0) then .error .nulCharacter
  else if maxPathBytes < text.utf8ByteSize then .error .tooLong
  else .ok ()

namespace FileSystem

/-- Follows the parts of a path through directories; at a link it goes on as `onLink` says. The
last part need not exist. A part `.` stays where it is, which has to be a directory. -/
def follow (root : Entry)
    (onLink : List String → String → List String → Except FileFault (List String))
    (here : List String) : List String → Except FileFault (List String)
  | [] => .ok here
  | name :: rest =>
    -- Above the root there is the root.
    if name = ".." then follow root onLink here.dropLast rest
    else if name = "." then follow root onLink here rest
    else if maxNameBytes < name.utf8ByteSize then .error .tooLong
    else
      match root.at? (here ++ [name]) with
      -- Only the last part of a path need not exist.
      | none => if rest.isEmpty then .ok (here ++ [name]) else .error .notFound
      | some (.link target) => onLink here target rest
      | some (.dir _) => follow root onLink (here ++ [name]) rest
      | some (.file _) => if rest.isEmpty then .ok (here ++ [name]) else .error .notADirectory

/-- The parts of a path as it is written. A slash or a dot at its end demands a directory. -/
def writtenParts (text : String) : List String :=
  (Path.ofString text).parts ++
    if text.endsWith "/" || text.endsWith "/." then ["."] else []

/-- Follows the parts of a path, through at most so many links. No file can be made through a link
whose target ends in a slash. -/
def followLinks (root : Entry) (making : Bool) : Nat → List String → List String →
    Except FileFault (List String)
  | 0 => follow root fun _ _ _ => .error .tooManyLinks
  | fuel + 1 => follow root fun here target rest =>
    let path := Path.ofString target
    -- A relative target starts where the link is.
    let start := if path.root = "" then here else []
    if making && rest.isEmpty && target.endsWith "/" then do
      -- The directory of the target is looked at first, so that its own faults come first.
      let _ ← followLinks root making fuel start (path.parts.dropLast ++ ["."])
      .error .isADirectory
    else
      followLinks root making fuel start (writtenParts target ++ rest)

def startOf (fs : FileSystem) (path : Path) : List String :=
  if path.root = "" then fs.here else []

/-- The place that a path leads to; there need not be anything there. -/
def resolve (fs : FileSystem) (path : Path) : Except FileFault (List String) := do
  checkPathText path.text
  followLinks fs.root false maxLinks (fs.startOf path) path.parts

/-- The place of the file that a path names for writing. -/
def resolveForWriting (fs : FileSystem) (path : Path) : Except FileFault (List String) := do
  checkPathText path.text
  followLinks fs.root true maxLinks (fs.startOf path) path.parts

def entryAt (fs : FileSystem) (place : List String) : Except FileFault Entry :=
  match fs.root.at? place with
  | some entry => .ok entry
  | none => .error .notFound

def get (fs : FileSystem) (path : Path) : Except FileFault Entry := do
  fs.entryAt (← fs.resolve path)

def getWritten (fs : FileSystem) (text : String) : Except FileFault Entry := do
  checkPathText text
  -- The empty text is no path here, though it leads to the current directory otherwise.
  if text = "" then .error .notFound
  else
    fs.entryAt (← followLinks fs.root false maxLinks (fs.startOf (.ofString text))
      (writtenParts text))

def probe (fs : FileSystem) (path : Path) : Except FileFault (Option Entry) :=
  match fs.get path with
  | .ok entry => .ok (some entry)
  -- Only a path that is too long is told apart from nothing.
  | .error .tooLong => .error .tooLong
  | .error _ => .ok none

def get? (fs : FileSystem) (path : Path) : Option Entry :=
  match fs.get path with
  | .ok entry => some entry
  | .error _ => none

def isDir (fs : FileSystem) (path : Path) : Bool :=
  (fs.get? path).any (·.isDir)

def read (fs : FileSystem) (path : Path) : Except FileFault (List UInt8) := do
  match ← fs.get path with
  | .file bytes => .ok bytes
  | _ => .error .isADirectory

/-- Writes a file; what it holds then is made from what it held before. -/
def writeWith (fs : FileSystem) (path : Path) (update : List UInt8 → List UInt8) :
    Except FileFault FileSystem := do
  let place ← fs.resolveForWriting path
  match fs.root.at? place with
  | some (.dir _) => .error .isADirectory
  | some (.file old) => .ok { fs with root := Entry.putAt (.file (update old)) place fs.root }
  -- Where nothing is, the file was empty before.
  | _ => .ok { fs with root := Entry.putAt (.file (update [])) place fs.root }

def write (fs : FileSystem) (path : Path) (bytes : List UInt8) : Except FileFault FileSystem :=
  fs.writeWith path fun _ => bytes

def append (fs : FileSystem) (path : Path) (bytes : List UInt8) : Except FileFault FileSystem :=
  fs.writeWith path (· ++ bytes)

def makeLink (fs : FileSystem) (path : Path) (target : String) : Except FileFault FileSystem := do
  checkPathText target
  checkPathText path.text
  if target = "" then .error .notFound
  else
    match path.parts.getLast? with
    -- The root and what lies above something exist.
    | none | some ".." => .error .alreadyExists
    | some name =>
      let parent ← fs.resolve path.parent
      match fs.root.at? parent with
      | none => .error .notFound
      | some (.dir entries) =>
        if maxNameBytes < name.utf8ByteSize then .error .tooLong
        else if (entries.lookup name).isSome then .error .alreadyExists
        else .ok { fs with root := Entry.putAt (.link target) (parent ++ [name]) fs.root }
      | some _ => .error .notADirectory

def makeDir (fs : FileSystem) (path : Path) : Except FileFault FileSystem := do
  checkPathText path.text
  match path.parts.getLast? with
  | none => .error .alreadyExists
  | some name =>
    if name = ".." then do
      -- What does not exist cannot be gone up from.
      let _ ← fs.get path
      .error .alreadyExists
    else
      let parent ← fs.resolve path.parent
      match fs.root.at? parent with
      | none => .error .notFound
      | some (.dir entries) =>
        if maxNameBytes < name.utf8ByteSize then .error .tooLong
        else if (entries.lookup name).isSome then .error .alreadyExists
        else .ok { fs with root := Entry.putAt (.dir []) (parent ++ [name]) fs.root }
      | some _ => .error .notADirectory

def ensureDir (fs : FileSystem) (path : Path) : Except Fault FileSystem :=
  match fs.makeDir path with
  | .ok fs => .ok fs
  -- A directory that is there already is as good as a new one.
  | .error e => if e ≠ .notFound && fs.isDir path then .ok fs else .error (.file e path.text)

/-- Makes the first so many directories on a path, outermost first. -/
def ensureDirs (fs : FileSystem) (path : Path) : Nat → Except Fault FileSystem
  | 0 => fs.ensureDir path
  | depth + 1 =>
    match fs.makeDir path with
    -- The directories around it are made only if they are missing.
    | .error .notFound => do
      let fs ← ensureDirs fs path.parent depth
      fs.ensureDir path
    | _ => fs.ensureDir path

def makeDirs (fs : FileSystem) (path : Path) : Except Fault FileSystem :=
  fs.ensureDirs path path.parts.length

end FileSystem

end SyntaxGraph
