/-!
# Paths

A path is a root and a list of parts. Empty parts and single dots are dropped when a path is read;
double dots stay, because only the file system knows where they lead.
-/
namespace SyntaxGraph

/-- A path. The root is empty for relative paths. -/
structure Path where
  root : String := ""
  parts : List String := []
deriving DecidableEq

def splitSlashes : List Char → List (List Char)
  | [] => [[]]
  | c :: rest =>
    if c = '/' then [] :: splitSlashes rest
    else
      match splitSlashes rest with
      | [] => [[c]]
      | piece :: pieces => (c :: piece) :: pieces

/-- The ending of a name, from its last dot on. -/
def suffixOf (name : String) : String :=
  let ending := name.toList.reverse.takeWhile (· ≠ '.')
  -- A dot at the front or at the back begins no ending.
  if ending.isEmpty || name.length ≤ ending.length + 1 then ""
  else String.ofList ('.' :: ending.reverse)

namespace Path

/-- The root that a text begins with; two slashes are a root of their own, more count as one. -/
def rootOf : List Char → String
  | '/' :: '/' :: '/' :: _ => "/"
  | '/' :: '/' :: _ => "//"
  | '/' :: _ => "/"
  | _ => ""

def ofString (text : String) : Path where
  root := rootOf text.toList
  parts := ((splitSlashes text.toList).map String.ofList).filter fun part =>
    part ≠ "" && part ≠ "."

def text (path : Path) : String :=
  -- The empty path is the directory itself.
  if path.root = "" && path.parts.isEmpty then "."
  else path.root ++ "/".intercalate path.parts

def name (path : Path) : String :=
  path.parts.getLastD ""

def suffix (path : Path) : String :=
  suffixOf path.name

def parent (path : Path) : Path :=
  { path with parts := path.parts.dropLast }

def join (base path : Path) : Path :=
  -- An absolute path does not care where it starts.
  if path.root = "" then { base with parts := base.parts ++ path.parts } else path

def child (path : Path) (name : String) : Path :=
  { path with parts := path.parts ++ [name] }

/-- Parts in which double dots are resolved against the part before them; `before` are the parts
read so far, the last one first. -/
def collapseParts (before : List String) : List String → List String
  | [] => before.reverse
  | part :: rest =>
    match before with
    | last :: earlier =>
      -- Double dots behind double dots cannot be resolved.
      if part = ".." && last ≠ ".." then collapseParts earlier rest
      else collapseParts (part :: before) rest
    | [] => collapseParts [part] rest

/-- The path in which double dots are resolved as it is written. -/
def collapsed (path : Path) : Path :=
  { path with parts := collapseParts [] path.parts }

def appendName (path : Path) (ending : String) : Path :=
  { path with parts := path.parts.dropLast ++ [path.name ++ ending] }

end Path

end SyntaxGraph
