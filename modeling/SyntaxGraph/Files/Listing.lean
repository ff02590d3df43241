import SyntaxGraph.Files.System

/-!
# Listings

Everything in a directory, at any depth, with the way to it.
-/
namespace SyntaxGraph

namespace Entry

mutual

/-- Everything under an entry, with the way to it; a directory stands before what is in it, and
links are not followed. -/
def under (way : List String) : Entry → List (List String × Entry)
  | .dir entries => underAll way entries
  | .file _ | .link _ => []

def underAll (way : List String) : List (String × Entry) → List (List String × Entry)
  | [] => []
  | (name, entry) :: rest =>
    (way ++ [name], entry) :: under (way ++ [name]) entry ++ underAll way rest

end

end Entry

namespace FileSystem

/-- Everything under the directory that relative paths start from, with the way to it. -/
def underHere (fs : FileSystem) : List (List String × Entry) :=
  ((fs.root.at? fs.here).map (Entry.under [])).getD []

/-- A path in a listing: one that leads to a directory ends with a slash. -/
def listed (fs : FileSystem) (path : Path) : Except Fault String :=
  match fs.probe path with
  | .error fault => .error (.file fault path.text)
  | .ok entry? => .ok (if entry?.any (·.isDir) then path.text ++ "/" else path.text)

def listing (fs : FileSystem) : Except Fault (List String) := do
  let texts ← fs.underHere.mapM fun (way, _) => fs.listed { parts := way }
  return texts.mergeSort fun a b => decide (a ≤ b)

end FileSystem

end SyntaxGraph
