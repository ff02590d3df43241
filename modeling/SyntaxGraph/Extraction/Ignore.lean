import SyntaxGraph.Fault
import SyntaxGraph.Path
import SyntaxGraph.Text.Glob

/-!
# Ignored paths

A path is ignored if a pattern stands for its name, for the way to it from a root, or for a part of
that way.
-/
namespace SyntaxGraph

def Path.relativeTo? (path root : Path) : Option Path :=
  if path.root = root.root && root.parts.isPrefixOf path.parts then
    some { parts := path.parts.drop root.parts.length }
  else none

def patternsOf (value : Json) : Except Fault (List Json) :=
  match value.members? with
  | some patterns => .ok patterns
  | none => .error .wrongForm

def Path.matchedBy (path relative : Path) (pattern : List Text.CodePoint) : Bool :=
  (path.name :: relative.text :: relative.parts).any (Text.globMatches pattern)

/-- Whether one of some patterns stands for a path; patterns are tried in their order, and what
cannot be one is refused. -/
def Path.matchedByAny (path relative : Path) : List Json → Except Fault Bool
  | [] => .ok false
  | .str pattern :: rest =>
    if path.matchedBy relative (Text.codePoints pattern) then .ok true
    else matchedByAny path relative rest
  -- What excludes half a pair stands for whatever is no such half.
  | .broken pattern :: rest =>
    if path.matchedBy relative pattern then .ok true else matchedByAny path relative rest
  | _ :: _ => .error .wrongForm

def Path.isIgnored (path root : Path) (patterns : Json) : Except Fault Bool :=
  match path.relativeTo? root with
  | none => .error .badValue
  | some relative => do
    let patterns ← patternsOf patterns
    path.matchedByAny relative patterns

end SyntaxGraph
