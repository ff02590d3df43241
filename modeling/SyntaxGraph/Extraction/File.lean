import SyntaxGraph.Extraction
import SyntaxGraph.Files.Validation
import SyntaxGraph.Graph.Storage

/-!
# Extraction of graphs from files
-/
namespace SyntaxGraph

/-- A number of bytes in units of 1024, with one place. -/
def kilobytes (size : Nat) : String :=
  let tenths := Json.Real.roundDiv (size * 10) 1024
  s!"{tenths / 10}.{tenths % 10} KB"

def exceeds (size : Nat) (limit : Json) : Except Fault Bool :=
  match limit.lt? (.int size) with
  | some answer => .ok answer
  | none => .error .wrongForm

def pathReport (path : Path) (text : String) (details : List (String × Json) := []) : Fault :=
  .report (.ofFamily .frontend text (.obj (("path", .str path.text) :: details)))

/-- The fault about a source that cannot be read, where it is reported as such; other faults stay
as they are. -/
def unreadableSource (path : Path) (fault : Fault) : Fault :=
  let report := pathReport path s!"Failed to read {path.text}: {fault.text}"
  match fault with
  | .undecodable _ => report
  | fault => if fault.isFileFault then report else fault

def decodeSource (decoder : Text.Decoder) (bytes : List UInt8) : Except Fault Json := do
  let codes ← (decoder bytes).mapError .ofTextFault
  return .ofCodePoints (Text.unifyLineEnds (.char '\r') (.char '\n') codes)

namespace Extractor

/-- The decoder that a setting names; without a name it is that of UTF-8. -/
def decoderFor (x : Extractor) : Json → Except Fault Text.Decoder
  | .null => .ok .utf8
  | .broken _ => .error .unencodable
  | .str name =>
    -- A null character is refused before the name is looked up.
    if name.toList.contains (Char.ofNat 0) then .error .badValue
    else
      match x.decoder? name with
      | some decoder => .ok decoder
      | none => .error .unknownEncoding
  | _ => .error .wrongForm

/-- The string in the bytes of a source file, unless they are too many. -/
def textOf (x : Extractor) (path : Path) (bytes : List UInt8) : Except Fault Json := do
  let size := bytes.length
  let settings ← x.settings.source
  -- The size is checked before the encoding.
  let tooLarge ← exceeds size settings.maxFileSize
  if tooLarge then
    let shown := kilobytes size
    .error (pathReport path s!"File too large: {path.text} ({shown})" [("size", .int size)])
  else do
    let decoder ← x.decoderFor settings.encoding
    (decodeSource decoder bytes).mapError (unreadableSource path)

def textIn (x : Extractor) (fs : FileSystem) (path : Path) : Except Fault Json := do
  match ← fs.fileProblem x.mayRead path.text with
  | some problem => .error (pathReport path (problem.message path.text))
  | none => do
    let bytes ← (fs.read path).mapError (.file · path.text)
    x.textOf path bytes

def readSource (x : Extractor) (path : Path) : Action Json := do
  let fs ← Action.files
  Action.ofExcept (x.textIn fs path)

def store (x : Extractor) (g : Graph) (output : Path) : Action Unit := do
  let settings ← Action.ofExcept x.settings.storage
  -- A setting that is false leaves the choice to the ending of the path.
  let _ ← g.save output (if settings.compression.isTruthy then settings.compression else .null)
  return ()

/-- The graph of a source file, which is stored if an output path is given. -/
def extractFile (x : Extractor) (path : Path) (output : Option Path := none) : Action Graph := do
  let source ← x.readSource path
  let g ← Action.ofLogged (x.extractText source (.str path.text))
  match output with
  | none => return g
  | some output => do
    x.store g output
    return g

end Extractor

end SyntaxGraph
