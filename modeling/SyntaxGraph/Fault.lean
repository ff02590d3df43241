import SyntaxGraph.Files.Gzip
import SyntaxGraph.Json.Draft
import SyntaxGraph.Json.Parser
import SyntaxGraph.Report
import SyntaxGraph.Text.Decoder

/-!
# Faults

Everything that an operation can fail with: a report of this library, or a fault of what it was
given to work on.
-/
namespace SyntaxGraph

inductive FileFault
  | notFound
  | alreadyExists
  | notADirectory
  | isADirectory
  | tooManyLinks
  /-- A name or a whole path is longer than it may be. -/
  | tooLong
  /-- A path holds a character that no path may hold. -/
  | nulCharacter
  /-- A path holds half a pair. -/
  | unencodable
deriving DecidableEq

def FileFault.text : FileFault → String
  | .notFound => "[Errno 2] No such file or directory"
  | .alreadyExists => "[Errno 17] File exists"
  | .notADirectory => "[Errno 20] Not a directory"
  | .isADirectory => "[Errno 21] Is a directory"
  | .tooManyLinks => "[Errno 40] Too many levels of symbolic links"
  | .tooLong => "[Errno 36] File name too long"
  | .nulCharacter => "embedded null byte"
  | .unencodable => "surrogates not allowed"

/-- Whether the file system was asked and refused; some paths are not even passed on to it. -/
def FileFault.isRefusal (fault : FileFault) : Bool :=
  fault ≠ .nulCharacter && fault ≠ .unencodable

/-- Why an operation failed. -/
inductive Fault
  | report (report : Report)
  | missingKey
  /-- A value has the right form and makes no sense. -/
  | badValue
  | wrongForm
  /-- Something lacks a part that it is asked for. -/
  | missingPart
  /-- A position lies outside what it points into. -/
  | outOfRange
  /-- Bytes are no text in their encoding. -/
  | undecodable (fault : Text.DecodeFault)
  | unencodable
  /-- A text is cut through a character. -/
  | brokenText
  /-- Bytes do not begin with the mark that would tell their order. -/
  | unmarked
  | unknownEncoding
  /-- A file holds no JSON, for a reason. -/
  | badJson (reason : String)
  | tooDeep
  | packing (problem : Gzip.Problem)
  | namelessVariable
  | noSettings (path : String)
  | file (fault : FileFault) (path : String)
  | unknownRow
  | duplicateKind (kind : String)
  | notInSource (target before after : String)
  | cannotCompile
deriving DecidableEq

namespace Fault

/-- The fault in words, where it has words of its own. -/
def text? : Fault → Option String
  | .report r => some r.message
  | .undecodable fault => some fault.text
  | .badJson reason => some reason
  | .packing problem => problem.text?
  | .noSettings path => some s!"Configuration file not found: {path}"
  | .file fault path =>
    some (if fault.isRefusal then s!"{fault.text}: {Text.quoted path}" else fault.text)
  | .duplicateKind kind => some s!"Duplicate schema for kind {kind}"
  | .notInSource target before after =>
    some s!"Source does not contain '{target}' (prefix '{before}', followed by '{after}')"
  | .cannotCompile => some "Subclasses must implement compile"
  | .missingKey | .badValue | .wrongForm | .missingPart | .outOfRange | .unencodable | .brokenText
  | .unmarked | .unknownEncoding | .tooDeep | .namelessVariable | .unknownRow => none

def text (fault : Fault) : String := fault.text?.getD ""

def isReport : Fault → Bool
  | .report _ => true
  | _ => false

/-- Whether a file could not be used as asked: the file system refused, or the file is not packed
as it should be. -/
def isFileFault : Fault → Bool
  | .file fault _ => fault.isRefusal
  | .packing problem => problem.text?.isSome
  | _ => false

def ofRefusal (text : List Char) (refusal : Json.Refusal) : Fault :=
  match refusal with
  | .malformed _ _ => .badJson ((refusal.text? text).getD "")
  | .hugeNumber => .badValue
  | .tooDeep => .tooDeep

/-- The fault of a document that could not be written to its end. -/
def ofSnag : Option Json.Snag → Except Fault Unit
  | none => .ok ()
  | some .hugeNumber => .error .badValue
  | some .tooDeep => .error .tooDeep

def ofTextFault : Text.TextFault → Fault
  | .undecodable fault => .undecodable fault
  | .unmarked => .unmarked

end Fault

end SyntaxGraph
