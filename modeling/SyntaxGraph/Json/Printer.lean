import SyntaxGraph.Json.Basic

/-!
# Writing JSON

Two layouts: everything on one line, or one item a line with an indentation. All text outside
printable ASCII is written as escapes of its UTF-16 units.
-/
namespace SyntaxGraph.Json

/-- How the parts of arrays and objects are set apart. -/
inductive Layout
  | compact
  | indented (width : Nat)
deriving DecidableEq

namespace Layout

/-- What stands after an opening and before a closing bracket. -/
def gap : Layout → Nat → List Char
  | .compact, _ => []
  | .indented width, depth => '\n' :: List.replicate (width * depth) ' '

/-- What stands between two items. -/
def comma : Layout → Nat → List Char
  | .compact, _ => [',', ' ']
  | .indented width, depth => ',' :: gap (.indented width) depth

end Layout

def hexDigit (value : Nat) : Char :=
  if value < 10 then Char.ofNat (48 + value) else Char.ofNat (87 + value)

def unitEscape (unit : Nat) : List Char :=
  ['\\', 'u', hexDigit (unit / 4096 % 16), hexDigit (unit / 256 % 16), hexDigit (unit / 16 % 16),
    hexDigit (unit % 16)]

def escapeUnits (c : Char) : List Char :=
  if c.toNat < 65536 then unitEscape c.toNat
  else
    -- A character beyond the first plane is written as two halves of a pair.
    unitEscape (55296 + (c.toNat - 65536) / 1024) ++
      unitEscape (56320 + (c.toNat - 65536) % 1024)

def escapeChar (c : Char) : List Char :=
  if c = '"' then ['\\', '"']
  else if c = '\\' then ['\\', '\\']
  else if c = '\n' then ['\\', 'n']
  else if c = '\r' then ['\\', 'r']
  else if c = '\t' then ['\\', 't']
  else if c.toNat = 8 then ['\\', 'b']
  else if c.toNat = 12 then ['\\', 'f']
  else if 32 ≤ c.toNat ∧ c.toNat < 127 then [c]
  else escapeUnits c

def escapeCode : Text.CodePoint → List Char
  | .char c => escapeChar c
  | .half unit => unitEscape unit

def quoted (codes : List Text.CodePoint) : List Char :=
  '"' :: codes.flatMap escapeCode ++ ['"']

def quotedText (text : String) : List Char :=
  quoted (Text.codePoints text)

def scalarText : Json → List Char
  | .null => ['n', 'u', 'l', 'l']
  | .bool true => ['t', 'r', 'u', 'e']
  | .bool false => ['f', 'a', 'l', 's', 'e']
  | .int value => (toString value).toList
  | .real value => value.text.toList
  | .str value => quotedText value
  | .broken codes => quoted codes
  | .arr _ | .obj _ | .brokenObj _ => []

mutual

/-- Writes a value at a nesting depth in front of a text. -/
def write (layout : Layout) (depth : Nat) (value : Json) (after : List Char) : List Char :=
  match value with
  | .arr [] => '[' :: ']' :: after
  | .arr items => writeItems layout (depth + 1) ('[' :: layout.gap (depth + 1)) items
      (layout.gap depth ++ ']' :: after)
  | .obj [] | .brokenObj [] => '\x7b' :: '\x7d' :: after
  | .obj fields => writeFields layout (depth + 1) ('\x7b' :: layout.gap (depth + 1)) fields
      (layout.gap depth ++ '\x7d' :: after)
  | .brokenObj fields => writeBroken layout (depth + 1) ('\x7b' :: layout.gap (depth + 1)) fields
      (layout.gap depth ++ '\x7d' :: after)
  | .null => scalarText .null ++ after
  | .bool value => scalarText (.bool value) ++ after
  | .int value => scalarText (.int value) ++ after
  | .real value => scalarText (.real value) ++ after
  | .str value => scalarText (.str value) ++ after
  | .broken codes => scalarText (.broken codes) ++ after

/-- Writes the items of an array in front of a text, the first one behind `before`. -/
def writeItems (layout : Layout) (depth : Nat) (before : List Char) (items : List Json)
    (after : List Char) : List Char :=
  match items with
  | [] => after
  | item :: rest =>
    -- Only the first item stands behind the bracket; the others stand behind commas.
    before ++ write layout depth item (writeItems layout depth (layout.comma depth) rest after)

def writeFields (layout : Layout) (depth : Nat) (before : List Char)
    (fields : List (String × Json)) (after : List Char) : List Char :=
  match fields with
  | [] => after
  | (key, value) :: rest =>
    before ++ quotedText key ++ ':' :: ' ' ::
      write layout depth value (writeFields layout depth (layout.comma depth) rest after)

def writeBroken (layout : Layout) (depth : Nat) (before : List Char)
    (fields : List (List Text.CodePoint × Json)) (after : List Char) : List Char :=
  match fields with
  | [] => after
  | (key, value) :: rest =>
    before ++ quoted key ++ ':' :: ' ' ::
      write layout depth value (writeBroken layout depth (layout.comma depth) rest after)

end

def render (layout : Layout) (value : Json) : String :=
  String.ofList (write layout 0 value [])

end SyntaxGraph.Json
