import SyntaxGraph.Text.Half
import SyntaxGraph.Text.Class

/-!
# Quoted text in messages

A text is shown in single quotes, or in double quotes when it holds a single quote and no double
one. Characters without a printed form are shown by their code.
-/
namespace SyntaxGraph.Text

/-- The last `width` hexadecimal digits of a number. -/
def hexCode (width value : Nat) : List Char :=
  (List.range width).map fun place =>
    let digit := value / Nat.pow 16 (width - 1 - place) % 16
    if digit < 10 then Char.ofNat (48 + digit) else Char.ofNat (87 + digit)

def codedChar (c : Char) : List Char :=
  if c.toNat < 256 then '\\' :: 'x' :: hexCode 2 c.toNat
  else if c.toNat < 65536 then '\\' :: 'u' :: hexCode 4 c.toNat
  else '\\' :: 'U' :: hexCode 8 c.toNat

def codedHalf (unit : Nat) : List Char :=
  '\\' :: 'u' :: hexCode 4 unit

/-- A text in which all characters beyond ASCII are shown by their code. -/
def inAscii (text : String) : String :=
  String.ofList (text.toList.flatMap fun c => if c.toNat < 128 then [c] else codedChar c)

/-- The text of code points in which halves of pairs are shown by their code. -/
def codedHalves (codes : List CodePoint) : String :=
  String.ofList (codes.flatMap fun
    | .char c => [c]
    | .half unit => codedHalf unit)

def quotedChar (quote : Char) (c : Char) : List Char :=
  if c = quote ∨ c = '\\' then ['\\', c]
  else if c = '\n' then ['\\', 'n']
  else if c = '\r' then ['\\', 'r']
  else if c = '\t' then ['\\', 't']
  else if isPrintable c then [c]
  else codedChar c

def quoted (text : String) : String :=
  let chars := text.toList
  -- Double quotes only save the escape of a single one.
  let quote := if chars.contains '\'' && !chars.contains '"' then '"' else '\''
  String.ofList (quote :: chars.flatMap (quotedChar quote) ++ [quote])

def quotedCodes (codes : List CodePoint) : String :=
  let chars := codes.filterMap CodePoint.char?
  let quote := if chars.contains '\'' && !chars.contains '"' then '"' else '\''
  String.ofList (quote :: codes.flatMap (fun
    | .char c => quotedChar quote c
    | .half unit => codedHalf unit) ++ [quote])

def quotedByte (quote : Char) (byte : UInt8) : List Char :=
  let c := Char.ofNat byte.toNat
  if c = quote ∨ c = '\\' then ['\\', c]
  else if c = '\n' then ['\\', 'n']
  else if c = '\r' then ['\\', 'r']
  else if c = '\t' then ['\\', 't']
  else if 32 ≤ byte && byte < 127 then [c]
  else '\\' :: 'x' :: hexCode 2 byte.toNat

def quotedBytes (bytes : List UInt8) : String :=
  let quote := if bytes.contains 39 && !bytes.contains 34 then '"' else '\''
  String.ofList ('b' :: quote :: bytes.flatMap (quotedByte quote) ++ [quote])

end SyntaxGraph.Text
