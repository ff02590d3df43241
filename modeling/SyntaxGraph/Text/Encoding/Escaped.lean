import SyntaxGraph.Text.Encoding.Unicode
import SyntaxGraph.Text.Name

/-!
# Escapes

Texts in which a backslash begins an escape for a character. Everything else stands for the
character with the code of its byte.
-/
namespace SyntaxGraph.Text

def hexDigit? (byte : UInt8) : Option Nat :=
  if 48 ≤ byte && byte ≤ 57 then some (byte.toNat - 48)
  else if 97 ≤ byte && byte ≤ 102 then some (byte.toNat - 87)
  else if 65 ≤ byte && byte ≤ 70 then some (byte.toNat - 55)
  else none

def hexNumber (digits : List UInt8) : Nat :=
  digits.foldl (fun total byte => total * 16 + (hexDigit? byte).getD 0) 0

/-- Reads so many hexadecimal digits after a backslash and a letter. There is a reason to refuse too
few digits and one to refuse a code that is not in use. -/
def readHexEscape (count : Nat) (tooFew tooLarge : String) (digits : List UInt8) :
    Reading Unit CodePoint :=
  let found := (digits.take count).takeWhile fun byte => (hexDigit? byte).isSome
  if found.length < count then .bad (2 + found.length) tooFew
  else
    let code := hexNumber found
    if 0x110000 ≤ code then .bad (2 + count) tooLarge else .one (.ofNat code) (2 + count)

def shortEscape : String := "truncated \\uXXXX escape"

def shortLongEscape : String := "truncated \\UXXXXXXXX escape"

/-- The code point of a byte that stands for the character with its code. -/
def byteCode (byte : UInt8) : CodePoint :=
  .char (Char.ofNat byte.toNat)

def readRawEscaped (bytes : List UInt8) : Reading Unit CodePoint :=
  let tooLarge := "\\Uxxxxxxxx out of range"
  match bytes with
  | 92 :: 117 :: digits => readHexEscape 4 shortEscape tooLarge digits
  | 92 :: 85 :: digits => readHexEscape 8 shortLongEscape tooLarge digits
  | 92 :: byte :: _ => .chars [.char '\\', byteCode byte] 2 ()
  | byte :: _ => .one (byteCode byte) 1
  | [] => .bad 1 "unexpected end of data"

/-- The characters of the letters that stand for one. -/
def letterEscapes : List (UInt8 × Nat) :=
  [(92, 92), (39, 39), (34, 34), (98, 8), (102, 12), (116, 9), (110, 10), (114, 13), (118, 11),
    (97, 7)]

/-- Reads the name of a character in curly brackets after a backslash and a capital `N`. -/
def readNamed (rest : List UInt8) : Reading Unit CodePoint :=
  let malformed := "malformed \\N character escape"
  match rest with
  | 123 :: inner =>
    let name := inner.takeWhile (· ≠ 125)
    -- The name has to be closed.
    if name.isEmpty || name.length = inner.length then .bad (3 + name.length) malformed
    else
      match charNamed? (name.map fun byte => Char.ofNat byte.toNat) with
      | some c => .one (.char c) (4 + name.length)
      | none => .bad (4 + name.length) "unknown Unicode character name"
  | _ => .bad 2 malformed

def readEscaped (bytes : List UInt8) : Reading Unit CodePoint :=
  let tooLarge := "illegal Unicode character"
  match bytes with
  | [92] => .bad 1 "\\ at end of string"
  -- The end of a line behind a backslash is passed over.
  | 92 :: 10 :: _ => .chars [] 2 ()
  | 92 :: 120 :: digits => readHexEscape 2 "truncated \\xXX escape" tooLarge digits
  | 92 :: 117 :: digits => readHexEscape 4 shortEscape tooLarge digits
  | 92 :: 85 :: digits => readHexEscape 8 shortLongEscape tooLarge digits
  | 92 :: 78 :: rest => readNamed rest
  | 92 :: byte :: rest =>
    match letterEscapes.lookup byte with
    | some code => .one (.ofNat code) 2
    | none =>
      let digits := ((byte :: rest).take 3).takeWhile fun byte => 48 ≤ byte && byte ≤ 55
      -- What is no escape stays as it is, with its backslash.
      if digits.isEmpty then .chars [.char '\\', byteCode byte] 2 ()
      else
        .one (.ofNat (digits.foldl (fun total byte => total * 8 + (byte.toNat - 48)) 0))
          (1 + digits.length)
  | byte :: _ => .one (byteCode byte) 1
  | [] => .bad 1 "unexpected end of data"

end SyntaxGraph.Text
