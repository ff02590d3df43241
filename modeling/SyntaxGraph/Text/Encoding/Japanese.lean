import SyntaxGraph.Text.Encoding.JapaneseTable
import SyntaxGraph.Text.Encoding.Korean

/-!
# Japanese encodings

The rows of JIS X 0208 and JIS X 0212 are written in pairs of bytes, beside ASCII and the narrow
syllables. The encodings for mail switch between character sets by escape sequences.
-/
namespace SyntaxGraph.Text

def jis0208Cells : Array Char := cellsOf 8836 packedJis0208

def jis0212Cells : Array Char := cellsOf 8836 packedJis0212

/-- The cells of JIS X 0208 on Windows, which has 120 rows. -/
def windowsJapaneseCells : Array Char :=
  overwrite (cellsOf 11280 packedJis0208) packedWindowsJapanese

def narrowChar? (byte : Nat) : Option Char :=
  if 0xA1 ≤ byte && byte ≤ 0xDF then some (Char.ofNat (byte + 0xFEC0)) else none

/-- Reads a character in pairs of bytes from 0xA1 on; one byte announces narrow syllables and
another one JIS X 0212. -/
def readEucJp (bytes : List UInt8) : Reading Unit :=
  match bytes with
  | [0x8E] => .bad 1 incompleteSequence
  | 0x8E :: byte :: _ => .ofOption (narrowChar? byte.toNat) 2 illegalSequence
  | 0x8F :: lead :: trail :: _ =>
    .ofOption (squareCell? jis0212Cells lead.toNat trail.toNat) 3 illegalSequence
  | 0x8F :: rest => .bad (rest.length + 1) incompleteSequence
  | bytes => readAsciiOrPair (squareCell? jis0208Cells) bytes

def shiftedIndex? (lead trail : Nat) : Option Nat :=
  -- Each first byte stands for two rows.
  let row? :=
    if 0x81 ≤ lead && lead ≤ 0x9F then some (2 * (lead - 0x81))
    else if 0xE0 ≤ lead && lead ≤ 0xFC then some (2 * (lead - 0xC1))
    else none
  match row? with
  | none => none
  | some row =>
    if 0x40 ≤ trail && trail ≤ 0x7E then some (row * 94 + (trail - 0x40))
    else if 0x80 ≤ trail && trail ≤ 0x9E then some (row * 94 + (trail - 0x41))
    else if 0x9F ≤ trail && trail ≤ 0xFC then some ((row + 1) * 94 + (trail - 0x9F))
    else none

/-- Reads a character in shifted pairs of bytes, which leave room for single bytes; no pair begins
with a byte beyond `last`. -/
def readShifted (cells : Array Char) (last : UInt8) (single? : Nat → Option Char)
    (bytes : List UInt8) : Reading Unit :=
  match bytes with
  | byte :: _ =>
    match single? byte.toNat with
    | some c => .one c 1
    | none =>
      if byte = 0x80 || byte = 0xA0 || last < byte then .bad 1 illegalSequence
      else readPair (fun lead trail => (shiftedIndex? lead trail).bind (cell? cells)) bytes
  | [] => .bad 1 incompleteSequence

def shiftedSingle? (byte : Nat) : Option Char :=
  if byte < 0x80 then some (Char.ofNat byte) else narrowChar? byte

def windowsSingle? (byte : Nat) : Option Char :=
  if byte ≤ 0x80 then some (Char.ofNat byte)
  else if byte = 0xA0 then some (Char.ofNat 0xF8F0)
  else if 0xFD ≤ byte then some (Char.ofNat (byte - 0xFD + 0xF8F1))
  else narrowChar? byte

end SyntaxGraph.Text
