import SyntaxGraph.Text.Decoder
import SyntaxGraph.Text.Encoding.Escaped
import SyntaxGraph.Text.Encoding.Mail
import SyntaxGraph.Text.HostName

/-!
# Encodings of texts

The encodings in which files may be written, and how each reads bytes.
-/
namespace SyntaxGraph.Text

/-- An encoding in which characters are single bytes or short sequences of bytes. -/
inductive PairEncoding
  | gb2312
  | gbk
  | gb18030
  | big5
  | windowsBig5
  | hongKong
  | eucKr
  | windowsKorean
  | johab
  | eucJp
  | shiftJis
  | windowsJapanese
  | eucJis (edition : JisEdition)
  | shiftedJis (edition : JisEdition)
deriving DecidableEq

/-- An encoding with escape sequences. -/
inductive MailEncoding
  | japanese
  | japanese1
  | japanese2
  | japaneseExtended
  | japanese0213 (edition : JisEdition)
  | korean
deriving DecidableEq

/-- An encoding. The wide ones are in a given byte order, or in the one that a mark at their
beginning tells. -/
inductive Encoding
  | ascii
  | latin1
  /-- The last bytes stand for the characters of a page. -/
  | page (name : String)
  | utf7
  | utf8
  | utf8WithMark
  | utf16 (order : Option ByteOrder)
  | utf32 (order : Option ByteOrder)
  | escaped
  | rawEscaped
  | pairs (encoding : PairEncoding)
  | hz
  | mail (encoding : MailEncoding)
  | punycode
  /-- The names of hosts, in which labels may be spelled in Punycode. -/
  | hostName
  /-- An encoding in which nothing can be read. -/
  | unusable
deriving DecidableEq

namespace PairEncoding

def name : PairEncoding → String
  | .gb2312 => "gb2312"
  | .gbk => "gbk"
  | .gb18030 => "gb18030"
  | .big5 => "big5"
  | .windowsBig5 => "cp950"
  | .hongKong => "big5hkscs"
  | .eucKr => "euc_kr"
  | .windowsKorean => "cp949"
  | .johab => "johab"
  | .eucJp => "euc_jp"
  | .shiftJis => "shift_jis"
  | .windowsJapanese => "cp932"
  | .eucJis .first => "euc_jisx0213"
  | .eucJis .second => "euc_jis_2004"
  | .shiftedJis .first => "shift_jisx0213"
  | .shiftedJis .second => "shift_jis_2004"

def read : PairEncoding → List UInt8 → Reading Unit
  | .gb2312 => readAsciiOrPair gb2312Char?
  | .gbk => readAsciiOrPair gbkChar?
  | .gb18030 => readGb18030
  | .big5 => readAsciiOrPair big5Char?
  | .windowsBig5 => readAsciiOrPair windowsBig5Char?
  | .hongKong => readHongKong
  | .eucKr => readEucKr
  | .windowsKorean => readAsciiOrPair windowsKoreanChar?
  | .johab => readAsciiOrPair johabChar?
  | .eucJp => readEucJp
  | .shiftJis => readShifted jis0208Cells 0xEA shiftedSingle?
  | .windowsJapanese => readShifted windowsJapaneseCells 0xFC windowsSingle?
  | .eucJis edition => readEucJis edition
  | .shiftedJis edition => readShiftedJis edition

end PairEncoding

namespace MailEncoding

def name : MailEncoding → String
  | .japanese => "iso2022_jp"
  | .japanese1 => "iso2022_jp_1"
  | .japanese2 => "iso2022_jp_2"
  | .japaneseExtended => "iso2022_jp_ext"
  | .japanese0213 .first => "iso2022_jp_3"
  | .japanese0213 .second => "iso2022_jp_2004"
  | .korean => "iso2022_kr"

def scheme : MailEncoding → Scheme
  | .japanese => { sets := [.jis0208, .roman] }
  | .japanese1 => { sets := [.jis0208, .jis0212, .roman] }
  | .japanese2 =>
    { sets := [.jis0208, .jis0212, .ksx1001, .gb2312, .roman, .latin1, .greek], third := true }
  | .japaneseExtended => { sets := [.jis0208, .jis0212, .roman, .narrow] }
  | .japanese0213 edition =>
    { sets := [.jis0208, .jis0213 edition, .jis0213Second], oldEdition := false }
  | .korean => { sets := [.ksx1001], shifts := true, revised := false }

end MailEncoding

def readAscii : List UInt8 → Reading Unit
  | byte :: _ =>
    if byte < 0x80 then .one (Char.ofNat byte.toNat) 1 else .bad 1 "ordinal not in range(128)"
  | [] => .bad 1 unexpectedEnd

/-- Reads a byte that stands for the character with its code. -/
def readLatin : List UInt8 → Reading Unit
  | byte :: _ => .one (Char.ofNat byte.toNat) 1
  | [] => .bad 1 unexpectedEnd

def readPage (chars : Array Char) : List UInt8 → Reading Unit
  | byte :: _ =>
    if byte.toNat + chars.size < 256 then .one (Char.ofNat byte.toNat) 1
    else
      let c := chars.getD (byte.toNat + chars.size - 256) (Char.ofNat 0xFFFE)
      if c = Char.ofNat 0xFFFE then .bad 1 "character maps to <undefined>" else .one c 1
  | [] => .bad 1 unexpectedEnd

namespace Encoding

open Decoder

def plain16 (order : ByteOrder) : List UInt8 → Except TextFault (List Char) :=
  plain (if order = .little then "utf-16-le" else "utf-16-be") (readUtf16 order)

def plain32 (order : ByteOrder) : List UInt8 → Except TextFault (List Char) :=
  plain (if order = .little then "utf-32-le" else "utf-32-be") (readUtf32 order)

/-- Reads units of several bytes behind a mark that tells their order. -/
def marked (order? : Option ByteOrder)
    (read : ByteOrder → List UInt8 → Except TextFault (List Char)) (bytes : List UInt8) :
    Except TextFault (List Char) :=
  match order? with
  | some order => (read order bytes).map (·.drop 1)
  | none =>
    -- The order cannot be told, but other faults come first.
    match read .little bytes with
    | .ok [] => .ok []
    | .ok _ => .error .unmarked
    | .error fault => .error fault

def plainAscii : List UInt8 → Except TextFault (List Char) := plain "ascii" readAscii

def decodePunycode (bytes : List UInt8) : Except TextFault (List CodePoint) := do
  let numbers := (bytes.reverse.takeWhile (· ≠ 45)).reverse
  -- What stands before the last minus sign are ASCII characters.
  let basic ← plainAscii (bytes.take (bytes.length - numbers.length - 1))
  let numbers ← plainAscii numbers
  match Punycode.decode? basic numbers with
  | some text => return text
  | none => .error .unmarked

def decodeHostName (bytes : List UInt8) : Except TextFault (List Char) := do
  match HostName.read? (← plainAscii bytes) with
  | some name => return name
  | none => .error .unmarked

/-- Reads bytes with a decoder that keeps a state, under the name of an encoding. -/
def stateful {σ : Type} (name : String) (step : σ → List UInt8 → Reading σ) (start : σ)
    (bytes : List UInt8) : Except TextFault (List Char) :=
  match readAll step bytes.length start [] bytes with
  | .ok (chars, _) => .ok chars
  | .error halt => .error (.undecodable (.ofHalt name bytes halt))

/-- Reads UTF-8 behind a mark. -/
def decodeMarkedUtf8 (bytes : List UInt8) : Except TextFault (List Char) :=
  match bytes with
  -- Half a mark is nothing.
  | [0xEF] | [0xEF, 0xBB] => .ok []
  | 0xEF :: 0xBB :: 0xBF :: rest => plain "utf-8" readUtf8 rest
  | bytes => plain "utf-8" readUtf8 bytes

def decode (encoding : Encoding) (bytes : List UInt8) : Except TextFault (List CodePoint) :=
  match encoding with
  | .ascii => asCodes (plainAscii bytes)
  | .latin1 => asCodes (plain "latin-1" readLatin bytes)
  | .page name => asCodes (plain "charmap" (readPage (pageOf name).toArray) bytes)
  | .utf7 => plain "utf7" readUtf7 bytes
  | .utf8 => Decoder.utf8 bytes
  | .utf8WithMark => asCodes (decodeMarkedUtf8 bytes)
  | .utf16 (some order) => asCodes (plain16 order bytes)
  | .utf16 none => asCodes (marked (order16? bytes) plain16 bytes)
  | .utf32 (some order) => asCodes (plain32 order bytes)
  | .utf32 none => asCodes (marked (order32? bytes) plain32 bytes)
  | .escaped => plain "unicodeescape" readEscaped bytes
  | .rawEscaped => plain "rawunicodeescape" readRawEscaped bytes
  | .pairs encoding => asCodes (plain encoding.name encoding.read bytes)
  | .hz => asCodes (stateful "hz" readHz false bytes)
  | .mail encoding => asCodes (stateful encoding.name (readMail encoding.scheme) {} bytes)
  | .punycode => decodePunycode bytes
  | .hostName => asCodes (decodeHostName bytes)
  | .unusable => .error .unmarked

end Encoding

end SyntaxGraph.Text
