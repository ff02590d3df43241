import SyntaxGraph.Text.Encoding.Reading

/-!
# UTF-8

Characters as bytes and back. Reading accepts exactly what writing produces: no overlong forms and
no surrogates.
-/
namespace SyntaxGraph.Text

def utf8Bytes (c : Char) : List UInt8 :=
  let n := c.toNat
  if n < 0x80 then [n.toUInt8]
  else if n < 0x800 then [(0xC0 + n / 0x40).toUInt8, (0x80 + n % 0x40).toUInt8]
  else if n < 0x10000 then
    [(0xE0 + n / 0x1000).toUInt8, (0x80 + n / 0x40 % 0x40).toUInt8, (0x80 + n % 0x40).toUInt8]
  else
    [(0xF0 + n / 0x40000).toUInt8, (0x80 + n / 0x1000 % 0x40).toUInt8,
      (0x80 + n / 0x40 % 0x40).toUInt8, (0x80 + n % 0x40).toUInt8]

def encodeChars (chars : List Char) : List UInt8 := chars.flatMap utf8Bytes

def encodeUtf8 (text : String) : List UInt8 := encodeChars text.toList

def isContinuation (byte : UInt8) : Bool := 0x80 ≤ byte && byte ≤ 0xBF

/-- Whether a byte may follow the first byte of a character of three or four bytes. -/
def mayFollow (first second : UInt8) : Bool :=
  isContinuation second &&
    -- This leaves out overlong forms, surrogates, and codes that are too large.
    (if first = 0xE0 then 0xA0 ≤ second
    else if first = 0xED then second < 0xA0
    else if first = 0xF0 then 0x90 ≤ second
    else if first = 0xF4 then second < 0x90
    else true)

def unexpectedEnd : String := "unexpected end of data"

def badContinuation : String := "invalid continuation byte"

def readUtf8 (bytes : List UInt8) : Reading Unit :=
  match bytes with
  | [] => .bad 1 unexpectedEnd
  | a :: rest =>
    if a < 0x80 then .one (Char.ofNat a.toNat) 1
    else if a < 0xC2 || 0xF5 ≤ a then .bad 1 "invalid start byte"
    else
      match rest with
      | [] => .bad 1 unexpectedEnd
      | b :: rest =>
        if a < 0xE0 then
          if isContinuation b then
            .one (Char.ofNat ((a.toNat - 0xC0) * 0x40 + (b.toNat - 0x80))) 2
          else .bad 1 badContinuation
        else if !mayFollow a b then .bad 1 badContinuation
        else
          match rest with
          | [] => .bad 2 unexpectedEnd
          | c :: rest =>
            if !isContinuation c then .bad 2 badContinuation
            else if a < 0xF0 then
              .one (Char.ofNat ((a.toNat - 0xE0) * 0x1000 + (b.toNat - 0x80) * 0x40 +
                (c.toNat - 0x80))) 3
            else
              match rest with
              | [] => .bad 3 unexpectedEnd
              | d :: _ =>
                if !isContinuation d then .bad 3 badContinuation
                else
                  .one (Char.ofNat ((a.toNat - 0xF0) * 0x40000 + (b.toNat - 0x80) * 0x1000 +
                    (c.toNat - 0x80) * 0x40 + (d.toNat - 0x80))) 4

def decodeUtf8 (bytes : List UInt8) : Except DecodeFault (List Char) :=
  (readPlain readUtf8 bytes).mapError (.ofHalt "utf-8" bytes)

def replacement : Char := Char.ofNat 0xFFFD

/-- Reads all bytes, at most as many steps as there is fuel, whether they make sense or not. -/
def readLossy : Nat → List UInt8 → List Char
  | 0, _ | _, [] => []
  | fuel + 1, bytes =>
    match readUtf8 bytes with
    | .chars chars width _ => chars ++ readLossy fuel (bytes.drop width)
    | .bad width _ => replacement :: readLossy fuel (bytes.drop width)

def decodeLossy (bytes : List UInt8) : List Char := readLossy bytes.length bytes

end SyntaxGraph.Text
