import SyntaxGraph.Text.Utf8

/-!
# Unicode encodings

Characters in units of one, two or four bytes, and the seven-bit encodings that spell characters
beyond ASCII with ASCII characters.
-/
namespace SyntaxGraph.Text

/-- The order of bytes in a unit of several. -/
inductive ByteOrder
  | little
  | big
deriving DecidableEq

def unit16 (order : ByteOrder) (a b : UInt8) : Nat :=
  match order with
  | .little => a.toNat + 256 * b.toNat
  | .big => 256 * a.toNat + b.toNat

def unit32 (order : ByteOrder) (a b c d : UInt8) : Nat :=
  match order with
  | .little => unit16 .little a b + 65536 * unit16 .little c d
  | .big => 65536 * unit16 .big a b + unit16 .big c d

def readUtf16 (order : ByteOrder) (bytes : List UInt8) : Reading Unit :=
  match bytes with
  | a :: b :: rest =>
    let unit := unit16 order a b
    if isHighHalf unit then
      match rest with
      | c :: d :: _ =>
        let next := unit16 order c d
        if isLowHalf next then .one (joinHalves unit next) 4
        else .bad 2 "illegal UTF-16 surrogate"
      | rest => .bad (2 + rest.length) "unexpected end of data"
    else if isLowHalf unit then .bad 2 "illegal encoding"
    else .one (Char.ofNat unit) 2
  | _ => .bad 1 "truncated data"

def readUtf32 (order : ByteOrder) (bytes : List UInt8) : Reading Unit :=
  match bytes with
  | a :: b :: c :: d :: _ =>
    let unit := unit32 order a b c d
    if 0x110000 ≤ unit then .bad 4 "code point not in range(0x110000)"
    else if isHighHalf unit || isLowHalf unit then
      .bad 4 "code point in surrogate code point range(0xd800, 0xe000)"
    else .one (Char.ofNat unit) 4
  | bytes => .bad bytes.length "truncated data"

def order16? : List UInt8 → Option ByteOrder
  | 0xFF :: 0xFE :: _ => some .little
  | 0xFE :: 0xFF :: _ => some .big
  | _ => none

def order32? : List UInt8 → Option ByteOrder
  | 0xFF :: 0xFE :: 0 :: 0 :: _ => some .little
  | 0 :: 0 :: 0xFE :: 0xFF :: _ => some .big
  | _ => none

/-! ### Seven bits -/

def digit64? (byte : UInt8) : Option Nat :=
  if 65 ≤ byte && byte ≤ 90 then some (byte.toNat - 65)
  else if 97 ≤ byte && byte ≤ 122 then some (byte.toNat - 71)
  else if 48 ≤ byte && byte ≤ 57 then some (byte.toNat + 4)
  else if byte = 43 then some 62
  else if byte = 47 then some 63
  else none

/-- What digits in base 64 spell so far: the units, the last one first, the bits that are left over,
and their number. -/
structure DigitRun where
  units : List Nat := []
  bits : Nat := 0
  count : Nat := 0

def DigitRun.push (run : DigitRun) (digit : Nat) : DigitRun :=
  let bits := run.bits * 64 + digit
  let count := run.count + 6
  if 16 ≤ count then
    let scale := Nat.pow 2 (count - 16)
    { units := bits / scale :: run.units, bits := bits % scale, count := count - 16 }
  else { run with bits, count }

/-- Reads what digits spell after a plus sign. A minus sign after them belongs to them. -/
def readDigits7 (rest : List UInt8) : Reading Unit CodePoint :=
  let digits := rest.takeWhile fun byte => (digit64? byte).isSome
  let run := (digits.filterMap digit64?).foldl DigitRun.push {}
  let units := run.units.reverse
  let openPair := (run.units.head?.map isHighHalf).getD false
  let width := 1 + digits.length
  match rest.drop digits.length with
  | [] =>
    if openPair || 6 ≤ run.count || run.bits ≠ 0 then .bad width "unterminated shift sequence"
    else .chars (joinUnits units) width ()
  | byte :: _ =>
    if 6 ≤ run.count then .bad (width + 1) "partial character in shift sequence"
    else if run.bits ≠ 0 then .bad (width + 1) "non-zero padding bits in shift sequence"
    else
      -- The first half of a pair is lost before a byte that stands for nothing.
      let units := if openPair && 0x80 ≤ byte then units.dropLast else units
      .chars (joinUnits units) (if byte = 45 then width + 1 else width) ()

def readUtf7 (bytes : List UInt8) : Reading Unit CodePoint :=
  match bytes with
  | [] => .bad 1 unexpectedEnd
  | byte :: rest =>
    if byte = 43 then
      match rest with
      -- A plus sign before a minus sign stands for itself.
      | 45 :: _ => .one (.char '+') 2
      | next :: _ =>
        if (digit64? next).isNone then .bad 2 "ill-formed sequence" else readDigits7 rest
      | [] => .chars [] 1 ()
    else if byte < 0x80 then .one (.ofNat byte.toNat) 1
    else .bad 1 "unexpected special character"

end SyntaxGraph.Text
