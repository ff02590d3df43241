import SyntaxGraph.Text.Entries

/-!
# Packed tables

The large tables of the encodings are kept as packed texts, on which no theorem rests. A packed text
is one long number in base 100, which is read bit by bit: how likely the next bit is to be set
divides the range of the number in two, and the number lies in one part of it. How likely that is,
is told by counters for what came before: the last bytes, the word so far, and what followed when
the same bytes were there before.
-/
namespace SyntaxGraph.Text

/-- A text of so many bytes, and the digits that it is read from. Newlines among them are for the
eye. -/
structure Packed where
  size : Nat
  digits : String

/-- The digits of packed texts that are below 89, in the order of their values. -/
def packedDigits : List Char :=
  ("0123456789ABCDEFGHIJKLMNOPQRSTUVWXYZabcdefghijklmnopqrstuvwxyz" ++
    "!$%&'()*+,./:;<=>?@[]^_`|~#").toList

/-- The values of digits. One from 89 on is written as one letter with the digit behind it. -/
def digitValues : List Char → List Nat
  | [] => []
  | c :: rest =>
    if c = '\n' then digitValues rest
    else if c.toNat < 128 then packedDigits.idxOf c :: digitValues rest
    else
      let pair := c.toNat - if c.toNat < 768 then 192 else 304
      (89 + pair / 100) :: pair % 100 :: digitValues rest

/-! ### The number -/

/-- What is left of a number: a value below a range, and the digits behind it. -/
structure Digits where
  range : Nat := 1
  value : Nat := 0
  rest : List Nat

namespace Digits

/-- Takes in a digit, if the range has become small. -/
def refill (d : Digits) : Digits :=
  if d.range < 16777216 then
    { range := d.range * 100
      value := d.value * 100 + d.rest.headD 0
      rest := d.rest.tail }
  else d

def ofString (digits : String) : Digits :=
  refill (refill (refill (refill { rest := digitValues digits.toList })))

/-- Reads a bit that is set in `chance` of 4096 cases. -/
def read (d : Digits) (chance : Nat) : Bool × Digits :=
  let bound := d.range * chance / 4096
  if d.value < bound then (true, refill (refill { d with range := bound }))
  else (false, refill (refill { d with range := d.range - bound, value := d.value - bound }))

end Digits

/-! ### Chances -/

/-- Chances in 4096 for log odds in steps of 128, from -2048 on. -/
def chanceGrid : Array Nat :=
  #[1, 2, 3, 6, 10, 16, 27, 45, 73, 120, 194, 310, 488, 747, 1101, 1546, 2047, 2549, 2994, 3348,
    3607, 3785, 3901, 3975, 4024, 4050, 4068, 4079, 4085, 4089, 4092, 4093, 4094]

def chanceOf (odds : Int) : Nat :=
  if odds > 2047 then 4095
  else if odds < -2047 then 1
  else
    let place := (odds + 2048).toNat
    (chanceGrid.getD (place / 128) 0 * (128 - place % 128) +
      chanceGrid.getD (place / 128 + 1) 0 * (place % 128) + 64) / 128

/-- The log odds for each chance: the least ones that give it. -/
def oddsTable : Array Int :=
  (List.range 4095).foldl (fun table (place : Nat) =>
    let odds : Int := place - 2047
    table ++ Array.replicate (chanceOf odds + 1 - table.size) odds) #[]

/-- A counter, told a bit. It is a chance in 65536, times 64, with the number of bits that it was
told, times 512, with the last eight of them behind a set one; it follows the first ones faster. -/
def countBit (bit : Bool) (counter : Nat) : Nat :=
  let chance := counter / 32768
  let told := counter / 512 % 64
  let last := counter % 512 * 2 + bit.toNat
  let next :=
    if bit then chance + (65535 - chance) * 2 / (2 * told + 3)
    else chance - chance * 2 / (2 * told + 3)
  next * 32768 + min (told + 1) 63 * 512 + if last < 512 then last else last % 256 + 256

/-- What bits are read with: the number, the counters, and how much weight each of the twenty
counters for a bit has. The weights stand in rows, of which some are added for a bit. -/
structure Odds where
  digits : Digits
  counters : Array Nat
  weights : Array Int

namespace Odds

/-- The counters for a bit: two for each key, one for the key itself and one for what the first
was told last. -/
def slots (counters : Array Nat) (bits : Nat) : List Nat → List Nat
  | [] => []
  | key :: rest =>
    let slot := 5120 + (key * 65537 + bits * 40503) % (counters.size - 5120)
    slot :: (key % 10 * 512 + counters.getD slot 0 % 512) :: slots counters bits rest

/-- The log odds that inputs give together, the first of which is the one at `place` of a row. -/
def sum (weights : Array Int) (rows : List Nat) : List Int → Nat → Int
  | [], _ => 0
  | input :: rest, place =>
    let weight := rows.foldl (fun total row => total + weights.getD (row * 20 + place) 0) 0
    weight * input + sum weights rows rest (place + 1)

def addAt (place : Nat) (change : Int) : List Nat → Array Int → Array Int
  | [], weights => weights
  | row :: rest, weights =>
    let weight := weights.getD (row * 20 + place) 0 + change
    addAt place change rest (weights.setIfInBounds (row * 20 + place) weight)

/-- Moves weights to where the inputs would have missed the bit by less. -/
def reweight (miss : Int) (rows : List Nat) : List Int → Nat → Array Int → Array Int
  | [], _, weights => weights
  | input :: rest, place, weights =>
    reweight miss rows rest (place + 1) (addAt place (input * miss / 9600) rows weights)

def count (bit : Bool) : List Nat → Array Nat → Array Nat
  | [], counters => counters
  | slot :: rest, counters =>
    let counter := countBit bit (counters.getD slot 0)
    count bit rest (counters.setIfInBounds slot counter)

/-- Reads a bit, given the keys and the rows for what came before and the bits of its byte, behind a
set one. -/
def readBit (keys rows : List Nat) (bits : Nat) : Odds → Nat × Odds
  | ⟨digits, counters, weights⟩ =>
    let slots := slots counters bits keys
    let inputs := slots.map fun slot => oddsTable.getD (counters.getD slot 0 / 524288) 2047
    let rows := bits :: rows
    let chance := chanceOf (sum weights rows inputs 0 / 65536)
    let (bit, digits) := digits.read chance
    let miss : Int := (if bit then 4096 else 0) - chance
    let weights := reweight miss rows inputs 0 weights
    (bits * 2 + bit.toNat, ⟨digits, count bit slots counters, weights⟩)

def readBits (keys rows : List Nat) : Nat → Nat → Odds → Nat × Odds
  | 0, bits, o => (bits, o)
  | count + 1, bits, o =>
    let (bits, o) := readBit keys rows bits o
    readBits keys rows count bits o

end Odds

/-! ### The text -/

/-- A text so far. `places` tells where the text stood behind four bytes, by their key; `place` is
where the bytes stood before that the last `matched` bytes are like. `sign` is the last byte that is
no letter. -/
structure Past where
  bytes : Array UInt8
  word : Nat := 0
  letters : Nat := 0
  sign : Nat := 0
  wordBefore : Nat := 0
  places : Array Nat
  place : Nat := 0
  matched : Nat := 0

def joinKey (key part : Nat) : Nat :=
  (key * 271 + part) % 1000003

namespace Past

def byteAt (p : Past) (place : Nat) : Nat :=
  (p.bytes.getD place 0).toNat

/-- The keys of the last bytes: of none, one, and so on up to four. -/
def tailKeys (p : Past) : List Nat :=
  (List.range 4).foldl (fun keys i =>
    let part := if i < p.bytes.size then p.byteAt (p.bytes.size - 1 - i) + 1 else 0
    keys ++ [joinKey (keys.getLastD 0) part]) [0]

def seek (p : Past) (key : Nat) : Past :=
  let place := if p.matched = 0 then p.places.getD key 0 else p.place
  { p with
    places := p.places.setIfInBounds key p.bytes.size
    place
    matched := if p.matched = 0 ∧ place ≠ 0 then 1 else p.matched }

/-- The keys of everything that tells about the next byte. -/
def keys (p : Past) (tails : List Nat) : List Nat :=
  let followed := if p.matched = 0 then 0 else p.byteAt p.place * 16 + min p.matched 15
  let size := p.bytes.size
  let parts := tails.take 4 ++ [p.word, joinKey p.word p.wordBefore, followed,
    joinKey followed (p.byteAt (size - 1)), p.byteAt (size - 2), p.byteAt (size - 4)]
  parts.zipIdx.map fun (key, i) => key * 10 + i

/-- The rows of weights for the next byte, behind those for the bits of a byte. -/
def rows (p : Past) : List Nat :=
  [256 + min p.matched 15 * 16 + min p.letters 15, 512 + p.sign]

def push (p : Past) (byte : UInt8) : Past :=
  let letter := 65 ≤ byte && byte ≤ 90
  let follows := p.matched ≠ 0 && p.byteAt p.place = byte.toNat
  { p with
    word := if letter then joinKey p.word (byte.toNat + 1) else 0
    letters := if letter then p.letters + 1 else 0
    sign := if letter then p.sign else byte.toNat
    wordBefore := if letter || p.word = 0 then p.wordBefore else p.word
    place := p.place + 1
    matched := if follows then p.matched + 1 else 0
    bytes := p.bytes.push byte }

end Past

def unpackBytes : Nat → Past → Odds → Array UInt8
  | 0, p, _ => p.bytes
  | count + 1, p, o =>
    let tails := p.tailKeys
    let p := p.seek (tails.getLastD 0)
    let (bits, o) := Odds.readBits (p.keys tails) p.rows 8 1 o
    unpackBytes count (p.push (Nat.toUInt8 bits)) o

def unpack (table : Packed) : String :=
  let bytes := unpackBytes table.size
    { bytes := #[], places := Array.replicate 1000003 0 }
    { digits := .ofString table.digits
      counters := Array.replicate (5120 + table.size * 32 + 1) (32768 * 32768 + 1)
      weights := Array.replicate 5120 6500 ++ Array.replicate 10240 0 }
  (String.fromUTF8? ⟨bytes⟩).getD ""

def unpackLines (table : Packed) : List (List Char) :=
  partsBetween '\n' (unpack table).toList

end SyntaxGraph.Text
