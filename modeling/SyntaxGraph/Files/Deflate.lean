/-!
# Unpacking deflated bytes

A deflated stream is a sequence of blocks of bits. A block holds bytes as they are, or symbols in a
prefix code: bytes, references to bytes before them, and the end of the block.
-/
namespace SyntaxGraph.Deflate

inductive Problem
  | truncated
  | corrupt
deriving DecidableEq

/-- The bits of bytes, the low ones of each byte first. -/
def bitsOf (bytes : List UInt8) : List Bool :=
  bytes.flatMap fun byte => (List.range 8).map byte.toNat.testBit

/-- The number that bits spell, the low ones first. -/
def numberOf : List Bool → Nat
  | [] => 0
  | bit :: rest => (if bit then 1 else 0) + 2 * numberOf rest

def takeNumber (count : Nat) (bits : List Bool) : Except Problem (Nat × List Bool) :=
  let taken := bits.take count
  if taken.length = count then .ok (numberOf taken, bits.drop count) else .error .truncated

/-- The bits from the next whole byte on. -/
def align (bits : List Bool) : List Bool :=
  -- The stream ends with a whole byte, so the bits before the next one are counted from the end.
  bits.drop (bits.length % 8)

def bytesOf : Nat → List Bool → List UInt8
  | 0, _ => []
  | fuel + 1, bits =>
    if (bits.take 8).length = 8 then
      (numberOf (bits.take 8)).toUInt8 :: bytesOf fuel (bits.drop 8)
    else []

/-! ### Prefix codes -/

/-- A prefix code, as a tree whose branches are bits. -/
inductive CodeTree
  | missing
  | symbol (value : Nat)
  | fork (zero one : CodeTree)

namespace CodeTree

def insert (value : Nat) : List Bool → CodeTree → CodeTree
  | [], _ => .symbol value
  | bit :: code, .fork zero one =>
    if bit then .fork zero (insert value code one) else .fork (insert value code zero) one
  | bit :: code, _ =>
    if bit then .fork .missing (insert value code .missing)
    else .fork (insert value code .missing) .missing

def read : CodeTree → List Bool → Except Problem (Nat × List Bool)
  | .missing, _ => .error .corrupt
  | .symbol value, bits => .ok (value, bits)
  | .fork _ _, [] => .error .truncated
  | .fork zero one, bit :: rest => if bit then read one rest else read zero rest

end CodeTree

def maxLength : Nat := 15

def symbolsOfLength (lengths : List Nat) (length : Nat) : List Nat :=
  (lengths.zipIdx.filter fun entry => entry.1 = length).map (·.2)

def codeBits (length code : Nat) : List Bool :=
  (List.range length).reverse.map code.testBit

/-- Gives codes to the symbols of the given lengths, shorter codes first; `code` is the first free
code of the next length. -/
def assignCodes (lengths : List Nat) (tree : CodeTree) (code : Nat) : List Nat → CodeTree
  | [] => tree
  | length :: longer =>
    let symbols := symbolsOfLength lengths length
    let tree := symbols.zipIdx.foldl
      (fun tree (symbol, place) => tree.insert symbol (codeBits length (code + place))) tree
    -- The codes of the next length begin behind the last one of this length, with a bit more.
    assignCodes lengths tree (2 * (code + symbols.length)) longer

def codeLengths : List Nat := (List.range maxLength).map (· + 1)

/-- How many codes of the greatest length are left free; negative if there are too few. -/
def room (lengths : List Nat) : Int :=
  codeLengths.foldl (fun left length => 2 * left - ((lengths.count length : Nat) : Int)) 1

/-- The code in which symbols have the given lengths; symbols of length zero have none. Codes are
used up, except that there may be one of length one, if `mayBeShort`, or none at all. A code
without symbols has `empty` behind each bit. -/
def codeOfLengths (mayBeShort : Bool) (empty : CodeTree) (lengths : List Nat) :
    Except Problem CodeTree :=
  let free := room lengths
  let longest := lengths.foldl max 0
  if longest = 0 then .ok (.fork empty empty)
  else if free < 0 then .error .corrupt
  -- Some codes are left over, which is only fine for a single one.
  else if 0 < free && !(mayBeShort && longest = 1) then .error .corrupt
  else .ok (assignCodes lengths .missing 0 codeLengths)

/-! ### Blocks -/

/-- The least length that each length symbol stands for, and how many bits are added to it. -/
def lengthTable : List (Nat × Nat) :=
  [(3, 0), (4, 0), (5, 0), (6, 0), (7, 0), (8, 0), (9, 0), (10, 0), (11, 1), (13, 1), (15, 1),
    (17, 1), (19, 2), (23, 2), (27, 2), (31, 2), (35, 3), (43, 3), (51, 3), (59, 3), (67, 4),
    (83, 4), (99, 4), (115, 4), (131, 5), (163, 5), (195, 5), (227, 5), (258, 0)]

/-- The least distance that each distance symbol stands for, and how many bits are added to it. -/
def distanceTable : List (Nat × Nat) :=
  [(1, 0), (2, 0), (3, 0), (4, 0), (5, 1), (7, 1), (9, 2), (13, 2), (17, 3), (25, 3), (33, 4),
    (49, 4), (65, 5), (97, 5), (129, 6), (193, 6), (257, 7), (385, 7), (513, 8), (769, 8),
    (1025, 9), (1537, 9), (2049, 10), (3073, 10), (4097, 11), (6145, 11), (8193, 12), (12289, 12),
    (16385, 13), (24577, 13)]

def takeEntry (table : List (Nat × Nat)) (index : Nat) (bits : List Bool) :
    Except Problem (Nat × List Bool) :=
  match table.drop index with
  | [] => .error .corrupt
  | (least, extra) :: _ => (takeNumber extra bits).map fun (more, rest) => (least + more, rest)

def copyBack (distance : Nat) : Nat → Array UInt8 → Array UInt8
  | 0, out => out
  | count + 1, out => copyBack distance count (out.push (out.getD (out.size - distance) 0))

def readSymbols (literals distances : CodeTree) :
    Nat → Array UInt8 → List Bool → Except Problem (Array UInt8 × List Bool)
  -- Each symbol takes a bit at least, so there is fuel for all of them.
  | 0, _, _ => .error .truncated
  | fuel + 1, out, bits => do
    let (symbol, bits) ← literals.read bits
    if symbol < 256 then readSymbols literals distances fuel (out.push symbol.toUInt8) bits
    else if symbol = 256 then return (out, bits)
    else
      let (length, bits) ← takeEntry lengthTable (symbol - 257) bits
      let (entry, bits) ← distances.read bits
      let (distance, bits) ← takeEntry distanceTable entry bits
      -- Nothing stands that far back.
      if out.size < distance then .error .corrupt
      else readSymbols literals distances fuel (copyBack distance length out) bits

/-- The lengths of the codes of literals where a block brings none. -/
def fixedLiterals : List Nat :=
  List.replicate 144 8 ++ List.replicate 112 9 ++ List.replicate 24 7 ++ List.replicate 8 8

def fixedDistances : List Nat := List.replicate 32 5

/-- The order in which a block tells the lengths of the codes for lengths. -/
def lengthOrder : List Nat :=
  [16, 17, 18, 0, 8, 7, 9, 6, 10, 5, 11, 4, 12, 3, 13, 2, 14, 1, 15]

def takeTriples : Nat → List Bool → Except Problem (List Nat × List Bool)
  | 0, bits => .ok ([], bits)
  | count + 1, bits => do
    let (first, bits) ← takeNumber 3 bits
    let (rest, bits) ← takeTriples count bits
    return (first :: rest, bits)

/-- Reads lengths until there are `total`; `known` holds those read before, the last one first. -/
def readLengths (code : CodeTree) (total : Nat) :
    Nat → List Nat → List Bool → Except Problem (List Nat × List Bool)
  | 0, _, _ => .error .truncated
  | fuel + 1, known, bits =>
    if total ≤ known.length then .ok (known.reverse, bits)
    else do
      let (symbol, bits) ← code.read bits
      if symbol < 16 then readLengths code total fuel (symbol :: known) bits
      else
        let (least, extra) :=
          if symbol = 16 then (3, 2) else if symbol = 17 then (3, 3) else (11, 7)
        let (more, bits) ← takeNumber extra bits
        -- One symbol repeats the length before, the other two repeat zeros.
        match (if symbol = 16 then known.head? else some 0) with
        | none => .error .corrupt
        | some length =>
          if total < known.length + least + more then .error .corrupt
          else readLengths code total fuel (List.replicate (least + more) length ++ known) bits

def readCodes (bits : List Bool) : Except Problem (CodeTree × CodeTree × List Bool) := do
  let (sizes, bits) ← takeNumber 14 bits
  let literalCount := sizes % 32 + 257
  let distanceCount := sizes / 32 % 32 + 1
  if 286 < literalCount || 30 < distanceCount then .error .corrupt
  else
    let (triples, bits) ← takeTriples (sizes / 1024 + 4) bits
    let told := lengthOrder.zip triples
    let code ← codeOfLengths false (.symbol 0)
      ((List.range 19).map fun symbol => (told.lookup symbol).getD 0)
    let total := literalCount + distanceCount
    let (lengths, bits) ← readLengths code total (total + 1) [] bits
    -- Without a symbol for its end a block would never end.
    if lengths.getD 256 0 = 0 then .error .corrupt
    else
      let literals ← codeOfLengths true .missing (lengths.take literalCount)
      let distances ← codeOfLengths true .missing (lengths.drop literalCount)
      return (literals, distances, bits)

def readStored (out : Array UInt8) (bits : List Bool) :
    Except Problem (Array UInt8 × List Bool) := do
  let (sizes, bits) ← takeNumber 32 (align bits)
  let size := sizes % 65536
  -- The size is followed by its complement.
  if size + sizes / 65536 ≠ 65535 then .error .corrupt
  else
    let taken := bits.take (8 * size)
    if taken.length < 8 * size then .error .truncated
    else return (out ++ (bytesOf size taken).toArray, bits.drop (8 * size))

/-- Reads blocks up to the last one, at most as many as there is fuel. -/
def readBlocks : Nat → Array UInt8 → List Bool → Except Problem (Array UInt8 × List Bool)
  | 0, _, _ => .error .truncated
  | fuel + 1, out, bits => do
    let (head, bits) ← takeNumber 3 bits
    let symbolFuel := bits.length + 1
    let (out, bits) ←
      match head / 2 with
      | 0 => readStored out bits
      | 1 => do
        let literals ← codeOfLengths true .missing fixedLiterals
        let distances ← codeOfLengths true .missing fixedDistances
        readSymbols literals distances symbolFuel out bits
      | 2 => do
        let (literals, distances, bits) ← readCodes bits
        readSymbols literals distances symbolFuel out bits
      | _ => .error .corrupt
    -- The first bit tells whether the block is the last one.
    if head % 2 = 1 then return (out, bits) else readBlocks fuel out bits

def inflate (bytes : List UInt8) : Except Problem (List UInt8 × List UInt8) := do
  let (out, bits) ← readBlocks (bytes.length + 1) #[] (bitsOf bytes)
  return (out.toList, bytesOf bytes.length (align bits))

end SyntaxGraph.Deflate
