import SyntaxGraph.Files.Deflate
import SyntaxGraph.Text.Quoted

/-!
# Containers for compressed bytes

A file of compressed bytes is a sequence of containers. Each has a header, a deflated stream, and
behind it the check sum and the length of what was packed. Zeros may follow a container.
-/
namespace SyntaxGraph.Gzip

def blockSize : Nat := 65535

/-- One step of the division that gives the check sum. -/
def checkStep (sum : UInt32) : UInt32 :=
  if sum % 2 = 1 then (sum >>> 1) ^^^ 0xEDB88320 else sum >>> 1

def checkByte (sum : UInt32) (byte : UInt8) : UInt32 :=
  (List.range 8).foldl (fun sum _ => checkStep sum) (sum ^^^ byte.toUInt32)

def checkSum (bytes : List UInt8) : UInt32 :=
  bytes.foldl checkByte 0xFFFFFFFF ^^^ 0xFFFFFFFF

def twoBytes (n : Nat) : List UInt8 := [n.toUInt8, (n / 256).toUInt8]

def fourBytes (n : Nat) : List UInt8 := twoBytes n ++ twoBytes (n / 65536)

def magic : List UInt8 := [0x1F, 0x8B]

/-- The header of a container that tells nothing but its method. -/
def header : List UInt8 := magic ++ [8, 0, 0, 0, 0, 0, 0, 255]

def block (isLast : Bool) (bytes : List UInt8) : List UInt8 :=
  -- The bytes are stored as they are, behind their number and its complement.
  (if isLast then 1 else 0) :: twoBytes bytes.length ++ twoBytes (65535 - bytes.length) ++ bytes

def blocks : Nat → List UInt8 → List UInt8
  | 0, _ => []
  | fuel + 1, bytes =>
    if bytes.length ≤ blockSize then block true bytes
    else block false (bytes.take blockSize) ++ blocks fuel (bytes.drop blockSize)

/-- Packs bytes into a container; they are stored as they are. -/
def pack (bytes : List UInt8) : List UInt8 :=
  header ++ blocks (bytes.length + 1) bytes ++ fourBytes (checkSum bytes).toNat ++
    fourBytes bytes.length

/-! ### Unpacking -/

/-- Why a file cannot be unpacked. -/
inductive Problem
  | truncated
  | corrupt
  /-- No container begins where one should. -/
  | noContainer (found : List UInt8)
  | unknownMethod
  /-- The check sum tells of other bytes. -/
  | wrongSum (told computed : Nat)
  /-- The length tells of other bytes. -/
  | wrongLength
deriving DecidableEq

def hexText (n : Nat) : String :=
  "0x" ++ String.ofList (Nat.toDigits 16 n)

/-- The problem in words, for the problems that are told as such. -/
def Problem.text? : Problem → Option String
  | .truncated | .corrupt => none
  | .noContainer found => some s!"Not a gzipped file ({Text.quotedBytes found})"
  | .unknownMethod => some "Unknown compression method"
  | .wrongSum told computed => some s!"CRC check failed {hexText told} != {hexText computed}"
  | .wrongLength => some "Incorrect length of data produced"

def takeBytes (count : Nat) (bytes : List UInt8) : Except Problem (List UInt8 × List UInt8) :=
  let taken := bytes.take count
  if taken.length = count then .ok (taken, bytes.drop count) else .error .truncated

def littleNumber : List UInt8 → Nat
  | [] => 0
  | byte :: rest => byte.toNat + 256 * littleNumber rest

def dropText (bytes : List UInt8) : List UInt8 :=
  (bytes.dropWhile (· ≠ 0)).drop 1

/-- What follows the optional parts of a header, as its flags tell. -/
def dropOptional (flags : Nat) (bytes : List UInt8) : Except Problem (List UInt8) := do
  let bytes ←
    -- Extra fields, behind their length.
    if flags.testBit 2 then do
      let (size, rest) ← takeBytes 2 bytes
      let (_, rest) ← takeBytes (littleNumber size) rest
      pure rest
    else pure bytes
  -- The name of the file, and a comment.
  let bytes := if flags.testBit 3 then dropText bytes else bytes
  let bytes := if flags.testBit 4 then dropText bytes else bytes
  -- A check sum of the header, which is not checked.
  if flags.testBit 1 then do
    let (_, rest) ← takeBytes 2 bytes
    return rest
  else return bytes

def dropHeader (bytes : List UInt8) : Except Problem (List UInt8) := do
  if bytes.take 2 ≠ magic then .error (.noContainer (bytes.take 2))
  else
    let (fields, bytes) ← takeBytes 8 (bytes.drop 2)
    if fields.getD 0 0 ≠ 8 then .error .unknownMethod
    else dropOptional (fields.getD 1 0).toNat bytes

def unpackOne (bytes : List UInt8) : Except Problem (List UInt8 × List UInt8) := do
  let stream ← dropHeader bytes
  match Deflate.inflate stream with
  | .error .truncated => .error .truncated
  | .error .corrupt => .error .corrupt
  | .ok (content, rest) =>
    let (trailer, rest) ← takeBytes 8 rest
    let told := littleNumber (trailer.take 4)
    let computed := (checkSum content).toNat
    if told ≠ computed then .error (.wrongSum told computed)
    -- The length is told up to a multiple of the greatest number in four bytes.
    else if littleNumber (trailer.drop 4) ≠ content.length % 4294967296 then .error .wrongLength
    -- Zeros may fill the space up to the next container.
    else return (content, rest.dropWhile (· = 0))

/-- The bytes in containers, at most as many as there is fuel. -/
def unpackAll : Nat → List UInt8 → Except Problem (List UInt8)
  | 0, _ | _, [] => .ok []
  | fuel + 1, bytes => do
    let (content, rest) ← unpackOne bytes
    let others ← unpackAll fuel rest
    return content ++ others

def unpack (bytes : List UInt8) : Except Problem (List UInt8) :=
  unpackAll bytes.length bytes

end SyntaxGraph.Gzip
