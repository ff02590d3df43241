import SyntaxGraph.Text.Quoted

/-!
# Reading characters from bytes

A decoder looks at the bytes from a place on and takes some of them for characters, or says how many
of them make no sense and why.
-/
namespace SyntaxGraph.Text

/-- What a decoder makes of the bytes at a place. Most decoders find characters, some find code
points that may be halves of pairs. -/
inductive Reading (σ : Type) (α : Type := Char)
  /-- Characters, the number of bytes that they take up, and the state afterwards. -/
  | chars (chars : List α) (width : Nat) (state : σ)
  /-- So many bytes make no sense. -/
  | bad (width : Nat) (reason : String)

/-- Where a decoder stops: how many bytes are left, how many of these make no sense, and why. -/
structure Halt where
  left : Nat
  width : Nat
  reason : String
deriving DecidableEq

/-- Reads all bytes, at most as many steps as there is fuel; `known` holds the characters read
before, the last one first. -/
def readAll {σ α : Type} (step : σ → List UInt8 → Reading σ α) :
    Nat → σ → List α → List UInt8 → Except Halt (List α × σ)
  | 0, state, known, _ | _, state, known, [] => .ok (known.reverse, state)
  | fuel + 1, state, known, bytes =>
    match step state bytes with
    | .chars chars width next => readAll step fuel next (chars.reverse ++ known) (bytes.drop width)
    | .bad width reason => .error ⟨bytes.length, width, reason⟩

def readPlain {α : Type} (step : List UInt8 → Reading Unit α) (bytes : List UInt8) :
    Except Halt (List α) :=
  (readAll (fun _ bytes => step bytes) bytes.length () [] bytes).map (·.1)

def Reading.one {α : Type} (c : α) (width : Nat) : Reading Unit α :=
  .chars [c] width ()

/-- A character of so many bytes, if there is one; otherwise the first byte makes no sense. -/
def Reading.ofOption (c? : Option Char) (width : Nat) (reason : String) : Reading Unit :=
  match c? with
  | some c => .one c width
  | none => .bad 1 reason

structure DecodeFault where
  /-- The name under which the encoding complains. -/
  codec : String
  /-- The place of the first byte that makes no sense. -/
  start : Nat
  width : Nat
  byte : UInt8
  reason : String
deriving DecidableEq

namespace DecodeFault

def ofHalt (codec : String) (bytes : List UInt8) (halt : Halt) : DecodeFault :=
  let start := bytes.length - halt.left
  { codec, start, width := halt.width, byte := bytes.getD start 0, reason := halt.reason }

def text (fault : DecodeFault) : String :=
  let last := fault.start + fault.width - 1
  if fault.width = 1 then
    let code := String.ofList (hexCode 2 fault.byte.toNat)
    s!"'{fault.codec}' codec can't decode byte 0x{code} in position {fault.start}: {fault.reason}"
  else
    s!"'{fault.codec}' codec can't decode bytes in position {fault.start}-{last}: {fault.reason}"

end DecodeFault

end SyntaxGraph.Text
