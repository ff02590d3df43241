import Mathlib.Algebra.Group.Nat.Defs
import SyntaxGraph.Files.Gzip

/-!
# Bytes that read back from their container

Bytes are packed as they are, in blocks of limited size. The general unpacker reads them bit by bit:
three bits tell the kind of a block, the other five of that byte are skipped, and the rest of the
stream consists of whole bytes again. Main statement: what was packed is unpacked; and a file that
does not begin like a container is refused as such.
-/
namespace SyntaxGraph

open Deflate List

namespace Deflate

/-! ### Bits of bytes -/

theorem numberOf_append (first second : List Bool) :
    numberOf (first ++ second) = numberOf first + 2 ^ first.length * numberOf second := by
  induction first with
  | nil => simp [numberOf]
  | cons bit rest ih =>
    rw [cons_append, numberOf, ih, numberOf, length_cons, Nat.pow_succ, Nat.mul_add,
      Nat.mul_comm (2 ^ rest.length) 2, Nat.mul_assoc, Nat.add_assoc]

/-- The bits of a number spell the number, as far as they go. -/
theorem numberOf_testBit (count n : Nat) :
    numberOf ((List.range count).map n.testBit) = n % 2 ^ count := by
  induction count generalizing n with
  | zero => simp [numberOf, Nat.mod_one]
  | succ count ih =>
    have shifted : (fun i => n.testBit (i + 1)) = (n / 2).testBit := by
      funext i
      exact Nat.testBit_succ n i
    have low : (if n.testBit 0 then 1 else 0) = n % 2 := by
      rcases Nat.mod_two_eq_zero_or_one n with zero | one <;> simp [*]
    rw [range_succ_eq_map, map_cons, map_map, numberOf, low]
    show n % 2 + 2 * numberOf ((List.range count).map fun i => n.testBit (i + 1)) = _
    rw [shifted, ih, Nat.pow_succ, Nat.mul_comm (2 ^ count), Nat.mod_mul]

def byteBits (byte : UInt8) : List Bool := (List.range 8).map byte.toNat.testBit

@[simp]
theorem length_byteBits (byte : UInt8) : (byteBits byte).length = 8 := by
  simp [byteBits]

theorem numberOf_byteBits (byte : UInt8) : numberOf (byteBits byte) = byte.toNat := by
  rw [byteBits, numberOf_testBit, Nat.mod_eq_of_lt byte.toNat_lt]

theorem bitsOf_cons (byte : UInt8) (rest : List UInt8) :
    bitsOf (byte :: rest) = byteBits byte ++ bitsOf rest := rfl

theorem bitsOf_append (first second : List UInt8) :
    bitsOf (first ++ second) = bitsOf first ++ bitsOf second :=
  flatMap_append ..

@[simp]
theorem length_bitsOf (bytes : List UInt8) : (bitsOf bytes).length = 8 * bytes.length := by
  induction bytes with
  | nil => rfl
  | cons byte rest ih =>
    rw [bitsOf_cons, length_append, length_byteBits, ih, length_cons]
    omega

/-- The bits of bytes spell the number that the bytes spell. -/
theorem numberOf_bitsOf (bytes : List UInt8) :
    numberOf (bitsOf bytes) = Gzip.littleNumber bytes := by
  induction bytes with
  | nil => rfl
  | cons byte rest ih =>
    rw [bitsOf_cons, numberOf_append, numberOf_byteBits, length_byteBits, ih]
    rfl

theorem takeNumber_append {count : Nat} {first : List Bool} (length : first.length = count)
    (rest : List Bool) : takeNumber count (first ++ rest) = .ok (numberOf first, rest) := by
  subst length
  simp [takeNumber]

theorem bytesOf_bitsOf {fuel : Nat} {bytes : List UInt8} (enough : bytes.length ≤ fuel) :
    bytesOf fuel (bitsOf bytes) = bytes := by
  induction bytes generalizing fuel with
  | nil => cases fuel <;> rfl
  | cons byte rest ih =>
    obtain ⟨fuel, rfl⟩ : ∃ left, fuel = left + 1 := ⟨fuel - 1, by simp at enough; omega⟩
    have first : (byteBits byte ++ bitsOf rest).take 8 = byteBits byte :=
      take_left' (length_byteBits byte)
    have others : (byteBits byte ++ bitsOf rest).drop 8 = bitsOf rest :=
      drop_left' (length_byteBits byte)
    rw [bitsOf_cons, bytesOf, first, others, numberOf_byteBits, ih (by simpa using enough)]
    simp [Nat.toUInt8]

/-- Less than a byte is skipped up to the next whole byte. -/
theorem align_append {few : List Bool} (short : few.length < 8) (bytes : List UInt8) :
    align (few ++ bitsOf bytes) = bitsOf bytes := by
  have count : (few ++ bitsOf bytes).length % 8 = few.length := by
    rw [length_append, length_bitsOf]
    omega
  rw [align, count, drop_left]

/-- A stored block is followed by others unless it is the last one. -/
theorem readBlocks_stored (fuel : Nat) {out next : Array UInt8} {bits left after : List Bool}
    {head : Nat} (kind : takeNumber 3 bits = .ok (head, left)) (isStored : head / 2 = 0)
    (read : readStored out left = .ok (next, after)) :
    readBlocks (fuel + 1) out bits =
      if head % 2 = 1 then .ok (next, after) else readBlocks fuel next after := by
  rw [readBlocks, kind]
  simp only [Bind.bind, Except.bind, isStored, read]
  rfl

end Deflate

namespace Gzip

/-! ### Numbers in bytes -/

theorem littleNumber_twoBytes (n : Nat) (rest : List UInt8) :
    littleNumber (twoBytes n ++ rest) = n % 65536 + 65536 * littleNumber rest := by
  simp only [twoBytes, cons_append, nil_append, littleNumber, Nat.toUInt8, UInt8.toNat_ofNat']
  omega

theorem littleNumber_fourBytes (n : Nat) : littleNumber (fourBytes n) = n % 4294967296 := by
  have second := littleNumber_twoBytes (n / 65536) []
  rw [append_nil, littleNumber] at second
  rw [fourBytes, littleNumber_twoBytes, second]
  omega

/-- The length of a block and its complement, as one number. -/
theorem sizes_of_length {length : Nat} (fits : length ≤ blockSize) :
    littleNumber (twoBytes length ++ twoBytes (65535 - length)) % 65536 = length ∧
      littleNumber (twoBytes length ++ twoBytes (65535 - length)) / 65536 = 65535 - length := by
  have small : length ≤ 65535 := fits
  have second := littleNumber_twoBytes (65535 - length) []
  rw [append_nil, littleNumber] at second
  rw [littleNumber_twoBytes, second]
  omega

/-! ### Blocks -/

/-- A stored block gives its bytes, and leaves what follows it. -/
theorem readStored_block (out : Array UInt8) {few : List Bool} (short : few.length < 8)
    {content : List UInt8} (fits : content.length ≤ blockSize) (rest : List UInt8) :
    Deflate.readStored out (few ++ bitsOf (twoBytes content.length ++
        twoBytes (65535 - content.length) ++ content ++ rest)) =
      .ok (out ++ content.toArray, bitsOf rest) := by
  obtain ⟨size, other⟩ := sizes_of_length fits
  rw [Deflate.readStored, align_append short, append_assoc, bitsOf_append,
    takeNumber_append (by simp [twoBytes]), numberOf_bitsOf]
  have taken : (bitsOf (content ++ rest)).take (8 * content.length) = bitsOf content := by
    rw [bitsOf_append]
    exact take_left' (length_bitsOf content)
  have left : (bitsOf (content ++ rest)).drop (8 * content.length) = bitsOf rest := by
    rw [bitsOf_append]
    exact drop_left' (length_bitsOf content)
  have whole : content.length + (65535 - content.length) = 65535 := Nat.add_sub_of_le fits
  simp only [Bind.bind, Except.bind, size, other, whole, ne_eq, not_true_eq_false, if_false, taken,
    length_bitsOf, Nat.lt_irrefl, left, bytesOf_bitsOf (Nat.le_refl _)]
  rfl

/-- The first bits of a block tell that it is stored, and whether it is the last one. -/
theorem readBlocks_block (fuel : Nat) (out : Array UInt8) (isLast : Bool) {content : List UInt8}
    (fits : content.length ≤ blockSize) (rest : List UInt8) :
    Deflate.readBlocks (fuel + 1) out (bitsOf (block isLast content ++ rest)) =
      if isLast then .ok (out ++ content.toArray, bitsOf rest)
      else Deflate.readBlocks fuel (out ++ content.toArray) (bitsOf rest) := by
  let five : List Bool := [false, false, false, false, false]
  let others := bitsOf (twoBytes content.length ++ twoBytes (65535 - content.length) ++ content ++
    rest)
  have bits : bitsOf (block isLast content ++ rest) =
      [isLast, false, false] ++ (five ++ others) := by
    cases isLast <;> rfl
  have head : Deflate.takeNumber 3 ([isLast, false, false] ++ (five ++ others)) =
      .ok (Deflate.numberOf [isLast, false, false], five ++ others) :=
    takeNumber_append (show [isLast, false, false].length = 3 from rfl) _
  have stored : Deflate.readStored out (five ++ others) =
      .ok (out ++ content.toArray, bitsOf rest) :=
    readStored_block out (by decide) fits rest
  rw [bits, readBlocks_stored fuel head (by cases isLast <;> rfl) stored]
  cases isLast <;> rfl

/-- All blocks together give all bytes. -/
theorem readBlocks_blocks {fuel : Nat} {bytes : List UInt8} (enough : bytes.length < fuel)
    (out : Array UInt8) (rest : List UInt8) {steps : Nat}
    (many : (blocks fuel bytes).length < steps) :
    Deflate.readBlocks steps out (bitsOf (blocks fuel bytes ++ rest)) =
      .ok (out ++ bytes.toArray, bitsOf rest) := by
  induction fuel generalizing bytes out steps with
  | zero => omega
  | succ fuel ih =>
    obtain ⟨steps, rfl⟩ : ∃ left, steps = left + 1 := ⟨steps - 1, by omega⟩
    rw [blocks] at many ⊢
    split at many
    next fits => rw [if_pos fits, readBlocks_block steps out true fits, if_pos rfl]
    next large =>
      have size : blockSize = 65535 := rfl
      have taken : (bytes.take blockSize).length ≤ blockSize := length_take_le _ _
      have shorter : (bytes.drop blockSize).length < fuel := by
        rw [length_drop]
        omega
      have left : (blocks fuel (bytes.drop blockSize)).length < steps := by
        simp only [block, length_append, length_cons] at many
        omega
      rw [if_neg large, append_assoc, readBlocks_block steps out false taken, ih shorter _ left]
      simp

theorem inflate_blocks (bytes rest : List UInt8) :
    Deflate.inflate (blocks (bytes.length + 1) bytes ++ rest) = .ok (bytes, rest) := by
  have read := readBlocks_blocks (Nat.lt_succ_self bytes.length) #[] rest
    (show (blocks (bytes.length + 1) bytes).length <
      (blocks (bytes.length + 1) bytes ++ rest).length + 1 by rw [length_append]; omega)
  have aligned : Deflate.align (bitsOf rest) = bitsOf rest :=
    align_append (show [].length < 8 by decide) rest
  rw [Deflate.inflate, read]
  simp only [Bind.bind, Except.bind, aligned]
  rw [bytesOf_bitsOf (by simp)]
  simp [pure, Except.pure]

/-! ### Containers -/

theorem takeBytes_append {count : Nat} {first : List UInt8} (length : first.length = count)
    (rest : List UInt8) : takeBytes count (first ++ rest) = .ok (first, rest) := by
  subst length
  simp [takeBytes]

theorem dropHeader_header (stream : List UInt8) : dropHeader (header ++ stream) = .ok stream := by
  have fields : takeBytes 8 ((header ++ stream).drop 2) =
      .ok ([8, 0, 0, 0, 0, 0, 0, 255], stream) :=
    takeBytes_append (show [8, 0, 0, 0, 0, 0, 0, 255].length = 8 from rfl) stream
  have start : (header ++ stream).take 2 = magic := rfl
  have none : dropOptional 0 stream = .ok stream := rfl
  rw [dropHeader, if_neg (by simp [start]), fields]
  simp only [Bind.bind, Except.bind]
  exact none

theorem unpackOne_pack (bytes : List UInt8) : unpackOne (pack bytes) = .ok (bytes, []) := by
  have sum : (checkSum bytes).toNat % 4294967296 = (checkSum bytes).toNat :=
    Nat.mod_eq_of_lt (checkSum bytes).toNat_lt
  have trailer : takeBytes 8 (fourBytes (checkSum bytes).toNat ++ fourBytes bytes.length) =
      .ok (fourBytes (checkSum bytes).toNat ++ fourBytes bytes.length, []) := by
    have taken := takeBytes_append
      (show (fourBytes (checkSum bytes).toNat ++ fourBytes bytes.length).length = 8 from rfl) []
    rwa [append_nil] at taken
  have told : (fourBytes (checkSum bytes).toNat ++ fourBytes bytes.length).take 4 =
      fourBytes (checkSum bytes).toNat := rfl
  have length : (fourBytes (checkSum bytes).toNat ++ fourBytes bytes.length).drop 4 =
      fourBytes bytes.length := rfl
  rw [unpackOne, pack, append_assoc, append_assoc, dropHeader_header]
  simp only [Bind.bind, Except.bind, inflate_blocks, trailer, told, length, littleNumber_fourBytes,
    sum, ne_eq, not_true_eq_false, if_false]
  rfl

theorem unpack_pack (bytes : List UInt8) : unpack (pack bytes) = .ok bytes := by
  have read := unpackOne_pack bytes
  unfold unpack
  generalize found : pack bytes = packed at read ⊢
  cases packed with
  | nil => simp [pack, header, magic] at found
  | cons byte rest =>
    rw [length_cons, unpackAll, read]
    · cases rest.length <;> simp [Bind.bind, Except.bind, unpackAll, pure, Except.pure]
    · exact cons_ne_nil byte rest

theorem unpack_of_other {byte : UInt8} (other : byte ≠ 0x1F) (rest : List UInt8) :
    unpack (byte :: rest) = .error (.noContainer ((byte :: rest).take 2)) := by
  have start : (byte :: rest).take 2 ≠ magic := by
    intro same
    exact other (List.cons.inj same).1
  rw [unpack, length_cons, unpackAll, unpackOne, dropHeader, if_pos start]
  · rfl
  · exact cons_ne_nil byte rest

end Gzip

end SyntaxGraph
