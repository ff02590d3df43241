import Mathlib.Order.Bounds.Defs
import SyntaxGraph.Parse.Source
import SyntaxGraph.Proofs.Utf8

/-!
# Character offsets of bytes

A table leads from the bytes of a text to its characters. Main statement: the offset of a byte is
the largest number of characters that end before it, also inside a character of several bytes, at
the end of the text, and where a text of one-byte characters is looked up without a table.

The table is compared with a count along the characters, `charIndex`. That count and the number of
bytes that the first characters take are adjoint, and all properties of offsets follow from this.
-/
namespace SyntaxGraph

open List

/-! ### Counting along the characters -/

/-- The index of the character that a byte belongs to; the length of the text for bytes behind
it. -/
def charIndex : List Char → Nat → Nat
  | [], _ => 0
  | c :: rest, byte => if byte < c.utf8Size then 0 else charIndex rest (byte - c.utf8Size) + 1

theorem charIndex_le_length (chars : List Char) (byte : Nat) :
    charIndex chars byte ≤ chars.length := by
  induction chars generalizing byte with
  | nil => exact Nat.le_refl _
  | cons c rest ih =>
    rw [charIndex, length_cons]
    split
    · omega
    · have := ih (byte - c.utf8Size)
      omega

variable {chars : List Char} {n byte : Nat}

/-- The character of a byte is behind the first `n` characters if and only if the byte is. -/
theorem le_charIndex_iff (inside : n ≤ chars.length) (byte : Nat) :
    n ≤ charIndex chars byte ↔ byteLength (chars.take n) ≤ byte := by
  induction chars generalizing n byte with
  | nil =>
    obtain rfl := Nat.le_zero.1 inside
    simp [byteLength]
  | cons c rest ih =>
    cases n with
    | zero => simp [byteLength]
    | succ n =>
      rw [charIndex, take_succ_cons, byteLength]
      split
      -- The first character has the byte: its own bytes are among those of the first `n + 1`.
      next within => omega
      next behind =>
        rw [Nat.add_le_add_iff_right, ih (Nat.le_of_succ_le_succ inside)]
        omega

theorem charIndex_mono (chars : List Char) {first second : Nat} (ordered : first ≤ second) :
    charIndex chars first ≤ charIndex chars second := by
  have inside := charIndex_le_length chars first
  have before := (le_charIndex_iff inside first).1 (Nat.le_refl _)
  exact (le_charIndex_iff inside second).2 (Nat.le_trans before ordered)

/-- Between two characters, the count is the number of characters before. -/
theorem charIndex_byteLength_take (inside : n ≤ chars.length) :
    charIndex chars (byteLength (chars.take n)) = n := by
  induction chars generalizing n with
  | nil => exact (Nat.le_zero.1 inside).symm
  | cons c rest ih =>
    cases n with
    | zero => rw [take_zero, byteLength, charIndex, if_pos c.utf8Size_pos]
    | succ n =>
      rw [take_succ_cons, byteLength, charIndex, if_neg (by omega), Nat.add_sub_cancel_left,
        ih (Nat.le_of_succ_le_succ inside)]

theorem charIndex_byteLength (chars : List Char) :
    charIndex chars (byteLength chars) = chars.length := by
  simpa using charIndex_byteLength_take (Nat.le_refl chars.length)

theorem charIndex_of_ascii (ascii : ∀ c ∈ chars, c.utf8Size = 1)
    (bounded : byte ≤ byteLength chars) : charIndex chars byte = byte := by
  induction chars generalizing byte with
  | nil => exact (Nat.le_zero.1 bounded).symm
  | cons c rest ih =>
    obtain ⟨here, later⟩ := forall_mem_cons.1 ascii
    rw [byteLength, here] at bounded
    rw [charIndex, here]
    split
    · omega
    · rw [ih later (by omega)]
      omega

/-! ### The table -/

theorem getElem?_fillTable_of_lt {table : Array Nat} (known : byte < table.size) (index : Nat)
    (chars : List Char) : (fillTable table index chars)[byte]? = table[byte]? := by
  induction chars generalizing table index with
  | nil => rw [fillTable, Array.getElem?_push, if_neg (Nat.ne_of_lt known)]
  | cons c rest ih =>
    have longer : byte < (table ++ Array.replicate c.utf8Size index).size := by
      rw [Array.size_append]
      omega
    rw [fillTable, ih longer, Array.getElem?_append_left known]

/-- The entries for the bytes of further characters count on from the index of the first one. -/
theorem getElem?_fillTable (table : Array Nat) (index : Nat) (chars : List Char) (byte : Nat) :
    (fillTable table index chars)[table.size + byte]? =
      if byte ≤ byteLength chars then some (index + charIndex chars byte) else none := by
  -- The table grows along the characters, so what it holds already is general.
  induction chars generalizing table index byte with
  | nil =>
    cases byte with
    | zero => simp [fillTable, byteLength, charIndex]
    | succ byte => simp [fillTable, byteLength]
  | cons c rest ih =>
    have size : (table ++ Array.replicate c.utf8Size index).size = table.size + c.utf8Size := by
      rw [Array.size_append, Array.size_replicate]
    rw [fillTable, byteLength, charIndex]
    by_cases within : byte < c.utf8Size
    -- A byte of the first character: its entry is made now and stays.
    · have entry : (table ++ Array.replicate c.utf8Size index)[table.size + byte]? =
          some index := by
        rw [Array.getElem?_append_right (Nat.le_add_right _ _), Nat.add_sub_cancel_left,
          Array.getElem?_replicate, if_pos within]
      rw [getElem?_fillTable_of_lt (by omega), entry, if_pos (by omega), if_pos within,
        Nat.add_zero]
    · obtain ⟨byte, rfl⟩ := Nat.exists_eq_add_of_le (Nat.le_of_not_lt within)
      rw [← Nat.add_assoc, ← size, ih, if_neg within, Nat.add_sub_cancel_left]
      simp only [Nat.add_le_add_iff_left, Nat.add_assoc, Nat.add_comm 1]

theorem getElem?_charTable (chars : List Char) (byte : Nat) :
    (charTable chars)[byte]? =
      if byte ≤ byteLength chars then some (charIndex chars byte) else none := by
  simpa [charTable] using getElem?_fillTable #[] 0 chars byte

/-- Offsets are counted along the characters, except behind texts of one-byte characters. -/
theorem Source.offset?_eq (source : Source) (byte : Nat) :
    source.offset? byte =
      if source.chars.all (·.utf8Size = 1) then some byte
      else if byte ≤ byteLength source.chars then some (charIndex source.chars byte)
      else none := by
  obtain ⟨chars, table, own⟩ := source
  subst own
  by_cases ascii : chars.all (·.utf8Size = 1)
  · simp only [Source.offset?, charTable?, if_pos ascii]
  · simp only [Source.offset?, charTable?, if_neg ascii, getElem?_charTable]

theorem Source.offset?_of_le (source : Source) (bounded : byte ≤ byteLength source.chars) :
    source.offset? byte = some (charIndex source.chars byte) := by
  rw [Source.offset?_eq]
  split
  next ascii =>
    rw [all_eq_true] at ascii
    rw [charIndex_of_ascii (fun c member => of_decide_eq_true (ascii c member)) bounded]
  next => rfl

/-! ### Offsets and encodings -/

theorem length_encodeChars (chars : List Char) :
    (Text.encodeChars chars).length = byteLength chars := by
  induction chars with
  | nil => rfl
  | cons c rest ih =>
    rw [Text.encodeChars_cons, length_append, ih, Text.length_utf8Bytes, byteLength]

/-- How many bytes the first `n` characters of a text take. -/
def bytesBefore (text : String) (n : Nat) : Nat :=
  (Text.encodeChars (text.toList.take n)).length

theorem bytesBefore_eq (text : String) (n : Nat) :
    bytesBefore text n = byteLength (text.toList.take n) :=
  length_encodeChars _

theorem bytesBefore_length (text : String) :
    bytesBefore text text.length = byteLength text.toList := by
  rw [bytesBefore_eq, ← String.length_toList, take_length]

theorem bytesBefore_le (text : String) (n : Nat) : bytesBefore text n ≤ byteLength text.toList := by
  have split := Text.encodeChars_append (text.toList.take n) (text.toList.drop n)
  rw [take_append_drop] at split
  rw [← length_encodeChars, split, length_append]
  exact Nat.le_add_right _ _

theorem offset?_bytesBefore (text : String) (inside : n ≤ text.length) :
    (Source.ofString text).offset? (bytesBefore text n) = some n := by
  rw [Source.offset?_of_le _ (bytesBefore_le text n), bytesBefore_eq]
  exact congrArg some (charIndex_byteLength_take inside)

/-- The count along the characters is the largest number of characters that end before a byte. -/
theorem isGreatest_charIndex (text : String) (byte : Nat) :
    IsGreatest {n | n ≤ text.length ∧ bytesBefore text n ≤ byte} (charIndex text.toList byte) := by
  have inside := charIndex_le_length text.toList byte
  simp only [bytesBefore_eq, ← String.length_toList]
  refine ⟨⟨inside, (le_charIndex_iff inside byte).1 (Nat.le_refl _)⟩, ?_⟩
  rintro n ⟨within, before⟩
  exact (le_charIndex_iff within byte).2 before

theorem offset?_mono (source : Source) {first second i j : Nat} (ordered : first ≤ second)
    (here : source.offset? first = some i) (there : source.offset? second = some j) : i ≤ j := by
  rw [Source.offset?_eq] at here there
  split at here
  next ascii =>
    rw [if_pos ascii] at there
    cases here
    cases there
    exact ordered
  next wide =>
    rw [if_neg wide] at there
    obtain ⟨-, ⟨⟩⟩ := Option.ite_none_right_eq_some.1 here
    obtain ⟨-, ⟨⟩⟩ := Option.ite_none_right_eq_some.1 there
    exact charIndex_mono source.chars ordered

/-- The offset of a byte of a text, or of its end, is the largest number of characters whose bytes
all come before, and what the table of the text says there. Offsets of bytes therefore undo
counting the bytes before a character, never fall, and lead from the end of the bytes to the end of
the characters. -/
theorem offset?_isGreatest (text : String) :
    (∀ byte ≤ (Text.encodeUtf8 text).length, ∃ i, (Source.ofString text).offset? byte = some i ∧
      IsGreatest {n | n ≤ text.length ∧ bytesBefore text n ≤ byte} i ∧
      (charTable text.toList)[byte]? = some i) ∧
    (∀ n ≤ text.length, (Source.ofString text).offset? (bytesBefore text n) = some n) ∧
    (∀ first second, first ≤ second → ∀ i ∈ (Source.ofString text).offset? first,
      ∀ j ∈ (Source.ofString text).offset? second, i ≤ j) ∧
    (Source.ofString text).offset? (Text.encodeUtf8 text).length = some text.length := by
  have total : (Text.encodeUtf8 text).length = byteLength text.toList := length_encodeChars _
  refine ⟨fun byte bounded => ?_, fun n => offset?_bytesBefore text,
    fun first second ordered i here j there => offset?_mono _ ordered here there, ?_⟩
  · rw [total] at bounded
    exact ⟨_, Source.offset?_of_le _ bounded, isGreatest_charIndex text byte,
      (getElem?_charTable _ _).trans (if_pos bounded)⟩
  · rw [total, ← bytesBefore_length]
    exact offset?_bytesBefore text (Nat.le_refl _)

/-- The last byte of a character of three bytes belongs to that character. -/
theorem offset?_last_of_three :
    4 ≤ (Text.encodeUtf8 "ß€\n").length ∧ (Source.ofString "ß€\n").offset? 4 = some 1 ∧
      IsGreatest {n | n ≤ "ß€\n".length ∧ bytesBefore "ß€\n" n ≤ 4} 1 ∧
      (charTable "ß€\n".toList)[4]? = some 1 := by
  have inside : 4 ≤ (Text.encodeUtf8 "ß€\n").length := by decide
  have found : (Source.ofString "ß€\n").offset? 4 = some 1 := by decide
  obtain ⟨i, looked, greatest, entry⟩ := (offset?_isGreatest "ß€\n").1 4 inside
  obtain rfl : i = 1 := Option.some.inj (looked.symm.trans found)
  exact ⟨inside, looked, greatest, entry⟩

end SyntaxGraph
