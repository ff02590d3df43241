import SyntaxGraph.Text.Decoder

/-!
# Texts that read back from their bytes

Main statement: the bytes of a text spell the text. The first byte of a character tells the decoder
how many bytes follow, and the second one whether the character may be written in so many; the bytes
that are written pass both tests, so the decoder takes exactly these.
-/
namespace SyntaxGraph.Text

open List

/-! ### Characters -/

theorem isContinuation_iff {byte : UInt8} :
    isContinuation byte ↔ 0x80 ≤ byte.toNat ∧ byte.toNat ≤ 0xBF := by
  simp [isContinuation, UInt8.le_iff_toNat_le]

/-- A second byte that continues a character, and is neither too small nor too large for the first
one. -/
theorem mayFollow_of_bounds {first second : UInt8} (continues : isContinuation second)
    (least : first.toNat = 0xE0 → 0xA0 ≤ second.toNat)
    (noHalf : first.toNat = 0xED → second.toNat < 0xA0)
    (leastLong : first.toNat = 0xF0 → 0x90 ≤ second.toNat)
    (greatest : first.toNat = 0xF4 → second.toNat < 0x90) : mayFollow first second := by
  unfold mayFollow
  rw [continues]
  split
  next same => simpa [UInt8.le_iff_toNat_le] using least (by rw [same]; rfl)
  next =>
    split
    next same => simpa [UInt8.lt_iff_toNat_lt] using noHalf (by rw [same]; rfl)
    next =>
      split
      next same => simpa [UInt8.le_iff_toNat_le] using leastLong (by rw [same]; rfl)
      next =>
        split
        next same => simpa [UInt8.lt_iff_toNat_lt] using greatest (by rw [same]; rfl)
        next => rfl

section Characters

variable {a b c d : UInt8} (rest : List UInt8)

theorem readUtf8_one (lead : a.toNat < 0x80) :
    readUtf8 (a :: rest) = .one (Char.ofNat a.toNat) 1 := by
  have first : a < 0x80 := UInt8.lt_iff_toNat_lt.2 lead
  simp only [readUtf8, first, if_true]

theorem starts_of_bounds (lead : 0xC2 ≤ a.toNat ∧ a.toNat < 0xF5) :
    ¬a < 0x80 ∧ ¬(a < 0xC2 || 0xF5 ≤ a) = true := by
  simp only [Bool.or_eq_true, decide_eq_true_eq, UInt8.lt_iff_toNat_lt, UInt8.le_iff_toNat_le,
    UInt8.reduceToNat]
  omega

theorem readUtf8_two (lead : 0xC2 ≤ a.toNat ∧ a.toNat < 0xE0) (second : isContinuation b) :
    readUtf8 (a :: b :: rest) =
      .one (Char.ofNat ((a.toNat - 0xC0) * 0x40 + (b.toNat - 0x80))) 2 := by
  obtain ⟨long, starts⟩ := starts_of_bounds ⟨lead.1, Nat.lt_trans lead.2 (by decide)⟩
  have short : a < 0xE0 := UInt8.lt_iff_toNat_lt.2 lead.2
  simp only [readUtf8, if_neg long, if_neg starts, if_pos short, if_pos second]

theorem readUtf8_three (lead : 0xE0 ≤ a.toNat ∧ a.toNat < 0xF0) (second : mayFollow a b)
    (third : isContinuation c) :
    readUtf8 (a :: b :: c :: rest) =
      .one (Char.ofNat ((a.toNat - 0xE0) * 0x1000 + (b.toNat - 0x80) * 0x40 +
        (c.toNat - 0x80))) 3 := by
  obtain ⟨long, starts⟩ := starts_of_bounds (a := a) (by omega)
  have longer : ¬a < 0xE0 := UInt8.not_lt.2 (UInt8.le_iff_toNat_le.2 lead.1)
  have short : a < 0xF0 := UInt8.lt_iff_toNat_lt.2 lead.2
  simp only [readUtf8, if_neg long, if_neg starts, if_neg longer, second, third, Bool.not_true,
    Bool.false_eq_true, if_false, if_pos short]

theorem readUtf8_four (lead : 0xF0 ≤ a.toNat ∧ a.toNat < 0xF5) (second : mayFollow a b)
    (third : isContinuation c) (fourth : isContinuation d) :
    readUtf8 (a :: b :: c :: d :: rest) =
      .one (Char.ofNat ((a.toNat - 0xF0) * 0x40000 + (b.toNat - 0x80) * 0x1000 +
        (c.toNat - 0x80) * 0x40 + (d.toNat - 0x80))) 4 := by
  obtain ⟨long, starts⟩ := starts_of_bounds (a := a) (by omega)
  have longest : ¬a < 0xF0 := UInt8.not_lt.2 (UInt8.le_iff_toNat_le.2 lead.1)
  have longer : ¬a < 0xE0 := fun less => longest (UInt8.lt_trans less (by decide))
  simp only [readUtf8, if_neg long, if_neg starts, if_neg longer, if_neg longest, second, third,
    fourth, Bool.not_true, Bool.false_eq_true, if_false]

end Characters

theorem toNat_toUInt8 {n : Nat} (small : n < 256) : n.toUInt8.toNat = n := by
  simp [Nat.toUInt8, Nat.mod_eq_of_lt small]

/-- A byte with the last six bits of a number continues a character. -/
theorem toNat_continuation (n : Nat) : (0x80 + n % 0x40).toUInt8.toNat = 0x80 + n % 0x40 :=
  toNat_toUInt8 (by omega)

theorem isContinuation_mod (n : Nat) : isContinuation (0x80 + n % 0x40).toUInt8 := by
  rw [isContinuation_iff, toNat_continuation]
  omega

/-- A character is read from its bytes, whatever follows. -/
theorem readUtf8_utf8Bytes (c : Char) (rest : List UInt8) :
    readUtf8 (utf8Bytes c ++ rest) = .one c (utf8Bytes c).length := by
  have valid : c.toNat < 0xD800 ∨ 0xDFFF < c.toNat ∧ c.toNat < 0x110000 := c.valid
  have same {n : Nat} (code : n = c.toNat) : Char.ofNat n = c := by rw [code, Char.ofNat_toNat]
  unfold utf8Bytes
  simp only
  split
  next one =>
    have byte : c.toNat.toUInt8.toNat = c.toNat := toNat_toUInt8 (by omega)
    refine (readUtf8_one rest (by omega)).trans ?_
    rw [byte, Char.ofNat_toNat]
    rfl
  next =>
    split
    next two =>
      have lead : (0xC0 + c.toNat / 0x40).toUInt8.toNat = 0xC0 + c.toNat / 0x40 :=
        toNat_toUInt8 (by omega)
      refine (readUtf8_two rest (by omega) (isContinuation_mod _)).trans ?_
      rw [toNat_continuation, same (by omega)]
      rfl
    next =>
      split
      -- The lead limits what may follow, to leave out surrogates; no character is one.
      next three =>
        have lead : (0xE0 + c.toNat / 0x1000).toUInt8.toNat = 0xE0 + c.toNat / 0x1000 :=
          toNat_toUInt8 (by omega)
        have second := toNat_continuation (c.toNat / 0x40)
        refine (readUtf8_three rest (by omega) (mayFollow_of_bounds (isContinuation_mod _)
          (by omega) (by omega) (by omega) (by omega)) (isContinuation_mod _)).trans ?_
        rw [second, toNat_continuation, same (by omega)]
        rfl
      next =>
        have lead : (0xF0 + c.toNat / 0x40000).toUInt8.toNat = 0xF0 + c.toNat / 0x40000 :=
          toNat_toUInt8 (by omega)
        have second := toNat_continuation (c.toNat / 0x1000)
        refine (readUtf8_four rest (by omega) (mayFollow_of_bounds (isContinuation_mod _)
          (by omega) (by omega) (by omega) (by omega)) (isContinuation_mod _)
          (isContinuation_mod _)).trans ?_
        rw [second, toNat_continuation, toNat_continuation, same (by omega)]
        rfl

theorem length_utf8Bytes (c : Char) : (utf8Bytes c).length = c.utf8Size := by
  have code {bound : UInt32} : c.val ≤ bound ↔ c.toNat < bound.toNat + 1 :=
    UInt32.le_iff_toNat_le.trans Nat.lt_succ_iff.symm
  simp only [utf8Bytes, Char.utf8Size, code, UInt32.toNat_ofNatLT, Nat.reduceAdd,
    apply_ite List.length, length_cons, length_nil]

/-- The bytes of a character are its code, or lie beyond all one-byte characters. -/
theorem toNat_of_mem_utf8Bytes {c : Char} {byte : UInt8} (member : byte ∈ utf8Bytes c) :
    byte.toNat = c.toNat ∨ 0x80 ≤ byte.toNat := by
  have valid : c.toNat < 0xD800 ∨ 0xDFFF < c.toNat ∧ c.toNat < 0x110000 := c.valid
  have high {n : Nat} (least : 0x80 ≤ n) (small : n < 256) : 0x80 ≤ n.toUInt8.toNat := by
    rwa [toNat_toUInt8 small]
  unfold utf8Bytes at member
  simp only at member
  split at member
  next one =>
    cases mem_singleton.1 member
    exact .inl (toNat_toUInt8 (by omega))
  next =>
    right
    split at member
    next =>
      simp only [mem_cons, not_mem_nil, or_false] at member
      rcases member with rfl | rfl <;> exact high (by omega) (by omega)
    next =>
      split at member <;> simp only [mem_cons, not_mem_nil, or_false] at member
      next => rcases member with rfl | rfl | rfl <;> exact high (by omega) (by omega)
      next => rcases member with rfl | rfl | rfl | rfl <;> exact high (by omega) (by omega)

/-! ### Texts -/

theorem encodeChars_cons (c : Char) (rest : List Char) :
    encodeChars (c :: rest) = utf8Bytes c ++ encodeChars rest :=
  flatMap_cons

theorem encodeChars_append (front back : List Char) :
    encodeChars (front ++ back) = encodeChars front ++ encodeChars back :=
  flatMap_append

theorem utf8Bytes_ne_nil (c : Char) : utf8Bytes c ≠ [] := by
  unfold utf8Bytes
  simp only
  split
  · simp
  · split
    · simp
    · split <;> simp

/-- The decoder takes one step for each character. -/
theorem readAll_utf8Bytes (chars known : List Char) {fuel : Nat} (enough : chars.length ≤ fuel) :
    readAll (fun _ : Unit => readUtf8) fuel () known (chars.flatMap utf8Bytes) =
      .ok (known.reverse ++ chars, ()) := by
  induction chars generalizing known fuel with
  | nil => cases fuel <;> simp [readAll]
  | cons c rest ih =>
    obtain ⟨fuel, rfl⟩ : ∃ left, fuel = left + 1 := ⟨fuel - 1, by simp at enough; omega⟩
    rw [flatMap_cons]
    obtain ⟨byte, bytes, some⟩ := exists_cons_of_ne_nil
      (append_ne_nil_of_left_ne_nil (utf8Bytes_ne_nil c) (rest.flatMap utf8Bytes))
    have step := readUtf8_utf8Bytes c (rest.flatMap utf8Bytes)
    have left : (utf8Bytes c ++ rest.flatMap utf8Bytes).drop (utf8Bytes c).length =
        rest.flatMap utf8Bytes := drop_left
    rw [some] at step left ⊢
    simp only [readAll, step, Reading.one, left]
    rw [ih _ (by simpa using enough)]
    simp

theorem length_le_utf8Bytes (chars : List Char) :
    chars.length ≤ (chars.flatMap utf8Bytes).length := by
  induction chars with
  | nil => exact Nat.le_refl 0
  | cons c rest ih =>
    have some := length_pos_iff.2 (utf8Bytes_ne_nil c)
    rw [flatMap_cons, length_append, length_cons]
    omega

theorem decodeUtf8_encodeChars (chars : List Char) :
    decodeUtf8 (encodeChars chars) = .ok chars := by
  rw [decodeUtf8, readPlain, encodeChars, readAll_utf8Bytes _ _ (length_le_utf8Bytes _)]
  rfl

/-- A decoder that replaces what makes no sense reads the same where all makes sense. -/
theorem readLossy_of_readAll {fuel : Nat} {bytes : List UInt8} {known chars : List Char}
    (read : readAll (fun _ : Unit => readUtf8) fuel () known bytes = .ok (chars, ())) :
    known.reverse ++ readLossy fuel bytes = chars := by
  fun_induction readLossy fuel bytes generalizing known with
  | case1 bytes | case2 fuel =>
    simp only [readAll, Except.ok.injEq, Prod.mk.injEq, and_true] at read
    rw [← read, append_nil]
  | case3 fuel bytes some chars width state step ih =>
    simp only [readAll, step] at read
    simpa using ih read
  | case4 fuel bytes some width reason step ih => simp [readAll, step] at read

theorem decodeLossy_encodeChars (chars : List Char) : decodeLossy (encodeChars chars) = chars :=
  readLossy_of_readAll (readAll_utf8Bytes chars [] (length_le_utf8Bytes chars))

/-- Where there are no carriage returns, line ends are unified already. -/
theorem unifyNewlines_of_clean {text : List Char} (clean : '\r' ∉ text) :
    unifyNewlines text = text := by
  unfold unifyNewlines
  fun_induction unifyLineEnds '\r' '\n' text with
  | case1 => rfl
  | case2 a =>
    have other : a ≠ '\r' := fun same => clean (by simp [same])
    simp [other]
  | case3 a b rest other ih => rw [ih (fun member => clean (mem_cons_of_mem _ member))]
  | case4 a rest => simp_all
  | case5 a b rest => simp_all

end SyntaxGraph.Text
