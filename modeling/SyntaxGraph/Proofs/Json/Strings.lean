import Mathlib.Tactic.SplitIfs
import SyntaxGraph.Json.Parser
import SyntaxGraph.Json.Printer

/-!
# Strings that read back

A string is written with escapes, some of them for units of 16 bits, and read as pieces that are
joined afterwards. Main statement: a string is read back, unless two halves in it would be joined to
a character that it does not hold.
-/
namespace SyntaxGraph.Json

open List
open Text (CodePoint isHighHalf isLowHalf isHalf)

/-! ### Strings without halves that belong together -/

/-- Whether two neighbours would be read as one character. -/
def wouldJoin : CodePoint → CodePoint → Bool
  | .half high, .half low => isHighHalf high && isLowHalf low
  | _, _ => false

/-- Whether no two neighbours would be read as one character, and halves are halves. -/
def isSeparate : List CodePoint → Bool
  | [] => true
  | code :: rest =>
    (match code with
      | .char _ => true
      | .half unit => isHalf unit) &&
    (match rest with
      | [] => true
      | next :: _ => !wouldJoin code next) && isSeparate rest

theorem isSeparate_codePoints (text : String) : isSeparate (Text.codePoints text) := by
  unfold Text.codePoints
  induction text.toList with
  | nil => rfl
  | cons c rest ih => cases rest <;> simp_all [isSeparate, wouldJoin]

/-! ### Pieces -/

theorem toNat_valid (c : Char) : c.toNat < 0xD800 ∨ 0xDFFF < c.toNat ∧ c.toNat < 0x110000 :=
  c.valid

/-- The units of a character, as they are read. -/
def unitsOf (c : Char) : List Piece :=
  if c.toNat < 65536 then [.unit c.toNat]
  else
    [.unit (55296 + (c.toNat - 65536) / 1024), .unit (56320 + (c.toNat - 65536) % 1024)]

def isByUnits (c : Char) : Bool :=
  c.toNat ∉ [8, 9, 10, 12, 13] && (c.toNat < 32 || 127 ≤ c.toNat)

/-- The pieces that a character or half a pair is read as. -/
def piecesOf : CodePoint → List Piece
  | .char c => if isByUnits c then unitsOf c else [.char c]
  | .half unit => [.unit unit]

variable {c : Char} {unit : Nat}

theorem escapeChar_of_isByUnits (byUnits : isByUnits c) : escapeChar c = escapeUnits c := by
  simp only [isByUnits, mem_cons, not_mem_nil, or_false, not_or, Bool.and_eq_true,
    decide_eq_true_eq, Bool.or_eq_true] at byUnits
  have other (d : Char) (written : d.toNat = 9 ∨ d.toNat = 10 ∨ d.toNat = 13 ∨
      32 ≤ d.toNat ∧ d.toNat < 127) : c ≠ d := by
    rintro rfl
    omega
  rw [escapeChar, if_neg (other _ (by decide)), if_neg (other _ (by decide)),
    if_neg (other _ (by decide)), if_neg (other _ (by decide)), if_neg (other _ (by decide)),
    if_neg (by omega), if_neg (by omega), if_neg (by omega)]

/-- How a character is written: as a letter behind a backslash, as it is, or by its units. -/
theorem escapeChar_cases (c : Char) :
    (∃ letter, escapeChar c = ['\\', letter] ∧ letterEscape? letter = some c) ∨
      (escapeChar c = [c] ∧ c ≠ '"' ∧ c ≠ '\\' ∧ 32 ≤ c.toNat) ∨
      (escapeChar c = escapeUnits c ∧ isByUnits c) := by
  have named {code : Nat} (same : c.toNat = code) : c = Char.ofNat code := by
    rw [← same, Char.ofNat_toNat]
  generalize shown : escapeChar c = written
  unfold escapeChar at shown
  -- Seven characters have a letter of their own.
  split at shown
  next quote => exact .inl ⟨_, shown.symm, by rw [quote]; rfl⟩
  next noQuote =>
  split at shown
  next backslash => exact .inl ⟨_, shown.symm, by rw [backslash]; rfl⟩
  next noBackslash =>
  split at shown
  next newline => exact .inl ⟨_, shown.symm, by rw [newline]; rfl⟩
  next noNewline =>
  split at shown
  next feed => exact .inl ⟨_, shown.symm, by rw [feed]; rfl⟩
  next noFeed =>
  split at shown
  next tab => exact .inl ⟨_, shown.symm, by rw [tab]; rfl⟩
  next noTab =>
  split at shown
  next back => exact .inl ⟨_, shown.symm, by rw [named back]; rfl⟩
  next noBack =>
  split at shown
  next form => exact .inl ⟨_, shown.symm, by rw [named form]; rfl⟩
  next noForm =>
  split at shown
  next plain => exact .inr (.inl ⟨shown.symm, noQuote, noBackslash, plain.1⟩)
  next other =>
    -- What is left is outside of printable ASCII.
    have newline : c.toNat ≠ 10 := fun same => noNewline (named same)
    have feed : c.toNat ≠ 13 := fun same => noFeed (named same)
    have tab : c.toNat ≠ 9 := fun same => noTab (named same)
    refine .inr (.inr ⟨shown.symm, ?_⟩)
    have outside : c.toNat < 32 ∨ 127 ≤ c.toNat := by omega
    simp [isByUnits, noBack, noForm, newline, feed, tab, outside]

theorem hexValue?_hexDigit {value : Nat} (small : value < 16) :
    hexValue? (hexDigit value) = some value := by
  revert value
  decide

theorem unit?_hexDigits (small : unit < 65536) :
    unit? (hexDigit (unit / 4096 % 16)) (hexDigit (unit / 256 % 16)) (hexDigit (unit / 16 % 16))
      (hexDigit (unit % 16)) = some unit := by
  have digits : ((unit / 4096 % 16 * 16 + unit / 256 % 16) * 16 + unit / 16 % 16) * 16 +
      unit % 16 = unit := by omega
  simp [unit?, hexValue?_hexDigit, Nat.mod_lt, digits]

/-- The pieces of a text behind another piece. -/
def behind (piece : Piece) (read : Except Refusal (List Piece × List Char)) :
    Except Refusal (List Piece × List Char) :=
  read.map fun (pieces, after) => (piece :: pieces, after)

section Pieces

variable (start : List Char) {rest : List Char}

theorem pieces_unitEscape (small : unit < 65536) (more : rest ≠ []) (fuel : Nat) :
    pieces start (fuel + 1) (unitEscape unit ++ rest) =
      behind (.unit unit) (pieces start fuel rest) := by
  obtain ⟨next, rest, rfl⟩ := exists_cons_of_ne_nil more
  simp only [unitEscape, cons_append, nil_append, pieces, unitAfter?,
    unit?_hexDigits small, Option.map_some, Char.reduceEq, if_false, if_true]
  cases pieces start fuel (next :: rest) <;> rfl

theorem pieces_letterEscape {letter : Char} (known : letterEscape? letter = some c)
    (rest : List Char) (fuel : Nat) :
    pieces start (fuel + 1) ('\\' :: letter :: rest) =
      behind (.char c) (pieces start fuel rest) := by
  have other : letter ≠ 'u' := by
    rintro rfl
    cases known
  rw [pieces]
  · simp only [known]
    cases pieces start fuel rest <;> rfl
  · exact other

theorem pieces_plain (noQuote : c ≠ '"') (noBackslash : c ≠ '\\') (printable : 32 ≤ c.toNat)
    (rest : List Char) (fuel : Nat) :
    pieces start (fuel + 1) (c :: rest) = behind (.char c) (pieces start fuel rest) := by
  have noControl : ¬c.toNat < 32 := by omega
  simp only [pieces, noQuote, noBackslash, noControl, if_false]
  cases pieces start fuel rest <;> rfl

/-- A character that is not written by its units is read as itself. -/
theorem pieces_escapeChar (whole : isByUnits c = false) (rest : List Char) (fuel : Nat) :
    pieces start (fuel + 1) (escapeChar c ++ rest) = behind (.char c) (pieces start fuel rest) := by
  obtain ⟨letter, written, known⟩ | ⟨written, noQuote, noBackslash, printable⟩ | ⟨-, byUnits⟩ :=
    escapeChar_cases c
  · rw [written]
    exact pieces_letterEscape start known rest fuel
  · rw [written]
    exact pieces_plain start noQuote noBackslash printable rest fuel
  · rw [whole] at byUnits
    cases byUnits

theorem pieces_escapeUnits (c : Char) (more : rest ≠ []) (fuel : Nat) :
    pieces start (fuel + (unitsOf c).length) (escapeUnits c ++ rest) =
      (unitsOf c).foldr behind (pieces start fuel rest) := by
  have valid := toNat_valid c
  unfold escapeUnits unitsOf
  split
  next small => exact pieces_unitEscape start small more fuel
  next large =>
    rw [append_assoc]
    refine (pieces_unitEscape start (by omega) (by simp [unitEscape]) (fuel + 1)).trans ?_
    rw [pieces_unitEscape start (by omega) more fuel]
    rfl

/-- What is written for a character or half a pair is read as its pieces. -/
theorem pieces_escapeCode {code : CodePoint} (fits : ∀ unit, code = .half unit → isHalf unit)
    (more : rest ≠ []) (fuel : Nat) :
    pieces start (fuel + (piecesOf code).length) (escapeCode code ++ rest) =
      (piecesOf code).foldr behind (pieces start fuel rest) := by
  cases code with
  | half unit =>
    have half := fits unit rfl
    simp only [isHalf, Bool.and_eq_true, decide_eq_true_eq] at half
    exact pieces_unitEscape start (by omega) more fuel
  | char c =>
    simp only [piecesOf, escapeCode]
    cases byUnits : isByUnits c with
    | true =>
      rw [escapeChar_of_isByUnits byUnits]
      exact pieces_escapeUnits start c more fuel
    | false => exact pieces_escapeChar start byUnits rest fuel

theorem foldr_behind (read : List Piece) (more : List Piece) (after : List Char) :
    read.foldr behind (.ok (more, after)) = .ok (read ++ more, after) := by
  induction read with
  | nil => rfl
  | cons piece rest ih =>
    rw [foldr_cons, ih]
    rfl

/-- What is written between quotes is read as pieces up to the closing quote. -/
theorem pieces_escaped {codes : List CodePoint} (fits : ∀ unit, .half unit ∈ codes → isHalf unit)
    (after : List Char) {fuel : Nat} (enough : (codes.flatMap piecesOf).length < fuel) :
    pieces start fuel (codes.flatMap escapeCode ++ '"' :: after) =
      .ok (codes.flatMap piecesOf, after) := by
  induction codes generalizing fuel with
  | nil =>
    obtain ⟨fuel, rfl⟩ := Nat.exists_eq_succ_of_ne_zero (Nat.ne_of_gt enough)
    rfl
  | cons code rest ih =>
    simp only [flatMap_cons, length_append, append_assoc] at enough ⊢
    obtain ⟨left, rfl⟩ : ∃ left, fuel = left + (piecesOf code).length :=
      ⟨fuel - (piecesOf code).length, by omega⟩
    rw [pieces_escapeCode start (fun unit same => fits unit (by simp [same])) (by simp),
      ih (fun unit member => fits unit (mem_cons_of_mem _ member)) (by omega), foldr_behind]

end Pieces

/-! ### Joining -/

/-- A unit that no second half follows stays on its own. -/
theorem joinPieces_unit {more : List Piece}
    (alone : isHighHalf unit → ∀ low, more.head? = some (.unit low) → isLowHalf low = false) :
    joinPieces (.unit unit :: more) = .ofNat unit :: joinPieces more := by
  match more with
  | [] | .char _ :: _ => rfl
  | .unit low :: rest =>
    rw [joinPieces, if_neg]
    intro joined
    rw [Bool.and_eq_true] at joined
    simp [alone joined.1 low rfl] at joined

/-- The units of a character are joined to it. -/
theorem joinPieces_unitsOf (c : Char) (more : List Piece) :
    joinPieces (unitsOf c ++ more) = .char c :: joinPieces more := by
  have valid := toNat_valid c
  unfold unitsOf
  split
  next small =>
    -- A character is no half by itself.
    have noHigh : isHighHalf c.toNat = false := by
      simp only [isHighHalf, Bool.and_eq_false_iff, decide_eq_false_iff_not]
      omega
    have noHalf : isHalf c.toNat = false := by
      simp only [isHalf, Bool.and_eq_false_iff, decide_eq_false_iff_not]
      omega
    rw [singleton_append, joinPieces_unit (by simp [noHigh]), CodePoint.ofNat, noHalf,
      if_neg (by decide), Char.ofNat_toNat]
  next large =>
    -- Two halves hold ten bits each of what is above the first plane.
    have high : isHighHalf (55296 + (c.toNat - 65536) / 1024) := by
      simp only [isHighHalf, Bool.and_eq_true, decide_eq_true_eq]
      omega
    have low : isLowHalf (56320 + (c.toNat - 65536) % 1024) := by
      simp only [isLowHalf, Bool.and_eq_true, decide_eq_true_eq]
      omega
    have code : 0x10000 + (55296 + (c.toNat - 65536) / 1024 - 0xD800) * 0x400 +
        (56320 + (c.toNat - 65536) % 1024 - 0xDC00) = c.toNat := by omega
    simp only [cons_append, nil_append, joinPieces, high, low, Bool.and_self, if_true,
      Text.joinHalves, code, Char.ofNat_toNat]

/-- Only half a pair on its own is read as a second half. -/
theorem head_piecesOf {code : CodePoint} {low : Nat} {more : List Piece}
    (first : (piecesOf code ++ more).head? = some (.unit low)) (isLow : isLowHalf low) :
    code = .half low := by
  cases code with
  | half unit => simpa [piecesOf] using first
  | char c =>
    exfalso
    have valid := toNat_valid c
    simp only [isLowHalf, Bool.and_eq_true, decide_eq_true_eq] at isLow
    rw [piecesOf, unitsOf] at first
    split_ifs at first <;> simp at first <;> omega

/-- Pieces are joined to what they were written for. -/
theorem joinPieces_pieces {codes : List CodePoint} (separate : isSeparate codes) :
    joinPieces (codes.flatMap piecesOf) = codes := by
  induction codes with
  | nil => rfl
  | cons code rest ih =>
    simp only [isSeparate, Bool.and_eq_true] at separate
    obtain ⟨⟨fits, apart⟩, separate⟩ := separate
    rw [flatMap_cons]
    cases code with
    | char c =>
      rw [piecesOf]
      split
      · rw [joinPieces_unitsOf, ih separate]
      · rw [singleton_append, joinPieces, ih separate]
    | half unit =>
      rw [piecesOf, singleton_append, joinPieces_unit, ih separate, CodePoint.ofNat, if_pos fits]
      -- A second half behind a first one would have to stand in the string.
      intro isHigh low first
      cases rest with
      | nil => cases first
      | cons next rest =>
        cases isLow : isLowHalf low with
        | false => rfl
        | true =>
          rw [head_piecesOf first isLow] at apart
          simp [wouldJoin, isHigh, isLow] at apart

/-! ### Strings -/

theorem fits_of_isSeparate {codes : List CodePoint} (separate : isSeparate codes) :
    ∀ unit, .half unit ∈ codes → isHalf unit := by
  induction codes with
  | nil => simp
  | cons code rest ih =>
    simp only [isSeparate, Bool.and_eq_true] at separate
    intro unit member
    rcases mem_cons.1 member with rfl | member
    · exact separate.1.1
    · exact ih separate.2 unit member

theorem length_piecesOf_le (code : CodePoint) :
    (piecesOf code).length ≤ (escapeCode code).length := by
  cases code with
  | half unit => simp [piecesOf, escapeCode, unitEscape]
  | char c =>
    cases byUnits : isByUnits c with
    | true =>
      simp only [piecesOf, byUnits, if_true, escapeCode, escapeChar_of_isByUnits byUnits, unitsOf,
        escapeUnits]
      split <;> simp [unitEscape]
    | false =>
      have some : escapeChar c ≠ [] := by
        obtain ⟨letter, written, -⟩ | ⟨written, -⟩ | ⟨-, other⟩ := escapeChar_cases c
        · simp [written]
        · simp [written]
        · rw [byUnits] at other
          cases other
      simpa [piecesOf, byUnits, escapeCode, Nat.succ_le_iff, length_pos_iff] using some

theorem length_pieces_le (codes : List CodePoint) :
    (codes.flatMap piecesOf).length ≤ (codes.flatMap escapeCode).length := by
  induction codes with
  | nil => exact Nat.le_refl 0
  | cons code rest ih =>
    have first := length_piecesOf_le code
    simp only [flatMap_cons, length_append]
    omega

theorem string_escaped {codes : List CodePoint} (separate : isSeparate codes) (after : List Char) :
    string (codes.flatMap escapeCode ++ '"' :: after) = .ok (codes, after) := by
  have enough : (codes.flatMap piecesOf).length <
      (codes.flatMap escapeCode ++ '"' :: after).length + 1 := by
    have short := length_pieces_le codes
    rw [length_append]
    omega
  rw [string, pieces_escaped _ (fits_of_isSeparate separate) after enough]
  simp only [Bind.bind, Except.bind, joinPieces_pieces separate]
  rfl

theorem value_quoted {codes : List CodePoint} (separate : isSeparate codes) (after : List Char)
    (fuel room : Nat) :
    value (fuel + 1) room (quoted codes ++ after) = .ok (ofCodePoints codes, after) := by
  rw [quoted, cons_append, cons_append, append_assoc, value, singleton_append,
    string_escaped separate after]
  rfl

end SyntaxGraph.Json
