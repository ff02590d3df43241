import Mathlib.Order.Bounds.Basic
import SyntaxGraph.Parse.Diagnostic
import SyntaxGraph.Proofs.Lines
import SyntaxGraph.Proofs.Offsets

/-!
# Places of diagnostics

A diagnostic finds its line and column in the bytes of a source, a graph finds lines among the
newlines of the text, and a source leads from bytes to characters by a table. Main statement: where
a faulty node starts with a character, all three name the same place.
-/
namespace SyntaxGraph

open List
open Text (utf8Bytes encodeChars encodeChars_cons encodeChars_append)
open Diagnostic (newline)

/-! ### Newlines among bytes -/

theorem newline_mem_utf8Bytes {c : Char} (member : newline ∈ utf8Bytes c) : c = '\n' := by
  -- The bytes of a character of several bytes are all above those of ASCII.
  rcases Text.toNat_of_mem_utf8Bytes member with same | high
  · exact Char.toNat_inj.1 same.symm
  · exact absurd high (by decide)

theorem newline_mem_encodeChars {chars : List Char} (member : newline ∈ encodeChars chars) :
    '\n' ∈ chars := by
  obtain ⟨c, here, found⟩ := mem_flatMap.1 member
  exact newline_mem_utf8Bytes found ▸ here

theorem count_newline_utf8Bytes (c : Char) :
    (utf8Bytes c).count newline = if c = '\n' then 1 else 0 := by
  split
  next same =>
    subst same
    decide
  next other => exact count_eq_zero.2 fun member => other (newline_mem_utf8Bytes member)

theorem count_newline_encodeChars (chars : List Char) :
    (encodeChars chars).count newline = chars.count '\n' := by
  induction chars with
  | nil => rfl
  | cons c rest ih =>
    rw [encodeChars_cons, count_append, count_newline_utf8Bytes, ih, count_cons]
    simp [Nat.add_comm]

/-! ### Last lines -/

/-- A text ends with a line that begins behind a newline or at the start of the text. -/
structure EndsWithLine (front line : List Char) : Prop where
  unbroken : '\n' ∉ line
  complete : front = [] ∨ ∃ rest, front = rest ++ ['\n']

theorem exists_endsWithLine (chars : List Char) :
    ∃ front line, chars = front ++ line ∧ EndsWithLine front line := by
  induction chars using List.reverseRecOn with
  | nil => exact ⟨[], [], rfl, not_mem_nil, .inl rfl⟩
  | append_singleton chars c ih =>
    by_cases broken : c = '\n'
    · exact ⟨chars ++ ['\n'], [], by simp [broken], not_mem_nil, .inr ⟨chars, rfl⟩⟩
    · obtain ⟨front, line, rfl, last⟩ := ih
      refine ⟨front, line ++ [c], append_assoc _ _ _, ?_, last.complete⟩
      simpa [Ne.symm broken] using last.unbroken

variable {front line : List Char}

theorem EndsWithLine.bytes (last : EndsWithLine front line) :
    ((encodeChars (front ++ line)).reverse.takeWhile (· ≠ newline)).reverse = encodeChars line := by
  have inside : ∀ byte ∈ (encodeChars line).reverse, decide (byte ≠ newline) := by
    intro byte member
    rw [decide_eq_true_eq]
    rintro rfl
    exact last.unbroken (newline_mem_encodeChars (mem_reverse.1 member))
  have before : (encodeChars front).reverse.takeWhile (· ≠ newline) = [] := by
    rcases last.complete with rfl | ⟨rest, rfl⟩
    · rfl
    · have one : encodeChars ['\n'] = [newline] := by decide
      rw [encodeChars_append, one]
      simp
  rw [encodeChars_append, reverse_append, takeWhile_append_of_pos inside, before,
    append_nil, reverse_reverse]

theorem EndsWithLine.count_eq (last : EndsWithLine front line) :
    (front ++ line).count '\n' = front.count '\n' := by
  rw [count_append, count_eq_zero.2 last.unbroken, Nat.add_zero]

/-- No shorter part of the text has as many newlines. -/
theorem EndsWithLine.count_take_lt (last : EndsWithLine front line) {n : Nat}
    (short : n < front.length) : ((front ++ line).take n).count '\n' < front.count '\n' := by
  rcases last.complete with rfl | ⟨rest, rfl⟩
  · simp at short
  · rw [length_append, length_singleton] at short
    have within : ((rest ++ ['\n']) ++ line).take n = rest.take n := by
      rw [append_assoc, take_append_of_le_length (by omega)]
    have fewer : (rest.take n).count '\n' ≤ rest.count '\n' :=
      (take_sublist n rest).count_le '\n'
    rw [within]
    simp
    omega

/-! ### Diagnostics -/

theorem take_bytesBefore (text : String) (n : Nat) :
    (encodeChars text.toList).take (bytesBefore text n) = encodeChars (text.toList.take n) := by
  have split := encodeChars_append (text.toList.take n) (text.toList.drop n)
  rw [take_append_drop] at split
  rw [split, bytesBefore, take_left]

/-- A diagnostic counts the lines and the characters of the last line before a node. -/
theorem ofMark_of_endsWithLine {text : String} {mark : Mark} {n : Nat}
    (starts : mark.start = bytesBefore text n) (before : text.toList.take n = front ++ line)
    (last : EndsWithLine front line) :
    (Diagnostic.ofMark (.ofString text) mark).line = 1 + front.count '\n' ∧
      (Diagnostic.ofMark (.ofString text) mark).column = line.length + 1 := by
  have bytes : (encodeChars (Source.ofString text).chars).take mark.start =
      encodeChars (front ++ line) := by
    rw [starts, ← before]
    exact take_bytesBefore text n
  constructor
  · simp only [Diagnostic.ofMark, bytes, count_newline_encodeChars, last.count_eq]
    omega
  · simp only [Diagnostic.ofMark, bytes, last.bytes, Text.decodeLossy_encodeChars]

theorem lineOf_text (file : Json) (text : String) (n : Nat) :
    (Graph.ofSource file (some text) true).lineOf n = 1 + (text.toList.take n).count '\n' := by
  simp [Graph.lineOf_ofSource, lineAt]

/-- Where a node starts with a character, the diagnostic about it has the line that graphs over the
text have there; its column counts from the first position on that line. -/
theorem ofMark_position (file : Json) {text : String} {mark : Mark} {n : Nat}
    (inside : n ≤ text.length) (starts : mark.start = bytesBefore text n) :
    (Diagnostic.ofMark (.ofString text) mark).line =
        (Graph.ofSource file (some text) true).lineOf n ∧
      ∃ first : Nat, IsLeast {p : Nat | (Graph.ofSource file (some text) true).lineOf p =
          (Diagnostic.ofMark (.ofString text) mark).line} first ∧
        (n : Int) = first + ((Diagnostic.ofMark (.ofString text) mark).column - 1) := by
  obtain ⟨front, line, before, last⟩ := exists_endsWithLine (text.toList.take n)
  obtain ⟨isLine, isColumn⟩ := ofMark_of_endsWithLine starts before last
  have length : n = front.length + line.length := by
    rw [← length_append, ← before, length_take_of_le (by rwa [String.length_toList])]
  -- Positions up to the node are counted in what stands before it.
  have taken {p : Nat} (early : p ≤ n) : text.toList.take p = (front ++ line).take p := by
    rw [← before, take_take, Nat.min_eq_left early]
  simp only [isLine, isColumn, lineOf_text]
  refine ⟨by rw [before, last.count_eq], front.length, ⟨?_, ?_⟩, by omega⟩
  · change _ = _
    rw [taken (by omega), take_left]
  -- A position before the last line has fewer newlines before it.
  · intro p (same : _ = _)
    by_contra short
    have fewer := last.count_take_lt (Nat.lt_of_not_le short)
    rw [taken (by omega)] at same
    omega

/-- Where a faulty node starts with a character, its diagnostic has the line that graphs over the
text have at that character, the character stands as many places behind the first one on that line
as the column says, and it is the one that the source finds for the first byte of the node. So line
and column tell such nodes apart if they start with different characters. -/
theorem ofMark_agrees (file : Json) (text : String) {mark : Mark} {n : Nat}
    (inside : n ≤ text.length) (starts : mark.start = bytesBefore text n) :
    let found := Diagnostic.ofMark (.ofString text) mark
    let lineOf := (Graph.ofSource file (some text) true).lineOf
    (Source.ofString text).offset? mark.start = some n ∧ found.line = lineOf n ∧
      (∃ first : Nat, IsLeast {p : Nat | lineOf p = found.line} first ∧
        (n : Int) = first + (found.column - 1)) ∧
      ∀ (other : Mark) (m : Nat), m ≤ text.length → other.start = bytesBefore text m →
        (Diagnostic.ofMark (.ofString text) other).line = found.line →
        (Diagnostic.ofMark (.ofString text) other).column = found.column → m = n := by
  intro found lineOf
  obtain ⟨isLine, first, least, placed⟩ := ofMark_position file inside starts
  refine ⟨starts ▸ offset?_bytesBefore text inside, isLine, ⟨first, least, placed⟩, ?_⟩
  intro other m within begins sameLine sameColumn
  obtain ⟨-, second, least', placed'⟩ := ofMark_position file within begins
  rw [sameLine] at least'
  rw [least'.unique least, sameColumn, ← placed] at placed'
  exact Int.ofNat_inj.1 placed'

/-- A text with an empty line and characters of several bytes on the others. -/
def brokenText : String := "é\n\n😀x"

/-- A faulty node that starts with the last character of `brokenText`. -/
def brokenMark : Mark := { type := errorType, named := true, start := 8, stop := 9 }

theorem ofMark_brokenMark :
    brokenMark.start = bytesBefore brokenText 4 ∧
      Diagnostic.ofMark (.ofString brokenText) brokenMark = ⟨3, 2, "syntax error"⟩ ∧
      (Source.ofString brokenText).offset? brokenMark.start = some 4 ∧
      ∃ first : Nat, (4 : Int) = first + (2 - 1) ∧
        IsLeast {p : Nat | (Graph.ofSource .null (some brokenText) true).lineOf p = 3} first := by
  have starts : brokenMark.start = bytesBefore brokenText 4 := by decide +kernel
  have found : Diagnostic.ofMark (.ofString brokenText) brokenMark = ⟨3, 2, "syntax error"⟩ := by
    decide +kernel
  obtain ⟨offset, -, ⟨first, least, placed⟩, -⟩ :=
    ofMark_agrees .null brokenText (by decide) starts
  rw [found] at least placed
  exact ⟨starts, found, offset, first, placed, least⟩

end SyntaxGraph
