import SyntaxGraph.Proofs.Json.Numbers
import SyntaxGraph.Proofs.Json.Strings

/-!
# What is written for a value

A value is written in front of what follows it, as a text of its own that is never empty and holds
no carriage return, whatever its strings hold. A document is written to its end exactly if the value
is not nested too deep and has no integer with too many digits.
-/
namespace SyntaxGraph.Json

open List

/-! ### Texts without carriage returns -/

/-- A text without carriage returns. -/
def IsClean (text : List Char) : Prop := '\r' ∉ text

@[simp]
theorem isClean_nil : IsClean [] := not_mem_nil

@[simp]
theorem isClean_cons {c : Char} {text : List Char} :
    IsClean (c :: text) ↔ c ≠ '\r' ∧ IsClean text := by
  simp [IsClean, eq_comm]

@[simp]
theorem isClean_append {first second : List Char} :
    IsClean (first ++ second) ↔ IsClean first ∧ IsClean second := by
  simp [IsClean]

theorem isClean_gap (layout : Layout) (depth : Nat) : IsClean (layout.gap depth) := by
  cases layout with
  | compact => exact isClean_nil
  | indented width => simp [Layout.gap, IsClean, mem_replicate]

theorem isClean_comma (layout : Layout) (depth : Nat) : IsClean (layout.comma depth) := by
  cases layout with
  | compact => simp [Layout.comma]
  | indented width => simpa [Layout.comma] using isClean_gap (.indented width) depth

/-! ### Scalars -/

theorem hexDigit_ne {value : Nat} (small : value < 16) : hexDigit value ≠ '\r' := by
  revert value
  decide

theorem isClean_unitEscape (unit : Nat) : IsClean (unitEscape unit) := by
  simp [unitEscape, hexDigit_ne, Nat.mod_lt]

theorem isClean_escapeCode (code : Text.CodePoint) : IsClean (escapeCode code) := by
  cases code with
  | half unit => exact isClean_unitEscape unit
  | char c =>
    rw [escapeCode]
    obtain ⟨letter, written, known⟩ | ⟨written, -, -, printable⟩ | ⟨written, -⟩ :=
      escapeChar_cases c
    · -- No letter stands for a carriage return by itself.
      have other : letter ≠ '\r' := by
        rintro rfl
        cases known
      simp [written, other]
    · have other : c ≠ '\r' := by
        rintro rfl
        exact absurd printable (by decide)
      simp [written, other]
    · rw [written, escapeUnits]
      split <;> simp [isClean_unitEscape]

theorem isClean_quoted (codes : List Text.CodePoint) : IsClean (quoted codes) := by
  have inside : IsClean (codes.flatMap escapeCode) := by
    rw [IsClean, mem_flatMap]
    rintro ⟨code, -, member⟩
    exact isClean_escapeCode code member
  simp [quoted, inside]

theorem isClean_toDigits (n : Nat) : IsClean (Nat.toDigits 10 n) := by
  intro member
  exact absurd (isDigit_toDigits member) (by decide)

theorem isClean_realText (real : Real) : IsClean real.text.toList := by
  cases real with
  | nan => simp [Real.text]
  | infinity negative => cases negative <;> simp [Real.text]
  | finite negative digits exponent =>
    have zeros (count : Int) : IsClean (Real.zeros count).toList := by
      simp [Real.zeros, IsClean, mem_replicate]
    have shown : IsClean (toString digits).toList := by simpa using isClean_toDigits digits
    have front (count : Nat) : IsClean ((Nat.toDigits 10 digits).take count) :=
      fun member => isClean_toDigits digits (mem_of_mem_take member)
    have back (count : Nat) : IsClean ((Nat.toDigits 10 digits).drop count) :=
      fun member => isClean_toDigits digits (mem_of_mem_drop member)
    have signed (body : String) (clean : IsClean body.toList) :
        IsClean (if negative then "-" ++ body else body).toList := by
      cases negative <;> simp [clean]
    -- The four positional forms are made of digits, zeros and a point.
    refine signed _ ?_
    split_ifs
    · simp
    · simp [isClean_toDigits, zeros]
    · simp [front, back]
    · simp [isClean_toDigits, zeros]
    · -- In scientific notation the point is set behind the first digit.
      rw [String.toList_append, String.toList_append]
      refine isClean_append.2 ⟨isClean_append.2 ⟨?_, ?_⟩, ?_⟩
      · split <;> simp_all
      · split <;> simp
      · split <;> simp [isClean_toDigits]

theorem isClean_scalarText (value : Json) : IsClean (scalarText value) := by
  cases value with
  | null | arr | obj | brokenObj => simp [scalarText]
  | bool value => cases value <;> simp [scalarText]
  | int value =>
    rw [scalarText_int]
    refine isClean_append.2 ⟨?_, isClean_toDigits _⟩
    split <;> simp
  | real value => exact isClean_realText value
  | str value => exact isClean_quoted _
  | broken codes => exact isClean_quoted codes

theorem realText_ne_nil (real : Real) : real.text.toList ≠ [] := by
  cases real with
  | nan => simp [Real.text]
  | infinity negative => cases negative <;> simp [Real.text]
  | finite negative digits exponent =>
    unfold Real.text
    simp only
    split_ifs <;> simp

/-! ### Values -/

/-- A closing bracket ends a text of its own. -/
theorem exists_closed {layout : Layout} {depth : Nat} {last : Char} {text after : List Char}
    (cleanLast : last ≠ '\r')
    (inside : ∃ front, text = front ++ (layout.gap depth ++ last :: after) ∧ IsClean front) :
    ∃ whole, text = whole ++ after ∧ whole ≠ [] ∧ IsClean whole := by
  obtain ⟨front, rfl, clean⟩ := inside
  exact ⟨front ++ layout.gap depth ++ [last], by simp, by simp,
    by simp [clean, isClean_gap, cleanLast]⟩

mutual

/-- A value is written as a text of its own in front of what follows. -/
theorem write_eq_append (layout : Layout) (depth : Nat) (value : Json) (after : List Char) :
    ∃ front, write layout depth value after = front ++ after ∧ front ≠ [] ∧ IsClean front := by
  match value with
  | .arr [] => exact ⟨['[', ']'], by simp [write]⟩
  -- The opening bracket belongs to the text that the items are written behind.
  | .arr (item :: items) =>
    rw [write.eq_def]
    exact exists_closed (by decide) (writeItems_eq_append layout (depth + 1) _ (item :: items) _
      (by simp [isClean_gap]))
  | .obj [] | .brokenObj [] => exact ⟨['\x7b', '\x7d'], by simp [write]⟩
  | .obj (field :: fields) =>
    rw [write.eq_def]
    exact exists_closed (by decide) (writeFields_eq_append layout (depth + 1) _ (field :: fields) _
      (by simp [isClean_gap]))
  | .brokenObj (field :: fields) =>
    rw [write.eq_def]
    exact exists_closed (by decide) (writeBroken_eq_append layout (depth + 1) _ (field :: fields) _
      (by simp [isClean_gap]))
  | .null => exact ⟨_, rfl, by simp [scalarText], isClean_scalarText _⟩
  | .bool value => exact ⟨_, rfl, by cases value <;> simp [scalarText], isClean_scalarText _⟩
  | .int value => exact ⟨_, rfl, by simp [scalarText_int], isClean_scalarText _⟩
  | .real value => exact ⟨_, rfl, realText_ne_nil value, isClean_scalarText _⟩
  | .str value => exact ⟨_, rfl, by simp [scalarText, quotedText, quoted], isClean_scalarText _⟩
  | .broken codes => exact ⟨_, rfl, by simp [scalarText, quoted], isClean_scalarText _⟩

theorem writeItems_eq_append (layout : Layout) (depth : Nat) (before : List Char)
    (items : List Json) (after : List Char) (clean : IsClean before) :
    ∃ front, writeItems layout depth before items after = front ++ after ∧ IsClean front := by
  match items with
  | [] => exact ⟨[], rfl, isClean_nil⟩
  | item :: rest =>
    obtain ⟨others, written, cleanOthers⟩ := writeItems_eq_append layout depth (layout.comma depth)
      rest after (isClean_comma layout depth)
    obtain ⟨own, writtenOwn, -, cleanOwn⟩ := write_eq_append layout depth item (others ++ after)
    refine ⟨before ++ own ++ others, ?_, by simp [clean, cleanOwn, cleanOthers]⟩
    rw [writeItems, written, writtenOwn]
    simp

theorem writeFields_eq_append (layout : Layout) (depth : Nat) (before : List Char)
    (fields : List (String × Json)) (after : List Char) (clean : IsClean before) :
    ∃ front, writeFields layout depth before fields after = front ++ after ∧ IsClean front := by
  match fields with
  | [] => exact ⟨[], rfl, isClean_nil⟩
  | (key, value) :: rest =>
    obtain ⟨others, written, cleanOthers⟩ := writeFields_eq_append layout depth (layout.comma depth)
      rest after (isClean_comma layout depth)
    obtain ⟨own, writtenOwn, -, cleanOwn⟩ := write_eq_append layout depth value (others ++ after)
    refine ⟨before ++ quotedText key ++ ':' :: ' ' :: own ++ others, ?_,
      by simp [clean, cleanOwn, cleanOthers, quotedText, isClean_quoted]⟩
    rw [writeFields, written, writtenOwn]
    simp

theorem writeBroken_eq_append (layout : Layout) (depth : Nat) (before : List Char)
    (fields : List (List Text.CodePoint × Json)) (after : List Char) (clean : IsClean before) :
    ∃ front, writeBroken layout depth before fields after = front ++ after ∧ IsClean front := by
  match fields with
  | [] => exact ⟨[], rfl, isClean_nil⟩
  | (key, value) :: rest =>
    obtain ⟨others, written, cleanOthers⟩ := writeBroken_eq_append layout depth (layout.comma depth)
      rest after (isClean_comma layout depth)
    obtain ⟨own, writtenOwn, -, cleanOwn⟩ := write_eq_append layout depth value (others ++ after)
    refine ⟨before ++ quoted key ++ ':' :: ' ' :: own ++ others, ?_,
      by simp [clean, cleanOwn, cleanOthers, isClean_quoted]⟩
    rw [writeBroken, written, writtenOwn]
    simp

end

/-! ### Documents that are written to their end -/

namespace Draft

@[simp]
theorem snag_add (text : List Char) (draft : Draft) : (draft.add text).snag = draft.snag := by
  unfold add
  split <;> rfl

theorem snag_stop (snag : Snag) (draft : Draft) : (draft.stop snag).snag ≠ none := by
  unfold stop
  split
  next stopped => exact Option.isSome_iff_ne_none.1 stopped
  next => simp

/-- Something in brackets is written to its end only where there is room for it. -/
theorem isWritable_of_bracket {layout : Layout} {depth room : Nat} {before : List Char}
    {first last : Char} {isEmpty : Bool} {inside : Nat → List Char → Draft → Draft} {draft : Draft}
    {writable : Nat → Bool}
    (done : ((draft.add before).bracket layout depth room first last isEmpty inside).snag = none)
    (empty : isEmpty → ∀ left, writable left)
    (step : ∀ left before draft, (inside left before draft).snag = none →
      draft.snag = none ∧ writable left) :
    draft.snag = none ∧ (0 < room && writable (room - 1)) := by
  cases room with
  | zero => exact absurd done (snag_stop _ _)
  | succ left =>
    cases isEmpty with
    | true => exact ⟨by simpa [bracket] using done, by simp [empty rfl left]⟩
    | false =>
      obtain ⟨earlier, within⟩ := step left _ _ (by simpa [bracket] using done)
      exact ⟨by simpa using earlier, by simp [within]⟩

end Draft

mutual

/-- A value that is written to its end can be written. -/
theorem isWritable_of_push {layout : Layout} {depth room : Nat} {before : List Char} {value : Json}
    {draft : Draft} (done : (Draft.push layout depth room before value draft).snag = none) :
    draft.snag = none ∧ value.isWritable room := by
  match value with
  | .int n =>
    rw [Draft.push] at done
    rw [isWritable, decide_eq_true_eq]
    split at done
    next short => exact ⟨by simpa using done, short⟩
    next => exact absurd done (Draft.snag_stop _ _)
  | .arr items =>
    rw [Draft.push] at done
    rw [isWritable]
    exact Draft.isWritable_of_bracket done (by cases items <;> simp [areWritable])
      fun _ _ _ => areWritable_of_push
  | .obj fields =>
    rw [Draft.push] at done
    rw [isWritable]
    exact Draft.isWritable_of_bracket done (by cases fields <;> simp [fieldsAreWritable])
      fun _ _ _ => fieldsAreWritable_of_push
  | .brokenObj fields =>
    rw [Draft.push] at done
    rw [isWritable]
    exact Draft.isWritable_of_bracket done (by cases fields <;> simp [brokenAreWritable])
      fun _ _ _ => brokenAreWritable_of_push
  | .null | .bool _ | .real _ | .str _ | .broken _ =>
    rw [Draft.push] at done
    exact ⟨by simpa using done, by rw [isWritable]⟩

theorem areWritable_of_push {layout : Layout} {depth room : Nat} {before : List Char}
    {items : List Json} {draft : Draft}
    (done : (Draft.pushItems layout depth room before items draft).snag = none) :
    draft.snag = none ∧ areWritable room items := by
  match items with
  | [] => exact ⟨done, rfl⟩
  | item :: rest =>
    rw [Draft.pushItems] at done
    obtain ⟨earlier, restWritable⟩ := areWritable_of_push done
    obtain ⟨earlier, writable⟩ := isWritable_of_push earlier
    exact ⟨earlier, by simp [areWritable, writable, restWritable]⟩

theorem fieldsAreWritable_of_push {layout : Layout} {depth room : Nat} {before : List Char}
    {fields : List (String × Json)} {draft : Draft}
    (done : (Draft.pushFields layout depth room before fields draft).snag = none) :
    draft.snag = none ∧ fieldsAreWritable room fields := by
  match fields with
  | [] => exact ⟨done, rfl⟩
  | (key, value) :: rest =>
    rw [Draft.pushFields] at done
    obtain ⟨earlier, restWritable⟩ := fieldsAreWritable_of_push done
    obtain ⟨earlier, writable⟩ := isWritable_of_push earlier
    exact ⟨by simpa using earlier, by simp [fieldsAreWritable, writable, restWritable]⟩

theorem brokenAreWritable_of_push {layout : Layout} {depth room : Nat} {before : List Char}
    {fields : List (List Text.CodePoint × Json)} {draft : Draft}
    (done : (Draft.pushBroken layout depth room before fields draft).snag = none) :
    draft.snag = none ∧ brokenAreWritable room fields := by
  match fields with
  | [] => exact ⟨done, rfl⟩
  | (key, value) :: rest =>
    rw [Draft.pushBroken] at done
    obtain ⟨earlier, restWritable⟩ := brokenAreWritable_of_push done
    obtain ⟨earlier, writable⟩ := isWritable_of_push earlier
    exact ⟨by simpa using earlier, by simp [brokenAreWritable, writable, restWritable]⟩

end

/-- A document without a snag holds all of a value that can be written. -/
theorem chars_draft {layout : Layout} {value : Json} (done : (value.draft layout).snag = none) :
    value.isWritable maxWrittenDepth ∧ (value.draft layout).chars = value.write layout 0 [] := by
  unfold draft at done ⊢
  split at done
  next writable => exact ⟨writable, by simp [writable, Draft.chars]⟩
  next unwritable => exact absurd (isWritable_of_push done).2 unwritable

/-- Documents have no line ends that reading would unify. -/
theorem clean_draft {layout : Layout} {value : Json} (done : (value.draft layout).snag = none) :
    '\r' ∉ (value.draft layout).chars := by
  obtain ⟨-, written⟩ := chars_draft done
  obtain ⟨front, same, -, clean⟩ := write_eq_append layout 0 value []
  rw [written, same, append_nil]
  exact clean

end SyntaxGraph.Json
