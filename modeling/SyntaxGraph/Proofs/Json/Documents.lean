import Mathlib.Data.List.Nodup
import SyntaxGraph.Proofs.Json.Writing

/-!
# Documents that read back

Main statement: a document that was written to its end reads back as the value it was written for,
in either layout. The value has to be one that reading can give at all: no key is repeated, strings
and keys count as broken only if they are, and doubles have the digits they are kept with. Reading
goes by fuel; so does the proof, with one statement each for values, items and fields.
-/
namespace SyntaxGraph.Json

open List
open Text (CodePoint)

/-! ### Regular values -/

def hasDistinctKeys {κ : Type} [DecidableEq κ] (fields : List (κ × Json)) : Bool :=
  decide (fields.map (·.1)).Nodup

mutual

/-- Whether a value has the form in which it is read. -/
def isRegular : Json → Bool
  | .null | .bool _ | .int _ | .str _ => true
  | .real value => value.isCanonical
  | .broken codes => isSeparate codes && (Text.ofCodePoints? codes).isNone
  | .arr items => areRegular items
  | .obj fields => hasDistinctKeys fields && fieldsAreRegular fields
  | .brokenObj fields => hasDistinctKeys fields && (fields.mapM wholeField?).isNone &&
      brokenAreRegular fields

/-- Whether the items of an array have the form in which they are read. -/
def areRegular : List Json → Bool
  | [] => true
  | item :: rest => isRegular item && areRegular rest

/-- Whether the fields of an object have the form in which they are read. -/
def fieldsAreRegular : List (String × Json) → Bool
  | [] => true
  | (_, value) :: rest => isRegular value && fieldsAreRegular rest

/-- Whether the fields of an object with broken keys have the form in which they are read. -/
def brokenAreRegular : List (List CodePoint × Json) → Bool
  | [] => true
  | (key, value) :: rest => isSeparate key && isRegular value && brokenAreRegular rest

end

def codedFields (fields : List (String × Json)) : List (List CodePoint × Json) :=
  fields.map fun field => (Text.codePoints field.1, field.2)

theorem writeFields_eq (layout : Layout) (depth : Nat) (before : List Char)
    (fields : List (String × Json)) (after : List Char) :
    writeFields layout depth before fields after =
      writeBroken layout depth before (codedFields fields) after := by
  induction fields generalizing before with
  | nil => rfl
  | cons field rest ih =>
    rw [writeFields, ih]
    rfl

theorem ofFields_codedFields (fields : List (String × Json)) :
    ofFields (codedFields fields) = .obj fields := by
  have whole : (codedFields fields).mapM wholeField? = some fields := by
    induction fields with
    | nil => rfl
    | cons field rest ih =>
      rw [codedFields, map_cons, mapM_cons, wholeField?, Text.ofCodePoints?_codePoints]
      rw [codedFields] at ih
      rw [ih]
      rfl
  rw [ofFields, whole]

/-! ### Parts of readable values -/

theorem areRegular_iff {items : List Json} : areRegular items ↔ ∀ item ∈ items, item.isRegular := by
  induction items with
  | nil => simp [areRegular]
  | cons item rest ih => simp [areRegular, ih]

theorem fieldsAreRegular_iff {fields : List (String × Json)} :
    fieldsAreRegular fields ↔ ∀ field ∈ fields, field.2.isRegular := by
  induction fields with
  | nil => simp [fieldsAreRegular]
  | cons field rest ih => simp [fieldsAreRegular, ih]

theorem brokenAreRegular_iff {fields : List (List CodePoint × Json)} :
    brokenAreRegular fields ↔ ∀ field ∈ fields, isSeparate field.1 ∧ field.2.isRegular := by
  induction fields with
  | nil => simp [brokenAreRegular]
  | cons field rest ih => simp [brokenAreRegular, ih]

variable {room : Nat} {blanks text : List Char}

theorem areWritable_iff {items : List Json} :
    areWritable room items ↔ ∀ item ∈ items, item.isWritable room := by
  induction items with
  | nil => simp [areWritable]
  | cons item rest ih => simp [areWritable, ih]

theorem fieldsAreWritable_iff {fields : List (String × Json)} :
    fieldsAreWritable room fields ↔ ∀ field ∈ fields, field.2.isWritable room := by
  induction fields with
  | nil => simp [fieldsAreWritable]
  | cons field rest ih => simp [fieldsAreWritable, ih]

theorem brokenAreWritable_iff {fields : List (List CodePoint × Json)} :
    brokenAreWritable room fields ↔ ∀ field ∈ fields, field.2.isWritable room := by
  induction fields with
  | nil => simp [brokenAreWritable]
  | cons field rest ih => simp [brokenAreWritable, ih]

/-- A value that can be read where there is room for so many brackets inside each other. -/
structure IsReadable (room : Nat) (value : Json) : Prop where
  regular : value.isRegular
  writable : ∃ limit ≤ room, value.isWritable limit

/-- A field that can be read where there is room for so many brackets inside each other. -/
structure IsReadableField (room : Nat) (field : List CodePoint × Json) : Prop where
  key : isSeparate field.1
  value : IsReadable room field.2

theorem IsReadable.arr {items : List Json} (readable : IsReadable room (.arr items)) :
    ∃ left, room = left + 1 ∧ ∀ item ∈ items, IsReadable left item := by
  obtain ⟨regular, limit, below, writable⟩ := readable
  simp only [isRegular, areRegular_iff] at regular
  simp only [isWritable, Bool.and_eq_true, decide_eq_true_eq, areWritable_iff] at writable
  refine ⟨room - 1, by omega, fun item member => ⟨regular item member, limit - 1, by omega, ?_⟩⟩
  exact writable.2 item member

theorem IsReadable.obj {fields : List (String × Json)} (readable : IsReadable room (.obj fields)) :
    ∃ left, room = left + 1 ∧ ∀ field ∈ codedFields fields, IsReadableField left field := by
  obtain ⟨regular, limit, below, writable⟩ := readable
  simp only [isRegular, Bool.and_eq_true, fieldsAreRegular_iff] at regular
  simp only [isWritable, Bool.and_eq_true, decide_eq_true_eq, fieldsAreWritable_iff] at writable
  refine ⟨room - 1, by omega, fun field member => ?_⟩
  obtain ⟨original, known, rfl⟩ := mem_map.1 member
  exact ⟨isSeparate_codePoints _, regular.2 original known, limit - 1, by omega,
    writable.2 original known⟩

theorem IsReadable.brokenObj {fields : List (List CodePoint × Json)}
    (readable : IsReadable room (.brokenObj fields)) :
    ∃ left, room = left + 1 ∧ ∀ field ∈ fields, IsReadableField left field := by
  obtain ⟨regular, limit, below, writable⟩ := readable
  simp only [isRegular, Bool.and_eq_true, brokenAreRegular_iff] at regular
  simp only [isWritable, Bool.and_eq_true, decide_eq_true_eq, brokenAreWritable_iff] at writable
  refine ⟨room - 1, by omega, fun field member => ?_⟩
  obtain ⟨separate, fieldRegular⟩ := regular.2 field member
  exact ⟨separate, fieldRegular, limit - 1, by omega, writable.2 field member⟩

/-! ### Blanks -/

theorem skipBlanks_append (areBlank : ∀ c ∈ blanks, isBlank c) (text : List Char) :
    skipBlanks (blanks ++ text) = skipBlanks text :=
  dropWhile_append_of_pos areBlank

theorem isBlank_gap (layout : Layout) (depth : Nat) : ∀ c ∈ layout.gap depth, isBlank c := by
  cases layout with
  | compact => simp [Layout.gap]
  | indented width =>
    intro c member
    rcases mem_cons.1 member with rfl | space
    · rfl
    · rw [eq_of_mem_replicate space]
      rfl

theorem comma_eq (layout : Layout) (depth : Nat) :
    ∃ blanks, layout.comma depth = ',' :: blanks ∧ ∀ c ∈ blanks, isBlank c := by
  cases layout with
  | compact => exact ⟨[' '], rfl, by simp [isBlank]⟩
  | indented width => exact ⟨_, rfl, isBlank_gap (.indented width) depth⟩

/-- No number goes on at a closing bracket, nor at the gap before it. -/
theorem endsNumber_close (layout : Layout) (depth : Nat) {last : Char}
    (isClose : last = ']' ∨ last = '\x7d') (after : List Char) :
    EndsNumber (layout.gap depth ++ last :: after) := by
  cases layout with
  | compact => rcases isClose with rfl | rfl <;> simp [EndsNumber, Layout.gap]
  | indented width => simp [EndsNumber, Layout.gap]

/-- No value begins with a blank, a closing bracket or a mark of the byte order. -/
theorem value_of_blank {c : Char} (noStart : isBlank c ∨ c = ']' ∨ c = Char.ofNat 0xFEFF)
    (fuel room : Nat) (rest : List Char) :
    value (fuel + 1) room (c :: rest) = refuse .noValue (c :: rest) := by
  have known : c = ' ' ∨ c = '\t' ∨ c = '\n' ∨ c = '\r' ∨ c = ']' ∨ c = Char.ofNat 0xFEFF := by
    simpa [isBlank, or_assoc] using noStart
  rcases known with rfl | rfl | rfl | rfl | rfl | rfl <;>
    simp [value, word?, words, afterWord?, number, magnitude, whole?, spanDigits]

/-- Where a value begins there is neither a blank nor a closing bracket nor a mark of the byte
order. -/
theorem head_of_value {fuel : Nat} {result : Json × List Char}
    (read : value fuel room text = .ok result) :
    skipBlanks text = text ∧ text.head? ≠ some ']' ∧ text.head? ≠ some (Char.ofNat 0xFEFF) := by
  cases fuel with
  | zero => cases read
  | succ fuel =>
    cases text with
    | nil => simp [skipBlanks]
    | cons c rest =>
      have starts : ¬(isBlank c ∨ c = ']' ∨ c = Char.ofNat 0xFEFF) := by
        intro noStart
        rw [value_of_blank noStart] at read
        cases read
      rw [not_or, not_or] at starts
      simpa [skipBlanks, starts.1] using starts.2

theorem head_of_items {fuel : Nat} {result : List Json × List Char}
    (read : items fuel room text = .ok result) :
    skipBlanks text = text ∧ text.head? ≠ some ']' := by
  cases fuel with
  | zero => cases read
  | succ fuel =>
    cases first : value fuel room text with
    | ok found => exact ⟨(head_of_value first).1, (head_of_value first).2.1⟩
    | error refusal =>
      rw [items, first] at read
      cases read

/-! ### Reading by fuel -/

/-- Values are read back with so much fuel, if their texts are not too long for it. -/
def ReadsValues (layout : Layout) (fuel : Nat) : Prop :=
  ∀ (depth room : Nat) (v : Json) (after : List Char), IsReadable room v → EndsNumber after →
    2 * (write layout depth v after).length ≤ fuel + 2 * after.length →
    value fuel room (write layout depth v after) = .ok (v, after)

/-- The items of an array are read back with so much fuel, if their texts are not too long for
it. -/
def ReadsItems (layout : Layout) (fuel : Nat) : Prop :=
  ∀ (depth outer room : Nat) (list : List Json) (after : List Char), list ≠ [] →
    (∀ item ∈ list, IsReadable room item) →
    2 * (writeItems layout depth [] list (layout.gap outer ++ ']' :: after)).length + 1 ≤
      fuel + 2 * (layout.gap outer ++ ']' :: after).length →
    items fuel room (writeItems layout depth [] list (layout.gap outer ++ ']' :: after)) =
      .ok (list, after)

/-- The fields of an object are read back with so much fuel, if their texts are not too long for
it. -/
def ReadsFields (layout : Layout) (fuel : Nat) : Prop :=
  ∀ (depth outer room : Nat) (known list : List (List CodePoint × Json)) (after : List Char),
    list ≠ [] → ((known ++ list).map (·.1)).Nodup → (∀ field ∈ list, IsReadableField room field) →
    2 * (writeBroken layout depth [] list (layout.gap outer ++ '\x7d' :: after)).length + 1 ≤
      fuel + 2 * (layout.gap outer ++ '\x7d' :: after).length →
    fields fuel room known
        (writeBroken layout depth [] list (layout.gap outer ++ '\x7d' :: after)) =
      .ok (known ++ list, after)

section Steps

variable {layout : Layout} {fuel : Nat} {after : List Char}

theorem length_lt_write (layout : Layout) (depth : Nat) (v : Json) (after : List Char) :
    after.length < (write layout depth v after).length := by
  obtain ⟨front, written, some, -⟩ := write_eq_append layout depth v after
  rw [written, length_append]
  have := length_pos_iff.2 some
  omega

theorem length_le_writeItems (layout : Layout) (depth : Nat) (list : List Json)
    (after : List Char) :
    after.length ≤ (writeItems layout depth (layout.comma depth) list after).length := by
  obtain ⟨front, written, -⟩ :=
    writeItems_eq_append layout depth (layout.comma depth) list after (isClean_comma layout depth)
  rw [written, length_append]
  omega

theorem length_le_writeBroken (layout : Layout) (depth : Nat)
    (list : List (List CodePoint × Json)) (after : List Char) :
    after.length ≤ (writeBroken layout depth (layout.comma depth) list after).length := by
  obtain ⟨front, written, -⟩ :=
    writeBroken_eq_append layout depth (layout.comma depth) list after (isClean_comma layout depth)
  rw [written, length_append]
  omega

theorem items_of_close {room : Nat} {text behind after : List Char} {item : Json}
    (own : value fuel room text = .ok (item, behind)) (close : skipBlanks behind = ']' :: after) :
    items (fuel + 1) room text = .ok ([item], after) := by
  rw [items, own]
  simp only [Except.bind, Bind.bind, close]
  rfl

theorem items_of_comma {text behind : List Char} {item : Json} {rest : List Json}
    (own : value fuel room text = .ok (item, ',' :: behind))
    (read : items fuel room (skipBlanks behind) = .ok (rest, after)) :
    items (fuel + 1) room text = .ok (item :: rest, after) := by
  have comma : skipBlanks (',' :: behind) = ',' :: behind := rfl
  rw [items, own]
  simp only [Except.bind, Bind.bind, comma, read]
  rfl

/-- What follows an item: a comma and the other items, or the closing bracket. -/
theorem readsItems_succ (values : ReadsValues layout fuel) (others : ReadsItems layout fuel) :
    ReadsItems layout (fuel + 1) := by
  intro depth outer room list after some readable enough
  generalize closing : layout.gap outer ++ ']' :: after = close at enough ⊢
  obtain ⟨item, rest, rfl⟩ := exists_cons_of_ne_nil some
  have own := values depth room item (writeItems layout depth (layout.comma depth) rest close)
    (readable item (by simp))
  have longer := length_le_writeItems layout depth rest close
  rw [writeItems, nil_append] at enough ⊢
  cases rest with
  | nil =>
    refine items_of_close (own ?_ (by omega)) ?_
    · rw [← closing]
      exact endsNumber_close layout outer (.inl rfl) after
    · rw [← closing]
      exact skipBlanks_append (isBlank_gap layout outer) _
  | cons next more =>
    obtain ⟨blanks, comma, areBlank⟩ := comma_eq layout depth
    have written : writeItems layout depth (layout.comma depth) (next :: more) close =
        ',' :: (blanks ++ writeItems layout depth [] (next :: more) close) := by
      simp [writeItems, comma]
    have shorter := length_lt_write layout depth item
      (writeItems layout depth (layout.comma depth) (next :: more) close)
    rw [written] at own longer enough shorter ⊢
    simp only [length_cons, length_append] at longer shorter
    -- The items behind the comma are shorter, so the fuel is enough for them.
    have read : items fuel room (writeItems layout depth [] (next :: more) close) =
        .ok (next :: more, after) := by
      rw [← closing] at enough longer shorter ⊢
      exact others depth outer room (next :: more) after (by simp)
        (fun i member => readable i (mem_cons_of_mem _ member)) (by omega)
    refine items_of_comma (own (by simp [EndsNumber]) (by simp; omega)) ?_
    rw [skipBlanks_append areBlank, (head_of_items read).1, read]

theorem insert_of_new {known : List (List CodePoint × Json)} {key : List CodePoint}
    (new : key ∉ known.map (·.1)) (item : Json) :
    insert known key item = known ++ [(key, item)] := by
  induction known with
  | nil => rfl
  | cons field rest ih =>
    simp only [map_cons, mem_cons, not_or] at new
    rw [insert, if_neg (Ne.symm new.1), ih new.2]
    rfl

section Field

variable {room : Nat} {known : List (List CodePoint × Json)} {key : List CodePoint}
  {text behind after : List Char} {item : Json} (separate : isSeparate key)

include separate

theorem fields_of_close (own : value fuel room text = .ok (item, behind))
    (close : skipBlanks behind = '\x7d' :: after) :
    fields (fuel + 1) room known (quoted key ++ ':' :: ' ' :: text) =
      .ok (insert known key item, after) := by
  have colon (rest : List Char) : skipBlanks (':' :: rest) = ':' :: rest := rfl
  have start : skipBlanks (' ' :: text) = text := (head_of_value own).1
  rw [quoted, cons_append, cons_append, append_assoc, singleton_append, fields,
    string_escaped separate]
  simp only [Except.bind, Bind.bind, colon, start, own, close]
  rfl

theorem fields_of_comma {result : List (List CodePoint × Json) × List Char}
    (own : value fuel room text = .ok (item, ',' :: behind))
    (read : fields fuel room (insert known key item) (skipBlanks behind) = .ok result) :
    fields (fuel + 1) room known (quoted key ++ ':' :: ' ' :: text) = .ok result := by
  have colon (rest : List Char) : skipBlanks (':' :: rest) = ':' :: rest := rfl
  have comma : skipBlanks (',' :: behind) = ',' :: behind := rfl
  have start : skipBlanks (' ' :: text) = text := (head_of_value own).1
  rw [quoted, cons_append, cons_append, append_assoc, singleton_append, fields,
    string_escaped separate]
  simp only [Except.bind, Bind.bind, colon, start, own, comma, read]

end Field

/-- What follows a field: a comma and the other fields, or the closing bracket. -/
theorem readsFields_succ (values : ReadsValues layout fuel) (others : ReadsFields layout fuel) :
    ReadsFields layout (fuel + 1) := by
  intro depth outer room known list after some distinct readable enough
  generalize closing : layout.gap outer ++ '\x7d' :: after = close at enough ⊢
  obtain ⟨⟨key, item⟩, rest, rfl⟩ := exists_cons_of_ne_nil some
  obtain ⟨separate, itemReadable⟩ := readable (key, item) (by simp)
  have own := values depth room item (writeBroken layout depth (layout.comma depth) rest close)
    itemReadable
  -- The key differs from all before it, so the value goes behind them.
  have new : key ∉ known.map (·.1) := by
    simp only [map_append, map_cons, nodup_append] at distinct
    intro member
    exact distinct.2.2 key member key (by simp) rfl
  have longer := length_le_writeBroken layout depth rest close
  rw [writeBroken] at enough ⊢
  simp only [length_append, length_cons] at enough
  cases rest with
  | nil =>
    rw [← insert_of_new new item]
    refine fields_of_close separate (own ?_ (by omega)) ?_
    · rw [← closing]
      exact endsNumber_close layout outer (.inr rfl) after
    · rw [← closing]
      exact skipBlanks_append (isBlank_gap layout outer) _
  | cons next more =>
    obtain ⟨blanks, comma, areBlank⟩ := comma_eq layout depth
    have written : writeBroken layout depth (layout.comma depth) (next :: more) close =
        ',' :: (blanks ++ writeBroken layout depth [] (next :: more) close) := by
      simp [writeBroken, comma]
    have shorter := length_lt_write layout depth item
      (writeBroken layout depth (layout.comma depth) (next :: more) close)
    rw [written] at own longer enough shorter ⊢
    simp only [length_cons, length_append] at longer shorter
    have start : skipBlanks (writeBroken layout depth [] (next :: more) close) =
        writeBroken layout depth [] (next :: more) close := rfl
    refine fields_of_comma separate (own (by simp [EndsNumber]) (by simp; omega)) ?_
    rw [insert_of_new new item, skipBlanks_append areBlank, start]
    -- The known fields grow by this one, which is why they are arbitrary in the statement.
    have read := others depth outer room (known ++ [(key, item)]) (next :: more) after (by simp)
      (by simpa using distinct) (fun field member => readable field (mem_cons_of_mem _ member))
    rw [closing] at read
    simpa using read (by omega)

theorem value_of_items {blanks inner : List Char} {list : List Json}
    (areBlank : ∀ c ∈ blanks, isBlank c) (read : items fuel room inner = .ok (list, after)) :
    value (fuel + 1) (room + 1) ('[' :: (blanks ++ inner)) = .ok (.arr list, after) := by
  obtain ⟨start, noClose⟩ := head_of_items read
  unfold value
  simp only [skipBlanks_append areBlank, start]
  split
  next none => cases none
  next => simp at noClose
  next same _ =>
    cases same
    rw [read]
    rfl

/-- Fields begin with the opening quote of a key. -/
theorem value_of_fields {blanks inner : List Char} {list : List (List CodePoint × Json)}
    (areBlank : ∀ c ∈ blanks, isBlank c)
    (read : fields fuel room [] ('"' :: inner) = .ok (list, after)) :
    value (fuel + 1) (room + 1) ('\x7b' :: (blanks ++ '"' :: inner)) =
      .ok (ofFields list, after) := by
  have start : skipBlanks ('"' :: inner) = '"' :: inner := rfl
  unfold value
  simp only [skipBlanks_append areBlank, start]
  show (fields fuel room [] ('"' :: inner)).map _ = _
  rw [read]
  rfl

theorem value_of_writeBroken (object : ReadsFields layout fuel) {depth : Nat}
    {list : List (List CodePoint × Json)} (some : list ≠ []) (distinct : (list.map (·.1)).Nodup)
    (readable : ∀ field ∈ list, IsReadableField room field)
    (enough : 2 * (writeBroken layout (depth + 1) ('\x7b' :: layout.gap (depth + 1)) list
      (layout.gap depth ++ '\x7d' :: after)).length ≤ fuel + 1 + 2 * after.length) :
    value (fuel + 1) (room + 1)
        (writeBroken layout (depth + 1) ('\x7b' :: layout.gap (depth + 1)) list
          (layout.gap depth ++ '\x7d' :: after)) =
      .ok (ofFields list, after) := by
  have read := object (depth + 1) depth room [] list after some distinct readable
  obtain ⟨⟨key, item⟩, rest, rfl⟩ := exists_cons_of_ne_nil some
  rw [writeBroken] at enough read ⊢
  simp only [length_append, length_cons, cons_append, append_assoc, nil_append] at enough read ⊢
  exact value_of_fields (isBlank_gap layout (depth + 1)) (read (by omega))

/-- Scalars are read at once, and what is in brackets is read with less fuel. -/
theorem readsValues_succ (list : ReadsItems layout fuel) (object : ReadsFields layout fuel) :
    ReadsValues layout (fuel + 1) := by
  intro depth room v after readable ends enough
  match v with
  | .null => rfl
  | .bool true => rfl
  | .bool false => rfl
  | .int n =>
    obtain ⟨limit, -, writable⟩ := readable.writable
    exact value_int (by simpa [isWritable] using writable) ends fuel room
  | .real r => exact value_real readable.regular ends fuel room
  | .str text =>
    -- A text is read as the code points of its own string.
    have read := value_quoted (isSeparate_codePoints text) after fuel room
    rw [ofCodePoints, Text.ofCodePoints?_codePoints] at read
    exact read
  | .broken codes =>
    have regular := readable.regular
    simp only [isRegular, Bool.and_eq_true, Option.isNone_iff_eq_none] at regular
    have read := value_quoted regular.1 after fuel room
    rw [ofCodePoints, regular.2] at read
    exact read
  | .arr [] =>
    obtain ⟨left, rfl, -⟩ := readable.arr
    rfl
  | .arr (item :: rest) =>
    obtain ⟨left, rfl, parts⟩ := readable.arr
    rw [write, writeItems] at enough ⊢
    -- The bracket takes one unit of fuel, and the items are read with the rest.
    · have read := list (depth + 1) depth left (item :: rest) after (by simp) parts
      rw [writeItems] at read
      simp only [length_append, length_cons, cons_append, nil_append] at enough read ⊢
      exact value_of_items (isBlank_gap layout (depth + 1)) (read (by omega))
    all_goals simp
  | .obj [] =>
    obtain ⟨left, rfl, -⟩ := readable.obj
    rfl
  | .obj (field :: rest) =>
    obtain ⟨left, rfl, parts⟩ := readable.obj
    have regular := readable.regular
    simp only [isRegular, Bool.and_eq_true, hasDistinctKeys, decide_eq_true_eq] at regular
    -- Keys that differ as texts differ as code points.
    have distinct : ((codedFields (field :: rest)).map (·.1)).Nodup := by
      rw [codedFields, map_map]
      have injective : Function.Injective Text.codePoints := fun a b same => by
        simpa [Text.ofCodePoints?_codePoints] using congrArg Text.ofCodePoints? same
      have mapped := regular.1.map injective
      rwa [map_map] at mapped
    rw [write, writeFields_eq] at enough ⊢
    · rw [value_of_writeBroken object (by simp [codedFields]) distinct parts enough,
        ofFields_codedFields]
    all_goals simp
  | .brokenObj [] => cases readable.regular
  | .brokenObj (field :: rest) =>
    obtain ⟨left, rfl, parts⟩ := readable.brokenObj
    have regular := readable.regular
    simp only [isRegular, Bool.and_eq_true, Option.isNone_iff_eq_none, hasDistinctKeys,
      decide_eq_true_eq] at regular
    -- Some key is no text, so the fields come back as they are.
    have whole : ofFields (field :: rest) = .brokenObj (field :: rest) := by
      rw [ofFields, regular.1.2]
    rw [write] at enough ⊢
    · rw [value_of_writeBroken object (by simp) regular.1.1 parts enough, whole]
    all_goals simp

end Steps

/-- Everything is read back with any fuel that its text is not too long for. -/
theorem reads_all (layout : Layout) (fuel : Nat) :
    ReadsValues layout fuel ∧ ReadsItems layout fuel ∧ ReadsFields layout fuel := by
  induction fuel with
  | zero =>
    -- Every text has a character, so without fuel nothing is short enough.
    refine ⟨?_, ?_, ?_⟩
    · intro depth room v after readable ends enough
      have longer := length_lt_write layout depth v after
      omega
    · intro depth outer room list after some readable enough
      obtain ⟨item, rest, rfl⟩ := exists_cons_of_ne_nil some
      have longer := length_le_writeItems layout depth rest (layout.gap outer ++ ']' :: after)
      have shorter := length_lt_write layout depth item
        (writeItems layout depth (layout.comma depth) rest (layout.gap outer ++ ']' :: after))
      rw [writeItems, nil_append] at enough
      omega
    · intro depth outer room known list after some distinct readable enough
      obtain ⟨field, rest, rfl⟩ := exists_cons_of_ne_nil some
      have longer := length_le_writeBroken layout depth rest (layout.gap outer ++ '\x7d' :: after)
      have shorter := length_lt_write layout depth field.2
        (writeBroken layout depth (layout.comma depth) rest (layout.gap outer ++ '\x7d' :: after))
      rw [writeBroken, length_append, length_cons, length_cons] at enough
      omega
  | succ fuel ih =>
    obtain ⟨values, list, object⟩ := ih
    exact ⟨readsValues_succ list object, readsItems_succ values list,
      readsFields_succ values object⟩

theorem parseDocument_draft {layout : Layout} {v : Json} (regular : v.isRegular)
    (done : (v.draft layout).snag = none) :
    parseDocument (v.draft layout).chars = .ok v := by
  obtain ⟨writable, written⟩ := chars_draft done
  rw [written]
  have read := (reads_all layout (2 * (write layout 0 v []).length + 2)).1 0 maxDepth v []
    ⟨regular, maxWrittenDepth, by decide, writable⟩ (by simp [EndsNumber]) (by simp)
  obtain ⟨start, -, unmarked⟩ := head_of_value read
  rw [parseDocument, if_neg unmarked, parse, start, read]
  rfl

end SyntaxGraph.Json
