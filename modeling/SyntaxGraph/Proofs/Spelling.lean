import SyntaxGraph.Proofs.Conformance
import SyntaxGraph.Proofs.Spans.Order

/-!
# Spelled nodes

An identifier or a literal carries the text of its parse node. The text is cut out of the source by
bytes, the span of the node is counted in characters. Main statement: between the offsets of the
span stands the text, however many bytes its characters and those before it take.
-/
namespace SyntaxGraph

open List

/-! ### Bytes and characters -/

@[simp]
theorem charIndex_zero (chars : List Char) : charIndex chars 0 = 0 := by
  cases chars with
  | nil => rfl
  | cons c rest => rw [charIndex, if_pos c.utf8Size_pos]

variable {chars : List Char} {text name key : String}

/-- Behind bytes that end with a character, characters are dropped and the rest is counted anew. -/
theorem dropBytes_eq_some {rest : List Char} {count : Nat}
    (dropped : dropBytes chars count = some rest) :
    rest = chars.drop (charIndex chars count) ∧
      ∀ more, charIndex chars (count + more) = charIndex chars count + charIndex rest more := by
  fun_induction dropBytes chars count with
  | case1 chars =>
    cases dropped
    simp
  | case2 count =>
    cases dropped
    exact ⟨rfl, fun more => rfl⟩
  | case3 c others count fits ih =>
    obtain ⟨same, counted⟩ := ih dropped
    have here : charIndex (c :: others) (count + 1) =
        charIndex others (count + 1 - c.utf8Size) + 1 := by
      rw [charIndex, if_neg (by omega)]
    refine ⟨by rw [here, drop_succ_cons, same], fun more => ?_⟩
    have moved : count + 1 + more - c.utf8Size = count + 1 - c.utf8Size + more := by omega
    rw [here, charIndex, if_neg (by omega), moved, counted]
    omega
  | case4 => cases dropped

theorem takeBytes_eq_some {taken : List Char} {count : Nat}
    (cut : takeBytes chars count = some taken) : taken = chars.take (charIndex chars count) := by
  fun_induction takeBytes chars count generalizing taken with
  | case1 chars =>
    cases cut
    simp
  | case2 count =>
    cases cut
    rfl
  | case3 c others count fits ih =>
    obtain ⟨inner, found, rfl⟩ := Option.map_eq_some_iff.1 cut
    rw [charIndex, if_neg (by omega), take_succ_cons, ih found]
  | case4 => cases cut

/-- What is cut out between two bytes stands between the characters that they belong to. -/
theorem sliceBytes_eq_some {part : List Char} {first last : Nat}
    (cut : sliceBytes chars first last = some part) :
    part = (chars.drop (charIndex chars first)).take
      (charIndex chars last - charIndex chars first) := by
  unfold sliceBytes at cut
  split at cut
  next backwards =>
    cases cut
    have none_between := charIndex_mono chars backwards
    simp [Nat.sub_eq_zero_of_le none_between]
  next forwards =>
    obtain ⟨rest, dropped, taken⟩ := Option.bind_eq_some_iff.1 cut
    obtain ⟨same, counted⟩ := dropBytes_eq_some dropped
    have there := counted (last - first)
    rw [Nat.add_sub_cancel' (by omega)] at there
    rw [takeBytes_eq_some taken, there, Nat.add_sub_cancel_left, same]

theorem charIndex_of_offset? {byte offset : Nat}
    (found : (Source.ofString text).offset? byte = some offset) :
    charIndex text.toList byte = min offset text.toList.length := by
  have bounded := charIndex_le_length text.toList byte
  rw [Source.offset?_eq] at found
  split at found
  next ascii =>
    cases found
    have single : ∀ c ∈ text.toList, c.utf8Size = 1 := by simpa [Source.ofString] using ascii
    have whole := charIndex_byteLength text.toList
    rw [charIndex_of_ascii single (Nat.le_refl _)] at whole
    by_cases inside : byte ≤ byteLength text.toList
    · rw [charIndex_of_ascii single inside]
      omega
    · have behind := charIndex_mono text.toList (Nat.le_of_not_le inside)
      rw [charIndex_of_ascii single (Nat.le_refl _)] at behind
      omega
  next =>
    obtain ⟨-, ⟨⟩⟩ := Option.ite_none_right_eq_some.1 found
    exact (Nat.min_eq_left bounded).symm

theorem slice_of_offsets {first last start stop : Nat} {part : List Char}
    (starts : (Source.ofString text).offset? first = some start)
    (stops : (Source.ofString text).offset? last = some stop)
    (cut : sliceBytes text.toList first last = some part) :
    part = (text.toList.drop start).take (stop - start) := by
  rw [sliceBytes_eq_some cut, charIndex_of_offset? starts, charIndex_of_offset? stops]
  -- Beyond the end there is nothing to drop or to take.
  rcases Nat.le_total start text.toList.length with inside | behind
  · rw [Nat.min_eq_left inside, take_eq_take_iff, length_drop]
    omega
  · rw [Nat.min_eq_right behind, drop_length, drop_eq_nil_of_le behind, take_nil, take_nil]

/-! ### Spelled nodes -/

theorem lookup_insert_of_ne {fields : List (String × Json)} (other : name ≠ key) (value : Json) :
    (Json.insert fields key value).lookup name = fields.lookup name := by
  induction fields with
  | nil => simp [Json.insert, lookup_cons, beq_false_of_ne other]
  | cons field rest ih =>
    obtain ⟨k, v⟩ := field
    rw [Json.insert]
    split
    next same =>
      subst same
      simp [lookup_cons, beq_false_of_ne other]
    next => simp [lookup_cons, ih]

namespace Tree

/-- What a node says about itself apart from its identity and its children. -/
def caption (t : Tree) : Option String × Int × Int × List (String × Json) :=
  (t.kind?, t.start, t.stop, t.head.attributes)

/-- An attribute of the node is the text of the bytes that its span was found from. -/
def Spells (source : Source) (t : Tree) (name : String) : Prop :=
  ∃ first last start stop part, source.offset? first = some start ∧
    source.offset? last = some stop ∧ sliceBytes source.chars first last = some part ∧
      t.start = start ∧ t.stop = stop ∧ t.attribute? name = some (.str (String.ofList part))

/-- An attribute of the node is what stands between its offsets in the text. -/
def ShowsText (text : String) (t : Tree) (name : String) : Prop :=
  ∃ start stop : Nat, t.start = start ∧ t.stop = stop ∧
    t.attribute? name = some (.str (String.ofList ((text.toList.drop start).take (stop - start))))

/-- An identifier spells its name, and a literal its value. -/
structure IsSpelled (source : Source) (t : Tree) : Prop where
  identifier : t.kind? = some "IDENTIFIER" → t.Spells source "name"
  literal : ∀ kind ∈ Java.literalKinds, t.kind? = some kind → t.Spells source "value"

variable {source : Source} {t u : Tree}

/-- What a node spells stands between its offsets. -/
theorem Spells.showsText (spells : t.Spells (.ofString text) name) : t.ShowsText text name := by
  obtain ⟨first, last, start, stop, part, starts, stops, cut, isStart, isStop, found⟩ := spells
  exact ⟨start, stop, isStart, isStop, slice_of_offsets starts stops cut ▸ found⟩

/-- What a node spells is seen from its caption. -/
theorem Spells.of_caption (spells : t.Spells source name) (same : u.caption = t.caption) :
    u.Spells source name := by
  simp only [caption, Prod.mk.injEq] at same
  obtain ⟨-, start, stop, attributes⟩ := same
  unfold Spells attribute? at spells ⊢
  rw [start, stop, attributes]
  exact spells

theorem IsSpelled.of_caption (spelled : t.IsSpelled source) (same : u.caption = t.caption) :
    u.IsSpelled source := by
  have kind : u.kind? = t.kind? := congrArg Prod.fst same
  exact ⟨fun own => (spelled.identifier (kind ▸ own)).of_caption same,
    fun name known own => (spelled.literal name known (kind ▸ own)).of_caption same⟩

/-- An attribute under another name does not matter to what a node spells. -/
theorem Spells.withAttribute (spells : t.Spells source name) (other : name ≠ key) (value : Json) :
    (t.withAttribute key value).Spells source name := by
  obtain ⟨head, shape, entries⟩ := t
  obtain ⟨first, last, start, stop, part, starts, stops, cut, isStart, isStop, found⟩ := spells
  refine ⟨first, last, start, stop, part, starts, stops, cut, isStart, isStop, ?_⟩
  rw [← found]
  exact lookup_insert_of_ne other value

theorem isSpelled_withAttribute (spelled : ∀ u ∈ t.nodes, u.IsSpelled source)
    (other : key ∉ ["name", "value"]) (value : Json) :
    ∀ u ∈ (t.withAttribute key value).nodes, u.IsSpelled source := by
  have own := spelled t t.mem_nodes_self
  obtain ⟨head, shape, entries⟩ := t
  simp only [mem_cons, not_mem_nil, or_false, not_or] at other
  refine forall_mem_cons.2 ⟨⟨fun identifier => ?_, fun kind known literal => ?_⟩, ?_⟩
  · exact (own.identifier identifier).withAttribute (Ne.symm other.1) value
  · exact (own.literal kind known literal).withAttribute (Ne.symm other.2) value
  · exact (forall_mem_cons.1 spelled).2

end Tree

/-- Nodes are spelled under new identities too. -/
theorem isSpelled_renumber {source : Source} {t : Tree}
    (spelled : ∀ u ∈ t.nodes, u.IsSpelled source) (next : Nat) :
    ∀ u ∈ (t.renumber next).1.nodes, u.IsSpelled source := by
  refine forall_nodes_renumber (fun u next own => own.of_caption ?_) t spelled next
  obtain ⟨head, shape, entries⟩ := u
  rfl

end SyntaxGraph
