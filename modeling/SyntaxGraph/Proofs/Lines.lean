import SyntaxGraph.Proofs.Filling
import SyntaxGraph.Proofs.Reloading

/-!
# Line numbers

The line of a position is found by halving the offsets of the newlines. Main statement: every row
that is made in a graph over a text has, at each of its ends, one more than the number of newlines
before as its line, or no line if the position is negative or lines are not counted, and whether
lines are counted makes no other difference to a scan.
-/
namespace SyntaxGraph

open List

/-! ### Searching by halving -/

/-- Early items come before all others, and the first other one is between two indices. -/
structure Encloses (isEarly : Nat → Bool) (items : Array Nat) (low high : Nat) : Prop where
  ordered : low ≤ high
  bounded : high ≤ items.size
  early : ∀ i (inside : i < items.size), i < low → isEarly items[i]
  late : ∀ i (inside : i < items.size), high ≤ i → ¬isEarly items[i]

section

variable {isEarly : Nat → Bool} {items : Array Nat} {low high : Nat}

theorem isEarly_of_le (sorted : items.toList.Pairwise fun a b => isEarly b → isEarly a) {i j : Nat}
    (inside : j < items.size) (ordered : i ≤ j) (early : isEarly items[j]) : isEarly items[i] := by
  obtain before | rfl := Nat.lt_or_eq_of_le ordered
  · exact pairwise_iff_getElem.1 sorted i j (Nat.lt_trans before inside) inside before early
  · exact early

theorem Encloses.bisect (sorted : items.toList.Pairwise fun a b => isEarly b → isEarly a)
    (enclosed : Encloses isEarly items low high) :
    Encloses isEarly items (bisect isEarly items low high) (bisect isEarly items low high) := by
  fun_induction SyntaxGraph.bisect isEarly items low high with
  | case1 low high gap middle early ih =>
    have inside : middle < items.size := by
      have := enclosed.bounded
      omega
    simp only [Array.getElem?_eq_getElem inside, Option.any_some] at early
    -- All items up to the middle are early.
    refine ih ⟨by omega, enclosed.bounded, fun i _ before => ?_, enclosed.late⟩
    exact isEarly_of_le sorted inside (Nat.le_of_lt_succ before) early
  | case2 low high gap middle late ih =>
    have inside : middle < items.size := by
      have := enclosed.bounded
      omega
    simp only [Array.getElem?_eq_getElem inside, Option.any_some] at late
    -- An early item behind the middle would make the middle early.
    refine ih ⟨by omega, Nat.le_of_lt inside, enclosed.early, fun i here behind early => ?_⟩
    exact late (isEarly_of_le sorted here behind early)
  | case3 low high closed =>
    obtain rfl : low = high := Nat.le_antisymm enclosed.ordered (Nat.le_of_not_lt closed)
    exact enclosed

/-- An index before which all items are early and behind which none is counts the early ones. -/
theorem Encloses.countP_eq {n : Nat} (enclosed : Encloses isEarly items n n) :
    items.toList.countP isEarly = n := by
  have early : (items.toList.take n).countP isEarly = n := by
    rw [countP_eq_length.2, length_take_of_le enclosed.bounded]
    intro item member
    obtain ⟨i, before, rfl⟩ := mem_take_iff_getElem.1 member
    exact enclosed.early i (by simp at before; omega) (by omega)
  have late : (items.toList.drop n).countP isEarly = 0 := by
    rw [countP_eq_zero]
    intro item member
    obtain ⟨i, inside, rfl⟩ := mem_drop_iff_getElem.1 member
    exact enclosed.late (n + i) (by simpa [Nat.add_comm] using inside) (Nat.le_add_right n i)
  rw [← take_append_drop n items.toList, countP_append, early, late, Nat.add_zero]

theorem bisect_eq_countP (sorted : items.toList.Pairwise fun a b => isEarly b → isEarly a) :
    bisect isEarly items 0 items.size = items.toList.countP isEarly := by
  have whole : Encloses isEarly items 0 items.size :=
    ⟨Nat.zero_le _, Nat.le_refl _, by omega, by omega⟩
  exact (whole.bisect sorted).countP_eq.symm

end

/-! ### Newlines -/

theorem le_of_mem_newlineOffsets {chars : List Char} {first offset : Nat}
    (member : offset ∈ newlineOffsets first chars) : first ≤ offset := by
  fun_induction newlineOffsets first chars with
  | case1 => simp at member
  | case2 first rest ih =>
    rcases mem_cons.1 member with rfl | later
    · exact Nat.le_refl _
    · exact Nat.le_of_succ_le (ih later)
  | case3 first c rest other ih => exact Nat.le_of_succ_le (ih member)

theorem pairwise_newlineOffsets (first : Nat) (chars : List Char) :
    (newlineOffsets first chars).Pairwise (· < ·) := by
  fun_induction newlineOffsets first chars with
  | case1 => exact .nil
  | case2 first rest ih => exact .cons (fun offset => le_of_mem_newlineOffsets) ih
  | case3 first c rest other ih => exact ih

theorem countP_newlineOffsets (first n : Nat) (chars : List Char) :
    (newlineOffsets first chars).countP (· < first + n) = (chars.take n).count '\n' := by
  induction chars generalizing first n with
  | nil => simp [newlineOffsets]
  | cons c rest ih =>
    cases n with
    | zero =>
      rw [take_zero, count_nil, countP_eq_zero]
      intro offset member early
      have := le_of_mem_newlineOffsets member
      simp at early
      omega
    | succ n =>
      have later := ih (first + 1) n
      rw [Nat.add_assoc, Nat.add_comm 1] at later
      rw [newlineOffsets, take_succ_cons, count_cons, ← later]
      split
      next newline => simp [newline]
      next other => simp [other]

/-- The line at a position of a text, counted from 1, if lines are counted; no line at negative
positions. -/
def lineAt (source : Option String) (lineNumbers : Bool) (position : Int) : Int :=
  match source with
  | none => noPosition
  | some text =>
    if lineNumbers ∧ 0 ≤ position then 1 + (text.toList.take position.toNat).count '\n'
    else noPosition

theorem lineBehind_newlineOffsets (text : String) (n : Nat) :
    lineBehind (fun offset => (offset : Int) < n) (newlineOffsets 0 text.toList).toArray =
      1 + (text.toList.take n).count '\n' := by
  have sorted : (newlineOffsets 0 text.toList).toArray.toList.Pairwise
      fun a b : Nat => decide ((b : Int) < n) → decide ((a : Int) < n) :=
    (pairwise_newlineOffsets 0 text.toList).imp fun before early => by
      simp only [decide_eq_true_eq] at early ⊢
      omega
  rw [lineBehind, bisect_eq_countP sorted, ← countP_newlineOffsets 0 n]
  simp

namespace Graph

theorem lineOf_ofSource (file : Json) (source : Option String) (lineNumbers : Bool)
    (position : Int) :
    (ofSource file source lineNumbers).lineOf position = lineAt source lineNumbers position := by
  unfold lineOf ofSource lineAt
  cases source with
  | none => simp
  | some text =>
    cases lineNumbers with
    | false => simp
    | true =>
      by_cases negative : position < 0
      · simp [negative, Int.not_le.2 negative]
      · obtain ⟨n, rfl⟩ := Int.eq_ofNat_of_zero_le (Int.not_lt.1 negative)
        simpa [negative] using lineBehind_newlineOffsets text n

/-! ### Rows -/

/-- The ends of a row that are integers have the lines at their positions. -/
structure HasLines (line : Int → Int) (row : Row) : Prop where
  start : ∀ n, row.start = .int n → row.startLine = .int (line n)
  stop : ∀ n, row.stop = .int n → row.stopLine = .int (line n)

variable {g : Graph}

theorem eq_lineOf_of_value {position : Json} {line n : Int}
    (found : g.lineOfValue? position = some line) (isInt : position = .int n) :
    line = g.lineOf n := by
  rw [isInt, lineOfValue?_int] at found
  exact (Option.some.inj found).symm

theorem hasLines_step (rows : ∀ row ∈ g.rows, HasLines g.lineOf row) (op : Operation) :
    ∀ row ∈ (g.step op).1.rows, HasLines g.lineOf row :=
  forall_rows_step rows fun _ _ _ _ _ _ _ _ _ starts stops =>
    ⟨fun _ isInt => congrArg Json.int (eq_lineOf_of_value starts isInt),
      fun _ isInt => congrArg Json.int (eq_lineOf_of_value stops isInt)⟩

theorem apply_holder (g : Graph) (base : Json) (accessor : String) (start stop : Int) :
    g.apply base (.holder accessor start stop) =
      (g.step (.holder (.str (Label.ofAccessor accessor)) (.int start) (.int stop))).1 := by
  simp only [apply, step, perform, addHolder?_str]

theorem newlines_apply (g : Graph) (base : Json) (emission : Emission) :
    (g.apply base emission).newlines = g.newlines := by
  cases emission with
  | element | holder | root => rfl
  | edge parent child => exact newlines_link g _ _

theorem hasLines_apply (rows : ∀ row ∈ g.rows, HasLines g.lineOf row) (base : Json)
    (emission : Emission) : ∀ row ∈ (g.apply base emission).rows, HasLines g.lineOf row := by
  cases emission with
  | element kind t => exact hasLines_step rows (.element (.str kind) t)
  | holder accessor start stop =>
    rw [apply_holder]
    exact hasLines_step rows _
  | edge parent child =>
    rw [apply, link]
    split <;> exact rows
  | root node => exact rows

/-- A graph whose lines are found by given newlines, with the rows that show them. -/
structure ShowsLines (newlines : Option (Array Nat)) (g : Graph) : Prop where
  newlines : g.newlines = newlines
  rows : ∀ row ∈ g.rows, HasLines g.lineOf row

theorem lineOf_congr {h : Graph} (same : h.newlines = g.newlines) : h.lineOf = g.lineOf := by
  funext position
  rw [lineOf, lineOf, same]

namespace ShowsLines

variable {newlines : Option (Array Nat)}

/-- A change keeps the lines if it keeps the newlines and gives new rows the lines of the graph. -/
theorem change (shown : ShowsLines newlines g) {h : Graph} (same : h.newlines = g.newlines)
    (rows : ∀ row ∈ h.rows, HasLines g.lineOf row) : ShowsLines newlines h :=
  ⟨same.trans shown.newlines, by rwa [lineOf_congr same]⟩

theorem applyAll (shown : ShowsLines newlines g) (emissions : List Emission) :
    ShowsLines newlines (g.applyAll emissions) := by
  -- The identities of the emissions count from the same base all along.
  unfold Graph.applyAll
  generalize g.nextId = base
  induction emissions generalizing g with
  | nil => exact shown
  | cons first rest ih =>
    exact ih (shown.change (newlines_apply g base first) (hasLines_apply shown.rows base first))

theorem scan (shown : ShowsLines newlines g) (t : Tree) : ShowsLines newlines (g.scan t).1 := by
  cases root : g.root with
  | some id =>
    rw [Graph.scan, root]
    exact shown
  | none =>
    rw [scan_of_rootless root]
    exact shown.applyAll t.scan.trace

end ShowsLines

/-- The graphs that operations and scans make of a graph. -/
inductive Reaches (start : Graph) : Graph → Prop
  | refl : Reaches start start
  | step {g : Graph} (reached : Reaches start g) (op : Operation) : Reaches start (g.step op).1
  | scan {g : Graph} (reached : Reaches start g) (t : Tree) : Reaches start (g.scan t).1

theorem Reaches.showsLines {start : Graph} (empty : start.rows = []) (reached : start.Reaches g) :
    ShowsLines start.newlines g := by
  induction reached with
  | refl => exact ⟨rfl, by simp [empty]⟩
  | step _ op ih => exact ih.change (source_step _ op).2 (hasLines_step ih.rows op)
  | scan _ t ih => exact ih.scan t

theorem lineAt_mono (source : Option String) (lineNumbers : Bool) {m n : Int} (nonneg : 0 ≤ m)
    (ordered : m ≤ n) : lineAt source lineNumbers m ≤ lineAt source lineNumbers n := by
  unfold lineAt
  cases source with
  | none => exact Int.le_refl _
  | some text =>
    cases lineNumbers with
    | false => simp
    | true =>
      have longer : text.toList.take m.toNat <+: text.toList.take n.toNat :=
        take_prefix_take_left (Int.toNat_le_toNat ordered)
      have more := longer.sublist.count_le '\n'
      simp only [nonneg, Int.le_trans nonneg ordered, and_self, if_true]
      omega

/-! ### Graphs without lines -/

end Graph

def Row.withoutLines (row : Row) : Row :=
  { row with startLine := .int noPosition, stopLine := .int noPosition }

namespace Graph

/-- The graph whose rows have no lines and get none. -/
def withoutLines (g : Graph) : Graph :=
  { g with newlines := none, rows := g.rows.map Row.withoutLines }

theorem putRow_withoutLines (row : Row) (rows : List Row) :
    putRow row.withoutLines (rows.map Row.withoutLines) =
      (putRow row rows).map Row.withoutLines := by
  induction rows with
  | nil => rfl
  | cons first rest ih =>
    have same : first.withoutLines.id.same row.withoutLines.id = first.id.same row.id := rfl
    rw [map_cons, putRow, putRow, ih, apply_ite (List.map Row.withoutLines)]
    rfl

theorem addRow_withoutLines (g : Graph) (type : RowType) (contents start stop : Json)
    (startLine stopLine : Int) :
    g.withoutLines.addRow type contents start stop noPosition noPosition =
      (g.addRow type contents start stop startLine stopLine).withoutLines := by
  simp only [addRow, withoutLines, ← putRow_withoutLines]
  rfl

/-- An emission makes of a graph without lines what it makes of the graph, without lines. -/
theorem apply_withoutLines (g : Graph) (base : Json) (emission : Emission) :
    g.withoutLines.apply base emission = (g.apply base emission).withoutLines := by
  cases emission with
  | element kind t =>
    have rows := addRow_withoutLines g .element (.str kind) (.int t.start) (.int t.stop)
      (g.lineOf t.start) (g.lineOf t.stop)
    exact congrArg (fun h : Graph => { h with trees := g.trees ++ [(g.nextId, t)] }) rows
  | holder accessor start stop => exact addRow_withoutLines g _ _ _ _ _ _
  | edge parent child =>
    rw [apply, apply, link, link, apply_ite withoutLines]
    rfl
  | root node => rfl

theorem applyAll_withoutLines (g : Graph) (emissions : List Emission) :
    g.withoutLines.applyAll emissions = (g.applyAll emissions).withoutLines := by
  rw [applyAll, applyAll, show g.withoutLines.nextId = g.nextId from rfl]
  generalize g.nextId = base
  induction emissions generalizing g with
  | nil => rfl
  | cons first rest ih => rw [foldl_cons, foldl_cons, apply_withoutLines, ih]

theorem scan_withoutLines (g : Graph) (t : Tree) :
    g.withoutLines.scan t = ((g.scan t).1.withoutLines, (g.scan t).2) := by
  cases root : g.root with
  | some id =>
    rw [scan, scan, show g.withoutLines.root = some id from root, root]
  | none =>
    rw [scan_of_rootless root, scan_of_rootless (g := g.withoutLines) root, applyAll_withoutLines]

theorem ofSource_false (file : Json) (source : Option String) :
    ofSource file source false = (ofSource file source true).withoutLines := rfl

/-- In every graph that operations and scans make of an empty one over a source, a row has at each
end that is an integer one more than the number of newlines before as its line, also behind the end
of the text, and no line if the end is negative or lines are not counted; so a row that starts at a
position does not end on an earlier line if it does not end earlier. A scan that counts lines and
one that does not differ in lines only. -/
theorem lines_of_reaches (file : Json) (source : Option String) :
    (∀ lineNumbers g, (ofSource file source lineNumbers).Reaches g → ∀ row ∈ g.rows,
      HasLines (lineAt source lineNumbers) row ∧
      ∀ m n : Int, row.start = .int m → row.stop = .int n → 0 ≤ m → m ≤ n →
        ∃ first last : Int, row.startLine = .int first ∧ row.stopLine = .int last ∧ first ≤ last) ∧
    ∀ t, (ofSource file source false).scan t =
      (((ofSource file source true).scan t).1.withoutLines,
        ((ofSource file source true).scan t).2) := by
  refine ⟨fun lineNumbers g reached row member => ?_, fun t => ?_⟩
  · have shown := reached.showsLines rfl
    have found : g.lineOf = lineAt source lineNumbers := by
      rw [lineOf_congr shown.newlines]
      funext position
      exact lineOf_ofSource file source lineNumbers position
    have lined := shown.rows row member
    rw [found] at lined
    exact ⟨lined, fun m n starts stops nonneg ordered => ⟨_, _, lined.start m starts,
      lined.stop n stops, lineAt_mono source lineNumbers nonneg ordered⟩⟩
  · rw [ofSource_false, scan_withoutLines]

def gappedText : String := "a\n\nb"

/-- A row that starts on a newline of `gappedText` and ends behind its end. -/
def overlong : Operation := .holder (.str "overlong") (.int 2) (.int 9)

theorem lines_of_overlong :
    ∃ row ∈ ((ofSource .null (some gappedText) true).step overlong).1.rows,
      row.start = .int 2 ∧ row.stop = .int 9 ∧ row.startLine = .int 2 ∧ row.stopLine = .int 3 := by
  have made : ∃ row ∈ ((ofSource .null (some gappedText) true).step overlong).1.rows,
      row.start = .int 2 ∧ row.stop = .int 9 := by decide +kernel
  obtain ⟨row, member, starts, stops⟩ := made
  obtain ⟨lined, -⟩ := (lines_of_reaches .null (some gappedText)).1 true _ (.step .refl overlong)
    row member
  exact ⟨row, member, starts, stops, lined.start 2 starts, lined.stop 9 stops⟩

end Graph

end SyntaxGraph
