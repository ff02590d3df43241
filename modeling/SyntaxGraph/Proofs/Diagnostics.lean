import Mathlib.Data.List.Sort
import SyntaxGraph.Proofs.Compilation

/-!
# Reported faults

A source with a fault in its parse tree is not lowered. Main statement: what is reported instead is
one diagnostic for each faulty node that lies inside no other, by line and column, and in pre-order
where these are equal.

A node is named by its address, the list of child numbers that lead to it from the root. Pre-order
is then the lexicographic order of addresses.
-/
namespace SyntaxGraph

open List

/-! ### Topmost faults -/

namespace ParseTree

variable {α : Type} {path : List Nat} {mark : Mark} {root : ParseTree α}

/-- The node at an address. -/
def at? (root : ParseTree α) : List Nat → Option (ParseTree α)
  | [] => some root
  | n :: path => root.children[n]?.bind (·.at? path)

/-- At the address is a faulty node, and none of the nodes above it is faulty. -/
structure IsTopFault (root : ParseTree α) (path : List Nat) (mark : Mark) : Prop where
  present : (root.at? path).map ParseTree.mark = some mark
  faulty : mark.isFaulty
  topmost : ∀ above, above <+: path → above ≠ path → ∀ part, root.at? above = some part →
    ¬part.mark.isFaulty

mutual

/-- The faulty nodes that lie inside no other faulty node with their addresses, in pre-order. -/
def topFaults : ParseTree α → List (List Nat × Mark)
  | .node mark _ children => if mark.isFaulty then [([], mark)] else childFaults 0 children

/-- The topmost faulty nodes of children, which are counted from `n`. -/
def childFaults (n : Nat) : List (ParseTree α) → List (List Nat × Mark)
  | [] => []
  | part :: rest =>
    part.topFaults.map (fun fault => (n :: fault.1, fault.2)) ++ childFaults (n + 1) rest

end

mutual

theorem hasFault_iff (tree : ParseTree α) :
    tree.hasFault ↔ ∃ part ∈ tree.nodes, part.mark.isFaulty := by
  obtain ⟨mark, note, children⟩ := tree
  simp [hasFault, nodes, anyFault_iff children, ParseTree.mark]

theorem anyFault_iff (parts : List (ParseTree α)) :
    anyFault parts ↔ ∃ part ∈ allNodes parts, part.mark.isFaulty := by
  match parts with
  | [] => simp [anyFault, allNodes]
  | part :: rest =>
    simp [anyFault, allNodes, hasFault_iff part, anyFault_iff rest, or_and_right, exists_or]

end

mutual

/-- A tree has a fault if and only if it has a topmost one. -/
theorem topFaults_eq_nil_iff (tree : ParseTree α) :
    tree.topFaults = [] ↔ tree.hasFault = false := by
  obtain ⟨mark, note, children⟩ := tree
  by_cases faulty : mark.isFaulty <;>
    simp [topFaults, hasFault, faulty, childFaults_eq_nil_iff 0 children]

theorem childFaults_eq_nil_iff (n : Nat) (parts : List (ParseTree α)) :
    childFaults n parts = [] ↔ anyFault parts = false := by
  match parts with
  | [] => simp [childFaults, anyFault]
  | part :: rest =>
    simp [childFaults, anyFault, topFaults_eq_nil_iff part, childFaults_eq_nil_iff (n + 1) rest]

end

theorem map_snd_childFaults (n : Nat) (parts : List (ParseTree α)) :
    (childFaults n parts).map Prod.snd = parts.flatMap (·.topFaults.map Prod.snd) := by
  induction parts generalizing n with
  | nil => rfl
  | cons part rest ih => simp [childFaults, ih, Function.comp_def]

/-- Whatever is on the stack, the search reports the topmost faults of the trees on it, one tree
after the other. -/
theorem faultsOn_eq (stack : List (ParseTree α)) :
    faultsOn stack = stack.flatMap (·.topFaults.map Prod.snd) := by
  fun_induction faultsOn stack with
  | case1 => rfl
  | case2 mark note children rest faulty ih => simp [topFaults, faulty, ih]
  | case3 mark note children rest sound below ih =>
    simp [topFaults, sound, ih, map_snd_childFaults]
  | case4 mark note children rest sound clean ih =>
    have none_below := (topFaults_eq_nil_iff _).2 (Bool.eq_false_iff.2 clean)
    rw [flatMap_cons, none_below, ih]
    rfl

theorem mem_childFaults {n : Nat} {parts : List (ParseTree α)} :
    (path, mark) ∈ childFaults n parts ↔ ∃ k part below, path = (n + k) :: below ∧
      parts[k]? = some part ∧ (below, mark) ∈ part.topFaults := by
  induction parts generalizing n with
  | nil => simp [childFaults]
  | cons first rest ih =>
    rw [childFaults, mem_append, ih]
    constructor
    · rintro (member | ⟨k, part, below, rfl, found, member⟩)
      · obtain ⟨⟨below, _⟩, inner, equal⟩ := mem_map.1 member
        cases equal
        exact ⟨0, first, below, rfl, rfl, inner⟩
      · exact ⟨k + 1, part, below, by rw [Nat.add_assoc, Nat.add_comm 1], found, member⟩
    · rintro ⟨k, part, below, rfl, found, member⟩
      cases k with
      | zero =>
        cases found
        exact .inl (mem_map.2 ⟨_, member, rfl⟩)
      | succ k =>
        exact .inr ⟨k, part, below, by rw [Nat.add_assoc, Nat.add_comm 1], found, member⟩

theorem isTopFault_cons_iff {n : Nat} :
    root.IsTopFault (n :: path) mark ↔
      ¬root.mark.isFaulty ∧ ∃ part, root.children[n]? = some part ∧ part.IsTopFault path mark := by
  constructor
  · rintro ⟨present, faulty, topmost⟩
    refine ⟨topmost [] nil_prefix (by simp) root rfl, ?_⟩
    cases found : root.children[n]? with
    | none => simp [at?, found] at present
    | some part =>
      refine ⟨part, rfl, by simpa [at?, found] using present, faulty, ?_⟩
      intro above shorter other inner reached
      refine topmost (n :: above) (cons_prefix_cons.2 ⟨rfl, shorter⟩) (by simpa using other)
        inner ?_
      simpa [at?, found] using reached
  · rintro ⟨sound, part, found, present, faulty, topmost⟩
    refine ⟨by simpa [at?, found] using present, faulty, ?_⟩
    intro above shorter other inner reached
    rcases prefix_cons_iff.1 shorter with rfl | ⟨rest, rfl, inside⟩
    · cases reached
      exact sound
    · exact topmost rest inside (by simpa using other) inner (by simpa [at?, found] using reached)

theorem isTopFault_nil_iff : root.IsTopFault [] mark ↔ root.mark = mark ∧ mark.isFaulty := by
  constructor
  · rintro ⟨present, faulty, -⟩
    exact ⟨Option.some.inj present, faulty⟩
  · rintro ⟨rfl, faulty⟩
    refine ⟨rfl, faulty, fun above shorter other => ?_⟩
    exact absurd (prefix_nil.1 shorter) other

/-- The recursion finds exactly the topmost faults. -/
theorem mem_topFaults_iff : (path, mark) ∈ root.topFaults ↔ root.IsTopFault path mark := by
  induction path generalizing root with
  | nil =>
    obtain ⟨own, note, children⟩ := root
    rw [isTopFault_nil_iff, topFaults]
    by_cases faulty : own.isFaulty
    · simp only [faulty, if_true, mem_singleton, Prod.mk.injEq, true_and, ParseTree.mark]
      exact ⟨fun equal => ⟨equal.symm, equal ▸ faulty⟩, fun holds => holds.1.symm⟩
    · simp only [faulty, Bool.false_eq_true, if_false, mem_childFaults, ParseTree.mark]
      refine iff_of_false (by simp) ?_
      rintro ⟨rfl, also⟩
      exact faulty also
  | cons n path ih =>
    obtain ⟨own, note, children⟩ := root
    rw [isTopFault_cons_iff]
    by_cases faulty : own.isFaulty
    · simp [topFaults, faulty, ParseTree.mark]
    · simp [topFaults, faulty, mem_childFaults, ParseTree.mark, ParseTree.children, ih]

mutual

/-- The recursion meets the topmost faults in pre-order. -/
theorem topFaults_sorted (tree : ParseTree α) : tree.topFaults.Pairwise fun a b => a.1 < b.1 := by
  obtain ⟨mark, note, children⟩ := tree
  rw [topFaults]
  split
  · exact pairwise_singleton _ _
  · exact childFaults_sorted 0 children

theorem childFaults_sorted (n : Nat) (parts : List (ParseTree α)) :
    (childFaults n parts).Pairwise fun a b => a.1 < b.1 := by
  match parts with
  | [] => exact .nil
  | part :: rest =>
    rw [childFaults, pairwise_append, pairwise_map]
    refine ⟨?_, childFaults_sorted (n + 1) rest, ?_⟩
    · exact (topFaults_sorted part).imp fun less => cons_lt_cons_iff.2 (.inr ⟨rfl, less⟩)
    · intro a here b later
      obtain ⟨fault, -, rfl⟩ := mem_map.1 here
      obtain ⟨k, -, below, equal, -, -⟩ := mem_childFaults.1 later
      rw [equal]
      exact cons_lt_cons_iff.2 (.inl (by omega))

end

end ParseTree

/-! ### Order of diagnostics -/

variable {α : Type}

/-- A stable sort by `le` keeps the order of items that come no later than each other. -/
theorem pairwise_mergeSort_stable {le : α → α → Bool} {R : α → α → Prop}
    (trans : ∀ a b c, le a b → le b c → le a c) (total : ∀ a b, le a b || le b a) {items : List α}
    (related : items.Pairwise R) :
    (items.mergeSort le).Pairwise fun a b => le a b ∧ (le b a → R a b) := by
  rw [pairwise_iff_forall_sublist]
  intro a b later
  have sorted : le a b :=
    pairwise_iff_forall_sublist.1 (pairwise_mergeSort trans total items) later
  refine ⟨sorted, fun tied => ?_⟩
  -- The items that are tied with `a` come through the sort as they were.
  let ties (x : α) : Bool := le a x && le x a
  have tiedBoth : ∀ x ∈ items.filter ties, le a x ∧ le x a := by
    intro x member
    simpa [ties] using (mem_filter.1 member).2
  have kept : (items.filter ties).Sublist (items.mergeSort le) := by
    refine sublist_mergeSort trans total ?_ filter_sublist
    refine pairwise_of_forall_mem_list fun x first y second => ?_
    exact trans x a y (tiedBoth x first).2 (tiedBoth y second).1
  have same : items.filter ties = (items.mergeSort le).filter ties := by
    refine List.Sublist.eq_of_length ?_ ?_
    · simpa using kept.filter ties
    · exact ((mergeSort_perm items le).filter ties).length_eq.symm
  have both : [a, b].filter ties = [a, b] := by
    have self : le a a := by simpa using total a a
    simp [ties, self, sorted, tied]
  have before : [a, b].Sublist items := by
    have inside := later.filter ties
    rw [both, ← same] at inside
    exact inside.trans filter_sublist
  exact pairwise_iff_forall_sublist.1 related before

namespace Diagnostic

theorem le_trans (a b c : Diagnostic) (first : a.le b) (second : b.le c) : a.le c := by
  simp only [le, Bool.or_eq_true, Bool.and_eq_true, decide_eq_true_eq, beq_iff_eq] at *
  omega

theorem le_total (a b : Diagnostic) : a.le b || b.le a := by
  simp only [le, Bool.or_eq_true, Bool.and_eq_true, decide_eq_true_eq, beq_iff_eq]
  omega

/-- A fault is reported before another if its line and column come first, or if these are equal and
its node comes first in pre-order. -/
def Precedes (source : Source) (a b : List Nat × Mark) : Prop :=
  let first := ofMark source a.2
  let second := ofMark source b.2
  first.line < second.line ∨ first.line = second.line ∧
    (first.column < second.column ∨ first.column = second.column ∧ a.1 < b.1)

/-- The faults are the topmost ones of a tree, in the order in which they are reported. As no fault
precedes itself, each is there once. -/
structure Reports {α : Type} (source : Source) (root : ParseTree α)
    (faults : List (List Nat × Mark)) : Prop where
  mem_iff : ∀ path mark, (path, mark) ∈ faults ↔ root.IsTopFault path mark
  ordered : faults.Pairwise (Precedes source)

theorem exists_reports (source : Source) (root : ParseTree α) :
    ∃ faults, Reports source root faults ∧
      ofTree source root = faults.map fun fault => ofMark source fault.2 := by
  let le (a b : List Nat × Mark) : Bool := (ofMark source a.2).le (ofMark source b.2)
  have trans : ∀ a b c, le a b → le b c → le a c := fun a b c => le_trans _ _ _
  have total : ∀ a b, le a b || le b a := fun a b => le_total _ _
  refine ⟨root.topFaults.mergeSort le, ⟨fun path mark => ?_, ?_⟩, ?_⟩
  · rw [mem_mergeSort, ParseTree.mem_topFaults_iff]
  -- Sorting is stable, so faults at one place stay in the order of the tree.
  · refine (pairwise_mergeSort_stable trans total root.topFaults_sorted).imp ?_
    rintro a b ⟨sorted, tied⟩
    simp only [le, Diagnostic.le, Bool.or_eq_true, Bool.and_eq_true, decide_eq_true_eq,
      beq_iff_eq] at sorted tied
    unfold Precedes
    grind
  · have sorted : (root.topFaults.mergeSort le).map (fun fault => ofMark source fault.2) =
        ((ParseTree.faultsOn [root]).map (ofMark source)).mergeSort Diagnostic.le := by
      rw [map_mergeSort (s := Diagnostic.le) fun _ _ _ _ => rfl, ParseTree.faultsOn_eq]
      simp [Function.comp_def]
    rw [sorted, ofTree]
    -- A tree without faults is not searched, and nothing would be found in it.
    split
    next => rfl
    next clean =>
      have none_found := (root.topFaults_eq_nil_iff).2 (Bool.eq_false_iff.2 clean)
      simp [ParseTree.faultsOn_eq, none_found]

theorem ofTree_eq_nil_iff (source : Source) (root : ParseTree α) :
    ofTree source root = [] ↔ root.hasFault = false := by
  obtain ⟨faults, reports, found⟩ := exists_reports source root
  rw [found, map_eq_nil_iff, ← root.topFaults_eq_nil_iff]
  simp only [eq_nil_iff_forall_not_mem, Prod.forall, reports.mem_iff, ParseTree.mem_topFaults_iff]

end Diagnostic

/-! ### Compilation -/

namespace Java

theorem ends_enterUnit (unit : Tree) :
    (enterUnit unit).Ends (fun _ => True) fun cause =>
      ∀ name found, cause ≠ .diagnostics name found := by
  unfold enterUnit
  split
  · exact .fail (by simp)
  · exact (Traced.Ends.emit _).bind fun _ _ => .pure trivial

/-- Lowering and what comes behind it report no diagnostics. -/
theorem ends_of_clean {source : Source} {root : ParseTree α}
    (clean : Diagnostic.ofTree source root = []) (file : Json) :
    (compile file source root).Ends (fun _ => True)
      fun cause => ∀ name found, cause ≠ .diagnostics name found := by
  have lowering : (((lowerUnit source root).mapTrace otherRecord).mapError
      CompileError.lowering).Ends (fun _ => True)
      fun cause => ∀ name found, cause ≠ .diagnostics name found := .mapError (by simp) _
  rw [compile, clean]
  refine lowering.bind fun lowered _ => ?_
  refine (ends_enterUnit lowered).bind fun unit _ => ?_
  exact (Traced.Ends.emit _).bind fun _ _ => .pure trivial

/-- Compilation ends with diagnostics if and only if a node of the parse tree is faulty. Then it
does nothing but report the topmost faults; a missing node is reported as missing whatever its type.
Otherwise it lowers the parse tree and adds constructors. -/
theorem compile_reports_top_faults {α : Type} (file : Json) (source : Source) (root : ParseTree α) :
    ((∃ name found, (compile file source root).result = .error (.diagnostics name found)) ↔
      ∃ part ∈ root.nodes, part.mark.isFaulty) ∧
    ((∃ part ∈ root.nodes, part.mark.isFaulty) →
      ∃ faults, Diagnostic.Reports source root faults ∧
        compile file source root =
          ⟨[frontEndRecord s!"{file.plain}: {faults.length} syntax diagnostics"],
            .error (.diagnostics file (faults.map fun (_, mark) =>
              { Diagnostic.ofMark source mark with
                message := if mark.missing then s!"missing '{mark.type}'"
                  else "syntax error" }))⟩) ∧
    ((∀ part ∈ root.nodes, ¬part.mark.isFaulty) →
      compile file source root = do
        let lowered ← ((lowerUnit source root).mapTrace otherRecord).mapError .lowering
        let unit ← enterUnit lowered
        Traced.emit (frontEndRecord s!"Compiled {file.plain}")
        return unit) := by
  have faulty_iff := root.hasFault_iff
  have clean_iff := Diagnostic.ofTree_eq_nil_iff source root
  by_cases faulty : root.hasFault
  · obtain ⟨faults, reports, found⟩ := Diagnostic.exists_reports source root
    have some_found : Diagnostic.ofTree source root ≠ [] := by simp [clean_iff, faulty]
    have run : compile file source root =
        ⟨[frontEndRecord s!"{file.plain}: {faults.length} syntax diagnostics"],
          .error (.diagnostics file (Diagnostic.ofTree source root))⟩ := by
      have count : faults.length = (Diagnostic.ofTree source root).length := by simp [found]
      rw [count]
      unfold compile
      split
      next clean => exact absurd clean some_found
      next => rfl
    refine ⟨iff_of_true ⟨file, _, by rw [run]⟩ (faulty_iff.1 faulty), fun _ => ?_, ?_⟩
    · exact ⟨faults, reports, by rw [run, found]; rfl⟩
    · intro sound
      obtain ⟨part, member, bad⟩ := faulty_iff.1 faulty
      exact absurd bad (sound part member)
  -- Nothing is faulty, so no diagnostics are left to report.
  · have clean := clean_iff.2 (Bool.eq_false_iff.2 faulty)
    have sound : ¬∃ part ∈ root.nodes, part.mark.isFaulty := fun bad => faulty (faulty_iff.2 bad)
    refine ⟨iff_of_false ?_ sound, fun bad => absurd bad sound, fun _ => ?_⟩
    · rintro ⟨name, found, ended⟩
      have ends := ends_of_clean clean file
      rw [Traced.Ends, ended] at ends
      exact ends name found rfl
    · rw [compile, clean]

/-- An error that starts in the second line and holds another one, a statement without its end in
the first line, and a missing node of the type of errors at the place of the first error. -/
def faultySample : ParseTree Unit :=
  let missing (type : String) (start : Nat) : ParseTree Unit :=
    .node { type, named := true, start, stop := start, missing := true } () []
  part "program" 0 9
    [part "ERROR" 4 9 [part "ERROR" 6 9],
      part "statement" 0 3 [part "identifier" 0 3, missing ";" 3],
      missing "ERROR" 4]

-- The inner error is not reported, and the two faults at one place stay in pre-order.
example : Diagnostic.ofTree (.ofString "éa\nb c d") faultySample =
    [⟨1, 3, "missing ';'"⟩, ⟨2, 1, "syntax error"⟩, ⟨2, 1, "missing 'ERROR'"⟩] := by
  cbv

end Java

end SyntaxGraph
