import Mathlib.Data.List.Infix
import SyntaxGraph.Extraction.Ignore
import SyntaxGraph.Files.System

/-!
# Paths and their texts

A path that was read from a text has parts without slashes, none of which is empty or a single dot.
Such a path is read again from its own text, so its text tells it from all others. A path below
another one has a text that goes on from the text of the other, so it can only be longer.
-/
namespace SyntaxGraph

open List

/-! ### Pieces between slashes -/

theorem splitSlashes_ne_nil (chars : List Char) : splitSlashes chars ≠ [] := by
  cases chars with
  | nil => simp [splitSlashes]
  | cons c rest =>
    rw [splitSlashes]
    split
    · simp
    · split <;> simp

theorem slashless_of_splitSlashes {chars piece : List Char} (member : piece ∈ splitSlashes chars) :
    '/' ∉ piece := by
  induction chars generalizing piece with
  | nil => simp_all [splitSlashes]
  | cons c rest ih =>
    rw [splitSlashes] at member
    split at member
    next =>
      rcases mem_cons.1 member with rfl | later
      · simp
      · exact ih later
    next other =>
      split at member
      next none => exact absurd none (splitSlashes_ne_nil rest)
      next first others same =>
        rw [same] at ih
        rcases mem_cons.1 member with rfl | later
        · simpa [Ne.symm other] using ih (mem_cons_self ..)
        · exact ih (mem_cons_of_mem _ later)

theorem splitSlashes_of_slashless {piece : List Char} (clean : '/' ∉ piece) :
    splitSlashes piece = [piece] := by
  induction piece with
  | nil => rfl
  | cons c rest ih =>
    rw [mem_cons, not_or] at clean
    rw [splitSlashes, if_neg (Ne.symm clean.1), ih clean.2]

theorem splitSlashes_append {piece : List Char} (clean : '/' ∉ piece) (rest : List Char) :
    splitSlashes (piece ++ '/' :: rest) = piece :: splitSlashes rest := by
  induction piece with
  | nil => simp [splitSlashes]
  | cons c others ih =>
    rw [mem_cons, not_or] at clean
    rw [cons_append, splitSlashes, if_neg (Ne.symm clean.1), ih clean.2]

/-- Pieces that are joined by slashes are found again. -/
theorem splitSlashes_intercalate {pieces : List (List Char)} (some : pieces ≠ [])
    (clean : ∀ piece ∈ pieces, '/' ∉ piece) : splitSlashes (['/'].intercalate pieces) = pieces := by
  induction pieces with
  | nil => exact absurd rfl some
  | cons piece rest ih =>
    obtain ⟨here, later⟩ := forall_mem_cons.1 clean
    cases rest with
    | nil => simpa using splitSlashes_of_slashless here
    | cons next others =>
      rw [intercalate_cons_cons, append_assoc, singleton_append,
        splitSlashes_append here, ih (by simp) later]

theorem intercalate_append {front back : List (List Char)} (first : front ≠ [])
    (second : back ≠ []) :
    ['/'].intercalate (front ++ back) =
      ['/'].intercalate front ++ '/' :: ['/'].intercalate back := by
  induction front with
  | nil => exact absurd rfl first
  | cons piece rest ih =>
    cases rest with
    | nil =>
      cases back with
      | nil => exact absurd rfl second
      | cons => simp [intercalate_cons_cons]
    | cons next others =>
      have later := ih (by simp)
      simp only [cons_append, intercalate_cons_cons] at later ⊢
      rw [later]
      simp

/-- Whether a text is the name of an entry in a directory. -/
structure IsEntryName (name : String) : Prop where
  notUp : name ≠ ".."
  notHere : name ≠ "."
  short : name.utf8ByteSize ≤ maxNameBytes
  named : name ≠ ""
  slashless : '/' ∉ name.toList

instance (name : String) : Decidable (IsEntryName name) :=
  decidable_of_iff (name ≠ ".." ∧ name ≠ "." ∧ name.utf8ByteSize ≤ maxNameBytes ∧ name ≠ "" ∧
      '/' ∉ name.toList)
    ⟨fun ⟨notUp, notHere, short, named, slashless⟩ => ⟨notUp, notHere, short, named, slashless⟩,
      fun entry => ⟨entry.notUp, entry.notHere, entry.short, entry.named, entry.slashless⟩⟩

namespace Path

variable {path : Path} {way : List String}

def below (path : Path) (way : List String) : Path := { path with parts := path.parts ++ way }

@[simp]
theorem below_nil (path : Path) : path.below [] = path := by simp [below]

@[simp]
theorem below_below (path : Path) (front back : List String) :
    (path.below front).below back = path.below (front ++ back) := by
  simp [below]

theorem child_eq_below (path : Path) (name : String) : path.child name = path.below [name] := rfl

/-- What lies below a path is reached from it by the rest of its parts. -/
@[simp]
theorem relativeTo?_below (path : Path) (way : List String) :
    (path.below way).relativeTo? path = some { parts := way } := by
  have above : path.parts.isPrefixOf (path.parts ++ way) :=
    isPrefixOf_iff_prefix.2 (prefix_append ..)
  simp [relativeTo?, below, above]

/-! ### Reading the text of a path -/

/-- Whether a path has the form of one that was read. -/
structure IsProper (path : Path) : Prop where
  root : path.root = "" ∨ path.root = "/" ∨ path.root = "//"
  parts : ∀ part ∈ path.parts, part ≠ "" ∧ part ≠ "." ∧ '/' ∉ part.toList

theorem isProper_ofString (text : String) : (ofString text).IsProper where
  root := by
    show rootOf text.toList = "" ∨ rootOf text.toList = "/" ∨ rootOf text.toList = "//"
    unfold rootOf
    split <;> simp
  parts := by
    intro part member
    obtain ⟨listed, kept⟩ := mem_filter.1 member
    obtain ⟨piece, split, rfl⟩ := mem_map.1 listed
    rw [Bool.and_eq_true, decide_eq_true_eq, decide_eq_true_eq] at kept
    refine ⟨kept.1, kept.2, ?_⟩
    simpa using slashless_of_splitSlashes split

theorem IsProper.below (proper : path.IsProper) (names : ∀ name ∈ way, IsEntryName name) :
    (path.below way).IsProper where
  root := proper.root
  parts := by
    intro part member
    rcases mem_append.1 member with old | new
    · exact proper.parts part old
    · exact ⟨(names part new).named, (names part new).notHere, (names part new).slashless⟩

theorem toList_text (some : path.parts ≠ []) :
    path.text.toList = path.root.toList ++ ['/'].intercalate (path.parts.map String.toList) := by
  have listed : path.parts.isEmpty = false := by simpa using some
  rw [text, listed, Bool.and_false, if_neg Bool.false_ne_true, String.toList_append,
    String.toList_intercalate]
  rfl

theorem rootOf_append {root : String} (known : root = "" ∨ root = "/" ∨ root = "//")
    {chars : List Char} (clean : ∀ c ∈ chars.head?, c ≠ '/') :
    rootOf (root.toList ++ chars) = root := by
  cases chars with
  | nil => rcases known with rfl | rfl | rfl <;> rfl
  | cons c rest =>
    have other : c ≠ '/' := clean c rfl
    rcases known with rfl | rfl | rfl <;> simp [rootOf, other]

theorem splitSlashes_root_append {root : String} (known : root = "" ∨ root = "/" ∨ root = "//")
    (chars : List Char) : ∃ empties, (∀ piece ∈ empties, piece = []) ∧
      splitSlashes (root.toList ++ chars) = empties ++ splitSlashes chars := by
  rcases known with rfl | rfl | rfl
  · exact ⟨[], by simp, rfl⟩
  · exact ⟨[[]], by simp, rfl⟩
  · exact ⟨[[], []], by simp, rfl⟩

theorem ofString_text (proper : path.IsProper) : ofString path.text = path := by
  obtain ⟨root, parts⟩ := path
  cases parts with
  | nil => rcases proper.root with rfl | rfl | rfl <;> decide
  | cons first rest =>
    have cleanParts := proper.parts
    have joined : (Path.mk root (first :: rest)).text.toList =
        root.toList ++ ['/'].intercalate ((first :: rest).map String.toList) :=
      toList_text (cons_ne_nil _ _)
    -- The first part begins with a character that is no slash, so the root ends there.
    have opens : ∀ c ∈ (['/'].intercalate ((first :: rest).map String.toList)).head?, c ≠ '/' := by
      obtain ⟨named, -, clean⟩ := cleanParts first (mem_cons_self ..)
      cases chars : first.toList with
      | nil => exact absurd (String.toList_eq_nil_iff.1 chars) named
      | cons c others =>
        rw [chars, mem_cons, not_or] at clean
        cases rest <;> simpa [intercalate_cons_cons, chars] using Ne.symm clean.1
    obtain ⟨empties, blank, pieces⟩ := splitSlashes_root_append proper.root
      (['/'].intercalate ((first :: rest).map String.toList))
    have found : splitSlashes (['/'].intercalate ((first :: rest).map String.toList)) =
        (first :: rest).map String.toList := by
      refine splitSlashes_intercalate (by simp) ?_
      intro piece member
      obtain ⟨part, listed, rfl⟩ := mem_map.1 member
      exact (cleanParts part listed).2.2
    have dropped : (empties.map String.ofList).filter
        (fun part => decide (part ≠ "") && decide (part ≠ ".")) = [] := by
      rw [filter_eq_nil_iff]
      intro part member
      obtain ⟨piece, listed, rfl⟩ := mem_map.1 member
      simp [blank piece listed]
    have kept : (first :: rest).filter
        (fun part => decide (part ≠ "") && decide (part ≠ ".")) = first :: rest := by
      rw [filter_eq_self]
      intro part member
      simp [(cleanParts part member).1, (cleanParts part member).2.1]
    rw [ofString, joined, rootOf_append proper.root opens, pieces, found, map_append,
      filter_append, dropped]
    simpa [Function.comp_def] using kept

/-- Ways are told apart by their texts. -/
theorem text_injective {other : List String} (names : ∀ name ∈ way, IsEntryName name)
    (others : ∀ name ∈ other, IsEntryName name)
    (same : ({ parts := way } : Path).text = ({ parts := other } : Path).text) : way = other := by
  have nowhere : ({} : Path).IsProper := ⟨.inl rfl, by simp⟩
  have first := ofString_text (nowhere.below names)
  have second := ofString_text (nowhere.below others)
  simp only [below, nil_append] at first second
  rw [same, second] at first
  exact (congrArg Path.parts first).symm

/-! ### Texts that are too long -/

/-- The text of a path begins the texts of what is below. -/
theorem text_below (some : path.parts ≠ []) (name : String) (rest : List String) :
    (path.below (name :: rest)).text = path.text ++ ("/" ++ "/".intercalate (name :: rest)) := by
  have longer : (path.below (name :: rest)).parts ≠ [] := by simp [below]
  apply String.toList_inj.1
  rw [String.toList_append, toList_text longer, toList_text some, String.toList_append]
  have parts : (path.below (name :: rest)).parts = path.parts ++ name :: rest := rfl
  rw [parts, append_assoc]
  congr 1
  simpa using intercalate_append (by simpa using some) (cons_ne_nil name.toList _)

theorem exists_text_below (some : path.parts ≠ []) (way : List String) :
    ∃ more, (path.below way).text = path.text ++ more := by
  cases way with
  | nil => exact ⟨"", by simp⟩
  | cons name rest => exact ⟨_, text_below some name rest⟩

/-- What can be a path still can without its end. -/
theorem checkPathText_of_below (some : path.parts ≠ []) (way : List String)
    (checked : checkPathText (path.below way).text = .ok ()) :
    checkPathText path.text = .ok () := by
  obtain ⟨more, longer⟩ := exists_text_below some way
  rw [longer] at checked
  unfold checkPathText at checked ⊢
  split at checked
  next => cases checked
  next whole =>
    split at checked
    next => cases checked
    next short =>
      rw [String.toList_append, contains_append, Bool.or_eq_true, not_or] at whole
      rw [String.utf8ByteSize_append] at short
      rw [if_neg whole.1, if_neg (by omega)]

end Path

end SyntaxGraph
