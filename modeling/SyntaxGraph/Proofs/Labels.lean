import SyntaxGraph.Proofs.Filling

/-!
# Labels

The label of an accessor that is made of words is these words in capitals, and the accessor can be
read off it. Labels may be remembered: nobody can tell but by the complaints, of which there is one
for each name that deserves it.
-/
namespace SyntaxGraph.Label

open List

/-! ### Accessors that are made of words -/

/-- A word begins with an ASCII capital; small ASCII letters and digits follow. -/
def isWord (word : String) : Bool :=
  match word.toList with
  | [] => false
  | c :: rest => c.isUpper && rest.all fun c => c.isLower || c.isDigit

def accessor (parts : List String) : String := "get" ++ String.join parts

/-- A word with its letters lowered behind the first. -/
def lowered (word : String) : String :=
  match word.toList with
  | [] => ""
  | c :: rest => String.ofList (c :: (Text.lower (String.ofList rest)).toList)

/-- The accessor that is read off a label, whose words are divided by underscores. -/
def accessorOf (label : String) : String :=
  accessor ((label.toList.splitOn '_').map fun word => lowered (String.ofList word))

variable {word : String} {c : Char} {parts : List String}

theorem exists_of_isWord (isWord : isWord word) :
    ∃ c rest,
    word.toList = c :: rest ∧ c.isUpper ∧ ∀ d ∈ rest, d.isLower || d.isDigit := by
  unfold Label.isWord at isWord
  split at isWord
  next => cases isWord
  next c rest same =>
    simp only [Bool.and_eq_true, all_eq_true] at isWord
    exact ⟨c, rest, same, isWord⟩

theorem of_ascii {P : Char → Prop} (ascii : c.toNat < 128) (each : ∀ n < 128, P (Char.ofNat n)) :
    P c := by
  rw [← Char.ofNat_toNat c]
  exact each c.toNat ascii

theorem ascii_of_le {last : Char} (ascii : last.toNat < 128) (le : c.val ≤ last.val) :
    c.toNat < 128 :=
  Nat.lt_of_le_of_lt (UInt32.le_iff_toNat_le.1 le) ascii

theorem letter_of_isUpper (upper : c.isUpper) :
    ('A' ≤ c ∧ c ≤ 'Z') ∧ Text.isUpper c ∧ c ≠ '_' ∧ Text.upperChar c = [c] := by
  have le : c.val ≤ 'Z'.val := (of_decide_eq_true upper).2
  have ascii := ascii_of_le (by decide) le
  revert upper
  apply of_ascii ascii
  decide

theorem letter_of_isPlain (plain : c.isLower || c.isDigit) :
    Text.isUpper c = false ∧ c ≠ '_' ∧ Text.upperChar c = [c.toUpper] ∧ c.toUpper ≠ '_' ∧
      c.toUpper.toNat ≠ 931 ∧ Text.lowerChar c.toUpper = [c] := by
  have ascii : c.toNat < 128 := by
    rcases Bool.or_eq_true_iff.1 plain with letter | digit
    · have le : c.val ≤ 'z'.val := of_decide_eq_true (Bool.and_eq_true_iff.1 letter).2
      exact ascii_of_le (by decide) le
    · have le : c.val ≤ '9'.val := of_decide_eq_true (Bool.and_eq_true_iff.1 digit).2
      exact ascii_of_le (by decide) le
  revert plain
  apply of_ascii ascii
  decide

/-! ### Underscores -/

/-- No underscore is put among characters that are no capitals. -/
theorem separated_append {part : List Char} (plain : ∀ c ∈ part, Text.isUpper c = false)
    (previous : Char) (rest : List Char) :
    separated previous (part ++ rest) = part ++ separated (part.getLastD previous) rest := by
  induction part generalizing previous with
  | nil => rfl
  | cons c part ih =>
    obtain ⟨own, later⟩ := forall_mem_cons.1 plain
    rw [cons_append, separated, own, ih later c, getLastD_cons]
    rfl

/-- No underscore is put into a word, nor does a word end in one. -/
theorem exists_separated (isWord : isWord word) :
    ∃ c tail last,
    word.toList = c :: tail ∧ c.isUpper ∧ last ≠ '_' ∧
      ∀ rest, separated c (tail ++ rest) = tail ++ separated last rest := by
  obtain ⟨c, tail, same, upper, plain⟩ := exists_of_isWord isWord
  refine ⟨c, tail, tail.getLastD c, same, upper, ?_, separated_append (fun d member =>
    (letter_of_isPlain (plain d member)).1) c⟩
  rcases mem_cons.1 (getLastD_mem_cons (l := tail) (a := c)) with first | behind
  · rw [first]
    exact (letter_of_isUpper upper).2.2.1
  · exact (letter_of_isPlain (plain _ behind)).2.1

/-- One underscore is put before each word that another one precedes. -/
theorem separated_join (each : ∀ word ∈ parts, isWord word) {previous : Char}
    (other : previous ≠ '_') :
    separated previous (parts.flatMap String.toList) =
      parts.flatMap fun word => '_' :: word.toList := by
  induction parts generalizing previous with
  | nil => rfl
  | cons word parts ih =>
    obtain ⟨isWord, later⟩ := forall_mem_cons.1 each
    obtain ⟨c, tail, last, same, upper, closed, inside⟩ := exists_separated isWord
    obtain ⟨-, capital, -⟩ := letter_of_isUpper upper
    rw [flatMap_cons, flatMap_cons, same, cons_append, separated, capital, inside, ih later closed]
    simp [other]

theorem append_flatMap_eq_intercalate (word : List Char) (parts : List (List Char)) :
    word ++ parts.flatMap ('_' :: ·) = ['_'].intercalate (word :: parts) := by
  induction parts generalizing word with
  | nil => simp
  | cons next parts ih =>
    rw [intercalate_cons_cons, ← ih next]
    simp

theorem flatMap_upperChar_intercalate (parts : List (List Char)) :
    (['_'].intercalate parts).flatMap Text.upperChar =
      ['_'].intercalate (parts.map (·.flatMap Text.upperChar)) := by
  cases parts with
  | nil => rfl
  | cons word parts =>
    rw [map_cons, ← append_flatMap_eq_intercalate, ← append_flatMap_eq_intercalate]
    simp [flatMap_assoc, flatMap_map, show Text.upperChar '_' = ['_'] from rfl]

/-- The label of an accessor is its words in capitals. -/
theorem ofAccessor_accessor (some : parts ≠ []) (each : ∀ word ∈ parts, isWord word) :
    ofAccessor (accessor parts) = "_".intercalate (parts.map Text.upper) := by
  cases parts with
  | nil => exact absurd rfl some
  | cons word parts =>
    obtain ⟨isWord, later⟩ := forall_mem_cons.1 each
    obtain ⟨c, tail, last, same, upper, closed, inside⟩ := exists_separated isWord
    have stemmed : stem (accessor (word :: parts)).toList =
        c :: (tail ++ parts.flatMap String.toList) := by
      simp [accessor, same, stem, letter_of_isUpper upper]
    have divided : words (c :: (tail ++ parts.flatMap String.toList)) =
        ['_'].intercalate ((word :: parts).map String.toList) := by
      rw [words, inside, separated_join later closed, map_cons,
        ← append_flatMap_eq_intercalate, same, flatMap_map]
      rfl
    rw [ofAccessor, stemmed, ← String.toList_inj]
    simp only [Text.upper, String.toList_ofList, divided, flatMap_upperChar_intercalate]
    simp [Text.upper, Function.comp_def]

/-! ### Reading labels -/

theorem lowerAfter_map_toUpper {tail : List Char} (plain : ∀ c ∈ tail, c.isLower || c.isDigit)
    (before : List Char) : Text.lowerAfter before (tail.flatMap Text.upperChar) = tail := by
  induction tail generalizing before with
  | nil => rfl
  | cons c tail ih =>
    obtain ⟨own, later⟩ := forall_mem_cons.1 plain
    obtain ⟨-, -, raised, -, other, back⟩ := letter_of_isPlain own
    rw [flatMap_cons, raised, singleton_append, Text.lowerAfter, if_neg other, back, ih later]
    rfl

theorem lowered_upper (isWord : isWord word) :
    '_' ∉ (Text.upper word).toList ∧ lowered (Text.upper word) = word := by
  obtain ⟨c, tail, same, upper, plain⟩ := exists_of_isWord isWord
  obtain ⟨-, -, no, raised⟩ := letter_of_isUpper upper
  have capitals : (Text.upper word).toList = c :: tail.flatMap Text.upperChar := by
    simp [Text.upper, same, raised]
  constructor
  · rw [capitals, mem_cons, mem_flatMap]
    rintro (first | ⟨d, member, behind⟩)
    · exact no first.symm
    · obtain ⟨-, -, raised, other, -⟩ := letter_of_isPlain (plain d member)
      rw [raised, mem_singleton] at behind
      exact other behind.symm
  · rw [lowered, capitals, ← String.toList_inj, same]
    simp only [Text.lower, String.toList_ofList, lowerAfter_map_toUpper plain]

theorem accessorOf_ofAccessor (some : parts ≠ []) (each : ∀ word ∈ parts, isWord word) :
    accessorOf (ofAccessor (accessor parts)) = accessor parts := by
  have divided : (ofAccessor (accessor parts)).toList.splitOn '_' =
      (parts.map Text.upper).map String.toList := by
    rw [ofAccessor_accessor some each, String.toList_intercalate]
    refine splitOn_intercalate '_' ?_ (by simpa using some)
    simp only [forall_mem_map]
    exact fun word member => (lowered_upper (each word member)).1
  rw [accessorOf, divided]
  congr 1
  simp only [map_map, Function.comp_def, String.ofList_toList]
  exact (map_congr_left fun word member => (lowered_upper (each word member)).2).trans (map_id _)

/-- Labels lose nothing of an accessor that is made of words: its words stand in the label in
capitals, divided by underscores, so the accessor can be read off the label, and no other accessor
of words has the label. -/
theorem ofAccessor_invertible {parts : List String} (some : parts ≠ [])
    (each : ∀ word ∈ parts, isWord word) :
    ofAccessor (accessor parts) = "_".intercalate (parts.map Text.upper) ∧
      accessorOf (ofAccessor (accessor parts)) = accessor parts ∧
      ∀ others ≠ [], (∀ word ∈ others, isWord word) →
        ofAccessor (accessor others) = ofAccessor (accessor parts) →
          accessor others = accessor parts := by
  refine ⟨ofAccessor_accessor some each, accessorOf_ofAccessor some each, ?_⟩
  intro others nonempty words same
  rw [← accessorOf_ofAccessor nonempty words, same, accessorOf_ofAccessor some each]

/-- Words of one letter and words with digits are told apart. -/
theorem ofAccessor_invertible_letters :
    ["X", "Y2", "Statement"] ≠ [] ∧ (∀ word ∈ ["X", "Y2", "Statement"], isWord word) ∧
      ofAccessor "getXY2Statement" = "X_Y2_STATEMENT" ∧
      accessorOf "X_Y2_STATEMENT" = "getXY2Statement" := by
  have some : ["X", "Y2", "Statement"] ≠ [] := by decide
  have each : ∀ word ∈ ["X", "Y2", "Statement"], isWord word := by decide
  obtain ⟨label, back, -⟩ := ofAccessor_invertible some each
  have name : accessor ["X", "Y2", "Statement"] = "getXY2Statement" := by decide
  have capitals : "_".intercalate (["X", "Y2", "Statement"].map Text.upper) = "X_Y2_STATEMENT" := by
    decide
  rw [name, capitals] at label
  rw [name, label] at back
  exact ⟨some, each, label, back⟩

theorem stem_eq_nil_iff {name : List Char} : stem name = [] ↔ name = [] := by
  unfold stem
  split
  · split <;> simp
  · rfl

/-- Complaints are about names that are empty, or that do not go on with a capital. -/
theorem complaint?_isSome_iff (name : String) : (complaint? name).isSome ↔
    name = "" ∨ ∃ c rest, stem name.toList = c :: rest ∧ ¬Text.isUpper c := by
  unfold complaint?
  split
  next empty =>
    have none : name = "" := by simpa using stem_eq_nil_iff.1 empty
    simp [none]
  next c rest same =>
    have nonempty : name ≠ "" := by
      rintro rfl
      cases same
    by_cases upper : Text.isUpper c <;> simp [upper, nonempty, same]

/-! ### Remembered labels -/

/-- What is remembered after names were asked for: their labels, and the complaints about the
different ones among them. -/
structure Memory.Recalls (m : Memory) (names : List String) : Prop where
  labels : ∀ name, m.labels.lookup name = if name ∈ names then some (ofAccessor name) else none
  complaints : m.complaints = names.eraseDups.filterMap complaint?

variable {m : Memory} {names : List String}

theorem Memory.Recalls.ask (recalls : m.Recalls names) (name : String) :
    (m.ask name).1 = ofAccessor name ∧ (m.ask name).2.Recalls (names ++ [name]) := by
  rw [Memory.ask, recalls.labels name]
  by_cases known : name ∈ names
  · -- A name that was asked for before changes nothing.
    rw [if_pos known]
    refine ⟨rfl, fun other => ?_, ?_⟩
    · rw [recalls.labels other]
      by_cases same : other = name <;> simp [same, known]
    · simp [recalls.complaints, eraseDups_append, List.removeAll, known]
  · rw [if_neg known]
    refine ⟨rfl, fun other => ?_, ?_⟩
    · rw [lookup_cons]
      by_cases same : other = name
      · simp [same]
      · simp only [beq_false_of_ne same, recalls.labels other, mem_append,
          mem_singleton, same, or_false]
    · have new : [name].removeAll names = [name] := by simp [List.removeAll, known]
      rw [recalls.complaints, eraseDups_append, new]
      cases own : complaint? name <;> simp [eraseDups_cons, own]

end SyntaxGraph.Label

namespace SyntaxGraph

open Label List

namespace Graph

/-- Emissions are carried out as if nothing was remembered. -/
theorem foldl_applyAsking {m : Memory} {names : List String} (recalls : m.Recalls names)
    (base : Json) (emissions : List Emission) (g : Graph) :
    (emissions.foldl (applyAsking base) (g, m)).1 = emissions.foldl (apply base) g ∧
      (emissions.foldl (applyAsking base) (g, m)).2.Recalls (names ++ accessors emissions) := by
  induction emissions generalizing g m names with
  | nil => exact ⟨rfl, by simpa [accessors] using recalls⟩
  | cons emission rest ih =>
    cases emission with
    | holder accessor start stop =>
      obtain ⟨label, after⟩ := recalls.ask accessor
      have step : applyAsking base (g, m) (.holder accessor start stop) =
          (g.apply base (.holder accessor start stop), (m.ask accessor).2) := by
        simp only [applyAsking, apply, label]
      have asked : accessors (.holder accessor start stop :: rest) =
          accessor :: accessors rest := rfl
      rw [foldl_cons, step, asked, append_cons]
      exact ih after (g.apply base (.holder accessor start stop))
    | element kind t | edge parent child | root node => exact ih recalls _

end Graph

namespace Label

/-- What labels are wanted for: a single name, or a tree that is scanned into a graph. -/
inductive Request
  | label (name : String)
  | scan (g : Graph) (t : Tree)

inductive Answer
  | label (label : String)
  | scanned (g : Graph) (result : Except GraphError Unit)

namespace Request

/-- The names that are asked for, in order; a graph that has a root is not filled. -/
def names : Request → List String
  | .label name => [name]
  | .scan g t => if g.root.isSome then [] else accessors t.scan.trace

/-- The answer if each label is computed. -/
def answer : Request → Answer
  | .label name => .label (ofAccessor name)
  | .scan g t => .scanned (g.scan t).1 (g.scan t).2

/-- The answer if labels are remembered. -/
def answerFrom (m : Memory) : Request → Answer × Memory
  | .label name => (.label (m.ask name).1, (m.ask name).2)
  | .scan g t =>
    let ((filled, result), m) := g.scanAsking t m
    (.scanned filled result, m)

def answerAllFrom (m : Memory) : List Request → List Answer × Memory
  | [] => ([], m)
  | request :: rest =>
    let (answer, m) := request.answerFrom m
    let (answers, m) := answerAllFrom m rest
    (answer :: answers, m)

variable {m : Memory} {names : List String}

theorem answerFrom_eq (recalls : m.Recalls names) (request : Request) :
    (request.answerFrom m).1 = request.answer ∧
      (request.answerFrom m).2.Recalls (names ++ request.names) := by
  cases request with
  | label name =>
    obtain ⟨label, after⟩ := recalls.ask name
    exact ⟨congrArg Answer.label label, after⟩
  | scan g t =>
    simp only [answerFrom, Graph.scanAsking, answer, Request.names]
    split
    next => exact ⟨rfl, by simpa using recalls⟩
    next unrooted =>
      have free : g.root = none := by simpa using unrooted
      obtain ⟨filled, after⟩ := Graph.foldl_applyAsking recalls g.nextId t.scan.trace g
      refine ⟨?_, after⟩
      simp only [Graph.scan_of_rootless free, Graph.applyAll, filled]

theorem answerAllFrom_eq (recalls : m.Recalls names) (requests : List Request) :
    (answerAllFrom m requests).1 = requests.map answer ∧
      (answerAllFrom m requests).2.Recalls (names ++ requests.flatMap Request.names) := by
  induction requests generalizing m names with
  | nil => exact ⟨rfl, by simpa [answerAllFrom] using recalls⟩
  | cons request rest ih =>
    obtain ⟨first, after⟩ := answerFrom_eq recalls request
    obtain ⟨others, last⟩ := ih after
    refine ⟨?_, ?_⟩
    · rw [answerAllFrom, map_cons, ← first, ← others]
    · rw [flatMap_cons, ← append_assoc]
      exact last

/-- That labels are remembered shows in the complaints alone. From the beginning on, each answer is
the one for computed labels, and there is one complaint for each name among those asked for that is
empty or does not go on with a capital behind its accessor prefix, in the order in which they were
first asked for. -/
theorem answerAllFrom_transparent (requests : List Request) :
    (answerAllFrom {} requests).1 = requests.map answer ∧
      (answerAllFrom {} requests).2.complaints =
        (requests.flatMap Request.names).eraseDups.filterMap complaint? ∧
      ∀ name, (complaint? name).isSome ↔
        name = "" ∨ ∃ c rest, stem name.toList = c :: rest ∧ ¬Text.isUpper c := by
  have fresh : ({} : Memory).Recalls [] := ⟨fun name => by simp, rfl⟩
  obtain ⟨answers, after⟩ := answerAllFrom_eq fresh requests
  exact ⟨answers, by simpa using after.complaints, complaint?_isSome_iff⟩

end Request

end Label

end SyntaxGraph
