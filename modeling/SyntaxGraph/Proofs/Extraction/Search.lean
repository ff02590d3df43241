import Mathlib.Data.List.Nodup
import Mathlib.Data.List.Perm.Basic
import SyntaxGraph.Extraction.Search
import SyntaxGraph.Proofs.Paths
import SyntaxGraph.Proofs.Trace

/-!
# What the search finds, and in which order

The search goes through a directory tree, asks at each directory whether to enter it, and sorts what
it meets. Seen from outside it is a filter: a file is found if its own name and size say so and no
directory on the way to it is ignored.

Main statement: the findings of a search that ends are exactly the files that pass, each once. The
files of a directory come first by their names, and then what is below its directories, by the names
of these.
-/
namespace SyntaxGraph

open List Traced

def Finding.path : Finding → Path
  | .source path | .tooLarge path => path

/-- To prove something of all entries, one proves it of a directory from what is in it. -/
@[elab_as_elim]
theorem Entry.induct_entries {motive : Entry → Prop} (file : ∀ bytes, motive (.file bytes))
    (link : ∀ target, motive (.link target))
    (dir : ∀ entries, (∀ item ∈ entries, motive item.2) → motive (.dir entries)) (entry : Entry) :
    motive entry :=
  @Entry.rec motive (∀ item ∈ ·, motive item.2) (motive ·.2) file link dir (forall_mem_nil _)
    (fun _ _ first rest => forall_mem_cons.2 ⟨first, rest⟩) (fun _ _ held => held) entry

/-- Whether no directory under an entry has two entries of one name. -/
def Entry.HasDistinctNames (entry : Entry) : Prop :=
  ∀ way entries, entry.at? way = some (.dir entries) → (entries.map (·.1)).Nodup

namespace Entry

variable {entries : List (String × Entry)} {name : String} {entry : Entry}

theorem lookup_eq_some_iff (distinct : (entries.map (·.1)).Nodup) :
    entries.lookup name = some entry ↔ (name, entry) ∈ entries := by
  induction entries with
  | nil => simp
  | cons first rest ih =>
    obtain ⟨n, e⟩ := first
    obtain ⟨new, distinct⟩ := nodup_cons.1 distinct
    rw [lookup_cons]
    by_cases same : name = n
    · subst same
      have absent : (name, entry) ∉ rest := by
        intro member
        exact new (mem_map.2 ⟨(name, entry), member, rfl⟩)
      simp [absent, eq_comm]
    · have passed : (name == n) = false := by simpa using same
      simp [passed, ih distinct, same]

theorem HasDistinctNames.names (distinct : (dir entries).HasDistinctNames) :
    (entries.map (·.1)).Nodup := distinct [] entries rfl

theorem HasDistinctNames.of_mem (distinct : (dir entries).HasDistinctNames)
    (member : (name, entry) ∈ entries) : entry.HasDistinctNames := by
  intro way inner found
  refine distinct (name :: way) inner ?_
  rw [at?, Entry.entries, (lookup_eq_some_iff distinct.names).2 member]
  exact found

theorem HasDistinctNames.file (bytes : List UInt8) : (file bytes).HasDistinctNames := by
  rintro (_ | ⟨name, way⟩) entries ⟨⟩

theorem HasDistinctNames.dir (names : (entries.map (·.1)).Nodup)
    (each : ∀ item ∈ entries, item.2.HasDistinctNames) : (dir entries).HasDistinctNames := by
  rintro (_ | ⟨name, way⟩) inner found
  · cases found
    exact names
  · obtain ⟨entry, held, below⟩ := Option.bind_eq_some_iff.1 found
    exact each _ ((lookup_eq_some_iff names).1 held) way inner below

end Entry

/-! ### Sequences -/

/-- Computations that are joined all end with a value, and these are put together. -/
theorem exists_of_joinFindings {first : Logged (List Finding)} {rest : List (Logged (List Finding))}
    {out : List Finding} (joined : (joinFindings (first :: rest)).result = .ok out) :
    ∃ here later, first.result = .ok here ∧ (joinFindings rest).result = .ok later ∧
      out = here ++ later := by
  rw [joinFindings, result_bind] at joined
  obtain ⟨here, begun, joined⟩ := exists_of_bind_eq_ok joined
  rw [result_bind] at joined
  obtain ⟨later, ended, joined⟩ := exists_of_bind_eq_ok joined
  exact ⟨here, later, begun, ended, (Except.ok.inj joined).symm⟩

theorem exists_of_mem_joinFindings {runs : List (Logged (List Finding))} {out : List Finding}
    (joined : (joinFindings runs).result = .ok out) {run : Logged (List Finding)}
    (member : run ∈ runs) : ∃ part, run.result = .ok part := by
  induction runs generalizing out with
  | nil => cases member
  | cons first rest ih =>
    obtain ⟨here, later, begun, ended, -⟩ := exists_of_joinFindings joined
    rcases mem_cons.1 member with rfl | behind
    · exact ⟨here, begun⟩
    · exact ih ended behind

namespace Search

/-- The order in which files are met: those of a directory by their names, and then those below its
directories by the names of these. -/
inductive MetBefore : List String → List String → Prop
  | files {a b : String} (less : a < b) : MetBefore [a] [b]
  | inner {a b : String} {rest : List String} (deeper : rest ≠ []) : MetBefore [a] (b :: rest)
  | dirs {a b : String} {front back : List String} (less : a < b) (first : front ≠ [])
    (second : back ≠ []) : MetBefore (a :: front) (b :: back)
  | within {a : String} {front back : List String} (before : MetBefore front back) :
    MetBefore (a :: front) (a :: back)

theorem MetBefore.ne {front back : List String} (before : MetBefore front back) : front ≠ back := by
  induction before with
  | files less =>
    rintro ⟨⟩
    exact String.lt_irrefl _ less
  | inner deeper =>
    rintro ⟨⟩
    exact deeper rfl
  | dirs less =>
    rintro ⟨⟩
    exact String.lt_irrefl _ less
  | within _ ih =>
    rintro ⟨⟩
    exact ih rfl

/-! ### Findings by their ways -/

/-- Whether findings are those that are wanted at some ways, in the order in which they are met. -/
def Lists (wanted : List String → Finding → Prop) (findings : List Finding) : Prop :=
  ∃ found : List (List String × Finding), found.map (·.2) = findings ∧
    (found.map (·.1)).Pairwise MetBefore ∧ ∀ way f, (way, f) ∈ found ↔ wanted way f

namespace Lists

variable {wanted others : List String → Finding → Prop} {front back findings : List Finding}

theorem congr (lists : Lists wanted findings) (same : ∀ way f, wanted way f ↔ others way f) :
    Lists others findings := by
  obtain ⟨found, shown, ordered, exactly⟩ := lists
  exact ⟨found, shown, ordered, fun way f => (exactly way f).trans (same way f)⟩

theorem nil : Lists (fun _ _ => False) [] := ⟨[], rfl, .nil, by simp⟩

theorem append (first : Lists wanted front) (second : Lists others back)
    (before : ∀ w f v g, wanted w f → others v g → MetBefore w v) :
    Lists (fun way f => wanted way f ∨ others way f) (front ++ back) := by
  obtain ⟨found, rfl, ordered, exactly⟩ := first
  obtain ⟨more, rfl, further, precisely⟩ := second
  refine ⟨found ++ more, by simp, ?_, ?_⟩
  · rw [map_append, pairwise_append]
    refine ⟨ordered, further, ?_⟩
    intro w inFirst v inSecond
    obtain ⟨⟨_, f⟩, member, rfl⟩ := mem_map.1 inFirst
    obtain ⟨⟨_, g⟩, another, rfl⟩ := mem_map.1 inSecond
    exact before _ f _ g ((exactly _ f).1 member) ((precisely _ g).1 another)
  · intro way f
    rw [mem_append, exactly, precisely]

/-- What is listed below a directory is listed from above under the name of the directory. -/
theorem under (lists : Lists wanted findings) (name : String) :
    Lists (fun way f => ∃ rest, way = name :: rest ∧ wanted rest f) findings := by
  obtain ⟨found, rfl, ordered, exactly⟩ := lists
  refine ⟨found.map fun item => (name :: item.1, item.2), by simp, ?_, ?_⟩
  · rw [map_map]
    rw [pairwise_map] at ordered ⊢
    exact ordered.imp fun before => .within before
  · intro way f
    simp only [mem_map, Prod.mk.injEq, Prod.exists]
    constructor
    · rintro ⟨rest, g, member, rfl, rfl⟩
      exact ⟨rest, rfl, (exactly rest g).1 member⟩
    · rintro ⟨rest, rfl, holds⟩
      exact ⟨rest, f, (exactly rest f).2 holds, rfl, rfl⟩

/-- What is found under rising names, one after the other, is listed if ways under different names
are met in the order of the names. -/
theorem join (under : String → List String → Finding → Prop)
    (cross : ∀ {a b w v f g}, a < b → under a w f → under b v g → MetBefore w v)
    {items : List (String × Logged (List Finding))} (rising : items.Pairwise fun a b => a.1 < b.1)
    (each : ∀ item ∈ items, ∀ part, item.2.result = .ok part → Lists (under item.1) part)
    {out : List Finding} (joined : (joinFindings (items.map (·.2))).result = .ok out) :
    Lists (fun way f => ∃ item ∈ items, under item.1 way f) out := by
  induction items generalizing out with
  | nil =>
    cases joined
    exact nil.congr (by simp)
  | cons item rest ih =>
    obtain ⟨ahead, rising⟩ := pairwise_cons.1 rising
    obtain ⟨here, later⟩ := forall_mem_cons.1 each
    obtain ⟨part, others, begun, ended, rfl⟩ := exists_of_joinFindings joined
    refine ((here part begun).append (ih rising later ended) ?_).congr (by simp)
    rintro w f v g first ⟨other, member, second⟩
    exact cross (ahead other member) first second

end Lists

/-! ### Single files -/

variable {s : Search} {path : Path} {findings : List Finding} {entry : Entry} {f : Finding}
  {way : List String} {name : String}

theorem consider_cases (ended : (s.consider path).result = .ok findings) :
    findings = [] ∨ ∃ f, findings = [f] ∧ f.path = path := by
  unfold consider at ended
  split at ended
  · rw [result_bind] at ended
    obtain ⟨ignored, -, ended⟩ := exists_of_bind_eq_ok ended
    split at ended
    · cases ended
      exact .inl rfl
    · unfold weigh at ended
      split at ended
      · cases ended
        exact .inl rfl
      · rw [result_bind] at ended
        obtain ⟨large, -, ended⟩ := exists_of_bind_eq_ok ended
        split at ended <;> cases ended
        · exact .inr ⟨.tooLarge path, rfl, rfl⟩
        · exact .inr ⟨.source path, rfl, rfl⟩
  · cases ended
    exact .inl rfl

theorem result_consider (ending : Text.lower path.suffix ∈ s.endings)
    (kept : path.isIgnored s.root s.ignored = .ok false) (got : s.files.get path = .ok entry) :
    (s.consider path).result = (exceeds ((entry.bytes?.map List.length).getD 0) s.maxSize).map
      fun large => [if large then .tooLarge path else .source path] := by
  have listed : s.endings.contains (Text.lower path.suffix) := by simpa using ending
  rw [consider, if_pos listed, result_bind, result_ofExcept, kept, ok_bind,
    if_neg Bool.false_ne_true, weigh, got]
  simp only [result_bind, result_ofExcept]
  cases exceeds ((entry.bytes?.map List.length).getD 0) s.maxSize with
  | error fault => rfl
  | ok large => cases large <;> rfl

theorem result_consider_of_error {fault : FileFault}
    (ending : Text.lower path.suffix ∈ s.endings)
    (kept : path.isIgnored s.root s.ignored = .ok false)
    (refused : s.files.get path = .error fault) :
    (s.consider path).result = .ok [] := by
  have listed : s.endings.contains (Text.lower path.suffix) := by simpa using ending
  rw [consider, if_pos listed, result_bind, result_ofExcept, kept, ok_bind, weigh, refused]
  rfl

theorem consider_eq_ok_iff :
    (s.consider path).result = .ok [f] ↔
    Text.lower path.suffix ∈ s.endings ∧ path.isIgnored s.root s.ignored = .ok false ∧
      ∃ entry large, s.files.get path = .ok entry ∧
        exceeds ((entry.bytes?.map List.length).getD 0) s.maxSize = .ok large ∧
          f = if large then .tooLarge path else .source path := by
  by_cases ends : Text.lower path.suffix ∈ s.endings
  · cases ignored : path.isIgnored s.root s.ignored with
    | error fault => simp [consider, ends, ignored, bind, Traced.bind, Traced.ofExcept]
    | ok answer =>
      cases answer with
      | true => simp [consider, ignored, pure]
      | false =>
        cases got : s.files.get path with
        | error fault => simp [result_consider_of_error ends ignored got]
        | ok entry =>
          rw [result_consider ends ignored got]
          cases weighed : exceeds ((entry.bytes?.map List.length).getD 0) s.maxSize with
          | error fault => simp [Except.map, weighed]
          | ok large => cases large <;> simp [Except.map, ends, weighed, eq_comm]
  · simp [consider, ends]

theorem lists_consider (ended : (s.consider path).result = .ok findings) :
    Lists (fun way f => way = [] ∧ (s.consider path).result = .ok [f]) findings := by
  rcases consider_cases ended with rfl | ⟨f, rfl, -⟩
  · exact Lists.nil.congr (by simp [ended])
  · refine ⟨[([], f)], rfl, by simp, ?_⟩
    intro way g
    rw [ended]
    simp [eq_comm]

/-! ### Directories -/

/-- Whether the search takes an entry for a file: it is one, or a link that leads to no
directory. -/
def TakesForFile (s : Search) (path : Path) : Entry → Prop
  | .file _ => True
  | .link _ => ¬s.files.isDir path
  | .dir _ => False

/-- Whether the search comes to a file below a path where an entry is: it is below directories that
can be listed and are not ignored. -/
structure ComesTo (s : Search) (path : Path) (entry : Entry) (way : List String) : Prop where
  file : ∃ last, entry.at? way = some last ∧ s.TakesForFile (path.below way) last
  reached : ∀ front, front <+: way → front ≠ way → s.lists (path.below front)
  passed : ∀ front, front <+: way → front ≠ way → front ≠ [] →
    (path.below front).isIgnored s.root s.ignored = .ok false

/-- What the search is to find below a path where an entry is: files to which it comes, and which
pass by themselves. -/
structure Meets (s : Search) (path : Path) (entry : Entry) (way : List String) (f : Finding) : Prop
    extends s.ComesTo path entry way where
  found : (s.consider (path.below way)).result = .ok [f]

theorem Meets.path_eq (meets : s.Meets path entry way f) : f.path = path.below way := by
  rcases consider_cases meets.found with none | ⟨g, same, path⟩
  · simp at none
  · simp only [List.cons.injEq, and_true] at same
    exact same ▸ path

/-- From a directory the search goes on from one of its entries, which it enters if there is more to
come. -/
theorem comesTo_dir_iff {entries : List (String × Entry)} :
    s.ComesTo path (.dir entries) way ↔ s.lists path ∧ ∃ name rest entry,
      way = name :: rest ∧ entries.lookup name = some entry ∧
        s.ComesTo (path.child name) entry rest ∧
          (rest ≠ [] → (path.child name).isIgnored s.root s.ignored = .ok false) := by
  constructor
  · intro comes
    cases way with
    | nil =>
      obtain ⟨last, here, taken⟩ := comes.file
      cases here
      exact absurd taken id
    | cons name rest =>
      obtain ⟨last, there, taken⟩ := comes.file
      obtain ⟨entry, listed, there⟩ := Option.bind_eq_some_iff.1 there
      have top : s.lists path := by
        simpa using comes.reached [] nil_prefix (by simp)
      refine ⟨top, name, rest, entry, rfl, listed, ⟨⟨last, there, ?_⟩, ?_, ?_⟩, ?_⟩
      · simpa [Path.child_eq_below] using taken
      · intro front prior shorter
        simpa [Path.child_eq_below] using comes.reached (name :: front)
          (cons_prefix_cons.2 ⟨rfl, prior⟩) (by simpa using shorter)
      · intro front prior shorter _
        simpa [Path.child_eq_below] using comes.passed (name :: front)
          (cons_prefix_cons.2 ⟨rfl, prior⟩) (by simpa using shorter) (by simp)
      · intro more
        exact comes.passed [name] (cons_prefix_cons.2 ⟨rfl, nil_prefix⟩)
          (by simpa using more.symm) (by simp)
  · rintro ⟨top, name, rest, entry, rfl, listed, comes, entered⟩
    -- A way into a directory begins with nothing or with the name of the entry.
    have split : ∀ front, front <+: name :: rest → front ≠ name :: rest →
        front = [] ∨ ∃ inner, front = name :: inner ∧ inner <+: rest ∧ inner ≠ rest := by
      intro front prior shorter
      cases front with
      | nil => exact .inl rfl
      | cons first inner =>
        obtain ⟨rfl, onward⟩ := cons_prefix_cons.1 prior
        exact .inr ⟨inner, rfl, onward, by simpa using shorter⟩
    have joined (inner : List String) : path.below (name :: inner) =
        (path.child name).below inner := by simp [Path.child_eq_below]
    refine ⟨?_, ?_, ?_⟩
    · obtain ⟨last, there, taken⟩ := comes.file
      refine ⟨last, ?_, joined rest ▸ taken⟩
      rw [Entry.at?, Entry.entries, listed]
      exact there
    · intro front prior shorter
      rcases split front prior shorter with rfl | ⟨inner, rfl, prior, shorter⟩
      · simpa using top
      · exact joined inner ▸ comes.reached inner prior shorter
    · intro front prior shorter some
      rcases split front prior shorter with rfl | ⟨inner, rfl, prior, shorter⟩
      · exact absurd rfl some
      · rw [joined]
        by_cases here : inner = []
        · subst here
          simpa using entered (Ne.symm shorter)
        · exact comes.passed inner prior shorter here

theorem meets_dir_iff {entries : List (String × Entry)} :
    s.Meets path (.dir entries) way f ↔ s.lists path ∧ ∃ name rest entry,
      way = name :: rest ∧ entries.lookup name = some entry ∧
        s.Meets (path.child name) entry rest f ∧
          (rest ≠ [] → (path.child name).isIgnored s.root s.ignored = .ok false) := by
  have joined (name : String) (inner : List String) : path.below (name :: inner) =
      (path.child name).below inner := by simp [Path.child_eq_below]
  constructor
  · rintro ⟨comes, found⟩
    obtain ⟨top, name, rest, entry, rfl, listed, comes, entered⟩ := comesTo_dir_iff.1 comes
    exact ⟨top, name, rest, entry, rfl, listed, ⟨comes, joined name rest ▸ found⟩, entered⟩
  · rintro ⟨top, name, rest, entry, rfl, listed, ⟨comes, found⟩, entered⟩
    exact ⟨comesTo_dir_iff.2 ⟨top, name, rest, entry, rfl, listed, comes, entered⟩,
      joined name rest ▸ found⟩

/-- What is found where an entry is, and that no file to which the search comes is passed over. -/
structure Finds (s : Search) (path : Path) (entry : Entry) (findings : List Finding) : Prop where
  lists : Lists (s.Meets path entry) findings
  considered : ∀ way, s.ComesTo path entry way →
    ∃ part, (s.consider (path.below way)).result = .ok part

def IsVisit (s : Search) (path : Path) (entry : Entry) : Visit → Prop
  | .file run => s.TakesForFile path entry ∧ run = s.consider path
  | .dir run => ¬s.TakesForFile path entry ∧
      ∀ findings, run.result = .ok findings → s.Finds path entry findings

/-- The search comes to nothing at what is no file, only below it. -/
theorem ComesTo.deeper (comes : s.ComesTo path entry way) (open' : ¬s.TakesForFile path entry) :
    way ≠ [] := by
  rintro rfl
  obtain ⟨last, same, taken⟩ := comes.file
  cases same
  exact open' (by simpa using taken)

theorem ComesTo.nil {entry : Entry} {way : List String} (comes : s.ComesTo path entry way)
    (taken : s.TakesForFile path entry) : way = [] := by
  obtain ⟨last, there, -⟩ := comes.file
  cases way with
  | nil => rfl
  | cons => cases entry <;> first | exact absurd taken id | cases there

theorem finds_nothing (nowhere : ∀ way, ¬s.ComesTo path entry way) :
    s.Finds path entry [] where
  lists := Lists.nil.congr fun way _ => ⟨False.elim, fun meets => nowhere way meets.toComesTo⟩
  considered way comes := absurd comes (nowhere way)

theorem visitAll_eq (s : Search) (path : Path) (entries : List (String × Entry)) :
    s.visitAll path entries =
      entries.map fun item => (item.1, s.visit (path.child item.1) item.2) := by
  induction entries with
  | nil => rfl
  | cons item rest ih => rw [visitAll, ih, map_cons]

theorem mem_filesOf {visits : List (String × Visit)} {run : Logged (List Finding)} :
    (name, run) ∈ filesOf visits ↔ (name, .file run) ∈ visits := by
  simp only [filesOf, mem_filterMap, Prod.exists]
  constructor
  · rintro ⟨n, visit, member, same⟩
    cases visit <;> cases same
    exact member
  · exact fun member => ⟨name, .file run, member, rfl⟩

theorem mem_dirsOf {visits : List (String × Visit)} {run : Logged (List Finding)} :
    (name, run) ∈ dirsOf visits ↔ (name, .dir run) ∈ visits := by
  simp only [dirsOf, mem_filterMap, Prod.exists]
  constructor
  · rintro ⟨n, visit, member, same⟩
    cases visit <;> cases same
    exact member
  · exact fun member => ⟨name, .dir run, member, rfl⟩

theorem inOrder_rising {visits : List (String × Visit)} (distinct : (visits.map (·.1)).Nodup) :
    (inOrder visits).Pairwise fun a b => a.1 < b.1 := by
  have sorted : (inOrder visits).Pairwise fun a b => decide (a.1 ≤ b.1) = true := by
    apply pairwise_mergeSort
    · intro a b c first second
      rw [decide_eq_true_eq] at first second ⊢
      exact String.le_trans first second
    · intro a b
      rw [Bool.or_eq_true, decide_eq_true_eq, decide_eq_true_eq]
      exact String.le_total a.1 b.1
  have different : (inOrder visits).Pairwise fun a b => a.1 ≠ b.1 := by
    rw [← pairwise_map (f := fun visit : String × Visit => visit.1)]
    exact ((mergeSort_perm visits _).map (·.1)).nodup_iff.2 distinct
  refine (sorted.and different).imp ?_
  rintro a b ⟨le, ne⟩
  rw [decide_eq_true_eq] at le
  by_contra notLess
  exact ne (String.le_antisymm le (String.not_lt.1 notLess))

theorem arrange_of_pairwise {visits : List (String × Visit)}
    (sorted : visits.Pairwise fun a b => decide (a.1 ≤ b.1)) :
    s.arrange path visits = s.gather path visits := by
  rw [arrange, inOrder, mergeSort_of_pairwise sorted]

theorem exists_of_arrange {visits : List (String × Visit)}
    (ended : (s.arrange path visits).result = .ok findings) :
    ∃ here below, (joinFindings ((filesOf (inOrder visits)).map (·.2))).result = .ok here ∧
      (joinFindings (((dirsOf (inOrder visits)).map fun item =>
        (item.1, s.enter (path.child item.1) item.2)).map (·.2))).result = .ok below ∧
      findings = here ++ below := by
  simp only [arrange, gather, result_bind, result_ofExcept] at ended
  obtain ⟨_, -, ended⟩ := exists_of_bind_eq_ok ended
  obtain ⟨here, first, ended⟩ := exists_of_bind_eq_ok ended
  obtain ⟨below, second, ended⟩ := exists_of_bind_eq_ok ended
  refine ⟨here, below, first, ?_, (Except.ok.inj ended).symm⟩
  rw [map_map]
  exact second

section Directory

variable {entries : List (String × Entry)}

/-- The visits to the entries of a directory, in the order of the names. -/
theorem mem_inOrder_iff {visit : Visit} :
    (name, visit) ∈ inOrder (s.visitAll path entries) ↔
      ∃ entry, (name, entry) ∈ entries ∧ s.visit (path.child name) entry = visit := by
  rw [inOrder, (mergeSort_perm _ _).mem_iff, visitAll_eq, mem_map]
  constructor
  · rintro ⟨⟨n, entry⟩, member, same⟩
    cases same
    exact ⟨entry, member, rfl⟩
  · rintro ⟨entry, member, rfl⟩
    exact ⟨(name, entry), member, rfl⟩

variable (distinct : (entries.map (·.1)).Nodup)
include distinct

theorem visitAll_rising : (inOrder (s.visitAll path entries)).Pairwise fun a b => a.1 < b.1 := by
  apply inOrder_rising
  rw [visitAll_eq, map_map]
  exact distinct

variable (visits : ∀ item ∈ entries,
  s.IsVisit (path.child item.1) item.2 (s.visit (path.child item.1) item.2))
include visits

theorem lists_files {here : List Finding} (ended : (joinFindings
      ((filesOf (inOrder (s.visitAll path entries))).map (·.2))).result = .ok here) :
    Lists (fun way f => ∃ name entry, (name, entry) ∈ entries ∧ way = [name] ∧
      s.TakesForFile (path.child name) entry ∧
        (s.consider (path.child name)).result = .ok [f]) here := by
  -- The files are in the order of their names, so the parts can be joined.
  have rising : (filesOf (inOrder (s.visitAll path entries))).Pairwise fun a b => a.1 < b.1 := by
    refine (visitAll_rising distinct).filterMap _ ?_
    rintro ⟨a, _ | _⟩ ⟨b, _ | _⟩ less x ⟨⟩ y ⟨⟩
    exact less
  have joined := Lists.join
    (fun name way f => way = [name] ∧ (s.consider (path.child name)).result = .ok [f])
    (by
      rintro a b w v f g less ⟨rfl, -⟩ ⟨rfl, -⟩
      exact .files less)
    rising
    (by
      rintro ⟨name, run⟩ member part ended
      obtain ⟨entry, inside, visit⟩ := mem_inOrder_iff.1 (mem_filesOf.1 member)
      have shown := visits (name, entry) inside
      rw [visit] at shown
      obtain ⟨-, rfl⟩ := shown
      refine ((lists_consider ended).under name).congr fun way f => ?_
      constructor
      · rintro ⟨rest, rfl, rfl, found⟩
        exact ⟨rfl, found⟩
      · rintro ⟨rfl, found⟩
        exact ⟨[], rfl, rfl, found⟩)
    ended
  refine joined.congr fun way f => ?_
  constructor
  · rintro ⟨⟨name, run⟩, member, single, found⟩
    obtain ⟨entry, inside, visit⟩ := mem_inOrder_iff.1 (mem_filesOf.1 member)
    have shown := visits (name, entry) inside
    rw [visit] at shown
    exact ⟨name, entry, inside, single, shown.1, found⟩
  · rintro ⟨name, entry, inside, single, taken, found⟩
    have shown := visits (name, entry) inside
    cases visit : s.visit (path.child name) entry with
    | file run =>
      exact ⟨(name, run), mem_filesOf.2 (mem_inOrder_iff.2 ⟨entry, inside, visit⟩), single, found⟩
    | dir run =>
      rw [visit] at shown
      exact absurd taken shown.1

theorem lists_dirs {below : List Finding} (ended : (joinFindings
      (((dirsOf (inOrder (s.visitAll path entries))).map fun item =>
        (item.1, s.enter (path.child item.1) item.2)).map (·.2))).result = .ok below) :
    Lists (fun way f => ∃ name entry rest, (name, entry) ∈ entries ∧ way = name :: rest ∧
      rest ≠ [] ∧ (path.child name).isIgnored s.root s.ignored = .ok false ∧
        s.Meets (path.child name) entry rest f) below := by
  -- The visits are in the order of their names, so the parts can be joined.
  have rising : ((dirsOf (inOrder (s.visitAll path entries))).map fun item =>
      (item.1, s.enter (path.child item.1) item.2)).Pairwise fun a b => a.1 < b.1 := by
    rw [pairwise_map]
    refine (visitAll_rising distinct).filterMap _ ?_
    rintro ⟨a, _ | _⟩ ⟨b, _ | _⟩ less x ⟨⟩ y ⟨⟩
    exact less
  have joined := Lists.join
    (fun name way f => ∃ entry rest, (name, entry) ∈ entries ∧ way = name :: rest ∧
      rest ≠ [] ∧ (path.child name).isIgnored s.root s.ignored = .ok false ∧
        s.Meets (path.child name) entry rest f)
    (by
      rintro a b w v f g less ⟨_, _, -, rfl, first, -, -⟩ ⟨_, _, -, rfl, second, -, -⟩
      exact .dirs less first second)
    rising
    (by
      intro item member part ended
      obtain ⟨⟨name, run⟩, listed, rfl⟩ := mem_map.1 member
      obtain ⟨entry, inside, visit⟩ := mem_inOrder_iff.1 (mem_dirsOf.1 listed)
      have shown := visits (name, entry) inside
      rw [visit] at shown
      obtain ⟨inner, lists⟩ := shown
      dsimp only [enter] at ended
      rw [result_bind, result_ofExcept] at ended
      obtain ⟨ignored, asked, ended⟩ := exists_of_bind_eq_ok ended
      -- What is ignored has no files below, neither in the search nor by the rules.
      cases ignored with
      | true =>
        cases ended
        exact Lists.nil.congr (by simp [asked])
      | false =>
        refine ((lists part ended).lists.under name).congr fun way f => ?_
        constructor
        · rintro ⟨rest, rfl, meets⟩
          exact ⟨entry, rest, inside, rfl, meets.deeper inner, asked, meets⟩
        -- The name belongs to one entry only, so the way leads through it.
        · rintro ⟨other, rest, another, rfl, -, -, meets⟩
          have same := (Entry.lookup_eq_some_iff distinct).2 another
          rw [(Entry.lookup_eq_some_iff distinct).2 inside] at same
          cases same
          exact ⟨rest, rfl, meets⟩)
    ended
  refine joined.congr fun way f => ?_
  constructor
  · rintro ⟨⟨name, run⟩, -, entry, rest, found⟩
    exact ⟨name, entry, rest, found⟩
  · rintro ⟨name, entry, rest, inside, single, more, passed, meets⟩
    have shown := visits (name, entry) inside
    cases visit : s.visit (path.child name) entry with
    | file run =>
      rw [visit] at shown
      -- A file has no way with more than its own name.
      exact absurd (meets.nil shown.1) more
    | dir run =>
      have member := mem_dirsOf.2 (mem_inOrder_iff.2 ⟨entry, inside, visit⟩)
      exact ⟨(name, s.enter (path.child name) run), mem_map.2 ⟨(name, run), member, rfl⟩,
        entry, rest, inside, single, more, passed, meets⟩

theorem lists_arrange (top : s.lists path)
    (ended : (s.arrange path (s.visitAll path entries)).result = .ok findings) :
    Lists (s.Meets path (.dir entries)) findings := by
  obtain ⟨here, below, first, second, rfl⟩ := exists_of_arrange ended
  have files := lists_files distinct visits first
  have dirs := lists_dirs distinct visits second
  refine (files.append dirs ?_).congr fun way f => ?_
  -- A file directly here comes before all that is deeper.
  · rintro w f v g ⟨_, _, -, rfl, -, -⟩ ⟨_, _, _, -, rfl, more, -, -⟩
    exact .inner more
  · rw [meets_dir_iff]
    constructor
    · rintro (⟨name, entry, inside, rfl, taken, found⟩ |
        ⟨name, entry, rest, inside, rfl, -, passed, meets⟩)
      · have meets : s.Meets (path.child name) entry [] f :=
          ⟨⟨⟨entry, rfl, by simpa using taken⟩, by simp, by simp⟩, by simpa using found⟩
        exact ⟨top, name, [], entry, rfl, (Entry.lookup_eq_some_iff distinct).2 inside, meets,
          fun more => absurd rfl more⟩
      · exact ⟨top, name, rest, entry, rfl, (Entry.lookup_eq_some_iff distinct).2 inside, meets,
          fun _ => passed⟩
    · rintro ⟨-, name, rest, entry, rfl, found, meets, passed⟩
      have inside := (Entry.lookup_eq_some_iff distinct).1 found
      by_cases taken : s.TakesForFile (path.child name) entry
      · left
        obtain rfl := meets.nil taken
        exact ⟨name, entry, inside, rfl, taken, by simpa using meets.found⟩
      · right
        have more := meets.deeper taken
        exact ⟨name, entry, rest, inside, rfl, more, passed more, meets⟩

/-- If a directory is arranged, then every file to which the search comes in it was considered. -/
theorem considered_arrange
    (ended : (s.arrange path (s.visitAll path entries)).result = .ok findings) (way : List String)
    (comes : s.ComesTo path (.dir entries) way) :
    ∃ part, (s.consider (path.below way)).result = .ok part := by
  obtain ⟨here, below, first, second, -⟩ := exists_of_arrange ended
  obtain ⟨-, name, rest, entry, rfl, listed, comes, entered⟩ := comesTo_dir_iff.1 comes
  have inside := (Entry.lookup_eq_some_iff distinct).1 listed
  have shown := visits (name, entry) inside
  have joined : path.below (name :: rest) = (path.child name).below rest := by
    simp [Path.child_eq_below]
  rw [joined]
  cases visit : s.visit (path.child name) entry with
  | file run =>
    -- A file is considered where it is met.
    rw [visit] at shown
    obtain ⟨taken, rfl⟩ := shown
    obtain rfl := comes.nil taken
    rw [Path.below_nil]
    refine exists_of_mem_joinFindings first (mem_map.2 ⟨(name, _), ?_, rfl⟩)
    exact mem_filesOf.2 (mem_inOrder_iff.2 ⟨entry, inside, visit⟩)
  | dir run =>
    rw [visit] at shown
    -- In a directory it was considered on entering it.
    obtain ⟨inner, finds⟩ := shown
    have member := mem_dirsOf.2 (mem_inOrder_iff.2 ⟨entry, inside, visit⟩)
    obtain ⟨part, ended⟩ := exists_of_mem_joinFindings second
      (mem_map.2 ⟨_, mem_map.2 ⟨(name, run), member, rfl⟩, rfl⟩)
    dsimp only [enter] at ended
    rw [result_bind, entered (comes.deeper inner)] at ended
    exact (finds part ended).considered rest comes

theorem finds_arrange (top : s.lists path)
    (ended : (s.arrange path (s.visitAll path entries)).result = .ok findings) :
    s.Finds path (.dir entries) findings :=
  ⟨lists_arrange distinct visits top ended, considered_arrange distinct visits ended⟩

end Directory

/-- Every entry is visited as it should be, by induction on what is below it. -/
theorem isVisit_visit (s : Search) (path : Path) (entry : Entry)
    (distinct : entry.HasDistinctNames) : s.IsVisit path entry (s.visit path entry) := by
  induction entry using Entry.induct_entries generalizing path with
  | file bytes => exact ⟨trivial, rfl⟩
  | link target =>
    rw [visit]
    split
    next isDir =>
      refine ⟨fun taken => taken isDir, ?_⟩
      rintro findings ⟨⟩
      -- The link leads to a directory, and the search does not go through it.
      refine finds_nothing fun way comes => ?_
      obtain ⟨last, there, taken⟩ := comes.file
      cases way with
      | nil =>
        cases there
        exact taken (by simpa using isDir)
      | cons => cases there
    next closed => exact ⟨closed, rfl⟩
  | dir entries inner =>
    rw [visit]
    refine ⟨id, fun findings ended => ?_⟩
    split at ended
    next top =>
      exact finds_arrange distinct.names
        (fun item member => inner item member _ (distinct.of_mem member)) top ended
    next closed =>
      cases ended
      exact finds_nothing fun way comes => closed (comesTo_dir_iff.1 comes).1

theorem findings_of_not_isDir {top : Entry} (start : s.files.get? s.root = some top)
    (closed : ¬top.isDir) : s.findings.result = .ok [] := by
  rw [Search.findings, start, Option.map_some]
  cases top with
  | dir => exact absurd rfl closed
  | file bytes => rfl
  | link target =>
    rw [visit]
    split
    next run visited =>
      split at visited <;> cases visited
      rfl
    next => rfl

theorem findings_of_get? {entries : List (String × Entry)}
    (start : s.files.get? s.root = some (.dir entries)) : s.findings =
      if s.lists s.root then s.arrange s.root (s.visitAll s.root entries) else pure [] := by
  rw [Search.findings, start, Option.map_some, visit]

/-- A search that ends has found what it is to find, in the order in which it is met. -/
theorem finds_findings {top : Entry} (start : s.files.get? s.root = some top) (isDir : top.isDir)
    (distinct : top.HasDistinctNames) (ended : s.findings.result = .ok findings) :
    s.Finds s.root top findings := by
  cases top with
  | dir entries =>
    have visited := isVisit_visit s s.root (.dir entries) distinct
    rw [findings_of_get? start] at ended
    rw [visit] at visited
    exact visited.2 findings ended
  | file | link => cases isDir

end Search

end SyntaxGraph
