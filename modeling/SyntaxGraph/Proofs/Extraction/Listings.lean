import SyntaxGraph.Extraction.Batch
import SyntaxGraph.Proofs.Files.Listings

/-!
# Extraction does not depend on listings

Directories may list what is in them in any order. The search sorts what it meets at every
directory, and everything else asks for paths.

Main statement: if listings are reordered anywhere, the search finds the same in the same order, and
the extraction of a directory shows the same and ends with the same summary.
-/
namespace SyntaxGraph

open List

/-- Whether two file systems differ at most in the order in which directories list what is in
them. -/
structure FileSystem.Reordered (a b : FileSystem) : Prop where
  here : b.here = a.here
  root : a.root.Reordered b.root

/-- Whether in no directory two entries have one name. -/
def FileSystem.HasDistinctNames (fs : FileSystem) : Prop := fs.root.HasDistinctNames

variable {fs : FileSystem} {entry : Entry}

theorem FileSystem.HasDistinctNames.of_at? (distinct : fs.HasDistinctNames) {place : List String}
    (found : fs.root.at? place = some entry) : entry.HasDistinctNames := by
  intro way entries below
  refine distinct (place ++ way) entries ?_
  rw [Entry.at?_append, found]
  exact below

/-- What a path leads to is somewhere in the tree of the files. -/
theorem FileSystem.exists_at?_of_get? {path : Path} (found : fs.get? path = some entry) :
    ∃ place, fs.root.at? place = some entry := by
  unfold FileSystem.get? at found
  split at found <;> cases found
  next reached =>
    obtain ⟨place, -, held⟩ := exists_of_bind_eq_ok reached
    unfold FileSystem.entryAt at held
    split at held <;> cases held
    next there => exact ⟨place, there⟩

theorem FileSystem.HasDistinctNames.of_get? (distinct : fs.HasDistinctNames) {path : Path}
    (found : fs.get? path = some entry) : entry.HasDistinctNames := by
  obtain ⟨place, there⟩ := exists_at?_of_get? found
  exact distinct.of_at? there

namespace FileSystem.Reordered

variable {a b : FileSystem}

theorem alike (reordered : a.Reordered b) (distinct : a.HasDistinctNames) : a.Alike b :=
  ⟨reordered.here, reordered.root.alike distinct⟩

theorem get? (reordered : a.Reordered b) (distinct : a.HasDistinctNames) (path : Path) :
    a.get? path = none ∧ b.get? path = none ∨ ∃ x y, a.get? path = some x ∧
      b.get? path = some y ∧ x.Reordered y ∧ x.HasDistinctNames := by
  rw [FileSystem.get?, FileSystem.get?, FileSystem.get, FileSystem.get,
    (reordered.alike distinct).resolve]
  cases b.resolve path with
  | error fault => exact .inl ⟨rfl, rfl⟩
  | ok place =>
    rw [ok_bind, ok_bind, entryAt, entryAt]
    rcases reordered.root.at? distinct place with ⟨first, second⟩ | ⟨x, y, first, second, inner⟩
    · rw [first, second]
      exact .inl ⟨rfl, rfl⟩
    · have below := distinct.of_at? first
      rw [first, second]
      exact .inr ⟨x, y, rfl, rfl, inner, below⟩

end FileSystem.Reordered

/-! ### The search -/

namespace Search

variable {s : Search} {files : FileSystem}

/-- Visits with distinct names are put into the same order, however they are listed. -/
theorem inOrder_perm {visits others : List (String × Visit)} (shuffled : visits.Perm others)
    (distinct : (visits.map (·.1)).Nodup) : inOrder visits = inOrder others := by
  have again : (others.map (·.1)).Nodup := (shuffled.map (·.1)).nodup_iff.1 distinct
  refine List.Perm.eq_of_pairwise ?_ (inOrder_rising distinct) (inOrder_rising again)
    ((mergeSort_perm visits _).trans (shuffled.trans (mergeSort_perm others _).symm))
  intro a b _ _ less more
  exact absurd more (String.lt_asymm less)

theorem arrange_congr (path : Path) {visits others : List (String × Visit)}
    (same : inOrder visits = inOrder others) : s.arrange path visits = s.arrange path others := by
  rw [arrange, arrange, same]

theorem consider_congr (alike : s.files.Alike files) (path : Path) :
    s.consider path = ({ s with files } : Search).consider path := by
  have weighed : s.weigh path = ({ s with files } : Search).weigh path := by
    rw [weigh, weigh]
    rcases alike.get_cases path with ⟨fault, first, second⟩ | ⟨x, y, first, second, same⟩
    · simp only [first, second]
    · simp only [first, second, FileSystem.bytes?_eq_of_kind same]
  rw [consider, consider, weighed]

theorem lists_congr (alike : s.files.Alike files) (path : Path) :
    s.lists path = ({ s with files } : Search).lists path := by
  rw [lists, lists, alike.isDir, alike.permits]

mutual

/-- Visits do not depend on listings, by induction on what is below the entry. -/
theorem visit_congr (alike : s.files.Alike files) (path : Path) (a b : Entry)
    (reordered : a.Reordered b) (distinct : a.HasDistinctNames) :
    s.visit path a = ({ s with files } : Search).visit path b := by
  match a with
  | .file bytes =>
    cases reordered
    rw [visit, visit, consider_congr alike]
  | .link target =>
    cases reordered
    rw [visit, visit, consider_congr alike, alike.isDir]
  | .dir old =>
    cases reordered with
    | @dir _ middle new each shuffled =>
      have visits : (s.visitAll path old).Perm (({ s with files } : Search).visitAll path new) := by
        rw [visitAll_congr alike path old middle each fun item member => distinct.of_mem member,
          visitAll_eq, visitAll_eq]
        exact shuffled.map _
      have names : ((s.visitAll path old).map (·.1)).Nodup := by
        rw [visitAll_eq, map_map]
        exact distinct.names
      rw [visit, visit, lists_congr alike, arrange_congr path (inOrder_perm visits names)]
      rfl

theorem visitAll_congr (alike : s.files.Alike files) (path : Path)
    (old middle : List (String × Entry)) (each : Entry.AllReordered old middle)
    (distinct : ∀ item ∈ old, item.2.HasDistinctNames) :
    s.visitAll path old = ({ s with files } : Search).visitAll path middle := by
  match old with
  | [] =>
    cases each
    rfl
  | (name, entry) :: rest =>
    obtain ⟨here, later⟩ := forall_mem_cons.1 distinct
    cases each with
    | cons first others =>
      rw [visitAll, visitAll, visit_congr alike (path.child name) entry _ first here,
        visitAll_congr alike path rest _ others later]

end

/-- The search finds the same in the same order, logs the same and fails in the same way. -/
theorem findings_congr (reordered : s.files.Reordered files)
    (distinct : s.files.HasDistinctNames) :
    s.findings = ({ s with files } : Search).findings := by
  have alike := reordered.alike distinct
  rw [Search.findings, Search.findings]
  rcases reordered.get? distinct s.root with ⟨first, second⟩ | ⟨x, y, first, second, inner, below⟩
  · simp only [first, second, Option.map_none]
  · simp only [first, second, Option.map_some, visit_congr alike s.root x y inner below]

end Search

/-! ### Extraction -/

/-- The parse tree of a text of some size that declares nothing. -/
def blankParse (size : Nat) : ParseTree Unit :=
  .node { type := "program", named := true, start := 0, stop := size } () []

/-- An extractor that takes every text for one that declares nothing. -/
def blankExtractor (source : SourceSettings) : Extractor where
  settings := { source? := some source }
  parser text := .ok (blankParse text.length)

/-- A world with some files and without a log. -/
def worldOf (entries : List (String × Entry)) : World where
  files := { root := .dir entries, here := [] }

namespace Extractor

open SyntaxGraph.Action

variable (x : Extractor)

theorem matches_readSource (path : Path) : Matches (x.readSource path) (x.readSource path) := by
  refine matches_files fun a b alike => ?_
  have same : x.textIn a path = x.textIn b path := by
    unfold textIn
    rw [alike.fileProblem, alike.read]
  rw [same]
  exact matches_ofExcept _

theorem matches_save (g : Graph) (path : Path) (compress : Json) :
    Matches (g.save path compress) (g.save path compress) := by
  refine (matches_ofExcept _).bind fun goal => ?_
  refine (matches_makeParent _).bind fun _ => ?_
  refine (matches_writeFile _ _).bind fun _ => ?_
  refine (matches_ofExcept _).bind fun _ => ?_
  exact (matches_log _).bind fun _ _ _ alike => ⟨rfl, alike⟩

theorem matches_extractFile (path : Path) : Matches (x.extractFile path) (x.extractFile path) := by
  refine (x.matches_readSource path).bind fun source => ?_
  exact (matches_ofLogged _).bind fun g _ _ alike => ⟨rfl, alike⟩

theorem matches_storeBelow (outputDir : Option Path) (relative : Path) (g : Graph) :
    Matches (x.storeBelow outputDir relative g) (x.storeBelow outputDir relative g) := by
  cases outputDir with
  | none => exact matches_ofExcept _
  | some dir =>
    refine (matches_ofExcept _).bind fun settings => ?_
    exact (matches_save g _ _).bind fun _ _ _ alike => ⟨rfl, alike⟩

theorem matches_extractInto (root : Path) (outputDir : Option Path) (s : Summary) (path : Path) :
    Matches (x.extractInto root outputDir s path) (x.extractInto root outputDir s path) := by
  have below (relative : Path) : Matches (x.extractBelow outputDir path relative)
      (x.extractBelow outputDir path relative) := by
    refine (x.matches_extractFile path).bind fun g => ?_
    exact (x.matches_storeBelow outputDir relative g).bind fun _ _ _ alike => ⟨rfl, alike⟩
  refine (below _).attempt.bind fun outcome => ?_
  split
  · exact fun _ _ alike => ⟨rfl, alike⟩
  · exact (matches_log _).bind fun _ _ _ alike => ⟨rfl, alike⟩
  · exact matches_ofExcept _

theorem matches_extractFound (root : Path) (outputDir : Option Path) (findings : List Finding) :
    Matches (x.extractFound root outputDir findings) (x.extractFound root outputDir findings) := by
  refine (matches_log _).bind fun _ => ?_
  refine (matches_fold (fun s source => x.matches_extractInto root outputDir s source) _ _).bind
    fun s => ?_
  exact (matches_log _).bind fun _ _ _ alike => ⟨rfl, alike⟩

variable {x} {world other : World}

theorem exists_of_search {files : FileSystem} {root : Path} {search : Search}
    (given : x.search files root = .ok search) :
    ∃ settings endings, x.settings.source = .ok settings ∧
      endingsOf settings.languageExtensions = .ok endings ∧
        search = ⟨files, root, endings, settings.ignorePatterns, settings.maxFileSize,
          x.mayRead⟩ := by
  obtain ⟨settings, read, given⟩ := exists_of_bind_eq_ok given
  obtain ⟨endings, known, given⟩ := exists_of_bind_eq_ok given
  cases given
  exact ⟨settings, endings, read, known, rfl⟩

theorem findings_of_reordered (files : world.files.Reordered other.files)
    (distinct : world.files.HasDistinctNames) (path : Path) :
    (x.search world.files path).map Search.findings =
      (x.search other.files path).map Search.findings := by
  unfold search
  cases x.settings.source with
  | error fault => rfl
  | ok settings =>
    rw [ok_bind, ok_bind]
    cases endingsOf settings.languageExtensions with
    | error fault => rfl
    | ok endings =>
      let search (fs : FileSystem) : Search :=
        ⟨fs, path, endings, settings.ignorePatterns, settings.maxFileSize, x.mayRead⟩
      have same : (search world.files).findings = (search other.files).findings :=
        Search.findings_congr (s := search world.files) files distinct
      exact congrArg Except.ok same

/-- What is listed in another order is searched and extracted as before. The search finds the files
of a directory by their names and then those below its directories by the names of these, and the
extraction logs the same and ends in the same way, with the same summary if there is one. -/
theorem extractDirectory_of_reordered (files : world.files.Reordered other.files)
    (channel : other.channel = world.channel) (distinct : world.files.HasDistinctNames)
    (path : Path) (output : Option Path) :
    (x.search world.files path).map Search.findings =
        (x.search other.files path).map Search.findings ∧
      (∀ search top findings, x.search world.files path = .ok search →
        world.files.get? path = some top → top.isDir → search.findings.result = .ok findings →
          Search.Lists (search.Meets path top) findings) ∧
      (x.extractDirectory path output world).1 = (x.extractDirectory path output other).1 := by
  have searched := findings_of_reordered (x := x) files distinct path
  refine ⟨searched, ?_, ?_⟩
  · intro search top findings given start isDir ended
    have below := distinct.of_get? start
    obtain ⟨settings, endings, -, -, same⟩ := exists_of_search given
    have root : search.root = path := congrArg Search.root same
    have files : search.files = world.files := congrArg Search.files same
    subst root
    rw [← files] at start
    exact (Search.finds_findings start isDir below ended).lists
  · have alike : world.Alike other := ⟨files.alike distinct, channel⟩
    -- The worlds are alike and the findings are the same.
    have looked (w : World) (next : FileSystem → Action Summary) :
        (Action.files >>= next) w = next w.files w := by
      rw [bind_of_ok next (show Action.files w = (⟨[], .ok w.files⟩, w) from rfl)]
      rfl
    unfold extractDirectory
    rw [looked, looked, alike.files.directoryProblem]
    refine (((matches_ofExcept _).bind fun problem => ?_) world other alike).1
    cases problem with
    | some problem => exact matches_ofExcept _
    | none =>
      refine (matches_ofExcept _).bind fun outputDir => ?_
      cases first : x.search world.files path <;> cases second : x.search other.files path <;>
        simp only [first, second, Except.map, reduceCtorEq, Except.error.injEq,
          Except.ok.injEq] at searched
      · subst searched
        exact matches_ofExcept _
      next search again =>
        rw [ofExcept_ok_bind, ofExcept_ok_bind, searched]
        exact (matches_ofLogged _).bind (x.matches_extractFound path outputDir)

/-! ### A directory that is listed backwards -/

/-- Sources in a directory and in a directory below it, in the order of their names. -/
def forwardListing : List (String × Entry) :=
  [("src", .dir [("A.java", .file []), ("b", .dir [("B.java", .file []), ("C.java", .file [])])])]

def backwardListing : List (String × Entry) :=
  [("src", .dir [("b", .dir [("C.java", .file []), ("B.java", .file [])]), ("A.java", .file [])])]

theorem reordered_backwardListing :
    (worldOf forwardListing).files.Reordered (worldOf backwardListing).files := by
  have inner : (Entry.dir [("B.java", .file []), ("C.java", .file [])]).Reordered
      (.dir [("C.java", .file []), ("B.java", .file [])]) :=
    .dir (.cons (.file []) (.cons (.file []) .nil)) (.swap _ _ _)
  exact ⟨rfl,
    .dir (.cons (.dir (.cons (.file []) (.cons inner .nil)) (.swap _ _ _)) .nil) (.refl _)⟩

theorem hasDistinctNames_forwardListing : (worldOf forwardListing).files.HasDistinctNames := by
  have files (names : List String) (distinct : names.Nodup) :
      (Entry.dir (names.map fun name => (name, .file []))).HasDistinctNames := by
    refine .dir (by simpa [Function.comp_def] using distinct) fun item member => ?_
    obtain ⟨name, -, rfl⟩ := mem_map.1 member
    exact .file []
  refine .dir (by decide) (forall_mem_singleton.2 (.dir (by decide) ?_))
  exact forall_mem_cons.2 ⟨.file [], forall_mem_singleton.2
    (files ["B.java", "C.java"] (by decide))⟩

/-- An extractor that skips all but the shortest texts. -/
def mixedExtractor : Extractor :=
  blankExtractor { maxFileSize := .int 1, ignorePatterns := .arr [.str ".git"] }

/-- The search of `mixedExtractor` in some files. -/
def mixedSearchIn (entries : List (String × Entry)) : Search where
  files := (worldOf entries).files
  root := .ofString "src"
  endings := [".java"]
  ignored := .arr [.str ".git"]
  maxSize := .int 1

theorem findings_forwardListing : (mixedSearchIn forwardListing).findings.result =
    .ok [.source (.ofString "src/A.java"), .source (.ofString "src/b/B.java"),
      .source (.ofString "src/b/C.java")] := by
  have start : (mixedSearchIn forwardListing).files.get? (mixedSearchIn forwardListing).root =
      some (.dir [("A.java", .file []),
        ("b", .dir [("B.java", .file []), ("C.java", .file [])])]) := rfl
  rw [Search.findings_of_get? start]
  simp only [Search.visitAll, Search.visit]
  repeat rw [Search.arrange_of_pairwise (by simp)]
  decide +kernel

/-- The files of a directory that is listed backwards are found in the order of their names. -/
theorem extractDirectory_of_backwardListing :
    (mixedSearchIn backwardListing).findings.result =
      .ok [.source (.ofString "src/A.java"), .source (.ofString "src/b/B.java"),
        .source (.ofString "src/b/C.java")] ∧
    (mixedExtractor.extractDirectory (.ofString "src") none (worldOf forwardListing)).1 =
      (mixedExtractor.extractDirectory (.ofString "src") none (worldOf backwardListing)).1 := by
  obtain ⟨found, -, same⟩ := extractDirectory_of_reordered (x := mixedExtractor)
    reordered_backwardListing rfl hasDistinctNames_forwardListing (.ofString "src") none
  have searched (entries : List (String × Entry)) :
      mixedExtractor.search (worldOf entries).files (.ofString "src") =
        .ok (mixedSearchIn entries) := rfl
  rw [searched, searched] at found
  have found : (mixedSearchIn forwardListing).findings = (mixedSearchIn backwardListing).findings :=
    Except.ok.inj found
  exact ⟨found ▸ findings_forwardListing, same⟩

end Extractor

end SyntaxGraph
