import SyntaxGraph.Proofs.Extraction.Accounts

/-!
# Sources that fail

A directory that exists is searched to the end, if the settings have the forms that they should
have. Then one source is extracted after the other. A report about a source is noted and the next
source follows; any other fault, and every fault while a graph is stored, is the end of the
extraction.

Main statement: `extractDirectory_ends_or_stops`, which says how the extraction of an existing
directory ends.
-/
namespace SyntaxGraph

open List Traced

variable {α β ε : Type}

theorem exists_mapM_eq_ok {step : α → Except ε β} {items : List α}
    (each : ∀ a ∈ items, ∃ b, step a = .ok b) : ∃ out, items.mapM step = .ok out := by
  induction items with
  | nil => exact ⟨[], rfl⟩
  | cons a rest ih =>
    obtain ⟨⟨b, here⟩, later⟩ := forall_mem_cons.1 each
    obtain ⟨out, there⟩ := ih later
    exact ⟨b :: out, by rw [mapM_cons, here, there]; rfl⟩

theorem Path.exists_matchedByAny (path relative : Path) (patterns : List String) :
    ∃ ignored, path.matchedByAny relative (patterns.map .str) = .ok ignored := by
  induction patterns with
  | nil => exact ⟨false, rfl⟩
  | cons pattern rest ih =>
    rw [map_cons, matchedByAny]
    split
    · exact ⟨true, rfl⟩
    · exact ih

theorem exists_endingsOf (fields : List (String × Json)) :
    ∃ endings, endingsOf (.obj fields) = .ok endings := by
  have each : ∀ member ∈ fields.map (fun field => Json.str field.1),
      ∃ text, textMember? member = .ok text := by
    intro member listed
    obtain ⟨field, -, rfl⟩ := mem_map.1 listed
    exact ⟨_, rfl⟩
  obtain ⟨texts, read⟩ := exists_mapM_eq_ok each
  exact ⟨texts.filterMap id, by simp only [endingsOf, Json.members?, read]; rfl⟩

/-! ### Searches that end -/

def Visit.run : Visit → Logged (List Finding)
  | .file run | .dir run => run

namespace Search

variable {s : Search}

/-- Whether what a search goes by has its form: patterns are texts, and the limit is a number. -/
structure IsFit (s : Search) : Prop where
  patterns : ∃ patterns : List String, s.ignored = .arr (patterns.map .str)
  limit : ∃ limit : Int, s.maxSize = .int limit

theorem IsFit.exists_isIgnored (fit : s.IsFit) (way : List String) :
    ∃ ignored, (s.root.below way).isIgnored s.root s.ignored = .ok ignored := by
  obtain ⟨patterns, listed⟩ := fit.patterns
  rw [Path.isIgnored, Path.relativeTo?_below, listed]
  exact Path.exists_matchedByAny _ _ patterns

theorem IsFit.succeeds_consider (fit : s.IsFit) (way : List String) :
    (s.consider (s.root.below way)).Succeeds := by
  obtain ⟨limit, given⟩ := fit.limit
  by_cases ending : Text.lower (s.root.below way).suffix ∈ s.endings
  · obtain ⟨ignored, asked⟩ := fit.exists_isIgnored way
    cases ignored with
    | true => exact ⟨[], by simp [consider, ending, asked]⟩
    | false =>
      cases got : s.files.get (s.root.below way) with
      | error fault => exact ⟨[], result_consider_of_error ending asked got⟩
      | ok entry =>
        rw [Traced.Succeeds, result_consider ending asked got, given]
        simp [exceeds, Except.map]
  · exact ⟨[], by simp [consider, ending]⟩

theorem succeeds_joinFindings {runs : List (Logged (List Finding))}
    (each : ∀ run ∈ runs, run.Succeeds) : (joinFindings runs).Succeeds := by
  induction runs with
  | nil => exact succeeds_pure _
  | cons first rest ih =>
    obtain ⟨here, later⟩ := forall_mem_cons.1 each
    exact here.bind fun found => (ih later).bind fun others => succeeds_pure _

theorem IsFit.succeeds_enter (fit : s.IsFit) (way : List String) {findings : Logged (List Finding)}
    (ends : findings.Succeeds) : (s.enter (s.root.below way) findings).Succeeds := by
  obtain ⟨ignored, asked⟩ := fit.exists_isIgnored way
  rw [enter, asked, ofExcept_ok_bind]
  split
  · exact succeeds_pure _
  · exact ends

/-- A directory is gathered to its end if all visits to its entries end. -/
theorem IsFit.succeeds_arrange (fit : s.IsFit) (way : List String) {visits : List (String × Visit)}
    (each : ∀ item ∈ visits, item.2.run.Succeeds) :
    (s.arrange (s.root.below way) visits).Succeeds := by
  have child (name : String) : (s.root.below way).child name = s.root.below (way ++ [name]) := by
    rw [Path.child_eq_below, Path.below_below]
  have sorted {item : String × Visit} (member : item ∈ inOrder visits) : item.2.run.Succeeds :=
    each item ((mergeSort_perm _ _).mem_iff.1 member)
  have asked : ∀ item ∈ dirsOf (inOrder visits),
      ∃ ignored, ((s.root.below way).child item.1).isIgnored s.root s.ignored = .ok ignored := by
    intro item _
    rw [child]
    exact fit.exists_isIgnored _
  obtain ⟨checked, passed⟩ := exists_mapM_eq_ok asked
  rw [arrange, gather]
  dsimp only
  rw [passed]
  refine (succeeds_joinFindings fun run member => ?_).bind fun here =>
    (succeeds_joinFindings fun run member => ?_).bind fun below => succeeds_pure _
  · obtain ⟨⟨name, _⟩, listed, rfl⟩ := mem_map.1 member
    exact sorted (mem_filesOf.1 listed)
  · obtain ⟨⟨name, _⟩, listed, rfl⟩ := mem_map.1 member
    rw [child]
    exact fit.succeeds_enter _ (sorted (mem_dirsOf.1 listed))

/-- Every visit ends, by induction on what is below the entry. -/
theorem IsFit.succeeds_visit (fit : s.IsFit) (way : List String) (entry : Entry) :
    (s.visit (s.root.below way) entry).run.Succeeds := by
  induction entry using Entry.induct_entries generalizing way with
  | file bytes => exact fit.succeeds_consider way
  | link target =>
    rw [visit]
    split
    · exact succeeds_pure _
    · exact fit.succeeds_consider way
  | dir entries inner =>
    rw [visit, Visit.run]
    split
    · refine fit.succeeds_arrange way ?_
      rw [visitAll_eq]
      refine forall_mem_map.2 fun item member => ?_
      rw [Path.child_eq_below, Path.below_below]
      exact inner item member (way ++ [item.1])
    · exact succeeds_pure _

theorem IsFit.succeeds_findings (fit : s.IsFit) : s.findings.Succeeds := by
  unfold findings
  split
  next run visited =>
    obtain ⟨top, -, visited⟩ := Option.map_eq_some_iff.1 visited
    have ends := fit.succeeds_visit [] top
    rw [Path.below_nil, visited] at ends
    exact ends
  next => exact succeeds_pure _

end Search

/-! ### Extractions that begin -/

/-- Whether the settings of sources have the forms that they should have. -/
structure SourceSettings.IsFit (settings : SourceSettings) : Prop where
  extensions : ∃ fields, settings.languageExtensions = .obj fields
  patterns : ∃ patterns : List String, settings.ignorePatterns = .arr (patterns.map .str)
  limit : ∃ limit : Int, settings.maxFileSize = .int limit

namespace Extractor

variable {x : Extractor} {root : Path} {output outputDir : Option Path} {world : World}

/-- Whether the settings that a search needs are there and fit, and it is known where graphs go. -/
structure IsFit (x : Extractor) (output : Option Path) : Prop where
  source : ∃ settings, x.settings.source? = some settings ∧ settings.IsFit
  goes : output = none → ∃ settings text, x.settings.storage? = some settings ∧
    settings.outputDir = .str text

/-- Nothing fails before the first source of an existing directory. -/
theorem IsFit.exists_prepares (fit : x.IsFit output)
    (existing : world.files.directoryProblem x.mayRead root.text = .ok none) :
    ∃ outputDir search findings, x.Prepares root output world outputDir search findings := by
  obtain ⟨outputDir, goes⟩ : ∃ outputDir, x.outputDir output = .ok outputDir := by
    cases output with
    | some path => exact ⟨some path, rfl⟩
    | none =>
      obtain ⟨settings, text, given, named⟩ := fit.goes rfl
      exact ⟨some (.ofString text), by
        rw [Extractor.outputDir, Settings.storage, given, orLost, ok_bind, named]; rfl⟩
  obtain ⟨settings, given, fits⟩ := fit.source
  obtain ⟨fields, extensions⟩ := fits.extensions
  obtain ⟨endings, known⟩ := exists_endingsOf fields
  have searched : x.search world.files root =
      .ok ⟨world.files, root, endings, settings.ignorePatterns, settings.maxFileSize,
        x.mayRead⟩ := by
    rw [search, Settings.source, given, orLost, ok_bind, extensions, known]
    rfl
  obtain ⟨findings, found⟩ := Search.IsFit.succeeds_findings
    (s := ⟨world.files, root, endings, settings.ignorePatterns, settings.maxFileSize, x.mayRead⟩)
    ⟨fits.patterns, fits.limit⟩
  exact ⟨outputDir, _, findings, existing, goes, searched, found⟩

/-- How the extraction of an existing directory ends, if the settings fit. It ends with a summary if
all sources could be handled; then each source is in one of two lists, as written or with the report
about it. Otherwise it ends at the first source that fails without a report, or whose graph cannot
be stored, and the sources behind that one are not looked at. -/
theorem extractDirectory_ends_or_stops (wellFormed : world.files.IsWellFormed)
    (fit : x.IsFit output)
    (existing : world.files.directoryProblem x.mayRead root.text = .ok none) :
    ∃ outputDir search findings sources large handled reached,
      x.Prepares root output world outputDir search findings ∧
      search.Sorts findings sources large ∧ x.Runs root outputDir world handled reached ∧
      ((∃ s, (x.extractDirectory root output).Gives world s reached ∧
          sources = handled.map (·.1) ∧
          s.written = (storedIn handled).map (fun item => nameOf item.1) ∧
          s.failures = (refusedIn handled).map (fun item => (nameOf item.1, item.2)) ∧
          (s.written ++ s.failures.map (·.1)).Perm (sources.map nameOf)) ∨
        ∃ way rest fault after, (x.extractDirectory root output).Ends world (.error fault) after ∧
          sources = handled.map (·.1) ++ way :: rest ∧ fault.isReport = false ∧
          x.Stops root outputDir way reached fault) := by
  obtain ⟨outputDir, search, findings, prepares⟩ := fit.exists_prepares existing
  obtain ⟨sources, large, sorts, names⟩ := Search.exists_sorts
    (prepares.files_eq ▸ wellFormed) prepares.found
  have ways : ∀ way ∈ sources, IsWay way := fun way member =>
    ⟨(names way member).1, (names way member).2⟩
  -- It ends in some way; the two ways are those of the run over the sources.
  have ended := Action.ends_self (x.extractDirectory root output) world
  obtain ⟨handled, reached, runs, ⟨rfl, rfl, same⟩ | ⟨way, rest, fault, split, stops, same⟩⟩ :=
    ends_extractDirectory prepares sorts ended
  · refine ⟨outputDir, search, findings, _, large, handled, _, prepares, sorts, runs, .inl ⟨_,
      Action.gives_of_result same, rfl, ?_⟩⟩
    have distinct := nodup_map_nameOf ways (nodup_append.1 sorts.distinct).1
    rw [map_map] at distinct
    have notes : (openSummary root outputDir large).Notes handled _ := Summary.notes_foldl distinct
    refine ⟨notes.written, notes.failures, ?_⟩
    have parts := (perm_storedIn_refusedIn handled).map nameOf
    rw [notes.written, notes.failures]
    simpa [openSummary, Function.comp_def] using parts
  · refine ⟨outputDir, search, findings, sources, large, handled, reached, prepares, sorts, runs,
      .inr ⟨way, rest, fault, _, same ▸ ended, split, ?_, stops⟩⟩
    cases stops with
    | drawing _ unreported => exact unreported
    | storing _ _ failed => exact (storingFault_of_storeBelow failed).isReport

theorem extractDirectory_ends_mixed : ∃ (after : World) (sources : List (List String)),
    (mixedExtractor.extractDirectory (.ofString "src") (some (.ofString "out"))).Gives
      (worldOf mixedEntries) mixedSummary after ∧
    (["A.java", "d/D.java"] ++ ["C.java"]).Perm (sources.map nameOf) := by
  obtain ⟨_, known⟩ := gives_mixedSummary
  have fit : mixedExtractor.IsFit (some (.ofString "out")) :=
    ⟨⟨_, rfl, ⟨_, rfl⟩, ⟨[".git"], rfl⟩, ⟨1, rfl⟩⟩, by simp⟩
  have existing : (worldOf mixedEntries).files.directoryProblem mixedExtractor.mayRead
      (Path.ofString "src").text = .ok none := by
    decide +kernel
  obtain ⟨_, _, _, sources, _, _, after, -, -, -,
      ⟨s, given, -, -, -, listed⟩ | ⟨_, _, _, _, ended, -⟩⟩ :=
    extractDirectory_ends_or_stops (isWellFormed_worldOf (by decide)) fit existing
  · obtain rfl := Except.ok.inj (known.result.symm.trans given.result)
    exact ⟨after, sources, given, listed⟩
  · cases known.result.symm.trans ended.result

/-- Two sources. The graph of the first goes to a file where the second needs a directory. -/
def occupiedEntries : List (String × Entry) :=
  [("src", .dir [("A.java", .file []), ("A.java.json", .dir [("B.java", .file [])])])]

def occupiedSearch : Search where
  files := (worldOf occupiedEntries).files
  root := .ofString "src"
  endings := [".java"]
  ignored := ({} : SourceSettings).ignorePatterns
  maxSize := .int 1048576

theorem findings_occupiedSearch : occupiedSearch.findings.result =
    .ok [.source (.ofString "src/A.java"), .source (.ofString "src/A.java.json/B.java")] := by
  have start : occupiedSearch.files.get? occupiedSearch.root = some
      (.dir [("A.java", .file []), ("A.java.json", .dir [("B.java", .file [])])]) := rfl
  rw [Search.findings_of_get? start]
  simp only [Search.visitAll, Search.visit]
  repeat rw [Search.arrange_of_pairwise (by simp)]
  decide +kernel

/-- A source whose graph cannot be stored ends the extraction, though all is well with the settings
and with the directory. -/
theorem extractDirectory_stopped : (blankExtractor {}).IsFit (some (.ofString "out")) ∧
    (worldOf occupiedEntries).files.directoryProblem (blankExtractor {}).mayRead "src" =
      .ok none ∧
    ∃ after, ((blankExtractor {}).extractDirectory (.ofString "src") (some (.ofString "out"))).Ends
      (worldOf occupiedEntries) (.error (.file .alreadyExists "out/A.java.json")) after := by
  have existing : (worldOf occupiedEntries).files.directoryProblem (blankExtractor {}).mayRead
      "src" = .ok none := by
    decide +kernel
  have prepares : (blankExtractor {}).Prepares (.ofString "src") (some (.ofString "out"))
      (worldOf occupiedEntries) _ occupiedSearch _ :=
    ⟨existing, rfl, rfl, findings_occupiedSearch⟩
  have refused : ((blankExtractor {}).extractFound (.ofString "src") (some (.ofString "out"))
      [.source (.ofString "src/A.java"), .source (.ofString "src/A.java.json/B.java")]
      (worldOf occupiedEntries)).1.result = .error (.file .alreadyExists "out/A.java.json") := by
    decide +kernel
  have ended := Action.ends_self ((blankExtractor {}).extractFound (.ofString "src")
    (some (.ofString "out"))
    [.source (.ofString "src/A.java"), .source (.ofString "src/A.java.json/B.java")])
    (worldOf occupiedEntries)
  rw [refused] at ended
  exact ⟨⟨⟨_, rfl, ⟨_, rfl⟩, ⟨_, rfl⟩, ⟨_, rfl⟩⟩, by simp⟩, existing, _,
    prepares.ends_of_silent rfl ended⟩

end Extractor

end SyntaxGraph
