import SyntaxGraph.Proofs.Extraction.Ledger

/-!
# The accounts of an extraction

The summary of an extraction lists every source that can be reached once: as written, as failed or
as skipped. A source that is out of reach, because its path is too long or a directory on the way
may not be listed, is in no list.
-/
namespace SyntaxGraph

open List

/-! ### Paths that are too long -/

namespace Path

/-- The path that goes into a directory and out of it again some times, and then into it. -/
def winding (turns : Nat) : Path where
  parts := (List.replicate turns ["a", ".."]).flatten ++ ["a"]

variable (turns : Nat)

theorem parts_winding : (winding (turns + 1)).parts = "a" :: ".." :: (winding turns).parts := by
  simp [winding, replicate_succ]

theorem parts_winding_ne_nil : (winding turns).parts ≠ [] := by simp [winding]

theorem text_winding : (winding (turns + 1)).text = "a/../" ++ (winding turns).text := by
  apply String.toList_inj.1
  rw [String.toList_append, toList_text (parts_winding_ne_nil _),
    toList_text (parts_winding_ne_nil _), parts_winding]
  obtain ⟨first, rest, same⟩ := exists_cons_of_ne_nil (parts_winding_ne_nil turns)
  rw [same]
  simp [winding, intercalate_cons_cons]

theorem size_winding : (winding turns).text.utf8ByteSize = 5 * turns + 1 := by
  induction turns with
  | zero => decide
  | succ turns ih =>
    have short : "a/../".utf8ByteSize = 5 := by decide
    rw [text_winding, String.utf8ByteSize_append, ih, short]
    omega

theorem nulless_winding : Char.ofNat 0 ∉ (winding turns).text.toList := by
  induction turns with
  | zero => decide
  | succ turns ih =>
    rw [text_winding, String.toList_append, mem_append, not_or]
    exact ⟨by decide, ih⟩

theorem isProper_winding : (winding turns).IsProper := by
  refine ⟨.inl rfl, ?_⟩
  induction turns with
  | zero => decide
  | succ turns ih =>
    exact forall_mem_cons.2 ⟨by decide, forall_mem_cons.2 ⟨by decide, ih⟩⟩

end Path

/-- A blank source whose path is too long if it is reached by a winding path. -/
def remoteEntries : List (String × Entry) := [("a", .dir [("A.java", .file [])])]

theorem leads_winding (turns : Nat) : FileSystem.Leads (.dir remoteEntries) maxLinks []
    (Path.winding turns).parts ["a"] := by
  have isDir : (Entry.dir remoteEntries).IsDirAt ["a"] := ⟨_, rfl⟩
  have isName : FileSystem.IsName "a" := ⟨by decide, by decide, by decide⟩
  induction turns with
  | zero => exact .enter isName isDir .arrive
  | succ turns ih =>
    exact .enter isName isDir (.up ih)

variable {turns : Nat}

theorem resolve_winding (short : 5 * turns + 1 ≤ maxPathBytes) :
    (worldOf remoteEntries).files.resolve (.winding turns) = .ok ["a"] := by
  have checked : checkPathText (Path.winding turns).text = .ok () := by
    rw [checkPathText, if_neg (by simpa using Path.nulless_winding turns),
      if_neg (by rw [Path.size_winding]; omega)]
  exact FileSystem.resolve_eq_ok_iff.2 ⟨checked, leads_winding turns⟩

theorem get_winding (short : 5 * turns + 1 ≤ maxPathBytes) :
    (worldOf remoteEntries).files.get (.winding turns) = .ok (.dir [("A.java", .file [])]) :=
  FileSystem.get_of_resolve (resolve_winding short) rfl

theorem checkPathText_below_winding (long : maxPathBytes < 5 * turns + 8) :
    checkPathText ((Path.winding turns).below ["A.java"]).text = .error .tooLong := by
  have size : ("/" ++ "/".intercalate ["A.java"]).utf8ByteSize = 7 := by decide
  have nulless : ¬("/" ++ "/".intercalate ["A.java"]).toList.contains (Char.ofNat 0) := by decide
  rw [Path.text_below (Path.parts_winding_ne_nil turns), checkPathText, if_neg, if_pos]
  · rw [String.utf8ByteSize_append, Path.size_winding, size]
    omega
  · rw [String.toList_append, contains_append, Bool.or_eq_true, not_or]
    exact ⟨by simpa using Path.nulless_winding turns, nulless⟩

theorem directoryProblem_winding (short : 5 * turns + 1 ≤ maxPathBytes) :
    (worldOf remoteEntries).files.directoryProblem (fun _ => true) (Path.winding turns).text =
      .ok none := by
  have named : (Path.winding turns).text ≠ "" := by
    intro empty
    have size := Path.size_winding turns
    rw [empty] at size
    cases size
  refine FileSystem.pathProblem_eq_none_iff.2 ⟨named, ?_⟩
  rw [Path.ofString_text (Path.isProper_winding turns), FileSystem.permits, resolve_winding short]
  exact ⟨rfl, _, get_winding short, rfl⟩

def remoteSearch (root : Path) : Search where
  files := (worldOf remoteEntries).files
  root := root
  endings := [".java"]
  ignored := ({} : SourceSettings).ignorePatterns
  maxSize := .int 1048576

section

variable (root : Path)

theorem name_below_remote : (root.below ["A.java"]).name = "A.java" := by
  simp [Path.name, Path.below]

theorem ending_remoteSearch :
    Text.lower (root.below ["A.java"]).suffix ∈ (remoteSearch root).endings := by
  rw [Path.suffix, name_below_remote]
  show Text.lower (suffixOf "A.java") ∈ [".java"]
  decide +kernel

theorem kept_remoteSearch :
    (root.below ["A.java"]).isIgnored root (remoteSearch root).ignored = .ok false := by
  rw [Path.isIgnored, Path.relativeTo?_below]
  show (root.below ["A.java"]).matchedByAny _ _ = _
  simp only [List.map, Path.matchedByAny, Path.matchedBy, name_below_remote]
  decide +kernel

end

theorem isSource_remoteSearch (short : 5 * turns + 1 ≤ maxPathBytes) :
    (remoteSearch (.winding turns)).IsSource ["A.java"] [] := by
  have linkless : (worldOf remoteEntries).files.IsLinkless :=
    (isPlain_worldOf (by decide)).linkless
  refine ⟨?_, ending_remoteSearch _, fun front ahead some => ?_⟩
  · have place := FileSystem.placeOf_of_resolve linkless (resolve_winding short)
    show (Entry.dir remoteEntries).at?
      ((worldOf remoteEntries).files.placeOf (.winding turns) ++ ["A.java"]) = _
    rw [← place]
    rfl
  · obtain rfl : front = ["A.java"] := by
      rcases prefix_cons_iff.1 ahead with rfl | ⟨rest, rfl, none⟩
      · exact absurd rfl some
      · rw [prefix_nil.1 none]
    exact kept_remoteSearch _

theorem result_gather_file (s : Search) (path : Path) (name : String)
    (run : Logged (List Finding)) : (s.gather path [(name, .file run)]).result = run.result := by
  have dirs : Search.dirsOf [(name, .file run)] = [] := rfl
  have files : Search.filesOf [(name, .file run)] = [(name, run)] := rfl
  simp only [Search.gather, dirs, files, List.map, joinFindings, Traced.result_bind,
    Traced.result_ofExcept]
  cases run.result with
  | error fault => rfl
  | ok findings => simp [bind, Except.bind, pure, Except.pure]

/-- A source that is out of reach is not found. -/
theorem findings_remoteSearch (short : 5 * turns + 1 ≤ maxPathBytes)
    (long : maxPathBytes < 5 * turns + 8) :
    (remoteSearch (.winding turns)).findings.result = .ok [] := by
  have start : (worldOf remoteEntries).files.get? (.winding turns) =
      some (.dir [("A.java", .file [])]) := by
    rw [FileSystem.get?, get_winding short]
  have refused : (worldOf remoteEntries).files.get ((Path.winding turns).below ["A.java"]) =
      .error .tooLong := by
    rw [FileSystem.get, FileSystem.resolve, checkPathText_below_winding long]
    rfl
  have considered : ((remoteSearch (.winding turns)).consider
      ((Path.winding turns).below ["A.java"])).result = .ok [] :=
    Search.result_consider_of_error (ending_remoteSearch _) (kept_remoteSearch _) refused
  have listed : (remoteSearch (.winding turns)).lists (remoteSearch (.winding turns)).root :=
    Search.lists_of_resolve (s := remoteSearch (.winding turns)) (resolve_winding short) rfl
  have opened := Search.findings_of_get? (s := remoteSearch (.winding turns)) start
  rw [if_pos listed, Search.visitAll, Search.visitAll, Search.visit, Path.child_eq_below,
    Search.arrange_of_pairwise (by simp)] at opened
  rw [opened, result_gather_file]
  exact considered

namespace Extractor

variable {x : Extractor} {dir : String} {output outputDir : Option Path} {world after : World}
  {search : Search} {s : Summary}

/-! ### Summaries -/

/-- Two blank sources, one that is too large for the settings of `mixedExtractor`, and one that is
no text. -/
def mixedEntries : List (String × Entry) :=
  [("src", .dir [("A.java", .file []), ("B.java", .file [32, 32]), ("C.java", .file [0xFF]),
    ("d", .dir [("D.java", .file [])])])]

def mixedSearch : Search := mixedSearchIn mixedEntries

def mixedSummary : Summary where
  sourceDir := "src"
  outputDir := some "out"
  written := ["A.java", "d/D.java"]
  failures := [("C.java", "[Frontend] Failed to read src/C.java: " ++
    "'utf-8' codec can't decode byte 0xff in position 0: invalid start byte")]
  skipped := ["B.java"]
  nodes := 2

theorem findings_mixedSearch : mixedSearch.findings.result =
    .ok [.source (.ofString "src/A.java"), .tooLarge (.ofString "src/B.java"),
      .source (.ofString "src/C.java"), .source (.ofString "src/d/D.java")] := by
  have start : mixedSearch.files.get? mixedSearch.root = some (.dir [("A.java", .file []),
      ("B.java", .file [32, 32]), ("C.java", .file [0xFF]), ("d", .dir [("D.java", .file [])])]) :=
    rfl
  rw [Search.findings_of_get? start]
  simp only [Search.visitAll, Search.visit]
  repeat rw [Search.arrange_of_pairwise (by simp)]
  decide +kernel

theorem gives_mixedSummary : ∃ after, (mixedExtractor.extractDirectory (.ofString "src")
    (some (.ofString "out"))).Gives (worldOf mixedEntries) mixedSummary after := by
  have prepares : mixedExtractor.Prepares (.ofString "src") (some (.ofString "out"))
      (worldOf mixedEntries) _ mixedSearch _ :=
    ⟨by decide +kernel, rfl, rfl, findings_mixedSearch⟩
  exact ⟨_, prepares.ends_of_silent rfl (Action.gives_of_result (by decide +kernel))⟩

theorem gives_openSummary {root : Path}
    (prepares : x.Prepares root output world outputDir search []) :
    ∃ after,
      (x.extractDirectory root output).Gives world (openSummary root outputDir []) after := by
  have sorts : search.Sorts [] [] [] := ⟨rfl, rfl, .nil⟩
  obtain ⟨handled, reached, -, ⟨none, -, same⟩ | ⟨_, _, _, none, -⟩⟩ :=
    ends_extractDirectory prepares sorts (Action.ends_self _ world)
  · obtain rfl := map_eq_nil_iff.1 none.symm
    exact ⟨_, Action.gives_of_result same⟩
  · simp at none

theorem gives_remote (short : 5 * turns + 1 ≤ maxPathBytes) (long : maxPathBytes < 5 * turns + 8)
    (out : Path) :
    ∃ after, ((blankExtractor {}).extractDirectory (.ofString (Path.winding turns).text)
      (some out)).Gives (worldOf remoteEntries) (openSummary (.winding turns) (some out) [])
        after := by
  rw [Path.ofString_text (Path.isProper_winding turns)]
  have prepares : (blankExtractor {}).Prepares (.winding turns) (some out) (worldOf remoteEntries)
      (some out) (remoteSearch (.winding turns)) [] :=
    ⟨directoryProblem_winding short, rfl, rfl, findings_remoteSearch short long⟩
  exact gives_openSummary prepares

/-- An extractor that may not list the directory `a`. -/
def lockedExtractor : Extractor :=
  { blankExtractor {} with mayRead := fun place => place ≠ ["a"] }

def lockedSearch : Search :=
  { remoteSearch (.ofString ".") with mayRead := lockedExtractor.mayRead }

theorem isSource_lockedSearch : lockedSearch.IsSource ["a", "A.java"] [] := by
  refine ⟨rfl, by decide +kernel, ?_⟩
  simp only [← mem_inits]
  decide +kernel

theorem gives_locked : ∃ after, (lockedExtractor.extractDirectory (.ofString ".")
    (some (.ofString "out"))).Gives (worldOf remoteEntries)
      (openSummary (.ofString ".") (some (.ofString "out")) []) after := by
  have start : lockedSearch.files.get? lockedSearch.root = some (.dir remoteEntries) := rfl
  have none : lockedSearch.findings.result = .ok [] := by
    rw [Search.findings_of_get? start]
    simp only [remoteEntries, Search.visitAll, Search.visit]
    repeat rw [Search.arrange_of_pairwise (by simp)]
    decide +kernel
  have prepares : lockedExtractor.Prepares (.ofString ".") (some (.ofString "out"))
      (worldOf remoteEntries) (some (.ofString "out")) lockedSearch [] :=
    ⟨by decide +kernel, rfl, rfl, none⟩
  exact gives_openSummary prepares

/-- Two sources, of which the second is where the graph of the first goes. -/
def nestedEntries : List (String × Entry) :=
  [("a", .dir [("a", .dir [("b", .dir [("A.java", .file [])])]),
    ("b", .dir [("A.java.json", .file [])])])]

/-- Settings by which graphs are sources as well. -/
def nestedSettings (maxSize : Int) : SourceSettings where
  languageExtensions := .obj [(".java", .str "java"), (".json", .str "java")]
  maxFileSize := .int maxSize
  ignorePatterns := .arr []

def nestedSearch (maxSize : Int) : Search where
  files := (worldOf nestedEntries).files
  root := .ofString "a"
  endings := [".java", ".json"]
  ignored := .arr []
  maxSize := .int maxSize

theorem findings_nestedSearch {limit : Int} (known : limit = 100 ∨ limit = 1000) :
    (nestedSearch limit).findings.result =
      .ok [.source (.ofString "a/a/b/A.java"), .source (.ofString "a/b/A.java.json")] := by
  have start : (nestedSearch limit).files.get? (nestedSearch limit).root = some
      (.dir [("a", .dir [("b", .dir [("A.java", .file [])])]),
        ("b", .dir [("A.java.json", .file [])])]) := by
    show (worldOf nestedEntries).files.get? (.ofString "a") = _
    rfl
  rw [Search.findings_of_get? start]
  simp only [Search.visitAll, Search.visit]
  repeat rw [Search.arrange_of_pairwise (by simp)]
  rcases known with rfl | rfl <;> decide +kernel

theorem gives_nested : ∃ after, ((blankExtractor (nestedSettings 100)).extractDirectory
    (.ofString "a") (some (.ofString "."))).Gives (worldOf nestedEntries)
      { sourceDir := "a", outputDir := some ".", written := ["a/b/A.java"],
        failures := [("b/A.java.json", "[Frontend] File too large: a/b/A.java.json (0.3 KB)")],
        nodes := 1 } after := by
  have prepares : (blankExtractor (nestedSettings 100)).Prepares (.ofString "a")
      (some (.ofString ".")) (worldOf nestedEntries) _ (nestedSearch 100) _ :=
    ⟨by decide +kernel, rfl, rfl, findings_nestedSearch (.inl rfl)⟩
  exact ⟨_, prepares.ends_of_silent rfl (Action.gives_of_result (by decide +kernel))⟩

end Extractor

end SyntaxGraph
