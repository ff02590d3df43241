import SyntaxGraph.Proofs.Extraction.Batch

/-!
# Ledgers

A ledger says which sources there were below a directory and what became of them, when extraction
ended with a summary. The lists of the summary are read off it, and so is what was done to files.

Sources are read as they are when their turn comes. Where graphs go into the directory that is being
extracted, a source may have been replaced by the graph of another one, which can even be too large.

Main statements: every extraction that ends with a summary has its ledger (`exists_ledger`), its
lists name what was found (`Ledger.perm_names`), and what is read at a turn is what the file may
hold then (`Ledger.exists_turn`).
-/
namespace SyntaxGraph

open List

variable {handled : List (List String × SourceOutcome)} {found : List (List String)}

/-- What was handled was stored or refused. -/
theorem perm_storedIn_refusedIn (handled : List (List String × SourceOutcome)) :
    ((storedIn handled).map (·.1) ++ (refusedIn handled).map (·.1)).Perm (handled.map (·.1)) := by
  induction handled with
  | nil => exact .nil
  | cons item rest ih =>
    obtain ⟨way, outcome⟩ := item
    cases outcome with
    | stored g => exact ih.cons way
    | refused reason => exact perm_middle.trans (ih.cons way)

theorem IsWay.nameOf_injective {way other : List String} (first : IsWay way) (second : IsWay other)
    (same : nameOf way = nameOf other) : way = other :=
  Path.text_injective first.names second.names same

theorem nodup_map_nameOf (ways : ∀ way ∈ found, IsWay way) (distinct : found.Nodup) :
    (found.map nameOf).Nodup :=
  List.Nodup.map_on (fun _ first _ second => (ways _ first).nameOf_injective (ways _ second))
    distinct

/-- Whether a file is as it was, if there is or was one. -/
def World.KeepsFile (old new : World) (place : List String) : Prop :=
  ∀ bytes, new.files.root.at? place = some (.file bytes) ↔
    old.files.root.at? place = some (.file bytes)

namespace Extractor

variable {x : Extractor} {root out : Path} {dir : String} {output outputDir : Option Path}
  {world after : World} {search : Search} {findings : List Finding} {s : Summary}
  {large : List (List String)} {way : List String} {bytes : List UInt8}

/-- What a file may hold while graphs are stored: what it held at first, or one of them; where the
log is kept, anything. -/
def MayHold (x : Extractor) (world : World) (outputDir : Option Path)
    (stored : List (List String × Graph)) (place : List String) (bytes : List UInt8) : Prop :=
  world.files.root.at? place = some (.file bytes) ∨ world.LogsAt place ∨
    ∃ item ∈ stored, x.GoesTo world.files outputDir [item] place ∧
      bytes = item.2.fileBytes x.compresses

/-! ### Ledgers -/

/-- What is known of an extraction that ended with a summary: which sources there were, and what
became of them. -/
structure Ledger (x : Extractor) (root : Path) (outputDir : Option Path) (world : World)
    (search : Search) (s : Summary) (after : World) (handled : List (List String × SourceOutcome))
    (large : List (List String)) : Prop where
  settings : ∃ settings, x.settings.source = .ok settings ∧ search.maxSize = settings.maxFileSize
  files : search.files = world.files
  below : search.root = root
  found : ∃ findings, search.Found findings (handled.map (·.1)) large
  isWay : ∀ way bytes, search.IsSource way bytes → IsWay way
  runs : x.Runs root outputDir world handled after
  notes : (openSummary root outputDir large).Notes handled s

theorem exists_ledger (plain : world.IsPlain) (wellFormed : world.files.IsWellFormed)
    (given : (x.extractDirectory (.ofString dir) output).Gives world s after)
    (goes : x.outputDir output = .ok outputDir)
    (searched : x.search world.files (.ofString dir) = .ok search) :
    ∃ handled large, x.Ledger (.ofString dir) outputDir world search s after handled large := by
  -- What was prepared is determined, so it is what is given here.
  obtain ⟨otherDir, other, findings, prepares⟩ := prepares_of_gives given
  have goesToo := prepares.goes
  rw [goes] at goesToo
  cases goesToo
  have searchedToo := prepares.searched
  rw [searched] at searchedToo
  cases searchedToo
  have files := prepares.files_eq
  have below := prepares.root_eq
  obtain ⟨-, -, top, start, isDir⟩ := FileSystem.pathProblem_eq_none_iff.1 prepares.existing
  rw [Path.ofString_text (Path.isProper_ofString dir), ← files, ← below] at start
  obtain ⟨sources, large, found⟩ := Search.exists_found (files ▸ plain.linkless)
    (files ▸ wellFormed) start isDir prepares.found
  -- The run ended with a summary, so no source stopped it.
  obtain ⟨handled, _, runs, ⟨rfl, rfl, ended⟩ | ⟨_, _, _, -, -, ended⟩⟩ :=
    ends_extractDirectory prepares found.toSorts given
  swap
  · cases ended
  obtain rfl := Except.ok.inj ended
  have isWay : ∀ way bytes, search.IsSource way bytes → IsWay way := fun way bytes source =>
    ⟨source.ne_nil (Search.isDirAt_placeOf (files ▸ plain.linkless) start isDir),
      source.names (files ▸ wellFormed)⟩
  have ways : ∀ way ∈ handled.map (·.1), IsWay way := by
    intro way member
    obtain ⟨bytes, source, -⟩ := (found.mem_sources_iff way).1 member
    exact isWay way bytes source
  obtain ⟨settings, endings, read, -, rfl⟩ := exists_of_search searched
  refine ⟨handled, large, ⟨settings, read, rfl⟩, files, below, ⟨findings, found⟩, isWay, runs, ?_⟩
  refine Summary.notes_foldl ?_
  have distinct := nodup_map_nameOf ways (nodup_append.1 found.distinct).1
  rw [map_map] at distinct
  exact distinct

namespace Ledger

variable (ledger : x.Ledger root outputDir world search s after handled large)

include ledger

theorem distinct : (handled.map (·.1) ++ large).Nodup := by
  obtain ⟨findings, found⟩ := ledger.found
  exact found.distinct

theorem distinct_handled : (handled.map (·.1)).Nodup :=
  (nodup_append.1 ledger.distinct).1

theorem written_eq : s.written = (storedIn handled).map fun item => nameOf item.1 :=
  ledger.notes.written

theorem perm_names : (s.written ++ s.failures.map (·.1) ++ s.skipped).Perm
    ((handled.map (·.1) ++ large).map nameOf) := by
  have failures : s.failures.map (·.1) = ((refusedIn handled).map (·.1)).map nameOf := by
    rw [ledger.notes.failures]
    simp [openSummary]
  have written : s.written = ((storedIn handled).map (·.1)).map nameOf := by
    rw [ledger.written_eq]
    simp
  have skipped : s.skipped = large.map nameOf := ledger.notes.skipped
  rw [failures, written, skipped, ← map_append, ← map_append]
  exact ((perm_storedIn_refusedIn handled).append_right large).map nameOf

/-- What was found are the sources that can be reached. -/
theorem mem_found_iff : way ∈ handled.map (·.1) ++ large ↔
    ∃ bytes, search.IsSource way bytes ∧ search.Reaches way := by
  obtain ⟨findings, found⟩ := ledger.found
  rw [mem_append, found.mem_sources_iff, found.mem_large_iff]
  constructor
  · rintro (⟨bytes, source, short, -⟩ | ⟨bytes, source, short, -⟩)
    · exact ⟨bytes, source, short⟩
    · exact ⟨bytes, source, short⟩
  · rintro ⟨bytes, source, short⟩
    obtain ⟨large, weighed⟩ := found.weighed way bytes source short
    cases large with
    | false => exact .inl ⟨bytes, source, short, weighed⟩
    | true => exact .inr ⟨bytes, source, short, weighed⟩

theorem ways (way : List String) (member : way ∈ handled.map (·.1) ++ large) : IsWay way := by
  obtain ⟨bytes, source, -⟩ := ledger.mem_found_iff.1 member
  exact ledger.isWay way bytes source

theorem ways_handled (item) (member : item ∈ handled) : IsWay item.1 :=
  ledger.ways item.1 (mem_append_left _ (mem_map_of_mem member))

/-- The lists of a summary have nothing in common, and no name is twice in one of them. -/
theorem nodup_names : (s.written ++ s.failures.map (·.1) ++ s.skipped).Nodup :=
  ledger.perm_names.nodup_iff.2 (nodup_map_nameOf ledger.ways ledger.distinct)

theorem mem_skipped_iff (source : search.IsSource way bytes) (short : search.Reaches way) :
    nameOf way ∈ s.skipped ↔ exceeds bytes.length search.maxSize = .ok true := by
  obtain ⟨findings, found⟩ := ledger.found
  have skipped : s.skipped = large.map nameOf := ledger.notes.skipped
  rw [skipped]
  constructor
  · intro listed
    obtain ⟨other, member, same⟩ := mem_map.1 listed
    obtain ⟨again, too, -, exceeding⟩ := (found.mem_large_iff other).1 member
    obtain rfl := (ledger.isWay _ _ too).nameOf_injective (ledger.isWay _ _ source) same
    have held := too.held.symm.trans source.held
    cases held
    exact exceeding
  · intro exceeding
    exact mem_map_of_mem ((found.mem_large_iff way).2 ⟨bytes, source, short, exceeding⟩)

/-- When the turn of a source comes, it is read as its file may be then. -/
theorem exists_turn (plain : world.IsPlain) {outcome : SourceOutcome}
    (member : (way, outcome) ∈ handled) :
    ∃ before behind, x.Handles root outputDir way before outcome behind ∧
      (∀ place, before.files.resolve (root.below way) = .ok place →
        place = world.files.placeOf root ++ way) ∧
      ∀ bytes, before.files.get (root.below way) = .ok (.file bytes) →
        x.MayHold world outputDir (storedIn handled) (world.files.placeOf root ++ way) bytes := by
  have names := (ledger.ways_handled _ member).names
  obtain ⟨front, back, rfl⟩ := append_of_mem member
  obtain ⟨before, behind, early, here, -⟩ := ledger.runs.split
  have ways : ∀ item ∈ front, IsWay item.1 := fun item inFront =>
    ledger.ways_handled item (by simp [inFront])
  have distinct := ledger.distinct_handled
  rw [map_append] at distinct
  have evolves := early.evolves plain ways
  have linkless := (evolves.isPlain plain).linkless
  have spelled : before.files.placeOf (root.below way) = world.files.placeOf root ++ way := by
    rw [evolves.files.placeOf, FileSystem.placeOf_below _ _ fun name inWay =>
      ⟨(names name inWay).notUp, (names name inWay).notHere⟩]
  refine ⟨before, behind, here, fun place found => ?_, fun bytes got => ?_⟩
  · rw [FileSystem.placeOf_of_resolve linkless found, spelled]
  have held := FileSystem.at?_of_get linkless got
  rw [spelled] at held
  by_cases logged : world.LogsAt (world.files.placeOf root ++ way)
  · exact .inr (.inl logged)
  rcases early.held_or plain ways (nodup_append.1 distinct).1 logged held with
    same | ⟨item, stored, goes, same⟩
  · exact .inl same
  · refine .inr (.inr ⟨item, ?_, goes, same⟩)
    exact mem_storedIn_iff.2 (mem_append_left _ (mem_storedIn_iff.1 stored))

/-- The graph of a source that was written is in its file, if that is not the log. -/
theorem holds (plain : world.IsPlain) {item : List String × Graph}
    (member : item ∈ storedIn handled) :
    ∃ out, outputDir = some out ∧ (¬world.LogsAt (x.graphPlace world.files out item.1) →
      x.Holds after.files out item.1 item.2) := by
  have listed := mem_storedIn_iff.1 member
  obtain ⟨_, _, handles, -⟩ := ledger.exists_turn plain listed
  cases handles with
  | stored _ _ stored =>
    cases outputDir with
    | none => cases (Action.gives_ofExcept_iff.1 stored).1
    | some out =>
      exact ⟨out, rfl, ledger.runs.holds plain ledger.ways_handled ledger.distinct_handled listed⟩

/-- A source that is said to be too large was replaced by a graph, or it is the log. -/
theorem goesTo_of_saysTooLarge (plain : world.IsPlain)
    (foreign : ∀ text report, x.parser text ≠ .error (.report report)) {reason : String}
    (member : (way, .refused reason) ∈ handled) (told : SaysTooLarge reason) :
    x.GoesTo world.files outputDir (storedIn handled) (world.files.placeOf root ++ way) ∨
      world.LogsAt (world.files.placeOf root ++ way) := by
  obtain ⟨findings, found⟩ := ledger.found
  obtain ⟨bytes, source, -, within⟩ := (found.mem_sources_iff way).1 (mem_map_of_mem member)
  obtain ⟨before, behind, handles, -, turn⟩ := ledger.exists_turn plain member
  cases handles with
  | refused failed _ =>
    obtain ⟨seen, settings, got, read, exceeding⟩ := exceeds_of_report foreign failed told
    rcases turn seen got with same | logged | ⟨item, stored, goes, -⟩
    · -- What was read is what was weighed, and that was not too large.
      have held := source.held
      rw [ledger.files, ledger.below, same] at held
      cases held
      obtain ⟨_, readToo, limit⟩ := ledger.settings
      rw [read] at readToo
      cases readToo
      rw [limit, exceeding] at within
      cases within
    · exact .inr logged
    · obtain ⟨out, given, _, single, same⟩ := goes
      cases mem_singleton.1 single
      exact .inl ⟨out, given, item, stored, same⟩

theorem exists_of_failure {name reason : String} (listed : (name, reason) ∈ s.failures) :
    ∃ way bytes, search.IsSource way bytes ∧ nameOf way = name ∧
      (way, .refused reason) ∈ handled := by
  obtain ⟨findings, found⟩ := ledger.found
  rw [ledger.notes.failures, openSummary] at listed
  obtain ⟨⟨way, _⟩, refused, same⟩ := mem_map.1 listed
  obtain ⟨named, rfl⟩ := Prod.mk.inj same
  have member := mem_refusedIn_iff.1 refused
  obtain ⟨bytes, source, -⟩ := (found.mem_sources_iff way).1 (mem_map_of_mem member)
  exact ⟨way, bytes, source, named, member⟩

/-- A graph that was stored was drawn from what the file of its source held then. -/
theorem exists_source (plain : world.IsPlain) {item : List String × Graph}
    (member : item ∈ storedIn handled) :
    ∃ bytes,
      x.MayHold world outputDir (storedIn handled) (world.files.placeOf root ++ item.1) bytes ∧
      x.graphOfBytes (root.below item.1) bytes = .ok item.2 := by
  obtain ⟨before, behind, handles, -, turn⟩ :=
    ledger.exists_turn plain (mem_storedIn_iff.1 member)
  cases handles with
  | stored drawn _ _ =>
    obtain ⟨-, bytes, got, drawn⟩ := exists_of_graphIn drawn
    exact ⟨bytes, turn bytes got, drawn⟩

/-- Only what may be read was written. -/
theorem mayRead_of_stored (plain : world.IsPlain) (proper : root.IsProper)
    {item : List String × Graph} (member : item ∈ storedIn handled) :
    x.mayRead (world.files.placeOf root ++ item.1) := by
  have listed := mem_storedIn_iff.1 member
  obtain ⟨before, behind, handles, leads, -⟩ := ledger.exists_turn plain listed
  cases handles with
  | stored drawn _ _ =>
    have permitted := (exists_of_graphIn drawn).1
    rw [Path.ofString_text (proper.below (ledger.ways_handled _ listed).names),
      FileSystem.permits] at permitted
    split at permitted
    next place found => exact leads place found ▸ permitted
    next => cases permitted

theorem nodup_places (fs : FileSystem) (out : Path) :
    ((storedIn handled).map fun item => x.graphPlace fs out item.1).Nodup := by
  have distinct := (perm_storedIn_refusedIn handled).nodup_iff.2 ledger.distinct_handled
  have isWay {way : List String} (member : way ∈ (storedIn handled).map (·.1)) : IsWay way := by
    obtain ⟨item, listed, rfl⟩ := mem_map.1 member
    exact ledger.ways_handled _ (mem_storedIn_iff.1 listed)
  have places : (((storedIn handled).map (·.1)).map (x.graphPlace fs out)).Nodup := by
    refine List.Nodup.map_on ?_ (nodup_append.1 distinct).1
    intro way first other second
    exact graphPath_injective (isWay first).names (isWay second).names (isWay first).ne_nil
      (isWay second).ne_nil
  rwa [map_map] at places

/-- No graph goes where that of a source would have gone which was not written. -/
theorem not_goesTo (given : outputDir = some out) (source : search.IsSource way bytes)
    (unwritten : nameOf way ∈ s.failures.map (·.1) ++ s.skipped) :
    ¬x.GoesTo world.files outputDir (storedIn handled) (x.graphPlace world.files out way) := by
  rintro ⟨_, same, item, member, meet⟩
  obtain rfl := Option.some.inj (given.symm.trans same)
  have first := ledger.ways_handled _ (mem_storedIn_iff.1 member)
  have second := ledger.isWay way bytes source
  have meet := graphPath_injective first.names second.names first.ne_nil second.ne_nil meet
  have written : nameOf way ∈ s.written := by
    rw [ledger.written_eq, ← meet]
    exact mem_map_of_mem member
  have distinct := ledger.nodup_names
  rw [append_assoc] at distinct
  exact (nodup_append.1 distinct).2.2 _ written _ unwritten rfl

end Ledger

end Extractor

end SyntaxGraph
