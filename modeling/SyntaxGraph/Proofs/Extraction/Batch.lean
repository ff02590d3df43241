import SyntaxGraph.Proofs.Extraction.Files
import SyntaxGraph.Proofs.Extraction.Sources

/-!
# Runs over the sources of a directory

A run takes one source after the other. The graph of a source is stored, or a report is noted as the
reason why not; any other fault stops the run. What a step does to the files is what storing one
graph does, so that a run touches the places of the graphs that it stored and the log.

Main statements: extraction of a directory is a run over the sources that were found
(`ends_extractDirectory`), and behind a run the graphs that it stored are in their files and all
other files are as before (`Runs.holds`, `Runs.evolves`).
-/
namespace SyntaxGraph

open SyntaxGraph.Action List

/-- Whether a way leads on, by names of entries. -/
structure IsWay (way : List String) : Prop where
  ne_nil : way ≠ []
  names : ∀ name ∈ way, IsEntryName name

theorem IsWay.named {way : List String} (isWay : IsWay way) : way.getLastD "" ≠ "" := by
  rw [getLastD_eq_getLast?, getLast?_eq_some_getLast isWay.ne_nil]
  exact (isWay.names _ (getLast_mem isWay.ne_nil)).named

/-- What becomes of a source that does not stop a run. -/
inductive SourceOutcome
  | stored (g : Graph)
  | refused (reason : String)

/-- What a summary calls a source, given the way to it. -/
def nameOf (way : List String) : String := ({ parts := way } : Path).text

/-- The graphs that were stored, with the ways to their sources. -/
def storedIn (handled : List (List String × SourceOutcome)) : List (List String × Graph) :=
  handled.filterMap fun
    | (way, .stored g) => some (way, g)
    | (_, .refused _) => none

/-- The reasons that were noted, with the ways to the sources. -/
def refusedIn (handled : List (List String × SourceOutcome)) : List (List String × String) :=
  handled.filterMap fun
    | (_, .stored _) => none
    | (way, .refused reason) => some (way, reason)

variable {way : List String} {handled : List (List String × SourceOutcome)}
  {entries : List (String × Entry)}

theorem mem_storedIn_iff {g : Graph} :
    (way, g) ∈ storedIn handled ↔ (way, .stored g) ∈ handled := by
  rw [storedIn, mem_filterMap]
  constructor
  · rintro ⟨⟨_, _ | _⟩, member, ⟨⟩⟩
    exact member
  · exact fun member => ⟨_, member, rfl⟩

theorem mem_refusedIn_iff {reason : String} :
    (way, reason) ∈ refusedIn handled ↔ (way, .refused reason) ∈ handled := by
  rw [refusedIn, mem_filterMap]
  constructor
  · rintro ⟨⟨_, _ | _⟩, member, ⟨⟩⟩
    exact member
  · exact fun member => ⟨_, member, rfl⟩

/-! ### Summaries -/

namespace Summary

def note (s : Summary) : List String × SourceOutcome → Summary
  | (way, .stored g) => s.addGraph (nameOf way) g
  | (way, .refused reason) => s.addFailure (nameOf way) reason

theorem putReason_of_new {name reason : String} {failures : List (String × String)}
    (new : name ∉ failures.map (·.1)) :
    putReason name reason failures = failures ++ [(name, reason)] := by
  induction failures with
  | nil => rfl
  | cons first rest ih =>
    rw [map_cons, mem_cons, not_or] at new
    rw [putReason, if_neg (Ne.symm new.1), ih new.2]
    rfl

/-- A summary to which something was noted, source by source. -/
structure Notes (start : Summary) (handled : List (List String × SourceOutcome)) (s : Summary) :
    Prop where
  written : s.written = start.written ++ (storedIn handled).map fun item => nameOf item.1
  failures : s.failures =
    start.failures ++ (refusedIn handled).map fun item => (nameOf item.1, item.2)
  skipped : s.skipped = start.skipped
  nodes : s.nodes = start.nodes + ((storedIn handled).map fun item => item.2.rows.length).sum
  edges : s.edges = start.edges + ((storedIn handled).map fun item => item.2.links.length).sum

theorem notes_foldl {start : Summary}
    (distinct : (start.failures.map (·.1) ++ handled.map fun item => nameOf item.1).Nodup) :
    start.Notes handled (handled.foldl note start) := by
  induction handled generalizing start with
  | nil =>
    exact ⟨by simp [storedIn], by simp [refusedIn], rfl, by simp [storedIn], by simp [storedIn]⟩
  | cons item rest ih =>
    obtain ⟨way, outcome⟩ := item
    cases outcome with
    | stored g =>
      have notes : (start.addGraph (nameOf way) g).Notes rest _ := ih (distinct.sublist
        (List.Sublist.append_left (sublist_cons_self ..) _))
      refine ⟨?_, ?_, notes.skipped, ?_, ?_⟩
      · exact notes.written.trans (by simp [storedIn, addGraph])
      · exact notes.failures.trans (by simp [refusedIn, addGraph])
      · exact notes.nodes.trans (by simp [storedIn, addGraph, Nat.add_assoc])
      · exact notes.edges.trans (by simp [storedIn, addGraph, Nat.add_assoc])
    | refused reason =>
      -- A name with a failure would get a new reason in its old place.
      have new : nameOf way ∉ start.failures.map (·.1) := by
        intro old
        exact (nodup_append.1 distinct).2.2 _ old _ (by simp) rfl
      have noted : (start.addFailure (nameOf way) reason).failures =
          start.failures ++ [(nameOf way, reason)] := putReason_of_new new
      have notes : (start.addFailure (nameOf way) reason).Notes rest _ := ih (by
        rw [noted]
        simpa using distinct)
      refine ⟨?_, ?_, notes.skipped, ?_, ?_⟩
      · exact notes.written.trans (by simp [storedIn, addFailure])
      · exact notes.failures.trans (by simp [refusedIn, noted])
      · exact notes.nodes.trans (by simp [storedIn, addFailure])
      · exact notes.edges.trans (by simp [storedIn, addFailure])

end Summary

namespace Extractor

variable {x : Extractor} {root out : Path} {outputDir : Option Path} {world before after : World}
  {way : List String} {outcome : SourceOutcome}
  {handled front back : List (List String × SourceOutcome)} {result : Except Fault Summary}

/-! ### One source -/

/-- A step of a run: a graph is drawn and stored, or there is a report. -/
inductive Handles (x : Extractor) (root : Path) (outputDir : Option Path) (way : List String) :
    World → SourceOutcome → World → Prop
  | stored {world between after : World} {g : Graph}
    (drawn : x.graphIn world.files (root.below way) = .ok g) (logged : world.LogsTo between)
    (stored : (x.storeBelow outputDir { parts := way } g).Gives between () after) :
    Handles x root outputDir way world (.stored g) after
  | refused {world after : World} {report : Report}
    (failed : x.graphIn world.files (root.below way) = .error (.report report))
    (logged : world.LogsTo after) :
    Handles x root outputDir way world (.refused report.message) after

/-- A source stops a run if no graph can be drawn and there is no report, or if the graph cannot be
stored. -/
inductive Stops (x : Extractor) (root : Path) (outputDir : Option Path) (way : List String) :
    World → Fault → Prop
  | drawing {world : World} {fault : Fault}
    (failed : x.graphIn world.files (root.below way) = .error fault)
    (unreported : fault.isReport = false) : Stops x root outputDir way world fault
  | storing {world between after : World} {g : Graph} {fault : Fault}
    (drawn : x.graphIn world.files (root.below way) = .ok g) (logged : world.LogsTo between)
    (failed : (x.storeBelow outputDir { parts := way } g).Ends between (.error fault) after) :
    Stops x root outputDir way world fault

theorem StoringFault.isReport {fault : Fault} (failed : x.StoringFault outputDir fault) :
    fault.isReport = false := by
  cases failed with
  | unfinished unfit => rcases unfit with rfl | rfl <;> rfl
  | _ => rfl

theorem ends_extractBelow {result : Except Fault Graph}
    (ended : (x.extractBelow outputDir (root.below way) { parts := way }).Ends world result after) :
    (∃ fault, x.graphIn world.files (root.below way) = .error fault ∧ result = .error fault ∧
      world.LogsTo after) ∨
    ∃ g between, x.graphIn world.files (root.below way) = .ok g ∧ world.LogsTo between ∧
      ((∃ fault, result = .error fault ∧
        (x.storeBelow outputDir { parts := way } g).Ends between (.error fault) after) ∨
      (result = .ok g ∧ (x.storeBelow outputDir { parts := way } g).Gives between () after)) := by
  obtain ⟨fault, failed, rfl⟩ | ⟨g, between, drawn, ended⟩ := ends_bind_iff.1 ended
  · obtain ⟨drawn, logged⟩ := ends_extractFile failed
    exact .inl ⟨fault, drawn.symm, rfl, logged⟩
  · obtain ⟨drawn, logged⟩ := ends_extractFile drawn
    refine .inr ⟨g, between, drawn.symm, logged, ?_⟩
    obtain ⟨fault, failed, rfl⟩ | ⟨⟨⟩, _, stored, _, ran⟩ := ends_bind_iff.1 ended
    · exact .inl ⟨fault, rfl, failed⟩
    · cases ran
      exact .inr ⟨rfl, stored⟩

/-- What becomes of one source: it is noted, or the run stops there. -/
theorem ends_extractInto {s : Summary}
    (ended : (x.extractInto root outputDir s (root.below way)).Ends world result after) :
    (∃ outcome, x.Handles root outputDir way world outcome after ∧
      result = .ok (s.note (way, outcome))) ∨
    ∃ fault, x.Stops root outputDir way world fault ∧ result = .error fault := by
  unfold extractInto at ended
  simp only [Path.relativeTo?_below, Option.getD_some] at ended
  obtain ⟨_, ⟨_, ran⟩, -⟩ | ⟨_, between, attempted, ended⟩ := ends_bind_iff.1 ended
  · cases ran
  have attempted := gives_attempt_iff.1 attempted
  -- It failed before the graph was drawn, while it was stored, or not at all.
  obtain ⟨fault, drawn, rfl, logged⟩ |
      ⟨g, _, drawn, logged, ⟨fault, rfl, failed⟩ | ⟨rfl, stored⟩⟩ := ends_extractBelow attempted
  · cases fault with
    | report report =>
      obtain ⟨_, failed, -⟩ | ⟨_, _, told, _, ran⟩ := ends_bind_iff.1 ended
      · cases (ends_log failed).1
      · cases ran
        exact .inl ⟨_, .refused drawn (logged.tail (appended_of_log told)), rfl⟩
    | _ =>
      obtain ⟨rfl, -⟩ := ends_ofExcept_iff.1 ended
      exact .inr ⟨_, .drawing drawn rfl, rfl⟩
  -- Storing fails without a report, so it is not noted.
  · have unreported := (storingFault_of_storeBelow failed).isReport
    cases fault with
    | report report => cases unreported
    | _ =>
      obtain ⟨rfl, -⟩ := ends_ofExcept_iff.1 ended
      exact .inr ⟨_, .storing drawn logged failed, rfl⟩
  · obtain ⟨_, ran⟩ := ended
    cases ran
    exact .inl ⟨_, .stored drawn logged stored, rfl⟩

/-! ### Runs -/

/-- A run over sources, with lines of the log between them. -/
inductive Runs (x : Extractor) (root : Path) (outputDir : Option Path) :
    World → List (List String × SourceOutcome) → World → Prop
  | done {world : World} : Runs x root outputDir world [] world
  | told {world between after : World} {rest : List (List String × SourceOutcome)}
    (logged : world.LogsTo between) (later : Runs x root outputDir between rest after) :
    Runs x root outputDir world rest after
  | next {world between after : World} {way : List String} {outcome : SourceOutcome}
    {rest : List (List String × SourceOutcome)}
    (first : x.Handles root outputDir way world outcome between)
    (later : Runs x root outputDir between rest after) :
    Runs x root outputDir world ((way, outcome) :: rest) after

theorem Runs.tell (runs : x.Runs root outputDir world handled before)
    (logged : before.LogsTo after) : x.Runs root outputDir world handled after := by
  induction runs with
  | done => exact .told logged .done
  | told first _ ih => exact .told first (ih logged)
  | next first _ ih => exact .next first (ih logged)

/-- Extracting sources one after the other is a run over them, up to one that stops it. -/
theorem ends_fold {ways : List (List String)} {s : Summary}
    (ended : (Action.fold (x.extractInto root outputDir) s (ways.map root.below)).Ends world result
      after) :
    ∃ handled reached, x.Runs root outputDir world handled reached ∧
      ((ways = handled.map (·.1) ∧ result = .ok (handled.foldl Summary.note s) ∧ reached = after) ∨
      ∃ way rest fault, ways = handled.map (·.1) ++ way :: rest ∧
        x.Stops root outputDir way reached fault ∧ result = .error fault) := by
  induction ways generalizing world s with
  | nil =>
    obtain ⟨_, ran⟩ := ended
    cases ran
    exact ⟨[], _, .done, .inl ⟨rfl, rfl, rfl⟩⟩
  | cons way rest ih =>
    obtain ⟨fault, failed, rfl⟩ | ⟨_, between, first, ended⟩ := ends_bind_iff.1 ended
    -- The first source stops the run, and none is handled.
    · obtain ⟨_, -, same⟩ | ⟨fault, stops, same⟩ := ends_extractInto failed
      · cases same
      · cases same
        exact ⟨[], world, .done, .inr ⟨way, rest, _, rfl, stops, rfl⟩⟩
    · obtain ⟨outcome, handles, same⟩ | ⟨fault, -, same⟩ := ends_extractInto first
      · cases same
        obtain ⟨handled, reached, runs, ⟨rfl, rfl, rfl⟩ | ⟨way', rest', fault, rfl, stops, rfl⟩⟩ :=
          ih ended
        · exact ⟨(way, outcome) :: handled, reached, .next handles runs, .inl ⟨rfl, rfl, rfl⟩⟩
        · exact ⟨(way, outcome) :: handled, reached, .next handles runs,
            .inr ⟨way', rest', fault, rfl, stops, rfl⟩⟩
      · cases same

/-- A run can be looked at where it has come to one of its sources. -/
theorem Runs.split (runs : x.Runs root outputDir world (front ++ (way, outcome) :: back) after) :
    ∃ before behind, x.Runs root outputDir world front before ∧
      x.Handles root outputDir way before outcome behind ∧
      x.Runs root outputDir behind back after := by
  generalize whole : front ++ (way, outcome) :: back = handled at runs
  induction runs generalizing front with
  | done => simp at whole
  | told logged _ ih =>
    obtain ⟨before, behind, early, here, late⟩ := ih whole
    exact ⟨before, behind, .told logged early, here, late⟩
  | next first later ih =>
    cases front with
    | nil =>
      cases whole
      exact ⟨_, _, .done, first, later⟩
    | cons item rest =>
      obtain ⟨rfl, onward⟩ := List.cons.inj whole
      obtain ⟨before, behind, early, here, late⟩ := ih onward
      exact ⟨before, behind, .next first early, here, late⟩

/-! ### What runs do to files -/

def GoesTo (x : Extractor) (fs : FileSystem) (outputDir : Option Path)
    (stored : List (List String × Graph)) (place : List String) : Prop :=
  ∃ out, outputDir = some out ∧ ∃ item ∈ stored, x.graphPlace fs out item.1 = place

theorem goesTo_of_evolves {touched : List String → Prop} {old new : FileSystem}
    (evolves : old.Evolves touched new) {stored : List (List String × Graph)}
    {place : List String} :
    x.GoesTo new outputDir stored place ↔ x.GoesTo old outputDir stored place := by
  simp only [GoesTo, graphPlace_of_evolves evolves]

/-- A step touches the place of the graph that it stored, and the log. -/
theorem Handles.evolves (plain : world.IsPlain) (named : way.getLastD "" ≠ "")
    (handles : x.Handles root outputDir way world outcome after) :
    world.Evolves (fun place => x.GoesTo world.files outputDir (storedIn [(way, outcome)]) place ∨
      world.LogsAt place) after := by
  cases handles with
  | refused _ logged => exact (logged.evolves plain).mono fun _ => .inr
  | @stored between _ g _ logged stored =>
    have logging := logged.evolves plain
    cases outputDir with
    | none => cases (gives_ofExcept_iff.1 stored).1
    | some out =>
      obtain ⟨storing, -⟩ := holds_of_storeBelow (logging.isPlain plain) named stored
      refine (logging.mono fun _ => .inr).trans (storing.mono fun place hit => ?_)
      rcases hit with rfl | hit
      · refine .inl ⟨out, rfl, (way, g), ?_, (graphPlace_of_evolves logging.files).symm⟩
        exact mem_storedIn_iff.2 (mem_singleton_self _)
      · exact .inr (logging.logsAt_iff.1 hit)

theorem Handles.holds {g : Graph} (plain : world.IsPlain) (named : way.getLastD "" ≠ "")
    (handles : x.Handles root (some out) way world (.stored g) after)
    (apart : ¬world.LogsAt (x.graphPlace world.files out way)) : x.Holds after.files out way g := by
  cases handles with
  | stored _ logged stored =>
    have logging := logged.evolves plain
    refine (holds_of_storeBelow (logging.isPlain plain) named stored).2 fun hit => apart ?_
    rw [graphPlace_of_evolves logging.files] at hit
    exact logging.logsAt_iff.1 hit

/-- A run touches the places of the graphs that it stored, and the log. -/
theorem Runs.evolves (plain : world.IsPlain) (ways : ∀ item ∈ handled, IsWay item.1)
    (runs : x.Runs root outputDir world handled after) :
    world.Evolves (fun place => x.GoesTo world.files outputDir (storedIn handled) place ∨
      world.LogsAt place) after := by
  induction runs with
  | done => exact .refl _
  | told logged _ ih =>
    have here := logged.evolves plain
    refine (here.mono fun _ => .inr).trans ((ih (here.isPlain plain) ways).mono fun place hit => ?_)
    exact hit.imp (goesTo_of_evolves here.files).1 here.logsAt_iff.1
  | @next world between after way outcome rest first later ih =>
    obtain ⟨isWay, others⟩ := forall_mem_cons.1 ways
    have here := first.evolves plain isWay.named
    -- More graphs go to more places.
    have wider {part : List (List String × SourceOutcome)}
        (sub : ∀ item ∈ part, item ∈ (way, outcome) :: rest)
        {place : List String} (goes : x.GoesTo world.files outputDir (storedIn part) place) :
        x.GoesTo world.files outputDir (storedIn ((way, outcome) :: rest)) place := by
      obtain ⟨out, given, item, member, same⟩ := goes
      exact ⟨out, given, item, mem_storedIn_iff.2 (sub _ (mem_storedIn_iff.1 member)), same⟩
    refine (here.mono fun place hit => ?_).trans
      ((ih (here.isPlain plain) others).mono fun place hit => ?_)
    · exact hit.imp_left (wider (by simp))
    · exact hit.imp
        (fun goes => wider (by simp +contextual) ((goesTo_of_evolves here.files).1 goes))
        here.logsAt_iff.1

/-- Behind a run the graphs that it stored are in their files. -/
theorem Runs.holds (plain : world.IsPlain) (ways : ∀ item ∈ handled, IsWay item.1)
    (distinct : (handled.map (·.1)).Nodup)
    (runs : x.Runs root (some out) world handled after) {g : Graph}
    (member : (way, .stored g) ∈ handled)
    (apart : ¬world.LogsAt (x.graphPlace world.files out way)) : x.Holds after.files out way g := by
  obtain ⟨front, back, rfl⟩ := append_of_mem member
  obtain ⟨before, behind, early, here, late⟩ := runs.split
  have isWay := ways (way, .stored g) (by simp)
  have first := early.evolves plain fun item inFront => ways item (by simp [inFront])
  have step := here.evolves (first.isPlain plain) isWay.named
  have plainBehind := step.isPlain (first.isPlain plain)
  have last := late.evolves plainBehind fun item inBack => ways item (by simp [inBack])
  have logs {place : List String} : behind.LogsAt place ↔ world.LogsAt place :=
    step.logsAt_iff.trans first.logsAt_iff
  have same : x.graphPlace behind.files out way = x.graphPlace world.files out way :=
    (graphPlace_of_evolves step.files).trans (graphPlace_of_evolves first.files)
  -- The graph is in its file behind its own step, and no later step touches the file.
  have holds := here.holds (first.isPlain plain) isWay.named (by
    rw [graphPlace_of_evolves first.files, first.logsAt_iff]
    exact apart)
  refine holds.evolves plainBehind.linkless last.files ?_
  rintro (⟨_, ⟨⟩, ⟨other, g'⟩, later, meet⟩ | hit)
  · have inBack := mem_storedIn_iff.1 later
    have alsoWay := ways (other, .stored g') (by simp [inBack])
    obtain rfl := graphPath_injective alsoWay.names isWay.names alsoWay.ne_nil isWay.ne_nil meet
    rw [map_append] at distinct
    exact (nodup_cons.1 (nodup_append.1 distinct).2.1).1 (mem_map.2 ⟨_, inBack, rfl⟩)
  · rw [same, logs] at hit
    exact apart hit

/-- What a file holds behind a run it held before, or it is a graph that the run stored. -/
theorem Runs.held_or (plain : world.IsPlain) (ways : ∀ item ∈ handled, IsWay item.1)
    (distinct : (handled.map (·.1)).Nodup)
    (runs : x.Runs root outputDir world handled after) {place : List String}
    (unlogged : ¬world.LogsAt place) {bytes : List UInt8}
    (held : after.files.root.at? place = some (.file bytes)) :
    world.files.root.at? place = some (.file bytes) ∨ ∃ item ∈ storedIn handled,
      x.GoesTo world.files outputDir [item] place ∧ bytes = item.2.fileBytes x.compresses := by
  have evolves := runs.evolves plain ways
  by_cases touched : x.GoesTo world.files outputDir (storedIn handled) place
  · obtain ⟨out, rfl, item, listed, rfl⟩ := touched
    have holds := runs.holds plain ways distinct (mem_storedIn_iff.1 listed) unlogged
    have own := holds.held
    rw [graphPlace_of_evolves evolves.files, held] at own
    exact .inr ⟨item, listed, ⟨out, rfl, item, mem_singleton_self _, rfl⟩,
      Entry.file.inj (Option.some.inj own)⟩
  · refine .inl ((evolves.files.files place bytes ?_).1 held)
    exact fun hit => hit.elim touched unlogged

/-! ### Directories -/

/-- What is known before the first source of a directory is extracted. -/
structure Prepares (x : Extractor) (root : Path) (output : Option Path) (world : World)
    (outputDir : Option Path) (search : Search) (findings : List Finding) : Prop where
  existing : world.files.directoryProblem x.mayRead root.text = .ok none
  goes : x.outputDir output = .ok outputDir
  searched : x.search world.files root = .ok search
  found : search.findings.result = .ok findings

variable {output : Option Path} {search : Search} {findings : List Finding} {s : Summary}
  {sources large : List (List String)}

theorem Prepares.root_eq (prepares : x.Prepares root output world outputDir search findings) :
    search.root = root := by
  obtain ⟨settings, endings, -, -, rfl⟩ := exists_of_search prepares.searched
  rfl

theorem Prepares.files_eq (prepares : x.Prepares root output world outputDir search findings) :
    search.files = world.files := by
  obtain ⟨settings, endings, -, -, rfl⟩ := exists_of_search prepares.searched
  rfl

theorem prepares_of_gives (given : (x.extractDirectory root output).Gives world s after) :
    ∃ outputDir search findings, x.Prepares root output world outputDir search findings := by
  obtain ⟨_, _, ⟨_, ran⟩, given⟩ := gives_bind_iff.1 given
  cases ran
  obtain ⟨problem, _, checking, given⟩ := gives_bind_iff.1 given
  obtain ⟨checked, rfl⟩ := gives_ofExcept_iff.1 checking
  cases problem with
  | some problem => cases (gives_ofExcept_iff.1 given).1
  | none =>
    obtain ⟨outputDir, _, choosing, given⟩ := gives_bind_iff.1 given
    obtain ⟨goes, rfl⟩ := gives_ofExcept_iff.1 choosing
    obtain ⟨search, _, searching, given⟩ := gives_bind_iff.1 given
    obtain ⟨searched, rfl⟩ := gives_ofExcept_iff.1 searching
    obtain ⟨findings, _, finding, given⟩ := gives_bind_iff.1 given
    obtain ⟨found, -⟩ := ends_ofLogged finding
    exact ⟨outputDir, search, findings, checked, goes, searched, found.symm⟩

theorem Prepares.extractDirectory_eq
    (prepares : x.Prepares root output world outputDir search findings) :
    x.extractDirectory root output world =
      (Action.ofLogged search.findings >>= x.extractFound root outputDir) world := by
  have looked (next : FileSystem → Action Summary) :
      (Action.files >>= next) world = next world.files world := by
    rfl
  unfold extractDirectory
  rw [looked, prepares.existing, ofExcept_ok_bind]
  rw [prepares.goes, ofExcept_ok_bind, prepares.searched, ofExcept_ok_bind]

/-- Where no file keeps the log, the findings are extracted in the same world. -/
theorem Prepares.ends_of_silent (prepares : x.Prepares root output world outputDir search findings)
    (silent : world.logFile? = none)
    (ended : (x.extractFound root outputDir findings).Ends world result after) :
    (x.extractDirectory root output).Ends world result after := by
  have searching := ends_self (Action.ofLogged search.findings) world
  obtain ⟨found, logged⟩ := ends_ofLogged searching
  rw [found, prepares.found, logged.eq_of_silent silent] at searching
  rw [Action.Ends, prepares.extractDirectory_eq]
  exact ends_bind_iff.2 (.inr ⟨findings, world, searching, ended⟩)

/-- The summary in which nothing is noted yet but what was skipped. -/
def openSummary (root : Path) (outputDir : Option Path) (large : List (List String)) : Summary :=
  { sourceDir := root.text, outputDir := outputDir.map Path.text, skipped := large.map nameOf }

theorem ends_extractFound (sorts : search.Sorts findings sources large)
    (ended : (x.extractFound search.root outputDir findings).Ends world result after) :
    ∃ handled reached, x.Runs search.root outputDir world handled reached ∧
      ((sources = handled.map (·.1) ∧ reached = after ∧
        result = .ok (handled.foldl Summary.note (openSummary search.root outputDir large))) ∨
      ∃ way rest fault, sources = handled.map (·.1) ++ way :: rest ∧
        x.Stops search.root outputDir way reached fault ∧ result = .error fault) := by
  have skipped : (findings.filterMap Finding.tooLarge?).map (fun found =>
      ((found.relativeTo? search.root).getD found).text) = large.map nameOf := by
    rw [sorts.skipped, map_map]
    refine map_congr_left fun way _ => ?_
    simp [nameOf]
  obtain ⟨_, failed, -⟩ | ⟨_, start, telling, ended⟩ := ends_bind_iff.1 ended
  · cases (ends_log failed).1
  have begun : world.LogsTo start := .single (appended_of_log telling)
  rw [sorts.listed, skipped] at ended
  obtain ⟨fault, failed, rfl⟩ | ⟨s, between, extracting, ended⟩ := ends_bind_iff.1 ended
  -- The fold failed, so some source stopped the run.
  · obtain ⟨handled, reached, runs, ⟨-, same, -⟩ | stopped⟩ := ends_fold failed
    · cases same
    · exact ⟨handled, reached, .told begun runs, .inr stopped⟩
  · obtain ⟨handled, reached, runs, ⟨rfl, same, rfl⟩ | ⟨_, _, _, -, -, same⟩⟩ :=
      ends_fold extracting
    · cases same
      obtain ⟨_, failed, -⟩ | ⟨_, _, telling, _, ran⟩ := ends_bind_iff.1 ended
      · cases (ends_log failed).1
      · cases ran
        refine ⟨handled, _, .told begun (runs.tell ?_), .inl ⟨rfl, rfl, rfl⟩⟩
        exact .single (appended_of_log telling)
    · cases same

/-- Extraction of a directory is a run over the sources that were found. -/
theorem ends_extractDirectory (prepares : x.Prepares root output world outputDir search findings)
    (sorts : search.Sorts findings sources large)
    (ended : (x.extractDirectory root output).Ends world result after) :
    ∃ handled reached, x.Runs root outputDir world handled reached ∧
      ((sources = handled.map (·.1) ∧ reached = after ∧
        result = .ok (handled.foldl Summary.note (openSummary root outputDir large))) ∨
      ∃ way rest fault, sources = handled.map (·.1) ++ way :: rest ∧
        x.Stops root outputDir way reached fault ∧ result = .error fault) := by
  obtain rfl := prepares.root_eq
  rw [Action.Ends, prepares.extractDirectory_eq] at ended
  obtain ⟨_, failed, -⟩ | ⟨_, start, finding, ended⟩ := ends_bind_iff.1 ended
  · obtain ⟨unfound, -⟩ := ends_ofLogged failed
    rw [prepares.found] at unfound
    cases unfound
  obtain ⟨found, searching⟩ := ends_ofLogged finding
  rw [prepares.found] at found
  cases found
  obtain ⟨handled, reached, runs, ending⟩ := ends_extractFound sorts ended
  exact ⟨handled, reached, .told searching runs, ending⟩

end Extractor

/-! ### Samples -/

theorem blankExtractor_foreign {source : SourceSettings} (text : String) (report : Report) :
    (blankExtractor source).parser text ≠ .error (.report report) := by
  intro failed
  cases failed

theorem not_logsAt_worldOf (place : List String) : ¬(worldOf entries).LogsAt place := by
  rintro ⟨_, ⟨⟩, -⟩

theorem isWellFormed_worldOf (tidy : (Entry.dir entries).isTidy) :
    (worldOf entries).files.IsWellFormed :=
  ((Entry.dir entries).isWellFormed_of_isTidy tidy).1

theorem isPlain_worldOf (tidy : (Entry.dir entries).isTidy) : (worldOf entries).IsPlain :=
  ⟨⟨entries, rfl⟩, ((Entry.dir entries).isWellFormed_of_isTidy tidy).2⟩

end SyntaxGraph
