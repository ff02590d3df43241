import SyntaxGraph.Command.Run
import SyntaxGraph.Proofs.Extraction.Listings
import SyntaxGraph.Proofs.Extraction.Files

/-!
# Graphs that the command line stores

A source is extracted and its graph is stored by a command, or by the extractor itself. The command
compresses what it is told to compress; the extractor goes by the settings.

Main statement: both store the graph so that it can be loaded with the same data. They leave the
same world, unless the settings ask for compression and the output path does not end as compressed
files do. Then the extractor adds that ending, and the command does not.
-/
namespace SyntaxGraph

open SyntaxGraph.Action List

variable {world drawn after : World} {g : Graph}

/-- Whether a graph can be stored under a path, in the form that its ending says. -/
def Graph.fitsAt (g : Graph) (fs : FileSystem) (path : Path) : Bool :=
  let packed := path.suffix = ".gz"
  (g.document packed).snag.isNone && (fs.withFile path (g.fileBytes packed)).isOk

/-- Whether a graph is loaded from a path with its data, unless the log is kept there. -/
def World.Keeps (world : World) (g : Graph) (path : Path) : Prop :=
  world.LogsElsewhere path →
    ∃ loaded, (Graph.load path world).1.result = .ok loaded ∧ loaded.toJson = g.toJson

theorem Graph.exists_save {name : String} (shown : g.DrawnFrom (.str name))
    (standing : world.files.IsStanding) {path written : Path} {compress : Json}
    (fits : g.fitsAt world.files written)
    (goes : destination path compress = .ok (written, written.suffix = ".gz")) :
    ∃ after, (g.save path compress).Gives world written after ∧ after.Keeps g written := by
  obtain ⟨done, can⟩ := Bool.and_eq_true_iff.1 fits
  have done := Option.isNone_iff_eq_none.1 done
  obtain ⟨outer, files, made, stored, -⟩ := FileSystem.exists_of_withFile standing can
  obtain ⟨after, logged, -⟩ :=
    exists_log (storageRecord s!"Graph saved to {written.text}") { world with files }
  have saved : (g.save path compress).Gives world written after := by
    refine gives_bind_iff.2 ⟨_, _, gives_ofExcept_iff.2 ⟨goes, rfl⟩, ?_⟩
    refine gives_bind_iff.2 ⟨(), _, gives_change_iff.2 ⟨outer, made, rfl⟩, ?_⟩
    refine gives_bind_iff.2 ⟨(), _, gives_change_iff.2 ⟨files, stored, rfl⟩, ?_⟩
    refine gives_bind_iff.2 ⟨(), _, gives_ofExcept_iff.2 ⟨by rw [done]; rfl, rfl⟩, ?_⟩
    exact gives_bind_iff.2 ⟨(), after, logged, gives_pure_iff.2 ⟨rfl, rfl⟩⟩
  refine ⟨after, saved, fun apart => ?_⟩
  obtain ⟨compressed, same, done, held⟩ := get_of_save standing saved apart
  rw [goes] at same
  cases same
  exact shown.load rfl done rfl held

/-! ### The extractor -/

namespace Extractor

variable {x : Extractor} {storage : StorageSettings}

/-- Where the extractor stores a graph: the ending shows compression that the settings ask for. -/
def storedAt (x : Extractor) (output : Path) : Path :=
  if x.compresses ∧ output.suffix ≠ ".gz" then output.appendName ".gz" else output

theorem destination_storedAt (known : x.settings.storage = .ok storage) {output : Path}
    (named : output.name ≠ "") :
    Graph.destination output (if storage.compression.isTruthy then storage.compression else .null) =
      .ok (x.storedAt output, (x.storedAt output).suffix = ".gz") := by
  have asked : x.compresses = storage.compression.isTruthy := by rw [compresses, known]
  rw [storedAt, asked]
  by_cases compress : storage.compression.isTruthy
  · have given : storage.compression ≠ .null := by
      intro null
      rw [null] at compress
      cases compress
    by_cases packed : output.suffix = ".gz"
    · simp [Graph.destination, compress, given, packed]
    · have longer : (output.appendName ".gz").suffix = ".gz" :=
        Path.suffix_appendName (show ".gz".toList = ['.', 'g', 'z'] from rfl) (by decide) named
      simp [Graph.destination, compress, given, packed, named, longer]
  · simp [Graph.destination, compress]

/-- The graph of a source is stored as soon as it is drawn. -/
theorem gives_extractFile_store {path output : Path}
    (extracts : (x.extractFile path).Gives world g drawn)
    (stored : (x.store g output).Gives drawn () after) :
    (x.extractFile path (some output)).Gives world g after := by
  obtain ⟨source, between, read, extracts⟩ := gives_bind_iff.1 extracts
  obtain ⟨other, _, logged, ended⟩ := gives_bind_iff.1 extracts
  obtain ⟨rfl, rfl⟩ := gives_pure_iff.1 ended
  refine gives_bind_iff.2 ⟨source, between, read, gives_bind_iff.2 ⟨other, _, logged, ?_⟩⟩
  exact gives_bind_iff.2 ⟨(), after, stored, gives_pure_iff.2 ⟨rfl, rfl⟩⟩

end Extractor

/-! ### The command -/

theorem World.LogsTo.isStanding (logged : world.LogsTo after) (standing : world.files.IsStanding) :
    after.files.IsStanding := by
  induction logged with
  | refl => exact standing
  | tail _ appended standing =>
    cases appended with
    | nothing => exact standing
    | something _ done => exact standing.writeWith done

namespace FileSystem

variable {fs : FileSystem} {text : String} {bytes : List UInt8}

/-- A path without a name has no parts, and leads to a directory. -/
theorem name_ne_of_get (standing : fs.IsStanding)
    (held : fs.get (.ofString text) = .ok (.file bytes)) : (Path.ofString text).name ≠ "" := by
  intro unnamed
  have bare : (Path.ofString text).parts = [] := by
    by_contra some
    rw [Path.name, getLastD_eq_getLast?, getLast?_eq_some_getLast some] at unnamed
    exact ((Path.isProper_ofString text).parts _ (getLast_mem some)).1 unnamed
  obtain ⟨place, found, there⟩ := exists_of_bind_eq_ok held
  obtain ⟨-, leads⟩ := resolve_eq_ok_iff.1 found
  rw [bare] at leads
  cases leads
  obtain ⟨entries, isDir⟩ := standing.startOf (.ofString text)
  rw [entryAt, isDir] at there
  cases there

theorem name_ne_of_withFile (standing : fs.IsStanding)
    (can : (fs.withFile (.ofString text) bytes).isOk) : (Path.ofString text).name ≠ "" := by
  obtain ⟨outer, files, made, stored, held⟩ := exists_of_withFile standing can
  exact name_ne_of_get ((standing.ensureDirs made).writeWith (ok_of_mapError stored)) held

theorem fileProblem_of_get (standing : fs.IsStanding)
    (held : fs.get (.ofString text) = .ok (.file bytes)) {mayRead : List String → Bool}
    (permitted : fs.permits mayRead (.ofString text)) : fs.fileProblem mayRead text = .ok none := by
  refine pathProblem_eq_none_iff.2 ⟨?_, permitted, _, held, rfl⟩
  rintro rfl
  exact name_ne_of_get standing held rfl

end FileSystem

theorem Action.Gives.orGiveUp {α : Type} {action : Action α} {next : α → Action Nat} {a : α}
    {code : Nat} {verbose : Bool} {isTold : Fault → Bool} (given : action.Gives world a drawn)
    (onward : (next a).Gives drawn code after) :
    (orGiveUp verbose isTold action next).Gives world code after :=
  gives_bind_iff.2 ⟨.ok a, drawn, gives_attempt_iff.2 given, onward⟩

/-- The command and the extractor store the graph of a source where it can be loaded, and leave the
same world if they store it at the same path: unless the settings ask for compression and the path
does not show it. -/
theorem Command.extract_stores {x : Extractor} {storage : StorageSettings} {file output : String}
    (extracts : (x.extractFile (.ofString file)).Gives world g drawn)
    (standing : world.files.IsStanding) (known : x.settings.storage = .ok storage)
    (fits : g.fitsAt drawn.files (.ofString output))
    (fitsStored : g.fitsAt drawn.files (x.storedAt (.ofString output))) (verbose : Bool) :
    ∃ told stored, ((extract file output false).run x verbose).Gives world 0 told ∧
      (x.extractFile (.ofString file) (some (.ofString output))).Gives world g stored ∧
      told.Keeps g (.ofString output) ∧ stored.Keeps g (x.storedAt (.ofString output)) ∧
      (x.storedAt (.ofString output) = .ofString output → told = stored) := by
  -- The extraction only logs, so the files stand as before.
  obtain ⟨shown, logged⟩ := Extractor.ends_extractFile extracts
  obtain ⟨permitted, bytes, held, shown⟩ := Extractor.exists_of_graphIn shown.symm
  rw [Path.ofString_text (Path.isProper_ofString file)] at permitted
  have shown := Extractor.drawnFrom_of_graphOfBytes shown
  have right := FileSystem.fileProblem_of_get standing held permitted
  have standing := logged.isStanding standing
  have named := FileSystem.name_ne_of_withFile standing (Bool.and_eq_true_iff.1 fits).2
  have goes := Extractor.destination_storedAt known named
  have plain : Graph.destination (.ofString output) .null =
      .ok (.ofString output, (Path.ofString output).suffix = ".gz") := if_pos rfl
  obtain ⟨told, saved, kept⟩ := g.exists_save shown standing fits plain
  obtain ⟨stored, savedAs, keptAs, same⟩ : ∃ stored, (g.save (.ofString output)
      (if storage.compression.isTruthy then storage.compression else .null)).Gives drawn
        (x.storedAt (.ofString output)) stored ∧ stored.Keeps g (x.storedAt (.ofString output)) ∧
      (x.storedAt (.ofString output) = .ofString output → told = stored) := by
    by_cases same : x.storedAt (.ofString output) = .ofString output
    · -- Saving depends on the compression only by what comes of it.
      rw [same] at goes ⊢
      rw [Graph.save, goes, ← plain]
      exact ⟨told, saved, kept, fun _ => rfl⟩
    · obtain ⟨stored, saved, kept⟩ := g.exists_save shown standing fitsStored goes
      exact ⟨stored, saved, kept, fun equal => absurd equal same⟩
  refine ⟨told, stored, ?_, Extractor.gives_extractFile_store extracts ?_, kept, keptAs, same⟩
  · have asked : output ≠ "" := by
      rintro rfl
      exact named rfl
    refine gives_bind_iff.2 ⟨world.files, world, ⟨_, rfl⟩, ?_⟩
    rw [right]
    refine gives_bind_iff.2 ⟨none, world, gives_ofExcept_iff.2 ⟨rfl, rfl⟩, extracts.orGiveUp ?_⟩
    rw [if_neg asked]
    exact saved.orGiveUp ⟨_, rfl⟩
  · refine gives_bind_iff.2 ⟨storage, drawn, gives_ofExcept_iff.2 ⟨known, rfl⟩, ?_⟩
    exact gives_bind_iff.2 ⟨_, stored, savedAs, gives_pure_iff.2 ⟨rfl, rfl⟩⟩

/-- An extractor whose settings ask for compression. -/
def packingExtractor : Extractor :=
  { blankExtractor {} with settings := { storage? := some { compression := .bool true } } }

def blankWorld : World := worldOf [("A.java", .file [])]

theorem Command.extract_stores_packed : ∃ g told stored,
    ((extract "A.java" "o" false).run packingExtractor false).Gives blankWorld 0 told ∧
      (packingExtractor.extractFile (.ofString "A.java") (some (.ofString "o"))).Gives blankWorld g
        stored ∧ told.Keeps g (.ofString "o") ∧ stored.Keeps g (.ofString "o.gz") := by
  have facts : (packingExtractor.extractFile (.ofString "A.java") none blankWorld).1.result.map
      (fun g => ["o", "o.gz"].map fun name => g.fitsAt blankWorld.files (.ofString name)) =
        .ok [true, true] := by
    decide +kernel
  obtain ⟨g, result, fits⟩ := exists_of_map_eq_ok facts
  obtain ⟨fits, fitsStored⟩ := cons.inj fits
  have extracts := gives_of_result result
  rw [(Extractor.ends_extractFile extracts).2.eq_of_silent rfl] at extracts
  obtain ⟨told, stored, ran, extracted, kept, keptAs, -⟩ := extract_stores extracts ⟨_, rfl⟩ rfl
    fits (cons.inj fitsStored).1 false
  exact ⟨g, told, stored, ran, extracted, kept, keptAs⟩

/-- Where settings ask for compression, the command stores a graph as it is, and the extractor
compresses it and stores it elsewhere. -/
theorem Command.extract_not_packed :
    let run := (extract "A.java" "o" false).run packingExtractor false blankWorld
    let extraction := packingExtractor.extractFile (.ofString "A.java") (some (.ofString "o"))
      blankWorld
    [run.2.files, extraction.2.files].map (fun fs =>
      ["o", "o.gz"].map fun name => (fs.get? (.ofString name)).isSome) =
        [[true, false], [false, true]] := by
  decide +kernel

end SyntaxGraph
