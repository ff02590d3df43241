import SyntaxGraph.Graph.Storage
import SyntaxGraph.Proofs.Actions
import SyntaxGraph.Proofs.Files
import SyntaxGraph.Proofs.Gzip
import SyntaxGraph.Proofs.Json.Documents
import SyntaxGraph.Proofs.Reloading
import SyntaxGraph.Proofs.Utf8

/-!
# Graphs that are stored and loaded

Saving chooses the form of a file by what it is asked for and by the ending of the path, and may
add an ending. Loading goes by the ending alone.

Main statement: a graph that was saved is loaded with the same data, unless compression was
forbidden and the path has the ending of compressed files. Then the two choices differ, and the
file that was saved cannot be loaded.
-/
namespace SyntaxGraph

open SyntaxGraph.Action List

/-- Whether the values that an operation puts into a row have the form in which they are read. -/
def Operation.HasRegularValues : Operation → Prop
  | .element kind _ => kind.isRegular
  | .holder label start stop => label.isRegular ∧ start.isRegular ∧ stop.isRegular
  | .edge _ _ | .root _ => True

/-- Whether the values that a row holds beside its id have the form in which they are read. -/
structure Row.HoldsRegular (row : Row) : Prop where
  contents : row.contents.isRegular
  start : row.start.isRegular
  stop : row.stop.isRegular
  startLine : row.startLine.isRegular
  stopLine : row.stopLine.isRegular

/-! ### Endings -/

variable {ending : String} {c : Char} {letters : List Char}

theorem suffixOf_append {name : String} (spelled : ending.toList = '.' :: c :: letters)
    (undotted : '.' ∉ c :: letters) (named : name ≠ "") : suffixOf (name ++ ending) = ending := by
  have last : (name ++ ending).toList.reverse.takeWhile (· ≠ '.') = (c :: letters).reverse := by
    rw [String.toList_append, spelled, reverse_append, reverse_cons, append_assoc,
      takeWhile_append_of_pos (fun letter member => ?_)]
    · simp
    · refine decide_eq_true fun dot => undotted ?_
      exact mem_reverse.1 (dot ▸ member)
  have long : (name ++ ending).length = name.length + (letters.length + 2) := by
    rw [String.length_append, ← String.length_toList (s := ending), spelled]
    rfl
  unfold suffixOf
  rw [last, long, if_neg (by simp; omega), reverse_reverse, ← spelled, String.ofList_toList]

theorem Path.suffix_appendName {path : Path} (spelled : ending.toList = '.' :: c :: letters)
    (undotted : '.' ∉ c :: letters) (named : path.name ≠ "") :
    (path.appendName ending).suffix = ending := by
  have last : (path.appendName ending).name = path.name ++ ending := by
    simp [Path.name, Path.appendName]
  rw [Path.suffix, last, suffixOf_append spelled undotted named]

namespace Graph

variable {g : Graph} {path written : Path} {compress : Json} {compressed : Bool} {ids : List Int}
  {asked : List (Json × Json)}

def forbidsCompression (compress : Json) : Bool := compress ≠ .null && !compress.isTruthy

/-- Files are compressed as their ending says, unless compression is forbidden. -/
theorem compressed_of_destination (goes : destination path compress = .ok (written, compressed)) :
    compressed = (decide (written.suffix = ".gz") && !forbidsCompression compress) := by
  unfold destination at goes
  split at goes
  next silent =>
    cases goes
    simp [forbidsCompression, silent]
  next given =>
  split at goes
  next asked =>
    have allowed : forbidsCompression compress = false := by simp [forbidsCompression, asked]
    split at goes
    next packed =>
      cases goes
      simp [packed, allowed]
    next =>
    split at goes
    next => cases goes
    next named =>
      cases goes
      have packed : (path.appendName ".gz").suffix = ".gz" :=
        Path.suffix_appendName (show ".gz".toList = ['.', 'g', 'z'] from rfl) (by decide) named
      simp [packed, allowed]
  next refused =>
    cases goes
    simp [forbidsCompression, given, refused]

/-! ### What is in a file -/

theorem textOf_fileBytes (done : (g.document compressed).snag = none)
    (agree : compressed = decide (path.suffix = ".gz")) :
    textOf path (g.fileBytes compressed) = .ok (g.document compressed).chars := by
  have clean : '\r' ∉ (g.document compressed).chars := Json.clean_draft done
  have decoded : ((Text.decodeUtf8 (Text.encodeChars (g.document compressed).chars)).mapError
      Fault.undecodable >>= fun chars => pure (Text.unifyNewlines chars)) =
        .ok (g.document compressed).chars := by
    rw [Text.decodeUtf8_encodeChars, ok_mapError, ok_bind, Text.unifyNewlines_of_clean clean]
    rfl
  rw [textOf, fileBytes]
  by_cases packed : path.suffix = ".gz"
  · rw [decide_eq_true packed] at agree
    rw [if_pos packed, if_pos agree, Gzip.unpack_pack, ok_mapError, ok_bind]
    exact decoded
  · rw [decide_eq_false packed] at agree
    have plain : ¬compressed = true := by simp [agree]
    rw [if_neg packed, if_neg plain, ok_bind]
    exact decoded

theorem ofFile_of_get {fs : FileSystem} {bytes : List UInt8}
    (held : fs.get path = .ok (.file bytes)) :
    ofFile fs path = ((textOf path bytes >>= fun text =>
        (Json.parseDocument text).mapError (.ofRefusal text)).mapError (unreadable path) >>=
      fun data => (ofJson data).mapError (·.fault)) := by
  rw [ofFile, FileSystem.probe_of_get held, ok_mapError, ok_bind, dataOf,
    FileSystem.read_of_get held, ok_mapError, ok_bind]

theorem ofFile_of_agree {fs : FileSystem} (regular : g.toJson.isRegular)
    (done : (g.document compressed).snag = none)
    (agree : compressed = decide (path.suffix = ".gz"))
    (held : fs.get path = .ok (.file (g.fileBytes compressed))) :
    ofFile fs path = (ofJson g.toJson).mapError (·.fault) := by
  have parsed : Json.parseDocument (g.document compressed).chars = .ok g.toJson :=
    Json.parseDocument_draft regular done
  rw [ofFile_of_get held, textOf_fileBytes done agree, ok_bind, parsed, ok_mapError,
    ok_mapError, ok_bind]

theorem exists_write_toJson (g : Graph) (layout : Json.Layout) :
    ∃ rest, g.toJson.write layout 0 [] = '\x7b' :: rest := by
  rw [toJson_eq, Json.write, Json.writeFields]
  · exact ⟨_, rfl⟩
  · exact cons_ne_nil _ _

theorem ofFile_of_uncompressed {fs : FileSystem} (done : (g.document false).snag = none)
    (packed : path.suffix = ".gz") (held : fs.get path = .ok (.file (g.fileBytes false))) :
    ∃ report, ofFile fs path = .error (.report report) ∧ report.family = .storage := by
  obtain ⟨rest, first⟩ := exists_write_toJson g (.indented 2)
  obtain ⟨-, written⟩ := Json.chars_draft done
  rw [if_neg Bool.false_ne_true] at written
  have bytes : g.fileBytes false = 0x7B :: rest.flatMap Text.utf8Bytes := by
    rw [fileBytes, if_neg Bool.false_ne_true, document, if_neg Bool.false_ne_true, written,
      Text.encodeChars, first]
    rfl
  have other : (0x7B : UInt8) ≠ 0x1F := by decide
  rw [ofFile_of_get held, textOf, if_pos packed, bytes, Gzip.unpack_of_other other]
  exact ⟨_, rfl, rfl⟩

/-- Graphs with line numbers are read back as well, though without them. -/
theorem exists_of_toJson (records : g.Records ids asked) (plain : g.Plain) :
    ∃ loaded, ofJson g.toJson = .ok loaded ∧ loaded.toJson = g.toJson := by
  -- The data of a graph does not depend on where its lines end.
  have lineless : ({ g with newlines := none } : Graph).Records ids asked :=
    { records with }
  have read := ofJson_toJson lineless ⟨plain.links, plain.root⟩ rfl
  have twins : Twins { g with newlines := none }
      { g with newlines := none, links := g.edges, trees := [] } :=
    ⟨rfl, rfl, rfl, rfl, rfl, childIds_edges records⟩
  exact ⟨_, read, twins.toJson⟩

/-! ### Values that read back -/

theorem isRegular_rowToJson {row : Row} :
    row.toJson.isRegular ↔ row.id.isRegular ∧ row.HoldsRegular := by
  have distinct : Json.hasDistinctKeys [("id", row.id), ("type", .str row.type.text),
      ("contents", row.contents), ("start_position", row.start), ("end_position", row.stop),
      ("start_line", row.startLine), ("end_line", row.stopLine)] := by
    simp [Json.hasDistinctKeys]
  rw [Row.toJson, Json.isRegular, distinct]
  simp only [Json.fieldsAreRegular, Json.isRegular, Bool.and_eq_true, true_and, and_true]
  constructor
  · rintro ⟨id, contents, start, stop, startLine, stopLine⟩
    exact ⟨id, contents, start, stop, startLine, stopLine⟩
  · rintro ⟨id, contents, start, stop, startLine, stopLine⟩
    exact ⟨id, contents, start, stop, startLine, stopLine⟩

theorem holdsRegular_step {op : Operation} (given : op.HasRegularValues)
    (rows : ∀ row ∈ g.rows, row.HoldsRegular) :
    ∀ row ∈ (g.step op).1.rows, row.HoldsRegular := by
  refine forall_rows_step rows fun type contents start stop _ _ _ _ asked _ _ => ?_
  cases op with
  | element kind t =>
    cases asked
    exact ⟨given, rfl, rfl, rfl, rfl⟩
  | holder label _ _ =>
    cases asked
    exact ⟨given.1, given.2.1, given.2.2, rfl, rfl⟩
  | edge | root => cases asked

theorem holdsRegular_run {ops : List Operation} (given : ∀ op ∈ ops, op.HasRegularValues)
    (rows : ∀ row ∈ g.rows, row.HoldsRegular) :
    ∀ row ∈ (g.run ops).1.rows, row.HoldsRegular := by
  induction ops generalizing g with
  | nil => exact rows
  | cons op rest ih =>
    obtain ⟨first, later⟩ := forall_mem_cons.1 given
    exact ih later (holdsRegular_step first rows)

theorem sourceFile_run (g : Graph) (ops : List Operation) :
    (g.run ops).1.sourceFile = g.sourceFile := by
  induction ops generalizing g with
  | nil => rfl
  | cons op rest ih => exact (ih _).trans (source_step g op).1

/-- The data of a graph is regular if its file and the values in its rows are; ids are integers. -/
theorem isRegular_toJson (records : g.Records ids asked) (plain : g.Plain)
    (file : g.sourceFile.isRegular) (rows : ∀ row ∈ g.rows, row.HoldsRegular) :
    g.toJson.isRegular := by
  have isRoot : (g.root.getD .null).isRegular := by
    cases set : g.root with
    | none => rfl
    | some id =>
      obtain ⟨n, rfl⟩ := (plain.root id set).eq_int records (records.root id set)
      rfl
  have areRows : Json.areRegular (g.rows.map Row.toJson) := by
    rw [Json.areRegular_iff, forall_mem_map]
    intro row member
    obtain ⟨n, -, isInt⟩ := records.id_mem member
    exact isRegular_rowToJson.2 ⟨isInt ▸ rfl, rows row member⟩
  have areEdges : Json.areRegular (g.edges.map edgeToJson) := by
    rw [Json.areRegular_iff, forall_mem_map]
    intro edge member
    obtain ⟨m, n, rfl, -, -⟩ := edges_ends records plain edge member
    simp [edgeToJson, Json.isRegular, Json.hasDistinctKeys, Json.fieldsAreRegular]
  rw [toJson_eq]
  simp [Json.isRegular, Json.hasDistinctKeys, Json.fieldsAreRegular, file, isRoot, areRows,
    areEdges]

theorem holdsRegular_of_toJson (regular : g.toJson.isRegular) :
    g.sourceFile.isRegular ∧ ∀ row ∈ g.rows, row.HoldsRegular := by
  rw [toJson_eq] at regular
  simp only [Json.isRegular, Json.fieldsAreRegular, Bool.and_eq_true] at regular
  obtain ⟨-, file, -, rows, -⟩ := regular
  rw [Json.areRegular_iff, forall_mem_map] at rows
  exact ⟨file, fun row member => (isRegular_rowToJson.1 (rows row member)).2⟩

/-! ### Saving and loading -/

variable {world after : World}

/-- What saving did, if it ended with a path: a directory is made, the file is written, and the log
may be appended to, in this order. -/
theorem exists_of_save (saved : (g.save path compress).Gives world written after) :
    ∃ compressed outer files, destination path compress = .ok (written, compressed) ∧
      (g.document compressed).snag = none ∧ world.files.makeDirs written.parent = .ok outer ∧
      outer.write written (g.fileBytes compressed) = .ok files ∧
      { world with files }.Appended world.logFile? after := by
  obtain ⟨⟨goal, compressed⟩, _, choosing, saved⟩ := gives_bind_iff.1 saved
  obtain ⟨goes, rfl⟩ := gives_ofExcept_iff.1 choosing
  obtain ⟨_, _, making, saved⟩ := gives_bind_iff.1 saved
  obtain ⟨outer, made, rfl⟩ := gives_change_iff.1 making
  obtain ⟨_, _, storing, saved⟩ := gives_bind_iff.1 saved
  obtain ⟨files, stored, rfl⟩ := gives_change_iff.1 storing
  obtain ⟨_, _, checking, saved⟩ := gives_bind_iff.1 saved
  obtain ⟨checked, rfl⟩ := gives_ofExcept_iff.1 checking
  obtain ⟨_, _, logged, saved⟩ := gives_bind_iff.1 saved
  obtain ⟨rfl, rfl⟩ := gives_pure_iff.1 saved
  have done : (g.document compressed).snag = none := by
    cases reason : (g.document compressed).snag with
    | none => rfl
    | some snag =>
      rw [reason] at checked
      cases snag <;> cases checked
  exact ⟨compressed, outer, files, goes, done, made, ok_of_mapError stored, appended_of_log logged⟩

theorem get_of_save (standing : world.files.IsStanding)
    (saved : (g.save path compress).Gives world written after)
    (apart : after.LogsElsewhere written) :
    ∃ compressed, destination path compress = .ok (written, compressed) ∧
      (g.document compressed).snag = none ∧
      after.files.get written = .ok (.file (g.fileBytes compressed)) := by
  obtain ⟨compressed, outer, files, goes, done, made, stored, appended⟩ := exists_of_save saved
  have standing : outer.IsStanding := standing.ensureDirs made
  have held := FileSystem.get_of_write standing stored
  refine ⟨compressed, goes, done, ?_⟩
  cases appended with
  | nothing => exact held
  | something given appended =>
    exact FileSystem.get_of_append (standing.writeWith stored) held appended (apart _ given)

/-- Loading fails as reading does, and otherwise gives what was read. -/
theorem result_load (path : Path) (world : World) :
    (load path world).1.result = ofFile world.files path := by
  cases read : ofFile world.files path with
  | error fault =>
    show ((Action.ofExcept (ofFile world.files path) >>= _) world).1.result = _
    rw [read]
    rfl
  | ok loaded =>
    obtain ⟨after, logged, -⟩ :=
      exists_log (storageRecord s!"Graph loaded from {path.text}") world
    have given : (load path).Gives world loaded after := by
      refine gives_bind_iff.2 ⟨world.files, world, ⟨_, rfl⟩, ?_⟩
      refine gives_bind_iff.2 ⟨loaded, world, gives_ofExcept_iff.2 ⟨read, rfl⟩, ?_⟩
      exact gives_bind_iff.2 ⟨(), after, logged, gives_pure_iff.2 ⟨rfl, rfl⟩⟩
    exact given.result

/-- Whatever was done with a graph, when it is saved it can be loaded from where it was saved, and
has the same data. Only a file that was saved without compression, under the ending of compressed
files, cannot be loaded. -/
theorem load_save {start : Graph} {earlier : List (Json × Json)} (starts : start.Starts earlier)
    (regular : start.toJson.isRegular) {ops : List Operation} (own : ∀ op ∈ ops, op.HasPlainIds)
    (given : ∀ op ∈ ops, op.HasRegularValues) (standing : world.files.IsStanding)
    (saved : ((start.run ops).1.save path compress).Gives world written after)
    (apart : after.LogsElsewhere written) :
    if forbidsCompression compress ∧ written.suffix = ".gz" then
      ∃ report, (load written after).1.result = .error (.report report) ∧ report.family = .storage
    else
      ∃ loaded, (load written after).1.result = .ok loaded ∧
        loaded.toJson = (start.run ops).1.toJson := by
  obtain ⟨ids, records, plain⟩ := starts.records
  obtain ⟨others, records⟩ := records.run ops
  have plain := plain.run own
  obtain ⟨file, rows⟩ := holdsRegular_of_toJson regular
  have regular : (start.run ops).1.toJson.isRegular :=
    isRegular_toJson records plain (sourceFile_run start ops ▸ file) (holdsRegular_run given rows)
  obtain ⟨compressed, goes, done, held⟩ := get_of_save standing saved apart
  have chosen := compressed_of_destination goes
  split
  next clash =>
    obtain ⟨forbidden, packed⟩ := clash
    rw [forbidden, Bool.not_true, Bool.and_false] at chosen
    subst chosen
    obtain ⟨report, refused, family⟩ := ofFile_of_uncompressed done packed held
    exact ⟨report, (result_load written after).trans refused, family⟩
  next clear =>
    -- Loading goes by the ending, which is how the file was saved.
    have agree : compressed = decide (written.suffix = ".gz") := by
      rw [chosen]
      by_cases packed : written.suffix = ".gz"
      · have allowed : forbidsCompression compress = false := by
          simpa [packed] using clear
        simp [allowed]
      · simp [packed]
    obtain ⟨loaded, read, same⟩ := exists_of_toJson records plain
    have found : ofFile after.files written = .ok loaded := by
      rw [ofFile_of_agree regular done agree held, read]
      rfl
    exact ⟨loaded, (result_load written after).trans found, same⟩

theorem load_save_sparseData : (∀ op ∈ mixedOperations, op.HasPlainIds) ∧
    (∀ op ∈ mixedOperations, op.HasRegularValues) ∧
    ∃ g loaded after, ofJson sparseData = .ok g ∧ g.toJson.isRegular ∧
      ((g.run mixedOperations).1.save (.ofString "d/a") (.bool true)).Gives { files := {} }
        (.ofString "d/a.gz") after ∧
      (load (.ofString "d/a.gz") after).1.result = .ok loaded ∧
      loaded.toJson = (g.run mixedOperations).1.toJson := by
  have own : ∀ op ∈ mixedOperations, op.HasPlainIds := by
    simp [mixedOperations, Operation.HasPlainIds, isPlainId_int]
  have given : ∀ op ∈ mixedOperations, op.HasRegularValues := by
    simp [mixedOperations, Operation.HasRegularValues, Json.isRegular]
  -- All that is asked of the two runs is evaluated at once.
  have facts : (ofJson sparseData).map (fun g =>
      let saved := (g.run mixedOperations).1.save (.ofString "d/a") (.bool true) { files := {} }
      (g.toJson.isRegular, saved.1.result, saved.2.logFile?)) =
        .ok (true, .ok (.ofString "d/a.gz"), none) := by
    decide +kernel
  obtain ⟨g, read, facts⟩ := exists_of_map_eq_ok facts
  obtain ⟨regular, facts⟩ := Prod.mk.inj facts
  obtain ⟨ended, unlogged⟩ := Prod.mk.inj facts
  have saved := gives_of_result ended
  have outcome := load_save (.loaded hasIntegerIds_sparseData read) regular own given ⟨[], rfl⟩
    saved (fun file kept => by rw [unlogged] at kept; cases kept)
  rw [if_neg (by simp [forbidsCompression, Json.isTruthy])] at outcome
  obtain ⟨loaded, again, same⟩ := outcome
  exact ⟨own, given, g, loaded, _, read, regular, saved, again, same⟩

/-- An empty graph that is saved without compression as `a.gz` is not loaded from there. -/
theorem load_misnamed_refused :
    ∃ after, (({} : Graph).save (.ofString "a.gz") (.bool false)).Gives { files := {} }
        (.ofString "a.gz") after ∧
      (load (.ofString "a.gz") after).1.result.map toJson =
        .error (.report (.ofFamily .storage
          "Failed to read graph a.gz: Not a gzipped file (b'\x7b\\n')"
          (.obj [("path", .str "a.gz")]))) := by
  refine ⟨_, gives_of_result ?_, ?_⟩
  · decide +kernel
  · decide +kernel

end Graph

end SyntaxGraph
