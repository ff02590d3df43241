import SyntaxGraph.Extraction.Batch
import SyntaxGraph.Proofs.Files.Places
import SyntaxGraph.Proofs.Invisibility
import SyntaxGraph.Proofs.Storage

/-!
# Extraction of one file

The graph of a source depends on nothing in the world but on what its file holds. While it is drawn,
the world changes by lines of the log at most; storing it makes directories and writes one file.

Main statements: storing touches one place beside the log (`holds_of_storeBelow`), a stored graph is
loaded with the data of the graph of its source (`Holds.load`), and a source is reported as too
large only if it is (`exceeds_of_report`).
-/
namespace SyntaxGraph

open SyntaxGraph.Action FileSystem List

/-! ### Worlds without links -/

namespace World

variable {world old new after : World} {touched more : List String → Prop} {place : List String}

/-- Whether there are no links among the files of a world, and the current directory is one. -/
structure IsPlain (world : World) : Prop where
  standing : world.files.IsStanding
  linkless : world.files.IsLinkless

def LogsAt (world : World) (place : List String) : Prop :=
  ∃ file ∈ world.logFile?, world.files.placeOf file = place

/-- A world that came about from another one, in which files changed at the touched places only. -/
structure Evolves (touched : List String → Prop) (old new : World) : Prop where
  files : old.files.Evolves touched new.files
  channel : new.channel = old.channel

namespace Evolves

theorem refl (world : World) : Evolves touched world world := ⟨.refl _, rfl⟩

theorem trans {between : World} (first : Evolves touched old between)
    (second : Evolves touched between new) : Evolves touched old new :=
  ⟨first.files.trans second.files, second.channel.trans first.channel⟩

theorem mono (evolves : Evolves touched old new) (wider : ∀ place, touched place → more place) :
    Evolves more old new :=
  ⟨evolves.files.mono wider, evolves.channel⟩

theorem isPlain (evolves : Evolves touched old new) (plain : old.IsPlain) : new.IsPlain :=
  ⟨evolves.files.isStanding plain.standing, evolves.files.isLinkless plain.linkless⟩

theorem logsAt_iff (evolves : Evolves touched old new) : new.LogsAt place ↔ old.LogsAt place := by
  simp only [LogsAt, logFile?, evolves.channel, evolves.files.placeOf]

end Evolves

theorem Appended.evolves (plain : world.IsPlain) (appended : world.Appended world.logFile? after) :
    Evolves world.LogsAt world after := by
  cases appended with
  | nothing => exact .refl world
  | something given done =>
    refine ⟨(evolves_writeWith plain.standing plain.linkless done).mono ?_, rfl⟩
    rintro _ rfl
    exact ⟨_, given, rfl⟩

theorem LogsTo.evolves (plain : world.IsPlain) (logged : world.LogsTo after) :
    Evolves world.LogsAt world after := by
  induction logged with
  | refl => exact .refl world
  | tail _ appended ih =>
    refine ih.trans ((appended.evolves (ih.isPlain plain)).mono ?_)
    intro place
    exact ih.logsAt_iff.1

end World

/-! ### Graphs of scans -/

namespace Graph

variable {g : Graph} {top : Row} {below : Forest Row}

theorem nextAfter_range (n : Nat) :
    nextAfter ((List.range n).map fun k : Nat => (k : Int)) = n := by
  induction n with
  | zero => rfl
  | succ n ih =>
    rw [range_succ, map_append, map_singleton, nextAfter_append, ih]
    omega

theorem eraseDups_of_nodup {items : List Json} (distinct : items.Nodup) :
    items.eraseDups = items := by
  induction items using List.reverseRecOn with
  | nil => rfl
  | append_singleton items last ih =>
    obtain ⟨before, -, apart⟩ := nodup_append.1 distinct
    have new : last ∉ items := fun member =>
      apart last member last (mem_singleton_self last) rfl
    rw [Records.eraseDups_concat, if_neg new, ih before]

/-- A tree of rows has the form of a graph to which its edges were added one by one. -/
theorem Shows.records (shown : g.Shows top below) (keys : ∀ row ∈ g.rows, row.key = row.id)
    (next : g.nextId = .int g.rows.length) :
    g.Records ((List.range g.rows.length).map fun n : Nat => (n : Int)) g.links := by
  have there {row : Row} (member : row ∈ g.rows) : g.hasRow row.id :=
    any_eq_true.2 ⟨row, member, Json.same_self row.id⟩
  -- No two edges end at the same row.
  have apart : g.links.Pairwise fun a b => a.2.same b.2 = false := by
    rw [shown.links, pairwise_map]
    exact shown.targets_distinct
  refine ⟨?_, keys, ?_, ?_, ?_, ?_, fun id => ?_, ?_⟩
  · rw [shown.ids, map_map]
    rfl
  · exact nodup_range.map fun _ _ same => Int.ofNat.inj same
  · rw [next, nextAfter_range]
  · intro link member
    obtain ⟨ends, found, rfl⟩ := shown.mem_links_iff.1 member
    exact (shown.ends_mem found).imp there there
  · refine apart.imp ?_
    rintro a b differ ⟨-, same⟩
    rw [differ] at same
    cases same
  · rw [childIds, map_map, eraseDups_of_nodup]
    · rfl
    · refine pairwise_map.2 ((apart.sublist filter_sublist).imp ?_)
      intro a b differ same
      simp [Json.same, same] at differ
  · intro id set
    obtain rfl : top.id = id := by simpa [shown.root] using set
    exact there (by simp [shown.rows])

theorem Shows.plain (shown : g.Shows top below) : g.Plain := by
  have isInt {row : Row} (member : row ∈ g.rows) : IsPlainId row.id := by
    have listed : row.id ∈ g.rows.map (·.id) := mem_map_of_mem member
    rw [shown.ids] at listed
    obtain ⟨n, -, same⟩ := mem_map.1 listed
    rw [← same]
    exact isPlainId_int n
  constructor
  · intro link member
    obtain ⟨ends, found, rfl⟩ := shown.mem_links_iff.1 member
    exact (shown.ends_mem found).imp isInt isInt
  · intro id set
    obtain rfl : top.id = id := by simpa [shown.root] using set
    exact isInt (by simp [shown.rows])

theorem holdsRegular_row (lineOf : Int → Int) (id : Int) (item : Item) :
    (item.row lineOf id).HoldsRegular := by
  cases item <;> exact ⟨rfl, rfl, rfl, rfl, rfl⟩

/-- A graph that was drawn from a tree over a named file. -/
def DrawnFrom (g : Graph) (file : Json) : Prop :=
  ∃ (source : Option String) (lines : Bool) (t : Tree), t.shape.isSome ∧
    ((ofSource file source lines).scan t).1 = g

/-- What was drawn is written as regular data, from which it is read back. -/
theorem DrawnFrom.reloads {file : Json} (drawn : g.DrawnFrom file) (named : file.isRegular) :
    g.toJson.isRegular ∧ ∃ loaded, ofJson g.toJson = .ok loaded ∧ loaded.toJson = g.toJson := by
  obtain ⟨source, lines, ⟨head, shape, entries⟩, typed, rfl⟩ := drawn
  obtain ⟨shape, rfl⟩ := Option.isSome_iff_exists.1 typed
  obtain ⟨drawn, -, scanned, -⟩ := scan_grows file source lines head shape entries
  rw [scanned]
  have shown := shows_grow (show (ofSource file source lines).links = [] from rfl)
    (.element shape.kind (.node head (some shape) entries)) drawn
  generalize grown :
    ((ofSource file source lines).withRoot _).grow 0 _ (drawn.number 1) = g at shown
  -- All rows are made in the same way, and the next id is behind them.
  have rows : ∀ row ∈ g.rows, ∃ (item : Item) (id : Int),
      row = item.row (ofSource file source lines).lineOf id := by
    rw [← grown]
    intro row member
    rcases mem_append.1 member with first | later
    · exact ⟨_, _, mem_singleton.1 first⟩
    · obtain ⟨numbered, -, rfl⟩ := mem_map.1 later
      exact ⟨_, _, rfl⟩
  have keys : ∀ row ∈ g.rows, row.key = row.id := by
    intro row member
    obtain ⟨item, id, rfl⟩ := rows row member
    cases item <;> rfl
  have next : g.nextId = .int g.rows.length := by
    rw [← grown]
    simp [Graph.grow, withRoot, Forest.size_number, Int.add_comm]
  have records := shown.records keys next
  have file : g.sourceFile.isRegular := by
    rw [← grown]
    exact named
  have regular : g.toJson.isRegular := by
    refine isRegular_toJson records shown.plain file fun row member => ?_
    obtain ⟨item, id, rfl⟩ := rows row member
    exact holdsRegular_row _ _ item
  exact ⟨regular, exists_of_toJson records shown.plain⟩

theorem DrawnFrom.load {file : Json} (drawn : g.DrawnFrom file) (named : file.isRegular)
    {path : Path} {compressed : Bool} (done : (g.document compressed).snag = none)
    (agree : compressed = decide (path.suffix = ".gz")) {world : World}
    (held : world.files.get path = .ok (.file (g.fileBytes compressed))) :
    ∃ loaded, (load path world).1.result = .ok loaded ∧ loaded.toJson = g.toJson := by
  obtain ⟨regular, loaded, read, same⟩ := drawn.reloads named
  refine ⟨loaded, ?_, same⟩
  rw [result_load, ofFile_of_agree regular done agree held, read]
  rfl

end Graph

/-! ### How extraction fails -/

/-- A sequence that fails has a first part that does, or a second one. -/
theorem of_bind_eq_error {ε α β : Type} {first : Except ε α} {second : α → Except ε β} {e : ε}
    (ended : first >>= second = .error e) :
    first = .error e ∨ ∃ a, first = .ok a ∧ second a = .error e := by
  cases first with
  | error other => exact .inl (congrArg Except.error (Except.error.inj ended))
  | ok a => exact .inr ⟨a, rfl, ended⟩

theorem exists_of_mapError_eq_error {ε δ α : Type} {first : Except ε α} {name : ε → δ} {e : δ}
    (ended : first.mapError name = .error e) : ∃ cause, first = .error cause ∧ name cause = e := by
  cases first with
  | error cause => exact ⟨cause, rfl, Except.error.inj ended⟩
  | ok a => cases ended

theorem Traced.Ends.ofExcept {τ ε α : Type} {good : α → Prop} {bad : ε → Prop}
    {result : Except ε α} (values : ∀ a, result = .ok a → good a)
    (errors : ∀ e, result = .error e → bad e) :
    (ofExcept result : Traced τ ε α).Ends good bad := by
  unfold Ends
  cases result with
  | ok a => exact values a rfl
  | error e => exact errors e rfl

variable {fault : Fault} {report : Report}

namespace FileSystem

variable {fs : FileSystem} {mayRead : List String → Bool} {text : String} {isRight : Entry → Bool}
  {wrong : PathProblem}

theorem exists_of_pathProblem (refused : fs.pathProblem mayRead text isRight wrong = .error fault) :
    ∃ cause, fault = .file cause text := by
  unfold pathProblem at refused
  split at refused
  · cases refused
  · split at refused
    next cause _ => exact ⟨cause, (Except.error.inj refused).symm⟩
    next => cases refused
    next => cases refused

/-- Nothing is wrong with a path that leads to the right kind of thing, at a place that may be
read. -/
theorem pathProblem_eq_none_iff : fs.pathProblem mayRead text isRight wrong = .ok none ↔
    text ≠ "" ∧ fs.permits mayRead (.ofString text) ∧
      ∃ entry, fs.get (.ofString text) = .ok entry ∧ isRight entry := by
  unfold pathProblem probe
  by_cases empty : text = ""
  · simp [empty]
  · cases held : fs.get (.ofString text) with
    | error fault => cases fault <;> simp [empty]
    | ok entry => cases right : isRight entry <;> simp [empty, right]

end FileSystem

theorem missingPart_of_orLost {α : Type} {section? : Option α}
    (lost : orLost section? = .error fault) : fault = .missingPart := by
  cases section? <;> cases lost
  rfl

namespace Extractor

variable {x : Extractor}

/-- What drawing the graph of a text can fail with. -/
inductive DrawingFault (x : Extractor) : Fault → Prop
  /-- The settings or the front ends have not the form that they should have. -/
  | settings {fault : Fault} (unfit : fault = .wrongForm ∨ fault = .missingPart) :
    DrawingFault x fault
  | language (language : Json) : DrawingFault x (.report (.unsupportedLanguage language))
  | frontEnd : DrawingFault x .cannotCompile
  /-- The text holds half a pair. -/
  | halves : DrawingFault x .unencodable
  | parser {text : String} {fault : Fault} (failed : x.parser text = .error fault) :
    DrawingFault x fault
  | compilation (cause : Java.CompileError) : DrawingFault x cause.fault
  | scan (cause : GraphError) : DrawingFault x cause.fault

theorem fault_of_languageFor {fileName : Json} (failed : x.languageFor fileName = .error fault) :
    fault = .wrongForm ∨ fault = .missingPart := by
  -- Asking the front ends fails only at one whose endings have a wrong form.
  have handled : ∀ (table : Table FrontEnd) (extension : String),
      Registry.languageForExtension?.firstHandling extension table = .error fault →
        fault = .wrongForm := by
    intro table extension failed
    induction table with
    | nil => cases failed
    | cons item rest ih =>
      rw [Registry.languageForExtension?.firstHandling] at failed
      split at failed
      · cases failed
      · exact ih failed
      · cases failed
        rfl
  obtain failed | ⟨extension, -, failed⟩ := of_bind_eq_error failed
  -- A name that is no text has no ending.
  · unfold endingOf at failed
    split at failed <;> cases failed
    exact .inl rfl
  obtain failed | ⟨settings, -, failed⟩ := of_bind_eq_error failed
  · exact .inr (missingPart_of_orLost failed)
  split at failed
  next fields _ =>
    split at failed
    · obtain failed | ⟨language, -, failed⟩ := of_bind_eq_error failed
      · cases found : x.registry.languageForExtension? extension with
        | error other =>
          rw [found] at failed
          cases failed
          exact .inl (handled _ _ found)
        | ok =>
          rw [found] at failed
          cases failed
      · cases failed
    · cases failed
  next =>
    cases failed
    exact .inr rfl

theorem ends_frontEndFor (language : Json) :
    (Traced.ofExcept (x.frontEndFor language) : Logged FrontEnd).Ends (fun _ => True)
      x.DrawingFault := by
  refine .ofExcept (fun _ _ => trivial) fun fault failed => ?_
  unfold frontEndFor Registry.get at failed
  split at failed
  next =>
    split at failed
    next => cases failed
    next report refused =>
      cases failed
      split at refused
      · cases refused
        exact .language language
      · split at refused <;> cases refused
  next =>
    cases failed
    exact .settings (.inl rfl)

theorem ends_compileWith (frontEnd : FrontEnd) (source fileName : Json) :
    (x.compileWith frontEnd source fileName).Ends
      (fun compilation => compilation.fileName = fileName) x.DrawingFault := by
  unfold compileWith
  split
  · exact .fail .frontEnd
  · refine .bind (.ofExcept (fun _ _ => trivial) fun fault failed => ?_) fun text _ => ?_
    · unfold sourceText at failed
      split at failed <;> cases failed
      · exact .halves
      · exact .settings (.inr rfl)
    · refine .bind (.ofExcept (fun _ _ => trivial) fun fault => .parser) fun parsed _ => ?_
      exact (Traced.Ends.mapError .compilation _).bind fun unit _ => .pure rfl

theorem ends_compile (source fileName language : Json) :
    (x.compile source fileName language).Ends (fun compilation => compilation.fileName = fileName)
      x.DrawingFault := by
  have found (language : Json) : (Traced.ofExcept (x.frontEndFor language) >>= fun frontEnd =>
      x.compileWith frontEnd source fileName).Ends
        (fun compilation => compilation.fileName = fileName) x.DrawingFault :=
    (ends_frontEndFor language).bind fun frontEnd _ => ends_compileWith frontEnd source fileName
  dsimp only [compile]
  split
  · exact found language
  · refine .bind (.ofExcept (fun _ _ => trivial) fun fault failed => ?_) fun language _ =>
      found language
    exact .settings (fault_of_languageFor failed)

theorem ends_graphOf (compilation : Compilation) :
    (x.graphOf compilation).Ends (fun g => g.DrawnFrom compilation.fileName) x.DrawingFault := by
  refine .bind (.ofExcept (fun _ _ => trivial) fun fault lost => ?_) fun settings _ => ?_
  · exact .settings (.inr (missingPart_of_orLost lost))
  dsimp only
  split
  next g scanned =>
    refine (Traced.Ends.emit _).bind fun _ _ => .pure ?_
    refine ⟨some compilation.source, settings.lineNumbers.isTruthy, compilation.unit, ?_,
      congrArg Prod.fst scanned⟩
    -- Without a schema the scan would have failed.
    obtain ⟨⟨head, _ | shape, entries⟩, _, _, _⟩ := compilation
    · cases congrArg Prod.snd scanned
    · rfl
  next e _ => exact .fail (.scan e)

/-- The graph of a text is drawn from a tree, or there is a reason why not. -/
theorem ends_extractText (source fileName : Json) (language : Json) :
    (x.extractText source fileName language).Ends (fun g => g.DrawnFrom fileName)
      x.DrawingFault := by
  refine (ends_compile source fileName language).bind fun compilation named => ?_
  refine (ends_graphOf compilation).bind fun g drawn => ?_
  refine (Traced.Ends.emit _).bind fun _ _ => .pure ?_
  rw [← named]
  exact drawn

end Extractor

/-! ### Reports about files that are too large -/

/-- Whether the reason of a failure is that a source is too large. -/
def SaysTooLarge (reason : String) : Prop :=
  "[Frontend] File too large: ".toList <+: reason.toList

instance (reason : String) : Decidable (SaysTooLarge reason) :=
  inferInstanceAs (Decidable (_ <+: _))

theorem Report.toList_message {stage : String} (staged : report.stage = .str stage)
    (named : stage ≠ "") :
    report.message.toList = '[' :: stage.toList ++ ']' :: ' ' :: report.text.toList := by
  have truthy : (Json.str stage).isTruthy := by simpa [Json.isTruthy] using named
  rw [message, staged, if_pos truthy]
  simp [Json.plain, toString]

theorem not_saysTooLarge (staged : report.stage = .str "Frontend")
    (other : ¬"File too large: ".toList <+: report.text.toList) : ¬SaysTooLarge report.message := by
  have whole : "[Frontend] File too large: ".toList =
      "[Frontend] ".toList ++ "File too large: ".toList := by decide
  have spelled : report.message.toList = "[Frontend] ".toList ++ report.text.toList :=
    Report.toList_message staged (by decide)
  rw [SaysTooLarge, spelled, whole, prefix_append_right_inj]
  exact other

theorem GraphError.not_saysTooLarge {cause : GraphError} (failed : cause.fault = .report report) :
    ¬SaysTooLarge report.message := by
  have staged : report.stage = .str "GraphConstruction" := by
    unfold GraphError.fault at failed
    split at failed
    · cases failed
    cases cause with
    | notAnId => cases failed
    | access cause =>
      cases failed
      cases cause <;> rfl
    | _ =>
      cases failed
      rfl
  rw [SaysTooLarge, Report.toList_message staged (by decide)]
  simp

theorem Java.CompileError.not_saysTooLarge {cause : Java.CompileError}
    (failed : cause.fault = .report report) : ¬SaysTooLarge report.message := by
  have shape (cause : ShapeError) : ¬SaysTooLarge cause.report.message :=
    SyntaxGraph.not_saysTooLarge rfl
      (by simp [ShapeError.report, Report.shape, Report.ofFamily, toString])
  cases cause with
  | diagnostics file found =>
    cases failed
    exact SyntaxGraph.not_saysTooLarge rfl (by simp [Report.compilation, Report.ofFamily, toString])
  | lowering cause =>
    cases cause <;> cases failed
    exact shape _
  | constructors cause =>
    cases cause <;> cases failed
    exact shape _

theorem PathProblem.not_saysTooLarge (problem : PathProblem) (path : Path) (details : Json) :
    ¬SaysTooLarge (Report.ofFamily .frontend (problem.message path.text) details).message := by
  have begins : ∃ rest, problem.message path.text = "Path " ++ rest := by
    cases problem with
    | empty => exact ⟨"cannot be empty", rfl⟩
    | missing => exact ⟨"does not exist: " ++ path.text, rfl⟩
    | notAFile => exact ⟨"is not a file: " ++ path.text, rfl⟩
    | notADirectory => exact ⟨"is not a directory: " ++ path.text, rfl⟩
    | notReadable => exact ⟨"is not readable: " ++ path.text, rfl⟩
  obtain ⟨rest, spelled⟩ := begins
  refine SyntaxGraph.not_saysTooLarge rfl ?_
  rw [spelled, Report.ofFamily]
  simp

namespace Extractor

variable {x : Extractor} {fs : FileSystem} {path : Path} {report : Report}

theorem DrawingFault.not_saysTooLarge
    (foreign : ∀ text report, x.parser text ≠ .error (.report report))
    (failed : x.DrawingFault (.report report)) : ¬SaysTooLarge report.message := by
  generalize same : Fault.report report = fault at failed
  cases failed with
  | settings unfit => rcases unfit with rfl | rfl <;> cases same
  | language language =>
    cases same
    exact SyntaxGraph.not_saysTooLarge rfl
      (by simp [Report.unsupportedLanguage, Report.ofFamily, toString])
  | frontEnd => cases same
  | halves => cases same
  | parser failed =>
    rw [← same] at failed
    exact absurd failed (foreign _ _)
  | compilation cause => exact cause.not_saysTooLarge same.symm
  | scan cause => exact cause.not_saysTooLarge same.symm

def graphOfBytes (x : Extractor) (path : Path) (bytes : List UInt8) : Except Fault Graph := do
  let source ← x.textOf path bytes
  (x.extractText source (.str path.text)).result

/-- The graph of a source, as the files are. -/
def graphIn (x : Extractor) (fs : FileSystem) (path : Path) : Except Fault Graph := do
  let source ← x.textIn fs path
  (x.extractText source (.str path.text)).result

theorem exists_of_graphIn {g : Graph} (drawn : x.graphIn fs path = .ok g) :
    fs.permits x.mayRead (.ofString path.text) ∧
      ∃ bytes, fs.get path = .ok (.file bytes) ∧ x.graphOfBytes path bytes = .ok g := by
  obtain ⟨source, read, drawn⟩ := exists_of_bind_eq_ok drawn
  obtain ⟨problem, checked, read⟩ := exists_of_bind_eq_ok read
  cases problem with
  | some problem => cases read
  | none =>
    obtain ⟨bytes, found, read⟩ := exists_of_bind_eq_ok read
    obtain ⟨entry, held, found⟩ := exists_of_bind_eq_ok (ok_of_mapError found)
    split at found <;> cases found
    refine ⟨(pathProblem_eq_none_iff.1 checked).2.1, bytes, held, ?_⟩
    rw [graphOfBytes, read, ok_bind, drawn]

theorem drawnFrom_of_graphOfBytes {bytes : List UInt8} {g : Graph}
    (drawn : x.graphOfBytes path bytes = .ok g) : g.DrawnFrom (.str path.text) := by
  obtain ⟨source, -, drawn⟩ := exists_of_bind_eq_ok drawn
  exact (ends_extractText source (.str path.text) .null).of_result drawn

theorem exceeds_of_textOf {bytes : List UInt8}
    (failed : x.textOf path bytes = .error (.report report))
    (told : SaysTooLarge report.message) : ∃ settings, x.settings.source = .ok settings ∧
      exceeds bytes.length settings.maxFileSize = .ok true := by
  obtain lost | ⟨settings, found, failed⟩ := of_bind_eq_error failed
  · cases missingPart_of_orLost lost
  obtain unfit | ⟨tooLarge, compared, failed⟩ := of_bind_eq_error failed
  · unfold exceeds at unfit
    split at unfit <;> cases unfit
  cases tooLarge with
  -- The size was compared before anything else could fail.
  | true => exact ⟨settings, found, compared⟩
  | false =>
    obtain unfit | ⟨decoder, -, failed⟩ := of_bind_eq_error failed
    · unfold decoderFor at unfit
      split at unfit
      all_goals try cases unfit
      split at unfit
      · cases unfit
      · split at unfit <;> cases unfit
    · -- What cannot be decoded is reported in other words.
      obtain ⟨fault, undecoded, failed⟩ := exists_of_mapError_eq_error failed
      obtain undecoded | ⟨_, -, undecoded⟩ := of_bind_eq_error undecoded
      · obtain ⟨cause, -, rfl⟩ := exists_of_mapError_eq_error undecoded
        cases cause <;> cases failed
        exact absurd told (SyntaxGraph.not_saysTooLarge rfl (by simp [toString, Report.ofFamily]))
      · cases undecoded

/-- A source is reported as too large only if it is. -/
theorem exceeds_of_report (foreign : ∀ text report, x.parser text ≠ .error (.report report))
    (failed : x.graphIn fs path = .error (.report report)) (told : SaysTooLarge report.message) :
    ∃ bytes settings, fs.get path = .ok (.file bytes) ∧ x.settings.source = .ok settings ∧
      exceeds bytes.length settings.maxFileSize = .ok true := by
  obtain failed | ⟨source, -, failed⟩ := of_bind_eq_error failed
  · obtain refused | ⟨problem, -, failed⟩ := of_bind_eq_error failed
    · obtain ⟨cause, named⟩ := exists_of_pathProblem refused
      cases named
    cases problem with
    | some problem =>
      obtain rfl := Fault.report.inj (Except.error.inj failed)
      exact absurd told (problem.not_saysTooLarge path _)
    | none =>
      obtain refused | ⟨bytes, found, failed⟩ := of_bind_eq_error failed
      · obtain ⟨cause, -, named⟩ := exists_of_mapError_eq_error refused
        cases named
      · obtain ⟨entry, held, found⟩ := exists_of_bind_eq_ok (ok_of_mapError found)
        split at found <;> cases found
        obtain ⟨settings, read, compared⟩ := exceeds_of_textOf failed told
        exact ⟨bytes, settings, held, read, compared⟩
  · have fault := ends_extractText source (.str path.text) .null (x := x)
    rw [Traced.Ends, failed] at fault
    exact absurd told (fault.not_saysTooLarge foreign)

end Extractor

/-! ### Storing -/

namespace Extractor

variable {x : Extractor} {world after : World} {fs : FileSystem} {out : Path}
  {way other : List String} {g : Graph}

/-- Whether the settings ask for compression. -/
def compresses (x : Extractor) : Bool :=
  match x.settings.storage with
  | .ok settings => settings.compression.isTruthy
  | .error _ => false

def graphEnding (x : Extractor) : String := if x.compresses then ".json.gz" else ".json"

/-- Where the graph of a source goes below a directory, by the way to the source below its own. -/
def graphPath (x : Extractor) (out : Path) (way : List String) : Path :=
  out.join (({ parts := way } : Path).appendName x.graphEnding)

theorem graphPath_eq_below (x : Extractor) (out : Path) (way : List String) :
    x.graphPath out way = out.below (way.dropLast ++ [way.getLastD "" ++ x.graphEnding]) := rfl

theorem destination_graphPath (x : Extractor) (out : Path) (named : way.getLastD "" ≠ "")
    {settings : StorageSettings} (read : x.settings.storage = .ok settings) :
    Graph.destination (out.join (({ parts := way } : Path).appendName ".json"))
        (if settings.compression.isTruthy then settings.compression else .null) =
      .ok (x.graphPath out way, x.compresses) := by
  have plain : (out.join (({ parts := way } : Path).appendName ".json")).suffix = ".json" := by
    show suffixOf (Path.name _) = _
    have last : (out.join (({ parts := way } : Path).appendName ".json")).name =
        way.getLastD "" ++ ".json" := by
      simp [Path.join, Path.appendName, Path.name]
    rw [last]
    exact suffixOf_append (show ".json".toList = ['.', 'j', 's', 'o', 'n'] from rfl) (by decide)
      named
  have asked : x.compresses = settings.compression.isTruthy := by rw [compresses, read]
  unfold Graph.destination
  rw [plain, graphPath, graphEnding, asked]
  split
  next truthy =>
    have given : settings.compression ≠ .null := by
      intro null
      rw [null] at truthy
      cases truthy
    rw [if_neg given, truthy]
    simp [Path.join, Path.appendName, Path.name, String.append_assoc]
  next plain => simp [plain]

theorem length_graphEnding (x : Extractor) : 5 ≤ x.graphEnding.length := by
  unfold graphEnding
  split <;> decide

theorem placeOf_graphPath (fs : FileSystem) (x : Extractor) (out : Path)
    (names : ∀ name ∈ way, IsEntryName name) :
    fs.placeOf (x.graphPath out way) =
      fs.placeOf out ++ (way.dropLast ++ [way.getLastD "" ++ x.graphEnding]) := by
  rw [graphPath_eq_below]
  apply placeOf_below
  intro name member
  rcases mem_append.1 member with inner | last
  · have entry := names name (mem_of_mem_dropLast inner)
    exact ⟨entry.notUp, entry.notHere⟩
  · -- The last name is longer than the two that mean something else.
    have long := x.length_graphEnding
    rw [mem_singleton.1 last]
    constructor <;>
    · intro same
      have short : (way.getLastD "" ++ x.graphEnding).length ≤ 2 := by
        rw [same]
        decide
      rw [String.length_append] at short
      omega

theorem graphPath_injective (names : ∀ name ∈ way, IsEntryName name)
    (others : ∀ name ∈ other, IsEntryName name) (some : way ≠ []) (more : other ≠ [])
    (same : fs.placeOf (x.graphPath out way) = fs.placeOf (x.graphPath out other)) :
    way = other := by
  rw [placeOf_graphPath fs x out names, placeOf_graphPath fs x out others,
    append_cancel_left_eq] at same
  obtain ⟨inner, last⟩ := append_inj' same rfl
  have last := String.toList_inj.2 (List.cons.inj last).1
  rw [String.toList_append, String.toList_append, append_cancel_right_eq] at last
  have last := String.toList_inj.1 last
  rw [← dropLast_append_getLast some, ← dropLast_append_getLast more, inner]
  simp only [getLastD_eq_getLast?, getLast?_eq_some_getLast some,
    getLast?_eq_some_getLast more, Option.getD_some] at last
  rw [last]

def graphPlace (x : Extractor) (fs : FileSystem) (out : Path) (way : List String) : List String :=
  fs.placeOf (x.graphPath out way)

/-- Whether the graph of a source is in its file, where its path leads, written to its end. -/
structure Holds (x : Extractor) (fs : FileSystem) (out : Path) (way : List String) (g : Graph) :
    Prop where
  complete : (g.document x.compresses).snag = none
  found : fs.resolve (x.graphPath out way) = .ok (x.graphPlace fs out way)
  held : fs.root.at? (x.graphPlace fs out way) = some (.file (g.fileBytes x.compresses))

theorem graphPlace_of_evolves {touched : List String → Prop} {new : FileSystem}
    (evolves : fs.Evolves touched new) : x.graphPlace new out way = x.graphPlace fs out way :=
  evolves.placeOf _

theorem Holds.evolves {touched : List String → Prop} {new : FileSystem}
    (holds : x.Holds fs out way g) (linkless : fs.IsLinkless) (evolves : fs.Evolves touched new)
    (apart : ¬touched (x.graphPlace fs out way)) : x.Holds new out way g where
  complete := holds.complete
  found := by
    rw [graphPlace_of_evolves evolves]
    exact evolves.resolve linkless holds.found
  held := by
    rw [graphPlace_of_evolves evolves]
    exact (evolves.files _ _ apart).2 holds.held

theorem compresses_eq (x : Extractor) (out : Path) (way : List String) :
    x.compresses = decide ((x.graphPath out way).suffix = ".gz") := by
  have last : (x.graphPath out way).suffix = suffixOf (way.getLastD "" ++ x.graphEnding) := by
    simp [graphPath_eq_below, Path.below, Path.suffix, Path.name]
  rw [last, graphEnding]
  cases x.compresses with
  | true =>
    have packed : suffixOf (way.getLastD "" ++ ".json" ++ ".gz") = ".gz" :=
      suffixOf_append (show ".gz".toList = ['.', 'g', 'z'] from rfl) (by decide) (by simp)
    have whole : way.getLastD "" ++ ".json.gz" = way.getLastD "" ++ ".json" ++ ".gz" := by
      rw [String.append_assoc]
      rfl
    rw [if_pos rfl, whole, packed]
    rfl
  | false =>
    by_cases named : way.getLastD "" = ""
    · rw [named]
      decide
    · have plain : suffixOf (way.getLastD "" ++ ".json") = ".json" :=
        suffixOf_append (show ".json".toList = ['.', 'j', 's', 'o', 'n'] from rfl) (by decide) named
      rw [if_neg Bool.false_ne_true, plain]
      decide

theorem Holds.load (holds : x.Holds world.files out way g) {name : String}
    (drawn : g.DrawnFrom (.str name)) :
    ∃ loaded, (Graph.load (x.graphPath out way) world).1.result = .ok loaded ∧
      loaded.toJson = g.toJson :=
  drawn.load rfl holds.complete (x.compresses_eq out way) (get_of_resolve holds.found holds.held)

/-- Storing a graph touches its place and the log. The graph is in its file then, if the log is not
kept there. -/
theorem holds_of_storeBelow (plain : world.IsPlain) (named : way.getLastD "" ≠ "") {u : Unit}
    (stored : (x.storeBelow (some out) { parts := way } g).Gives world u after) :
    world.Evolves (fun place => place = x.graphPlace world.files out way ∨ world.LogsAt place)
        after ∧
      (¬world.LogsAt (x.graphPlace world.files out way) → x.Holds after.files out way g) := by
  obtain ⟨settings, _, reading, stored⟩ := gives_bind_iff.1 stored
  obtain ⟨read, rfl⟩ := gives_ofExcept_iff.1 reading
  obtain ⟨_, _, saved, stored⟩ := gives_bind_iff.1 stored
  obtain ⟨-, rfl⟩ := gives_pure_iff.1 stored
  obtain ⟨compressed, outer, files, goes, complete, made, stored, appended⟩ :=
    Graph.exists_of_save saved
  rw [destination_graphPath x out named read] at goes
  obtain ⟨rfl, rfl⟩ := Prod.mk.inj (Except.ok.inj goes)
  -- Directories are made, the file is written, and then the log may be appended to.
  have making := evolves_ensureDirs made
  have standing := making.isStanding plain.standing
  have linkless := making.isLinkless plain.linkless
  have writing := evolves_writeWith standing linkless stored
  have held := at?_of_write standing linkless stored
  obtain ⟨_, -, found, -, -⟩ := exists_of_writeWith standing stored
  have spelled := placeOf_of_resolve linkless found
  subst spelled
  have found := writing.resolve linkless found
  rw [making.placeOf] at writing held found
  have written : world.Evolves (· = x.graphPlace world.files out way) { world with files } :=
    ⟨(making.mono fun _ => False.elim).trans writing, rfl⟩
  have logging := appended.evolves (written.isPlain plain)
  constructor
  · refine (written.mono fun _ => .inl).trans (logging.mono fun place hit => .inr ?_)
    exact written.logsAt_iff.1 hit
  · intro apart
    have same : x.graphPlace files out way = x.graphPlace world.files out way :=
      graphPlace_of_evolves written.files
    have holds : x.Holds files out way g := ⟨complete, same ▸ found, same ▸ held⟩
    refine holds.evolves (written.isPlain plain).linkless logging.files ?_
    rw [same]
    exact fun hit => apart (written.logsAt_iff.1 hit)

end Extractor

/-! ### Actions -/

namespace FileSystem

variable {fs : FileSystem} {path : Path} {fault : Fault}

theorem exists_of_ensureDir (refused : fs.ensureDir path = .error fault) :
    ∃ cause place, fault = .file cause place := by
  unfold ensureDir at refused
  split at refused
  · cases refused
  · split at refused <;> cases refused
    exact ⟨_, _, rfl⟩

theorem exists_of_ensureDirs {depth : Nat} (refused : fs.ensureDirs path depth = .error fault) :
    ∃ cause place, fault = .file cause place := by
  induction depth generalizing path with
  | zero => exact exists_of_ensureDir refused
  | succ depth ih =>
    rw [ensureDirs] at refused
    split at refused
    · obtain refused | ⟨outer, -, refused⟩ := of_bind_eq_error refused
      · exact ih refused
      · exact exists_of_ensureDir refused
    · exact exists_of_ensureDir refused

end FileSystem

theorem Graph.fault_of_save {g : Graph} {path : Path} {compress : Json} {world after : World}
    (ended : (g.save path compress).Ends world (.error fault) after) :
    (∃ cause place, fault = .file cause place) ∨ fault = .badValue ∨ fault = .tooDeep := by
  obtain ⟨_, failed, same⟩ | ⟨⟨goal, compressed⟩, _, -, ended⟩ := ends_bind_iff.1 ended
  · cases same
    obtain ⟨failed, -⟩ := ends_ofExcept_iff.1 failed
    -- Only a path without a name has no destination.
    unfold destination at failed
    split at failed
    · cases failed
    split at failed
    · split at failed
      · cases failed
      split at failed <;> cases failed
      exact .inr (.inl rfl)
    · cases failed
  obtain ⟨_, failed, same⟩ | ⟨_, _, -, ended⟩ := ends_bind_iff.1 ended
  · cases same
    exact .inl (exists_of_ensureDirs (fails_change failed))
  obtain ⟨_, failed, same⟩ | ⟨_, _, -, ended⟩ := ends_bind_iff.1 ended
  · cases same
    obtain ⟨cause, -, named⟩ := exists_of_mapError_eq_error (fails_change failed)
    exact .inl ⟨cause, _, named.symm⟩
  obtain ⟨_, failed, same⟩ | ⟨_, _, -, ended⟩ := ends_bind_iff.1 ended
  · cases same
    obtain ⟨failed, -⟩ := ends_ofExcept_iff.1 failed
    unfold Fault.ofSnag at failed
    split at failed <;> cases failed
    · exact .inr (.inl rfl)
    · exact .inr (.inr rfl)
  obtain ⟨_, failed, same⟩ | ⟨_, _, -, _, ran⟩ := ends_bind_iff.1 ended
  · cases (ends_log failed).1
  · cases ran

namespace Extractor

variable {x : Extractor} {world after : World} {path : Path}

theorem ends_readSource {result : Except Fault Json}
    (ended : (x.readSource path).Ends world result after) :
    result = x.textIn world.files path ∧ after = world := by
  obtain ⟨_, ⟨_, ran⟩, -⟩ | ⟨_, _, ⟨_, ran⟩, ended⟩ := ends_bind_iff.1 ended
  · cases ran
  · cases ran
    obtain ⟨rfl, rfl⟩ := ends_ofExcept_iff.1 ended
    exact ⟨rfl, rfl⟩

/-- The graph of a source is drawn from the files as they are, and only the log is appended to. -/
theorem ends_extractFile {result : Except Fault Graph}
    (ended : (x.extractFile path).Ends world result after) :
    result = x.graphIn world.files path ∧ world.LogsTo after := by
  obtain ⟨fault, failed, rfl⟩ | ⟨source, between, read, onward⟩ := ends_bind_iff.1 ended
  · obtain ⟨read, rfl⟩ := ends_readSource failed
    rw [graphIn, ← read]
    exact ⟨rfl, .refl⟩
  obtain ⟨read, rfl⟩ := ends_readSource read
  have drawn : x.graphIn between.files path = (x.extractText source (.str path.text)).result := by
    rw [graphIn, ← read, ok_bind]
  rw [drawn]
  obtain ⟨fault, failed, rfl⟩ | ⟨g, _, given, _, ran⟩ := ends_bind_iff.1 onward
  · exact ends_ofLogged failed
  · cases ran
    exact ends_ofLogged given

/-- What storing a graph can fail with. -/
inductive StoringFault (x : Extractor) (outputDir : Option Path) : Fault → Prop
  /-- The file system refuses to make a directory or the file. -/
  | refused (cause : FileFault) (path : String) : StoringFault x outputDir (.file cause path)
  /-- The file can be written to some point only. -/
  | unfinished {fault : Fault} (unfit : fault = .badValue ∨ fault = .tooDeep) :
    StoringFault x outputDir fault
  | settings (lost : x.settings.storage? = none) : StoringFault x outputDir .missingPart
  | nowhere (unnamed : outputDir = none) : StoringFault x outputDir .unencodable

theorem storingFault_of_storeBelow {outputDir : Option Path} {relative : Path} {g : Graph}
    (ended : (x.storeBelow outputDir relative g).Ends world (.error fault) after) :
    x.StoringFault outputDir fault := by
  cases outputDir with
  | none =>
    obtain ⟨same, -⟩ := ends_ofExcept_iff.1 ended
    cases same
    exact .nowhere rfl
  | some dir =>
    obtain ⟨_, failed, same⟩ | ⟨settings, _, reading, ended⟩ := ends_bind_iff.1 ended
    · cases same
      obtain ⟨lost, -⟩ := ends_ofExcept_iff.1 failed
      cases missingPart_of_orLost lost
      unfold Settings.storage orLost at lost
      split at lost <;> cases lost
      exact .settings (by assumption)
    obtain ⟨_, failed, same⟩ | ⟨_, _, -, _, ran⟩ := ends_bind_iff.1 ended
    · cases same
      obtain ⟨cause, place, rfl⟩ | unfit := Graph.fault_of_save failed
      · exact .refused cause place
      · exact .unfinished unfit
    · cases ran

end Extractor

end SyntaxGraph
