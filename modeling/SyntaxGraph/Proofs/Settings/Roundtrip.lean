import SyntaxGraph.Proofs.Files
import SyntaxGraph.Proofs.Json.Documents
import SyntaxGraph.Proofs.Settings
import SyntaxGraph.Proofs.Utf8

/-!
# Settings that read back

Settings are read from data and written as data section by section, by definitions that name the
fields each for itself.

Main statement: data that is an object is refused exactly if one of the three sections in it is no
object or has a key without meaning. Otherwise the settings that it gives are written as what it
says, with defaults for what it does not say, and reading that gives the same settings. Settings
that are saved are loaded again as they were.
-/
namespace SyntaxGraph

open SyntaxGraph.Action List

namespace Settings

/-- The sections of settings, each with the names of its fields. -/
def sections : List (String × List String) := [
  ("frontend", ["language_extensions", "default_language", "encoding", "max_file_size",
    "ignore_patterns"]),
  ("graph", ["compute_line_numbers"]),
  ("storage", ["output_dir", "enable_compression"])]

/-- Whether a value is an object that has no keys but some names. -/
def fits (names : List String) : Json → Bool
  | .obj fields => fields.all (names.contains ·.1)
  | _ => false

/-- Whether the sections that data has can be read. -/
def sectionsFit (data : Json) : Bool :=
  sections.all fun (name, names) => (data.field? name).all (fits names)

/-- Whether what is written is what data says, with defaults for what it does not say. -/
structure Completes (data defaults written : Json) : Prop where
  top : ∀ key ∈ ["verbose", "log_file"],
    written.field? key = (data.field? key).or (defaults.field? key)
  inside : ∀ name ∈ sections.map (·.1), ∀ key, (written.field? name).bind (·.field? key) =
    ((data.field? name).bind (·.field? key)).or ((defaults.field? name).bind (·.field? key))

/-! ### Sections -/

/-- A section whose fields are set one by one, and written under the names by which they are set. -/
structure IsSection {α : Type} (names : List String) (set? : α → String → Json → Option α)
    (toJson : α → Json) : Prop where
  sets : ∀ s value, ∀ key ∈ names, ∃ changed, set? s key value = some changed ∧
    (∀ name, (toJson changed).field? name =
      if name = key then some value else (toJson s).field? name) ∧
    (value.isRegular → (toJson s).isRegular → (toJson changed).isRegular)
  refuses : ∀ s value, ∀ key ∉ names, set? s key value = none

theorem isSection_source : IsSection ["language_extensions", "default_language", "encoding",
    "max_file_size", "ignore_patterns"] SourceSettings.set? SourceSettings.toJson where
  sets s value key named := by
    simp only [mem_cons, not_mem_nil, or_false] at named
    rcases named with rfl | rfl | rfl | rfl | rfl
    all_goals
      refine ⟨_, rfl, fun name => ?_, fun own whole => ?_⟩
      · simp only [SourceSettings.toJson, Json.field?, Json.fields?, Option.bind_some, lookup_cons]
        grind
      · simp_all [SourceSettings.toJson, Json.isRegular, Json.fieldsAreRegular,
          Json.hasDistinctKeys]
  refuses s value key unnamed := by simp_all [SourceSettings.set?]

theorem isSection_graph :
    IsSection ["compute_line_numbers"] GraphSettings.set? GraphSettings.toJson where
  sets s value key named := by
    cases mem_singleton.1 named
    refine ⟨_, rfl, fun name => ?_, fun own whole => ?_⟩
    · simp only [GraphSettings.toJson, Json.field?, Json.fields?, Option.bind_some, lookup_cons]
      grind
    · simp_all [GraphSettings.toJson, Json.isRegular, Json.fieldsAreRegular, Json.hasDistinctKeys]
  refuses s value key unnamed := by simp_all [GraphSettings.set?]

theorem isSection_storage : IsSection ["output_dir", "enable_compression"]
    StorageSettings.set? StorageSettings.toJson where
  sets s value key named := by
    rcases mem_pair.1 named with rfl | rfl
    all_goals
      refine ⟨_, rfl, fun name => ?_, fun own whole => ?_⟩
      · simp only [StorageSettings.toJson, Json.field?, Json.fields?, Option.bind_some, lookup_cons]
        grind
      · simp_all [StorageSettings.toJson, Json.isRegular, Json.fieldsAreRegular,
          Json.hasDistinctKeys]
  refuses s value key unnamed := by simp_all [StorageSettings.set?]

section Reading

variable {α : Type} {names : List String} {set? : α → String → Json → Option α} {toJson : α → Json}
  {fields : List (String × Json)} {s : α}

/-- A section is read: it gives what data says over what was there, or is refused as unfit. -/
inductive Reads (toJson : α → Json) (s : α) (data : Option Json) : Bool → Except Fault α → Prop
  | done {changed : α} (whole : (toJson changed).isRegular)
    (gives : ∀ name, (toJson changed).field? name =
      (data.bind (·.field? name)).or ((toJson s).field? name)) :
    Reads toJson s data true (.ok changed)
  | refused : Reads toJson s data false (.error .wrongForm)

theorem reads_setAll (isSection : IsSection names set? toJson)
    (distinct : (fields.map (·.1)).Nodup) (regular : ∀ field ∈ fields, field.2.isRegular)
    (whole : (toJson s).isRegular) :
    Reads toJson s (some (.obj fields)) (fits names (.obj fields)) (setAll set? s fields) := by
  induction fields generalizing s with
  | nil => exact .done whole fun _ => rfl
  | cons field rest ih =>
    obtain ⟨key, value⟩ := field
    obtain ⟨new, distinct⟩ := nodup_cons.1 distinct
    obtain ⟨own, regular⟩ := forall_mem_cons.1 regular
    rw [fits, all_cons, setAll]
    by_cases named : key ∈ names
    · obtain ⟨next, set, gives, kept⟩ := isSection.sets s value key named
      rw [set, contains_iff_mem.2 named, Bool.true_and]
      dsimp only
      -- The rest is set on what this field has set.
      have read := ih distinct regular (kept own whole)
      rw [fits] at read
      generalize rest.all _ = fit, setAll set? next rest = result at read
      cases read with
      | refused => exact .refused
      | done whole others =>
        refine .done whole fun name => ?_
        rw [others, gives]
        show (rest.lookup name).or _ = (((key, value) :: rest).lookup name).or _
        rw [lookup_cons]
        by_cases same : name = key
        · -- A key is given once, so nothing behind it sets its field again.
          subst same
          have absent : rest.lookup name = none := by
            rw [lookup_eq_none_iff]
            intro field member
            have other : name ≠ field.1 := fun equal => new (mem_map.2 ⟨field, member, equal.symm⟩)
            simpa using other
          simp [absent]
        · have passed : (name == key) = false := by simpa using same
          rw [passed, if_neg same]
    -- An unknown key is refused, whatever follows.
    · have unknown : names.contains key = false := by simpa using named
      rw [isSection.refuses s value key named, unknown]
      exact .refused

theorem reads_readSection (isSection : IsSection names set? toJson) (name : String)
    (regular : ∀ value ∈ fields.lookup name, value.isRegular) (whole : (toJson s).isRegular) :
    Reads toJson s (fields.lookup name) ((fields.lookup name).all (fits names))
      (readSection set? name fields s) := by
  unfold readSection
  cases given : fields.lookup name with
  | none => exact .done whole fun _ => rfl
  | some value =>
    have regular := regular value given
    cases value with
    | obj fields =>
      simp only [Json.isRegular, Bool.and_eq_true, Json.fieldsAreRegular_iff, Json.hasDistinctKeys,
        decide_eq_true_eq] at regular
      exact reads_setAll isSection regular.1 regular.2 whole
    | _ => exact .refused

end Reading

/-! ### Whole settings -/

theorem isRegular_of_field? {data value : Json} (regular : data.isRegular) {key : String}
    (found : data.field? key = some value) : value.isRegular := by
  obtain ⟨fields, object, found⟩ := Option.bind_eq_some_iff.1 found
  obtain ⟨front, back, rfl, -⟩ := lookup_eq_some_iff.1 found
  cases data with
  | obj given =>
    cases object
    simp only [Json.isRegular, Bool.and_eq_true, Json.fieldsAreRegular_iff] at regular
    exact regular.2 (key, value) (by simp)
  | brokenObj given =>
    simp only [Json.isRegular, Bool.and_eq_true, Json.brokenAreRegular_iff] at regular
    have member : (key, value) ∈ given.filterMap Json.wholeField? := by
      rw [Option.some.inj object]
      simp
    obtain ⟨field, listed, whole⟩ := mem_filterMap.1 member
    obtain ⟨_, -, same⟩ := Option.map_eq_some_iff.1 whole
    cases same
    exact (regular.2 field listed).2
  | _ => cases object

theorem ofJson_of_toJson {s : Settings} {written : Json} (writes : s.toJson = .ok written) :
    ofJson written = .ok s := by
  obtain ⟨source, isSource, writes⟩ := exists_of_bind_eq_ok writes
  obtain ⟨graph, isGraph, writes⟩ := exists_of_bind_eq_ok writes
  obtain ⟨storage, isStorage, writes⟩ := exists_of_bind_eq_ok writes
  cases writes
  obtain ⟨source?, graph?, storage?, verbose, logFile⟩ := s
  cases source? <;> cases isSource
  cases graph? <;> cases isGraph
  cases storage? <;> cases isStorage
  rfl

theorem ofJson_cases {data : Json} (object : data.fields?.isSome) (regular : data.isRegular) :
    sectionsFit data = false ∧ ofJson data = .error .wrongForm ∨
    sectionsFit data ∧ ∃ s written defaults, ofJson data = .ok s ∧ s.toJson = .ok written ∧
      ({} : Settings).toJson = .ok defaults ∧ Completes data defaults written ∧
      written.isRegular := by
  obtain ⟨fields, isObject⟩ := Option.isSome_iff_exists.1 object
  have look (key : String) : data.field? key = fields.lookup key := by
    rw [Json.field?, isObject, Option.bind_some]
  have parts (name : String) : ∀ value ∈ fields.lookup name, value.isRegular :=
    fun value found => isRegular_of_field? regular ((look name).trans found)
  have top (key : String) (value : Json) (regular : value.isRegular) :
      ((fields.lookup key).getD value).isRegular := by
    cases given : fields.lookup key with
    | none => exact regular
    | some found => exact parts key found given
  have verbose := top "verbose" (.bool false) rfl
  have logFile := top "log_file" .null rfl
  have source := reads_readSection isSection_source "frontend" (s := {}) (parts _) (by decide)
  have graph := reads_readSection isSection_graph "graph" (s := {}) (parts _) (by decide)
  have storage := reads_readSection isSection_storage "storage" (s := {}) (parts _) (by decide)
  rw [ofJson, isObject, sectionsFit]
  simp only [sections, all_cons, all_nil, look]
  -- The sections are read in turn, and the first one that does not fit ends the reading.
  generalize Option.all _ _ = fit, readSection _ "frontend" fields _ = result at source ⊢
  cases source with
  | refused => exact .inl ⟨rfl, rfl⟩
  | done source sourceGives =>
  generalize Option.all _ _ = fit, readSection _ "graph" fields _ = result at graph ⊢
  cases graph with
  | refused => exact .inl ⟨rfl, rfl⟩
  | done graph graphGives =>
  generalize Option.all _ _ = fit, readSection _ "storage" fields _ = result at storage ⊢
  cases storage with
  | refused => exact .inl ⟨rfl, rfl⟩
  | done storage storageGives =>
  refine .inr ⟨rfl, _, _, _, rfl, rfl, rfl, ⟨?_, ?_⟩, ?_⟩
  · simp only [mem_pair, forall_eq_or_imp, forall_eq, look]
    exact ⟨by cases fields.lookup "verbose" <;> rfl, by cases fields.lookup "log_file" <;> rfl⟩
  · simp only [sections, map_cons, map_nil, mem_cons, not_mem_nil, or_false, forall_eq_or_imp,
      forall_eq, look]
    exact ⟨sourceGives, graphGives, storageGives⟩
  · simp [Json.isRegular, Json.fieldsAreRegular, Json.hasDistinctKeys, source, graph, storage,
      verbose, logFile]

/-! ### Settings in files -/

variable {s : Settings} {written : Json} {path : Path} {world : World}

theorem gives_readText {bytes : List UInt8} {chars : List Char}
    (held : world.files.get path = .ok (.file bytes))
    (decoded : Text.decodeUtf8 bytes = .ok chars) :
    (readText path).Gives world (Text.unifyNewlines chars) world := by
  have read : (readFile path).Gives world bytes world := by
    refine gives_bind_iff.2 ⟨world.files, world, ⟨_, rfl⟩, ?_⟩
    rw [FileSystem.read_of_get held]
    exact gives_pure_iff.2 ⟨rfl, rfl⟩
  refine gives_bind_iff.2 ⟨bytes, world, read, ?_⟩
  rw [decoded]
  exact gives_pure_iff.2 ⟨rfl, rfl⟩

theorem gives_save {outer files : FileSystem} (writes : s.toJson = .ok written)
    (done : (written.draft (.indented 2)).snag = none)
    (made : world.files.makeDirs path.parent = .ok outer)
    (stored : (outer.write path (Text.encodeChars (written.draft (.indented 2)).chars)).mapError
      (Fault.file · path.text) = .ok files) :
    (s.save path).Gives world () { world with files } := by
  refine gives_bind_iff.2 ⟨(), _, gives_change_iff.2 ⟨outer, made, rfl⟩, ?_⟩
  rw [writes]
  refine gives_bind_iff.2 ⟨written, _, gives_ofExcept_iff.2 ⟨rfl, rfl⟩, ?_⟩
  refine gives_bind_iff.2 ⟨(), _, gives_change_iff.2 ⟨files, stored, rfl⟩, ?_⟩
  rw [done]
  exact gives_ofExcept_iff.2 ⟨rfl, rfl⟩

theorem gives_load (writes : s.toJson = .ok written) (regular : written.isRegular)
    (done : (written.draft (.indented 2)).snag = none)
    (held : world.files.get path =
      .ok (.file (Text.encodeChars (written.draft (.indented 2)).chars))) :
    (load path).Gives world s world := by
  have text := gives_readText held (Text.decodeUtf8_encodeChars _)
  rw [Text.unifyNewlines_of_clean (Json.clean_draft done)] at text
  refine gives_bind_iff.2 ⟨world.files, world, ⟨_, rfl⟩, ?_⟩
  rw [FileSystem.probe_of_get held]
  refine gives_bind_iff.2 ⟨_, world, gives_ofExcept_iff.2 ⟨rfl, rfl⟩, ?_⟩
  refine gives_bind_iff.2 ⟨_, world, text, ?_⟩
  rw [Json.parseDocument_draft regular done]
  refine gives_bind_iff.2 ⟨written, world, gives_ofExcept_iff.2 ⟨rfl, rfl⟩, ?_⟩
  exact gives_ofExcept_iff.2 ⟨ofJson_of_toJson writes, rfl⟩

/-- Data in an object is refused exactly if a section in it does not fit. Otherwise the settings
that it gives are written as what it says, completed by defaults, and what is written gives them
again. Settings that can be written, where a file can, are saved there and loaded as they were. -/
theorem reads_back :
    (∀ data : Json, data.fields?.isSome → data.isRegular →
      if sectionsFit data then
        ∃ s written defaults, ofJson data = .ok s ∧ s.toJson = .ok written ∧
          ({} : Settings).toJson = .ok defaults ∧ Completes data defaults written ∧
          written.isRegular ∧ ofJson written = .ok s
      else ofJson data = .error .wrongForm) ∧
    ∀ (s : Settings) (written : Json) (path : Path) (world : World), s.toJson = .ok written →
      written.isRegular → written.isWritable Json.maxWrittenDepth → world.files.IsStanding →
      (world.files.withFile path (Text.encodeChars (written.draft (.indented 2)).chars)).isOk →
      ∃ after, (s.save path).Gives world () after ∧ (load path).Gives after s after := by
  refine ⟨fun data object regular => ?_, fun s written path world writes regular writable => ?_⟩
  · obtain ⟨unfit, refused⟩ |
        ⟨fit, s, written, defaults, read, writes, isDefault, complete, whole⟩ :=
      ofJson_cases object regular
    · simpa [unfit] using refused
    · rw [if_pos fit]
      exact ⟨s, written, defaults, read, writes, isDefault, complete, whole,
        ofJson_of_toJson writes⟩
  · intro standing can
    have done : (written.draft (.indented 2)).snag = none := by simp [Json.draft, writable]
    obtain ⟨outer, files, made, stored, held⟩ := FileSystem.exists_of_withFile standing can
    exact ⟨_, gives_save writes done made stored, gives_load writes regular done held⟩

/-- Data that gives one field of one section, a field beside them and a key without meaning. -/
def sparseSettings : Json :=
  .obj [("frontend", .obj [("encoding", .str "latin-1")]), ("verbose", .bool true), ("x", .null)]

theorem reads_back_sparseSettings : ∃ s written after,
    ofJson sparseSettings = .ok s ∧ s.toJson = .ok written ∧ written.isRegular ∧
      written.isWritable Json.maxWrittenDepth ∧
      (s.save (.ofString "d/s")).Gives { files := {} } () after ∧
      (load (.ofString "d/s")).Gives after s after := by
  obtain ⟨s, written, defaults, gives, writes, -, -, regular, -⟩ :=
    reads_back.1 sparseSettings rfl (by decide)
  have facts : (ofJson sparseSettings >>= toJson).map (fun written =>
      (written.isWritable Json.maxWrittenDepth, (({} : FileSystem).withFile (.ofString "d/s")
        (Text.encodeChars (written.draft (.indented 2)).chars)).isOk)) = .ok (true, true) := by
    decide +kernel
  rw [gives, ok_bind, writes] at facts
  obtain ⟨writable, can⟩ := Prod.mk.inj (Except.ok.inj facts)
  obtain ⟨after, saved, loaded⟩ := reads_back.2 s written (.ofString "d/s") { files := {} } writes
    regular writable ⟨[], rfl⟩ can
  exact ⟨s, written, after, gives, writes, regular, writable, saved, loaded⟩

end Settings

end SyntaxGraph
