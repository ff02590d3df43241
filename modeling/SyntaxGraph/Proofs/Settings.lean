import SyntaxGraph.Proofs.Actions
import SyntaxGraph.Proofs.Trace
import SyntaxGraph.Settings.VariableFile

/-!
# Settings after a failure

Settings from a file take the place of others as a whole or not at all. Variables of the environment
are taken over one by one, so those before one that makes no sense stay taken over. That holds
whatever reads files of variables, and wherever it finds them, as long as variables that are set
stay set.
-/
namespace SyntaxGraph

/-- What a variable says; an empty one says nothing. -/
def Environment.text? (env : Environment) (name : String) : Option String :=
  (env.lookup name).filter (· ≠ "")

namespace Action

variable {α β : Type} {world between left : World}

theorem fails_or_gives (action : Action α) (world : World) :
    ∃ left, (∃ fault, action.Ends world (.error fault) left) ∨ ∃ a, action.Gives world a left := by
  have ended := ends_self action world
  cases result : (action world).1.result with
  | ok a => exact ⟨_, .inr ⟨a, result ▸ ended⟩⟩
  | error fault => exact ⟨_, .inl ⟨fault, result ▸ ended⟩⟩

theorem Ends.attempt_bind {action : Action α} {second : Except Fault α → Action β}
    {result : Except Fault α} {b : β} (ended : action.Ends world result between)
    (given : (second result).Gives between b left) :
    (action.attempt >>= second).Gives world b left :=
  gives_bind_iff.2 ⟨result, between, gives_attempt_iff.2 ended, given⟩

end Action

namespace Settings

abbrev Setter := Settings → String → Except Fault Settings

variable {env : Environment} {s after : Settings} {fault : Fault} {table : List (String × Setter)}

theorem readVariables_cons (env : Environment) (name : String) (set : Setter)
    (rest : List (String × Setter)) (s : Settings) :
    readVariables env ((name, set) :: rest) s =
      match env.text? name with
      | none => readVariables env rest s
      | some text =>
        match set s text with
        | .ok s => readVariables env rest s
        | .error fault => (s, .error fault) := by
  rw [readVariables, Environment.text?]
  split
  next unset => rw [unset]; rfl
  next empty => rw [empty]; rfl
  next text full given =>
    have kept : (some text).filter (· ≠ "") = some text := by
      simpa [Option.filter] using full
    cases taken : set s text <;> simp only [given, kept, taken]

/-- Reading stops at a variable that makes no sense, when those before it are taken over. -/
def Stops (env : Environment) (table : List (String × Setter)) (s after : Settings)
    (fault : Fault) : Prop :=
  ∃ before behind name set text, table = before ++ (name, set) :: behind ∧
    readVariables env before s = (after, .ok ()) ∧ env.text? name = some text ∧
    set after text = .error fault

theorem stops_of_readVariables (failed : readVariables env table s = (after, .error fault)) :
    Stops env table s after fault := by
  induction table generalizing s with
  | nil => cases failed
  | cons entry rest ih =>
    obtain ⟨name, set⟩ := entry
    rw [readVariables_cons] at failed
    -- If the first variable is passed or taken over, reading stops at a later one.
    have later {next : Settings} (failed : readVariables env rest next = (after, .error fault))
        (step : ∀ others, readVariables env ((name, set) :: others) s =
          readVariables env others next) : Stops env ((name, set) :: rest) s after fault := by
      obtain ⟨before, behind, other, own, text, rfl, read, given, refused⟩ := ih failed
      exact ⟨(name, set) :: before, behind, other, own, text, rfl, (step before).trans read, given,
        refused⟩
    split at failed
    next unset => exact later failed fun others => by rw [readVariables_cons, unset]
    next text given =>
      split at failed
      next after taken =>
        exact later failed fun others => by simp only [readVariables_cons, given, taken]
      next refused =>
        cases failed
        exact ⟨[], rest, name, set, text, rfl, rfl, given, refused⟩

/-! ### Settings of which no section is lost -/

def IsWhole (s : Settings) : Prop :=
  ∃ source graph storage verbose logFile,
    s = ⟨some source, some graph, some storage, verbose, logFile⟩

/-- Variables that make sense whatever they say are all taken over. -/
theorem exists_readVariables (env : Environment)
    (sensible : ∀ entry ∈ table, ∀ s text, IsWhole s →
      ∃ after, entry.2 s text = .ok after ∧ after.IsWhole)
    (whole : s.IsWhole) : ∃ after, readVariables env table s = (after, .ok ()) := by
  induction table generalizing s with
  | nil => exact ⟨s, rfl⟩
  | cons entry rest ih =>
    obtain ⟨own, later⟩ := List.forall_mem_cons.1 sensible
    obtain ⟨name, set⟩ := entry
    rw [readVariables_cons]
    split
    next => exact ih later whole
    next text given =>
      obtain ⟨after, taken, whole⟩ := own s text whole
      simp only at taken
      rw [taken]
      exact ih later whole

/-- Settings with the language and the encoding that an environment gives. -/
def withNames (s : Settings) (env : Environment) : Settings :=
  { s with source? := s.source?.map fun source => { source with
      defaultLanguage := (env.text? "ASTF_DEFAULT_LANGUAGE").elim source.defaultLanguage .str
      encoding := (env.text? "ASTF_ENCODING").elim source.encoding .str } }

theorem sensible_drop (entry : String × Setter) (member : entry ∈ variableTable.drop 3)
    (s : Settings) (text : String) (whole : s.IsWhole) :
    ∃ after, entry.2 s text = .ok after ∧ after.IsWhole := by
  obtain ⟨source, graph, storage, verbose, logFile, rfl⟩ := whole
  simp only [variableTable, List.drop, List.mem_cons, List.not_mem_nil, or_false] at member
  rcases member with rfl | rfl | rfl | rfl | rfl <;> exact ⟨_, rfl, _, _, _, _, _, rfl⟩

def RefusesSize (env : Environment) : Prop :=
  ∃ text, env.text? "ASTF_MAX_FILE_SIZE" = some text ∧ Text.integer? text = none

/-- Into whole settings language and encoding are always read. Then the largest size of a file may
be refused; else all variables are read. -/
theorem readEnvironment_of_whole (env : Environment) (whole : s.IsWhole) :
    RefusesSize env ∧ s.readEnvironment env = (s.withNames env, .error .badValue) ∨
      ¬ RefusesSize env ∧ ∃ after, s.readEnvironment env = (after, .ok ()) := by
  obtain ⟨source, graph, storage, verbose, logFile, rfl⟩ := whole
  have read (rest : List (String × Setter)) : readVariables env (variableTable.take 2 ++ rest)
      ⟨some source, some graph, some storage, verbose, logFile⟩ = readVariables env rest
        (withNames ⟨some source, some graph, some storage, verbose, logFile⟩ env) := by
    simp only [variableTable, List.take, List.cons_append, readVariables_cons, withNames]
    cases env.text? "ASTF_DEFAULT_LANGUAGE" <;> cases env.text? "ASTF_ENCODING" <;> rfl
  have table : variableTable.drop 2 = _ :: variableTable.drop 3 := rfl
  rw [readEnvironment, ← List.take_append_drop 2 variableTable, read, table, readVariables_cons,
    RefusesSize]
  cases env.text? "ASTF_MAX_FILE_SIZE" with
  | none => exact .inr ⟨by simp, exists_readVariables env sensible_drop ⟨_, _, _, _, _, rfl⟩⟩
  | some text =>
    cases size : Text.integer? text with
    | none => exact .inl ⟨⟨text, rfl, size⟩, by simp only [size]⟩
    | some number =>
      simp only [size]
      exact .inr ⟨by simp [size], exists_readVariables env sensible_drop ⟨_, _, _, _, _, rfl⟩⟩

/-- Loading from the environment looks at the files and leaves the world as it was. -/
theorem gives_overriddenBy {reader : VariableReader} {file : Option String} (s : Settings)
    (world : World) {outcome : Settings × Except Fault Unit}
    (ends : (match reader.load world.files env file with
      | .ok env => s.readEnvironment env
      | .error fault => (s, .error fault)) = outcome) :
    (s.overriddenBy reader env file).Gives world outcome world := by
  refine Action.gives_bind_iff.2 ⟨world.files, world, ⟨_, rfl⟩, ?_⟩
  subst ends
  cases reader.load world.files env file <;> exact Action.gives_pure_iff.2 ⟨rfl, rfl⟩

end Settings

/-! ### Files of variables -/

/-- Whether variables that are set stay as they are, whatever files say. -/
def VariableReader.KeepsSet (reader : VariableReader) : Prop :=
  ∀ fs env path known, reader.read fs env path = .ok known →
    ∀ name text, env.lookup name = some text → known.lookup name = some text

theorem VariableReader.KeepsSet.text?_load {reader : VariableReader} (keeps : reader.KeepsSet)
    {fs : FileSystem} {env known : Environment} {file : Option String}
    (loaded : reader.load fs env file = .ok known) {name text : String}
    (given : env.text? name = some text) : known.text? name = some text := by
  unfold load at loaded
  split at loaded
  next path _ =>
    obtain ⟨set, full⟩ := Option.filter_eq_some_iff.1 given
    exact Option.filter_eq_some_iff.2 ⟨keeps fs env path known loaded name text set, full⟩
  next =>
    cases loaded
    exact given

theorem keepsSet_reader (found? : FileSystem → Option String) :
    (VariableFile.reader found?).KeepsSet := by
  intro fs env path known loaded name text given
  have later (new : Environment) : (env ++ new).lookup name = some text := by
    rw [List.lookup_append, given, Option.some_or]
  change VariableFile.load fs env path = .ok known at loaded
  unfold VariableFile.load at loaded
  split at loaded
  · cases loaded
    exact given
  · split at loaded
    next bytes _ =>
      obtain ⟨chars, -, loaded⟩ := exists_of_bind_eq_ok loaded
      -- What a file adds stands behind what was set before.
      obtain ⟨_, -, loaded⟩ := exists_of_bind_eq_ok loaded
      cases loaded
      exact later _
    next => cases loaded
    next =>
      cases loaded
      exact given

/-! ### Loading settings -/

namespace Settings

/-- Settings from a file that is refused change nothing. A file of variables that is refused changes
nothing either, but of the variables that are known then, which are those that are set and those of
the file, the ones before a refused one are taken over: of settings that are whole, only a size that
is no integer is refused, and the language and the encoding stay taken over. -/
theorem after_failed_loading {reader : VariableReader} (keeps : reader.KeepsSet) (s : Settings)
    (world : World) :
    (∀ path, ∃ left, (∃ fault, (load path).Ends world (.error fault) left ∧
        (s.replacedFrom path).Gives world (s, .error fault) left) ∨
      ∃ loaded, (load path).Gives world loaded left ∧
        (s.replacedFrom path).Gives world (loaded, .ok ()) left) ∧
    ∀ (env : Environment) file,
      (∃ fault, reader.load world.files env file = .error fault ∧
        (s.overriddenBy reader env file).Gives world (s, .error fault) world) ∨
      ∃ known after read, reader.load world.files env file = .ok known ∧
        (∀ name text, env.text? name = some text → known.text? name = some text) ∧
        (s.overriddenBy reader env file).Gives world (after, read) world ∧
        (∀ fault, read = .error fault → Stops known variableTable s after fault) ∧
        (s.IsWhole →
          RefusesSize known ∧ read = .error .badValue ∧ after = s.withNames known ∨
            ¬ RefusesSize known ∧ read = .ok ()) := by
  refine ⟨fun path => ?_, fun env file => ?_⟩
  · obtain ⟨left, ⟨fault, ended⟩ | ⟨loaded, given⟩⟩ := Action.fails_or_gives (load path) world
    · exact ⟨left, .inl ⟨fault, ended, ended.attempt_bind (Action.gives_pure_iff.2 ⟨rfl, rfl⟩)⟩⟩
    · exact ⟨left, .inr ⟨loaded, given,
        Action.Ends.attempt_bind given (Action.gives_pure_iff.2 ⟨rfl, rfl⟩)⟩⟩
  · cases loaded : reader.load world.files env file with
    | error fault => exact .inl ⟨fault, rfl, gives_overriddenBy s world (by rw [loaded])⟩
    | ok known =>
      -- Variables are read one by one, so those before the refused one are already set.
      refine .inr ⟨known, (s.readEnvironment known).1, (s.readEnvironment known).2, rfl,
        fun name text => keeps.text?_load loaded, gives_overriddenBy s world (by rw [loaded]),
        fun fault failed => stops_of_readVariables (Prod.ext rfl failed), fun whole => ?_⟩
      obtain ⟨refused, read⟩ | ⟨sensible, after, read⟩ := readEnvironment_of_whole known whole
      · exact .inl ⟨refused, by rw [read], by rw [read]⟩
      · exact .inr ⟨sensible, by rw [read]⟩

/-- A world with a file that gives a size which is no integer. -/
def variableWorld : World where
  files := { root := .dir [(".env", .file (Text.encodeUtf8 "ASTF_MAX_FILE_SIZE=big"))] }

/-- A reader that finds this file. -/
def foundReader : VariableReader := VariableFile.reader fun _ => some ".env"

theorem load_foundReader :
    foundReader.load variableWorld.files [("ASTF_ENCODING", "latin-1")] none =
      .ok [("ASTF_ENCODING", "latin-1"), ("ASTF_MAX_FILE_SIZE", "big")] := by
  have shown : (foundReader.load variableWorld.files [("ASTF_ENCODING", "latin-1")] none).toOption =
      some [("ASTF_ENCODING", "latin-1"), ("ASTF_MAX_FILE_SIZE", "big")] := by
    decide +kernel
  cases loaded : foundReader.load variableWorld.files [("ASTF_ENCODING", "latin-1")] none with
  | error fault =>
    rw [loaded] at shown
    cases shown
  | ok known =>
    rw [loaded] at shown
    exact congrArg Except.ok (Option.some.inj shown)

/-- Where no file is named the one that is found is read, and the size that it gives is refused when
the encoding is taken over. -/
theorem after_failed_loading_found :
    ∃ after, (({} : Settings).overriddenBy foundReader [("ASTF_ENCODING", "latin-1")] none).Gives
        variableWorld (after, .error .badValue) variableWorld ∧
      after.source? = some { encoding := .str "latin-1" } := by
  obtain ⟨-, loading⟩ := after_failed_loading (keepsSet_reader fun _ => some ".env") {}
    variableWorld
  obtain ⟨_, refused, -⟩ | ⟨known, after, _, loaded, -, given, -, ended⟩ :=
    loading [("ASTF_ENCODING", "latin-1")] none
  · cases load_foundReader.symm.trans refused
  · obtain rfl := Except.ok.inj (load_foundReader.symm.trans loaded)
    obtain ⟨-, rfl, rfl⟩ | ⟨accepted, -⟩ := ended ⟨_, _, _, _, _, rfl⟩
    · exact ⟨_, given, rfl⟩
    · exact absurd ⟨"big", by decide, by decide +kernel⟩ accepted

/-- An encoding is taken over from an environment whose size of a file is refused. -/
theorem encoding_overridden_before_failure :
    let loading := ({} : Settings).overriddenBy (VariableFile.reader fun _ => none)
      [("ASTF_ENCODING", "latin-1"), ("ASTF_MAX_FILE_SIZE", "big")] none
    ∃ after, loading.Gives { files := {} } (after, .error .badValue) { files := {} } ∧
      after ≠ {} := by
  exact ⟨{ source? := some { encoding := .str "latin-1" } }, ⟨[], rfl⟩, by simp⟩

end Settings

end SyntaxGraph
