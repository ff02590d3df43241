import SyntaxGraph.Proofs.Actions
import SyntaxGraph.Proofs.Extraction.Search
import SyntaxGraph.Proofs.Files

/-!
# Listings in another order

A directory lists its entries in some order, and programs that ask for a path do not notice it. Two
trees that differ only in their listings are alike: at each place they have the same kind of entry.

Main statement: whatever is done in two worlds whose files are alike shows the same and ends in the
same way, and leaves worlds whose files are alike.
-/
namespace SyntaxGraph

namespace Entry

mutual

/-- Two entries that differ at most in the order in which directories list what is in them. -/
inductive Reordered : Entry → Entry → Prop
  | file (bytes : List UInt8) : Reordered (.file bytes) (.file bytes)
  | link (target : String) : Reordered (.link target) (.link target)
  | dir {old middle new : List (String × Entry)} (each : AllReordered old middle)
    (shuffled : middle.Perm new) : Reordered (.dir old) (.dir new)

/-- Two listings with the same names in the same order. -/
inductive AllReordered : List (String × Entry) → List (String × Entry) → Prop
  | nil : AllReordered [] []
  | cons {name : String} {a b : Entry} {front back : List (String × Entry)}
    (first : Reordered a b) (rest : AllReordered front back) :
    AllReordered ((name, a) :: front) ((name, b) :: back)

end

/-- What an entry is, without what a directory lists. -/
inductive Kind
  | file (bytes : List UInt8)
  | link (target : String)
  | dir
deriving DecidableEq

def kind : Entry → Kind
  | .file bytes => .file bytes
  | .link target => .link target
  | .dir _ => .dir

/-- Whether two entries have the same below them at every place. -/
def Alike (a b : Entry) : Prop := ∀ place, (a.at? place).map kind = (b.at? place).map kind

variable {a b : Entry} {old new middle : List (String × Entry)}

theorem AllReordered.names (each : AllReordered old middle) : middle.map (·.1) = old.map (·.1) := by
  induction old generalizing middle with
  | nil =>
    cases each
    rfl
  | cons item rest ih =>
    cases each with
    | cons _ later => simp [ih later]

theorem AllReordered.lookup (each : AllReordered old middle) (name : String) :
    old.lookup name = none ∧ middle.lookup name = none ∨ ∃ x y,
      old.lookup name = some x ∧ middle.lookup name = some y ∧ x.Reordered y := by
  induction old generalizing middle with
  | nil =>
    cases each
    exact .inl ⟨rfl, rfl⟩
  | cons item rest ih =>
    cases each with
    | cons first later =>
      rw [List.lookup_cons, List.lookup_cons]
      split
      · exact .inr ⟨_, _, rfl, rfl, first⟩
      · exact ih later

/-- Where names are distinct, the order of a listing does not decide what is found. -/
theorem lookup_perm (distinct : (middle.map (·.1)).Nodup) (shuffled : middle.Perm new)
    (name : String) : middle.lookup name = new.lookup name := by
  have others : (new.map (·.1)).Nodup := (shuffled.map (·.1)).nodup_iff.1 distinct
  apply Option.ext
  intro entry
  rw [lookup_eq_some_iff distinct, lookup_eq_some_iff others, shuffled.mem_iff]

/-- At each place there is nothing in both of two trees, or entries that are listed differently. -/
theorem Reordered.at? (reordered : a.Reordered b) (distinct : a.HasDistinctNames)
    (place : List String) : a.at? place = none ∧ b.at? place = none ∨ ∃ x y,
      a.at? place = some x ∧ b.at? place = some y ∧ x.Reordered y := by
  induction place generalizing a b with
  | nil => exact .inr ⟨a, b, rfl, rfl, reordered⟩
  | cons name rest ih =>
    cases reordered with
    | file | link => exact .inl ⟨rfl, rfl⟩
    | @dir old middle new each shuffled =>
      have same := lookup_perm (each.names ▸ distinct.names) shuffled name
      rw [Entry.at?, Entry.at?, entries, entries, ← same]
      rcases each.lookup name with ⟨none, none'⟩ | ⟨x, y, first, second, inner⟩
      · exact .inl ⟨by rw [none]; rfl, by rw [none']; rfl⟩
      · rw [first, second]
        exact ih inner (distinct.of_mem ((lookup_eq_some_iff distinct.names).1 first))

theorem Reordered.kind (reordered : a.Reordered b) : a.kind = b.kind := by
  cases reordered <;> rfl

theorem Reordered.alike (reordered : a.Reordered b) (distinct : a.HasDistinctNames) :
    a.Alike b := by
  intro place
  rcases reordered.at? distinct place with ⟨none, none'⟩ | ⟨x, y, first, second, inner⟩
  · rw [none, none']
  · rw [first, second, Option.map_some, Option.map_some, inner.kind]

/-! ### Entries that are put into trees that are alike -/

/-- What is found under a name is alike, also if nothing is found. -/
theorem Alike.sub (alike : a.Alike b) (name : String) :
    ((a.entries.lookup name).getD (.dir [])).Alike ((b.entries.lookup name).getD (.dir [])) := by
  intro place
  have here := alike [name]
  have below := alike (name :: place)
  simp only [Entry.at?] at here below
  cases first : a.entries.lookup name with
  | none =>
    cases second : b.entries.lookup name with
    | none => rfl
    | some y => simp [first, second] at here
  | some x =>
    cases second : b.entries.lookup name with
    | none => simp [first, second] at here
    | some y => simpa [first, second] using below

theorem Alike.putAt (alike : a.Alike b) (entry : Entry) (place : List String) :
    (putAt entry place a).Alike (putAt entry place b) := by
  induction place generalizing a b with
  | nil => exact fun _ => rfl
  | cons name rest ih =>
    intro other
    cases other with
    | nil => rfl
    | cons first others =>
      rw [Entry.putAt, Entry.putAt, Entry.at?, Entry.at?, entries, entries]
      by_cases same : first = name
      · subst same
        rw [lookup_putIn_self, lookup_putIn_self]
        exact ih (alike.sub first) others
      · rw [lookup_putIn_of_ne same, lookup_putIn_of_ne same]
        exact alike (first :: others)

end Entry

namespace FileSystem

/-- Whether two file systems are alike. -/
structure Alike (a b : FileSystem) : Prop where
  here : b.here = a.here
  root : a.root.Alike b.root

def EndAlike {ε : Type} : Except ε FileSystem → Except ε FileSystem → Prop
  | .ok a, .ok b => a.Alike b
  | .error e, .error f => e = f
  | _, _ => False

variable {a b : FileSystem}

/-! ### Where paths lead -/

theorem follow_congr {root other : Entry} (alike : root.Alike other)
    {onLink onOther : List String → String → List String → Except FileFault (List String)}
    (same : ∀ here target rest, onLink here target rest = onOther here target rest)
    (here parts : List String) :
    follow root onLink here parts = follow other onOther here parts := by
  induction parts generalizing here with
  | nil => rfl
  | cons name rest ih =>
    have kinds := alike (here ++ [name])
    rw [follow, follow, ih, ih, ih]
    -- The two trees have the same kind of entry under this name.
    rcases first : root.at? (here ++ [name]) with _ | _ | _ | _ <;>
      rcases second : other.at? (here ++ [name]) with _ | _ | _ | _ <;>
        simp_all [Entry.kind]

theorem followLinks_congr {root other : Entry} (alike : root.Alike other) (making : Bool)
    (links : Nat) (here parts : List String) :
    followLinks root making links here parts = followLinks other making links here parts := by
  induction links generalizing here parts with
  | zero => exact follow_congr alike (fun _ _ _ => rfl) here parts
  | succ links ih =>
    refine follow_congr alike (fun here target rest => ?_) here parts
    simp only [ih]

theorem Alike.startOf (alike : a.Alike b) (path : Path) : a.startOf path = b.startOf path := by
  rw [FileSystem.startOf, FileSystem.startOf, alike.here]

theorem Alike.resolve (alike : a.Alike b) (path : Path) : a.resolve path = b.resolve path := by
  rw [FileSystem.resolve, FileSystem.resolve, alike.startOf, followLinks_congr alike.root]

theorem Alike.resolveForWriting (alike : a.Alike b) (path : Path) :
    a.resolveForWriting path = b.resolveForWriting path := by
  rw [FileSystem.resolveForWriting, FileSystem.resolveForWriting, alike.startOf,
    followLinks_congr alike.root]

/-! ### Asking -/

theorem Alike.get (alike : a.Alike b) (path : Path) :
    (a.get path).map Entry.kind = (b.get path).map Entry.kind := by
  rw [FileSystem.get, FileSystem.get, alike.resolve]
  cases b.resolve path with
  | error fault => rfl
  | ok place =>
    have kinds := alike.root place
    rw [ok_bind, ok_bind, entryAt, entryAt]
    rcases first : a.root.at? place with _ | x <;> rcases second : b.root.at? place with _ | y <;>
      simp_all [Except.map]

/-- What two file systems that are alike have at a path. -/
theorem Alike.get_cases (alike : a.Alike b) (path : Path) :
    (∃ fault, a.get path = .error fault ∧ b.get path = .error fault) ∨
      ∃ x y, a.get path = .ok x ∧ b.get path = .ok y ∧ x.kind = y.kind := by
  have kinds := alike.get path
  cases first : a.get path <;> cases second : b.get path <;> simp_all [Except.map]

theorem isDir_eq_of_kind {x y : Entry} (same : x.kind = y.kind) : x.isDir = y.isDir := by
  cases x <;> cases y <;> simp_all [Entry.kind, Entry.isDir]

theorem bytes?_eq_of_kind {x y : Entry} (same : x.kind = y.kind) : x.bytes? = y.bytes? := by
  cases x <;> cases y <;> simp_all [Entry.kind, Entry.bytes?]

variable (alike : a.Alike b)

include alike

theorem Alike.isDir (path : Path) : a.isDir path = b.isDir path := by
  rw [FileSystem.isDir, FileSystem.isDir, get?, get?]
  rcases alike.get_cases path with ⟨fault, first, second⟩ | ⟨x, y, first, second, same⟩
  · rw [first, second]
  · simp [first, second, isDir_eq_of_kind same]

theorem Alike.read (path : Path) : a.read path = b.read path := by
  rw [FileSystem.read, FileSystem.read]
  rcases alike.get_cases path with ⟨fault, first, second⟩ | ⟨x, y, first, second, same⟩
  · rw [first, second]
  · rw [first, second, ok_bind, ok_bind]
    cases x <;> cases y <;> simp_all [Entry.kind]

variable (mayRead : List String → Bool)

theorem Alike.permits (path : Path) : a.permits mayRead path = b.permits mayRead path := by
  rw [FileSystem.permits, FileSystem.permits, alike.resolve]

theorem Alike.pathProblem (text : String) {isRight : Entry → Bool}
    (byKind : ∀ x y : Entry, x.kind = y.kind → isRight x = isRight y) (wrong : PathProblem) :
    a.pathProblem mayRead text isRight wrong = b.pathProblem mayRead text isRight wrong := by
  rw [FileSystem.pathProblem, FileSystem.pathProblem, probe, probe, alike.permits]
  rcases alike.get_cases (.ofString text) with
    ⟨fault, first, second⟩ | ⟨x, y, first, second, same⟩
  · rw [first, second]
  · simp [first, second, byKind x y same]

theorem Alike.fileProblem (text : String) :
    a.fileProblem mayRead text = b.fileProblem mayRead text :=
  alike.pathProblem mayRead text (fun _ _ same => by rw [bytes?_eq_of_kind same]) _

theorem Alike.directoryProblem (text : String) :
    a.directoryProblem mayRead text = b.directoryProblem mayRead text :=
  alike.pathProblem mayRead text (fun _ _ => isDir_eq_of_kind) _

/-! ### Changing -/

theorem Alike.putAt (entry : Entry) (place : List String) :
    Alike { a with root := Entry.putAt entry place a.root }
      { b with root := Entry.putAt entry place b.root } :=
  ⟨alike.here, alike.root.putAt entry place⟩

theorem Alike.writeWith (path : Path) (update : List UInt8 → List UInt8) :
    EndAlike (a.writeWith path update) (b.writeWith path update) := by
  rw [FileSystem.writeWith, FileSystem.writeWith, alike.resolveForWriting]
  cases b.resolveForWriting path with
  | error fault => exact rfl
  | ok place =>
    have kinds := alike.root place
    rw [ok_bind, ok_bind]
    rcases first : a.root.at? place with _ | _ | _ | _ <;>
      rcases second : b.root.at? place with _ | _ | _ | _ <;>
        simp only [first, second, Option.map_some, Option.map_none, Entry.kind, reduceCtorEq,
          Option.some.injEq, Entry.Kind.file.injEq] at kinds
    · exact alike.putAt _ place
    · subst kinds
      exact alike.putAt _ place
    · exact alike.putAt _ place
    · exact rfl

theorem Alike.makeDir (path : Path) : EndAlike (a.makeDir path) (b.makeDir path) := by
  rw [FileSystem.makeDir, FileSystem.makeDir]
  cases checkPathText path.text with
  | error fault => exact rfl
  | ok =>
    rw [ok_bind, ok_bind]
    split
    next => exact rfl
    next name _ =>
    split
    next =>
      rcases alike.get_cases path with ⟨fault, first, second⟩ | ⟨x, y, first, second, -⟩
      · rw [first, second]
        exact rfl
      · rw [first, second]
        exact rfl
    next =>
      rw [alike.resolve]
      cases b.resolve path.parent with
      | error fault => exact rfl
      | ok parent =>
        rw [ok_bind, ok_bind]
        have kinds := alike.root parent
        have inside := congrArg Option.isSome (alike.root (parent ++ [name]))
        rw [Entry.at?_append, Entry.at?_append] at inside
        rcases first : a.root.at? parent with _ | _ | _ | old <;>
          rcases second : b.root.at? parent with _ | _ | _ | new <;>
            simp only [first, second, Option.map_some, Option.map_none, Entry.kind, reduceCtorEq,
              Option.some.injEq] at kinds
        · exact rfl
        · exact rfl
        · exact rfl
        · -- Both directories have the name, or neither has it.
          have known : (old.lookup name).isSome = (new.lookup name).isSome := by
            simpa [first, second, Entry.at?, Entry.entries] using inside
          dsimp only
          rw [known]
          split
          · exact rfl
          · split
            · exact rfl
            · exact alike.putAt _ _

theorem Alike.ensureDir (path : Path) : EndAlike (a.ensureDir path) (b.ensureDir path) := by
  have made := alike.makeDir path
  rw [FileSystem.ensureDir, FileSystem.ensureDir]
  cases first : a.makeDir path <;> cases second : b.makeDir path <;> rw [first, second] at made
  · cases made
    dsimp only
    rw [alike.isDir]
    split
    · exact alike
    · exact rfl
  · exact made.elim
  · exact made.elim
  · exact made

theorem Alike.ensureDirs (path : Path) (depth : Nat) :
    EndAlike (a.ensureDirs path depth) (b.ensureDirs path depth) := by
  induction depth generalizing path with
  | zero => exact alike.ensureDir path
  | succ depth ih =>
    have made := alike.makeDir path
    have outer := ih path.parent
    have whole := alike.ensureDir path
    rw [FileSystem.ensureDirs, FileSystem.ensureDirs]
    cases first : a.makeDir path <;> cases second : b.makeDir path <;> rw [first, second] at made
    · cases made
      split
      · cases around : a.ensureDirs path.parent depth <;>
          cases outside : b.ensureDirs path.parent depth <;> rw [around, outside] at outer
        · cases outer
          exact rfl
        · exact outer.elim
        · exact outer.elim
        · exact Alike.ensureDir outer path
      · exact whole
    · exact made.elim
    · exact made.elim
    · exact whole

end FileSystem

/-! ### Actions in worlds that are alike -/

/-- Whether two worlds differ at most in the order of listings. -/
structure World.Alike (a b : World) : Prop where
  files : a.files.Alike b.files
  channel : b.channel = a.channel

namespace Action

variable {α β : Type}

/-- Two actions that do the same in worlds that are alike. -/
def Matches (first second : Action α) : Prop :=
  ∀ a b : World, a.Alike b → (first a).1 = (second b).1 ∧ (first a).2.Alike (second b).2

theorem matches_ofExcept (result : Except Fault α) : Matches (ofExcept result) (ofExcept result) :=
  fun _ _ alike => ⟨rfl, alike⟩

theorem matches_emit (event : Event) : Matches (emit event) (emit event) :=
  fun _ _ alike => ⟨rfl, alike⟩

theorem Matches.bind {first second : Action α} {next other : α → Action β}
    (here : Matches first second) (behind : ∀ value, Matches (next value) (other value)) :
    Matches (first >>= next) (second >>= other) := by
  intro a b alike
  obtain ⟨same, left⟩ := here a b alike
  rcases begun : first a with ⟨⟨trace, _ | value⟩, after⟩ <;>
    rcases ended : second b with ⟨⟨trace', _ | value'⟩, after'⟩ <;>
      rw [begun, ended] at same left <;> cases same
  · rw [bind_of_error next begun, bind_of_error other ended]
    exact ⟨rfl, left⟩
  · rw [bind_of_ok next begun, bind_of_ok other ended]
    obtain ⟨again, left⟩ := behind value after after' left
    exact ⟨by rw [again], left⟩

/-- What looks at the files may look at files that are alike. -/
theorem matches_files {next other : FileSystem → Action α}
    (behind : ∀ a b : FileSystem, a.Alike b → Matches (next a) (other b)) :
    Matches (files >>= next) (files >>= other) := by
  intro a b alike
  obtain ⟨same, left⟩ := behind a.files b.files alike.files a b alike
  rw [bind_of_ok next (show files a = (⟨[], .ok a.files⟩, a) from rfl),
    bind_of_ok other (show files b = (⟨[], .ok b.files⟩, b) from rfl)]
  exact ⟨by rw [same], left⟩

theorem matches_change {step : FileSystem → Except Fault FileSystem}
    (alikeSteps : ∀ a b : FileSystem, a.Alike b → FileSystem.EndAlike (step a) (step b)) :
    Matches (change step) (change step) := by
  intro a b alike
  have ends := alikeSteps a.files b.files alike.files
  unfold change
  cases first : step a.files <;> cases second : step b.files <;> rw [first, second] at ends
  · cases ends
    exact ⟨rfl, alike⟩
  · exact ends.elim
  · exact ends.elim
  · exact ⟨rfl, ends, alike.channel⟩

theorem Matches.attempt {first second : Action α} (here : Matches first second) :
    Matches first.attempt second.attempt := by
  intro a b alike
  obtain ⟨same, left⟩ := here a b alike
  refine ⟨?_, left⟩
  show Traced.mk (first a).1.trace (.ok (first a).1.result) = Traced.mk (second b).1.trace _
  rw [same]

theorem matches_fold {step : β → α → Action β}
    (each : ∀ value a, Matches (step value a) (step value a))
    (start : β) (items : List α) : Matches (fold step start items) (fold step start items) := by
  induction items generalizing start with
  | nil => exact fun _ _ alike => ⟨rfl, alike⟩
  | cons a rest ih => exact (each start a).bind fun next => ih next

theorem endAlike_mapError {ε δ : Type} {first second : Except ε FileSystem} (name : ε → δ)
    (ends : FileSystem.EndAlike first second) :
    FileSystem.EndAlike (first.mapError name) (second.mapError name) := by
  cases first <;> cases second <;> first | exact ends | exact congrArg name ends

theorem matches_writeFile (path : Path) (bytes : List UInt8) :
    Matches (writeFile path bytes) (writeFile path bytes) :=
  matches_change fun _ _ alike => endAlike_mapError _ (alike.writeWith path _)

theorem matches_makeParent (path : Path) : Matches (makeParent path) (makeParent path) :=
  matches_change fun _ _ alike => alike.ensureDirs path.parent _

theorem matches_showOn (channel : Channel) (line : List Text.CodePoint) :
    Matches (showOn channel line) (showOn channel line) := by
  refine (matches_emit _).bind fun _ => ?_
  cases channel.file with
  | none => exact fun _ _ alike => ⟨rfl, alike⟩
  | some file =>
    cases Text.ofCodePoints? line with
    | none => exact (matches_emit _).bind fun _ => matches_emit _
    | some text =>
      have appended : Matches (appendFile file (text ++ "\n")) (appendFile file (text ++ "\n")) :=
        matches_change fun _ _ alike => endAlike_mapError _ (alike.writeWith file _)
      exact appended.attempt.bind fun _ _ _ alike => ⟨rfl, alike⟩

theorem matches_log (record : LogRecord) : Matches (log record) (log record) := by
  refine (matches_emit _).bind fun _ => ?_
  intro a b alike
  have opened (world : World) (next : Option Channel → Action Unit) :
      (channel >>= next) world = next world.channel world := by
    rfl
  rw [opened, opened, alike.channel]
  cases a.channel with
  | none => exact ⟨rfl, alike⟩
  | some channel =>
    cases shown : channel.shown record with
    | hidden =>
      simp only [shown]
      exact ⟨rfl, alike⟩
    | line line =>
      simp only [shown]
      exact matches_showOn channel line a b alike
    | unfit =>
      simp only [shown]
      exact ((matches_emit _).bind fun _ => matches_emit _) a b alike

theorem matches_ofLogged (run : Traced LogRecord Fault α) : Matches (ofLogged run) (ofLogged run) :=
  (matches_fold (fun _ record => matches_log record) () run.trace).bind fun _ =>
    matches_ofExcept run.result

end Action

end SyntaxGraph
