import Mathlib.Data.List.Infix
import SyntaxGraph.Files.System
import SyntaxGraph.Proofs.Trace

/-!
# Files that were written

A path is followed through directories and links to a place, and a file is put there. The change
lies on the way of this path and may lie on the way of others.

Main statements: the path at which a file was written leads to that file, and still does after
something else was appended to a file at another place. Files are only put into directories, so
that directories and links stay what they are and no path leads elsewhere than before.
-/
namespace SyntaxGraph

open List

namespace Entry

variable {root new : Entry} {place other back : List String}

/-! ### Entries that are put -/

theorem lookup_putIn_self (name : String) (new : Entry) (entries : List (String × Entry)) :
    (putIn name new entries).lookup name = some new := by
  induction entries with
  | nil => simp [putIn]
  | cons entry rest ih =>
    obtain ⟨n, old⟩ := entry
    by_cases same : n = name
    · simp [putIn, same]
    · have differ : (name == n) = false := by simpa using Ne.symm same
      simp [putIn, same, lookup_cons, differ, ih]

theorem lookup_putIn_of_ne {name sought : String} (differ : sought ≠ name) (new : Entry)
    (entries : List (String × Entry)) :
    (putIn name new entries).lookup sought = entries.lookup sought := by
  have passed : (sought == name) = false := by simpa using differ
  induction entries with
  | nil => simp [putIn, lookup_cons, passed]
  | cons entry rest ih =>
    obtain ⟨n, old⟩ := entry
    by_cases same : n = name
    · simp [putIn, same, lookup_cons, passed]
    · simp [putIn, same, lookup_cons, ih]

theorem at?_append (entry : Entry) (front back : List String) :
    entry.at? (front ++ back) = (entry.at? front).bind (·.at? back) := by
  induction front generalizing entry with
  | nil => rfl
  | cons name rest ih =>
    rw [cons_append, at?, at?]
    cases entry.entries.lookup name with
    | none => rfl
    | some next => exact ih next

theorem at?_putAt_self (new : Entry) (place : List String) (root : Entry) :
    (putAt new place root).at? place = some new := by
  induction place generalizing root with
  | nil => rfl
  | cons name rest ih =>
    rw [putAt, at?, entries, lookup_putIn_self]
    exact ih _

def IsDirAt (root : Entry) (place : List String) : Prop :=
  ∃ entries, root.at? place = some (.dir entries)

theorem isDirAt_putAt_above (new : Entry) (root : Entry) (front : List String) (more : back ≠ []) :
    (putAt new (front ++ back) root).IsDirAt front := by
  induction front generalizing root with
  | nil =>
    cases back with
    | nil => exact absurd rfl more
    | cons name rest => exact ⟨_, rfl⟩
  | cons name rest ih =>
    obtain ⟨inner, found⟩ := ih ((root.entries.lookup name).getD (.dir []))
    refine ⟨inner, ?_⟩
    rw [cons_append, putAt, at?, entries, lookup_putIn_self]
    exact found

/-- Places that are not above or below the one where an entry is put stay as they are. -/
theorem at?_putAt_of_apart (new : Entry) (root : Entry) (above : ¬other <+: place)
    (below : ¬place <+: other) : (putAt new place root).at? other = root.at? other := by
  induction place generalizing other root with
  | nil => exact absurd nil_prefix below
  | cons name rest ih =>
    cases other with
    | nil => exact absurd nil_prefix above
    | cons first others =>
      rw [putAt, at?, at?, entries]
      by_cases same : first = name
      · subst same
        rw [cons_prefix_cons, not_and] at above below
        rw [lookup_putIn_self, Option.bind_some, ih _ (above rfl) (below rfl)]
        cases found : root.entries.lookup first with
        | some next => rfl
        | none =>
          -- What was made anew on the way holds nothing else.
          cases others with
          | nil => exact absurd nil_prefix (above rfl)
          | cons => rfl
      · rw [lookup_putIn_of_ne same]

theorem isDirAt_of_at?_below {entry : Entry} (more : back ≠ [])
    (found : root.at? (place ++ back) = some entry) : root.IsDirAt place := by
  rw [at?_append] at found
  obtain ⟨above, here, found⟩ := Option.bind_eq_some_iff.1 found
  cases back with
  | nil => exact absurd rfl more
  | cons name rest =>
    cases above with
    | dir entries => exact ⟨entries, here⟩
    | file | link => cases found

/-- An entry that is put where there is no directory leaves other entries alone, unless it is put
below them. -/
theorem at?_putAt_of_not_above {entry : Entry} (free : ¬root.IsDirAt place)
    (found : root.at? other = some entry) (above : ¬other <+: place) :
    (putAt new place root).at? other = some entry := by
  rw [← found]
  refine at?_putAt_of_apart new root above fun below => ?_
  obtain ⟨back, rfl⟩ := below
  have more : back ≠ [] := by
    rintro rfl
    exact above (by simp)
  exact free (isDirAt_of_at?_below more found)

theorem IsDirAt.putAt (dir : root.IsDirAt other) (free : ¬root.IsDirAt place) :
    (putAt new place root).IsDirAt other := by
  by_cases above : other <+: place
  · obtain ⟨back, rfl⟩ := above
    have more : back ≠ [] := by
      rintro rfl
      exact free (by simpa using dir)
    exact isDirAt_putAt_above new root other more
  · obtain ⟨entries, found⟩ := dir
    exact ⟨entries, at?_putAt_of_not_above free found above⟩

theorem IsDirAt.of_prefix (dir : root.IsDirAt place) (above : other <+: place) :
    root.IsDirAt other := by
  obtain ⟨back, rfl⟩ := above
  cases back with
  | nil => simpa using dir
  | cons name rest =>
    obtain ⟨entries, found⟩ := dir
    exact isDirAt_of_at?_below (cons_ne_nil name rest) found

/-! ### Places for files -/

/-- Whether a file can be put at a place: it is in a directory, and is neither a directory nor a
link itself. -/
structure IsVacant (root : Entry) (place : List String) : Prop where
  around : ∃ parent name, place = parent ++ [name] ∧ root.IsDirAt parent
  closed : ¬root.IsDirAt place
  solid : ∀ target, root.at? place ≠ some (.link target)

namespace IsVacant

theorem isDirAt_of_prefix (vacant : root.IsVacant place) (above : other <+: place)
    (differ : other ≠ place) : root.IsDirAt other := by
  obtain ⟨parent, name, rfl, dir⟩ := vacant.around
  obtain same | above := prefix_concat_iff.1 above
  · exact absurd same differ
  · exact dir.of_prefix above

/-- Only directories are above a place for files, so a file that is put there leaves other entries
alone. -/
theorem at?_putAt (vacant : root.IsVacant place) {entry : Entry}
    (found : root.at? other = some entry) (differ : other ≠ place)
    (closed : ¬root.IsDirAt other) : (putAt new place root).at? other = some entry :=
  at?_putAt_of_not_above vacant.closed found fun above =>
    closed (vacant.isDirAt_of_prefix above differ)

theorem at?_link_putAt (vacant : root.IsVacant place) {target : String}
    (found : root.at? other = some (.link target)) :
    (putAt new place root).at? other = some (.link target) := by
  refine vacant.at?_putAt found (fun same => vacant.solid target (same ▸ found)) ?_
  rintro ⟨entries, isDir⟩
  rw [found] at isDir
  cases isDir

theorem putAt_file {bytes : List UInt8} (vacant : root.IsVacant place)
    (closed : ¬root.IsDirAt other) (solid : ∀ target, root.at? other ≠ some (.link target)) :
    ¬(putAt (.file bytes) place root).IsDirAt other ∧
      ∀ target, (putAt (.file bytes) place root).at? other ≠ some (.link target) := by
  by_cases below : place <+: other
  · obtain ⟨back, rfl⟩ := below
    have inFile : (putAt (.file bytes) place root).at? (place ++ back) =
        (Entry.file bytes).at? back := by
      rw [at?_append, at?_putAt_self, Option.bind_some]
    cases back with
    | nil => simp [IsDirAt, at?_putAt_self]
    | cons name rest => simp [IsDirAt, inFile, at?, entries]
  · have above : ¬other <+: place := by
      intro above
      refine closed (vacant.isDirAt_of_prefix above ?_)
      rintro rfl
      exact below prefix_rfl
    rw [IsDirAt, at?_putAt_of_apart _ root above below]
    exact ⟨closed, solid⟩

end IsVacant

end Entry

namespace FileSystem

/-! ### The ways of paths -/

/-- Whether a part of a path is the name of an entry. -/
structure IsName (part : String) : Prop where
  notUp : part ≠ ".."
  notHere : part ≠ "."
  short : part.utf8ByteSize ≤ maxNameBytes

/-- Where the target of a link is followed from. -/
def linkStart (here : List String) (target : String) : List String :=
  if (Path.ofString target).root = "" then here else []

/-- The parts of a path lead from one place to another, through at most so many links. -/
inductive Leads (root : Entry) : Nat → List String → List String → List String → Prop
  | arrive {links here} : Leads root links here [] here
  | up {links here rest place} (onward : Leads root links here.dropLast rest place) :
    Leads root links here (".." :: rest) place
  | stay {links here rest place} (onward : Leads root links here rest place) :
    Leads root links here ("." :: rest) place
  | enter {links here name rest place} (plain : IsName name) (dir : root.IsDirAt (here ++ [name]))
    (onward : Leads root links (here ++ [name]) rest place) :
    Leads root links here (name :: rest) place
  | turn {links here name target rest place} (plain : IsName name)
    (found : root.at? (here ++ [name]) = some (.link target))
    (onward : Leads root links (linkStart here target) (writtenParts target ++ rest) place) :
    Leads root (links + 1) here (name :: rest) place
  | stop {links here name} (plain : IsName name) (closed : ¬root.IsDirAt (here ++ [name]))
    (solid : ∀ target, root.at? (here ++ [name]) ≠ some (.link target)) :
    Leads root links here [name] (here ++ [name])

variable {root : Entry} {making : Bool} {links : Nat} {here parts place : List String}
  {bytes : List UInt8} {update : List UInt8 → List UInt8}

/-- What is followed without links leads on, if what is done at links does. -/
theorem leads_of_follow
    {onLink : List String → String → List String → Except FileFault (List String)}
    (turn : ∀ {here name target rest}, IsName name →
      root.at? (here ++ [name]) = some (.link target) → onLink here target rest = .ok place →
        Leads root links here (name :: rest) place)
    (found : follow root onLink here parts = .ok place) : Leads root links here parts place := by
  induction parts generalizing here with
  | nil =>
    cases found
    exact .arrive
  | cons name rest ih =>
    rw [follow] at found
    split at found
    next isUp => exact isUp ▸ .up (ih found)
    next notUp =>
    split at found
    next isHere => exact isHere ▸ .stay (ih found)
    next notHere =>
    split at found
    next => cases found
    next short =>
    have plain : IsName name := ⟨notUp, notHere, not_lt.1 short⟩
    split at found
    -- At nothing and at a file the way may end, but it cannot go on.
    next nothing =>
      split at found <;> cases found
      next isLast =>
        rw [isEmpty_iff.1 isLast]
        exact .stop plain (by simp [Entry.IsDirAt, nothing]) (by simp [nothing])
    next target isLink => exact turn plain isLink found
    next entries isDir => exact .enter plain ⟨entries, isDir⟩ (ih found)
    next bytes isFile =>
      split at found <;> cases found
      next isLast =>
        rw [isEmpty_iff.1 isLast]
        exact .stop plain (by simp [Entry.IsDirAt, isFile]) (by simp [isFile])

theorem leads_of_followLinks (found : followLinks root making links here parts = .ok place) :
    Leads root links here parts place := by
  induction links generalizing here parts with
  | zero =>
    exact leads_of_follow (fun _ _ refused => by cases refused) found
  | succ links ih =>
    refine leads_of_follow (fun plain isLink onward => .turn plain isLink (ih ?_)) found
    split at onward
    next =>
      -- A file that would be made through a slash is refused in any case.
      obtain ⟨_, -, refused⟩ := exists_of_bind_eq_ok onward
      cases refused
    next => exact onward

/-- Reading follows the same way as writing, which only refuses more. -/
theorem followLinks_of_leads (leads : Leads root links here parts place) :
    followLinks root false links here parts = .ok place := by
  induction leads with
  | @arrive links => cases links <;> rfl
  | @up links here rest place _ ih => cases links <;> simpa [followLinks, follow] using ih
  | @stay links here rest place _ ih => cases links <;> simpa [followLinks, follow] using ih
  | @enter links here name rest place plain dir _ ih =>
    obtain ⟨entries, found⟩ := dir
    have short := not_lt.2 plain.short
    cases links <;> simpa [followLinks, follow, plain.notUp, plain.notHere, short, found] using ih
  | turn plain found _ ih =>
    rw [followLinks, follow, if_neg plain.notUp, if_neg plain.notHere,
      if_neg (not_lt.2 plain.short), found]
    exact ih
  | @stop links here name plain closed solid =>
    -- What is there is neither a link nor a directory, so it makes no difference what links do.
    have ended : ∀ onLink, follow root onLink here [name] = .ok (here ++ [name]) := by
      intro onLink
      rw [follow, if_neg plain.notUp, if_neg plain.notHere, if_neg (not_lt.2 plain.short)]
      split
      next => rfl
      next target isLink => exact absurd isLink (solid target)
      next entries isDir => exact absurd ⟨entries, isDir⟩ closed
      next => rfl
    cases links <;> exact ended _

/-- From a directory, a way ends at a directory or at a place for files. -/
theorem Leads.ends (leads : Leads root links here parts place) (dir : root.IsDirAt here) :
    root.IsDirAt place ∨ root.IsVacant place := by
  induction leads with
  | arrive => exact .inl dir
  | @up links here rest place _ ih => exact ih (dir.of_prefix (List.dropLast_prefix here))
  | stay _ ih => exact ih dir
  | enter _ inner _ ih => exact ih inner
  | turn _ _ _ ih =>
    refine ih ?_
    unfold linkStart
    split
    · exact dir
    · exact dir.of_prefix nil_prefix
  | stop _ closed solid => exact .inr ⟨⟨_, _, rfl, dir⟩, closed, solid⟩

/-- A file that is put into a directory does not change where paths lead. -/
theorem Leads.putAt {spot : List String} (leads : Leads root links here parts place)
    (vacant : root.IsVacant spot) :
    Leads (Entry.putAt (.file bytes) spot root) links here parts place := by
  induction leads with
  | arrive => exact .arrive
  | up _ ih => exact .up ih
  | stay _ ih => exact .stay ih
  | enter plain dir _ ih => exact .enter plain (dir.putAt vacant.closed) ih
  | turn plain found _ ih => exact .turn plain (vacant.at?_link_putAt found) ih
  | stop plain closed solid =>
    obtain ⟨closed, solid⟩ := vacant.putAt_file closed solid
    exact .stop plain closed solid

/-! ### Writing and reading -/

/-- Whether the directory that relative paths start from is there. -/
def IsStanding (fs : FileSystem) : Prop := fs.root.IsDirAt fs.here

variable {fs changed : FileSystem} {path : Path}

theorem IsStanding.startOf (standing : fs.IsStanding) (path : Path) :
    fs.root.IsDirAt (fs.startOf path) := by
  unfold FileSystem.startOf
  split
  · exact standing
  · exact standing.of_prefix nil_prefix

theorem resolve_eq_ok_iff : fs.resolve path = .ok place ↔
    checkPathText path.text = .ok () ∧
      Leads fs.root maxLinks (fs.startOf path) path.parts place := by
  constructor
  · intro found
    obtain ⟨⟨⟩, checked, found⟩ := exists_of_bind_eq_ok found
    exact ⟨checked, leads_of_followLinks found⟩
  · rintro ⟨checked, leads⟩
    rw [resolve, checked]
    exact followLinks_of_leads leads

theorem resolve_putAt (vacant : fs.root.IsVacant place) (bytes : List UInt8) {reached : List String}
    (found : fs.resolve path = .ok reached) :
    resolve { fs with root := Entry.putAt (.file bytes) place fs.root } path = .ok reached := by
  obtain ⟨checked, leads⟩ := resolve_eq_ok_iff.1 found
  exact resolve_eq_ok_iff.2 ⟨checked, leads.putAt vacant⟩

/-- What writing does, if it is not refused. -/
theorem exists_of_writeWith (standing : fs.IsStanding)
    (written : fs.writeWith path update = .ok changed) :
    ∃ place old, fs.resolve path = .ok place ∧ fs.root.IsVacant place ∧
      changed = { fs with root := Entry.putAt (.file (update old)) place fs.root } := by
  obtain ⟨place, found, put⟩ := exists_of_bind_eq_ok written
  obtain ⟨⟨⟩, checked, found⟩ := exists_of_bind_eq_ok found
  have leads := leads_of_followLinks found
  have resolved := resolve_eq_ok_iff.2 ⟨checked, leads⟩
  obtain ⟨entries, isDir⟩ | vacant := leads.ends (standing.startOf path)
  · rw [isDir] at put
    cases put
  · split at put
    next => cases put
    next old _ =>
      cases put
      exact ⟨place, old, resolved, vacant, rfl⟩
    next =>
      cases put
      exact ⟨place, [], resolved, vacant, rfl⟩

theorem IsStanding.writeWith (standing : fs.IsStanding)
    (written : fs.writeWith path update = .ok changed) : changed.IsStanding := by
  obtain ⟨place, old, -, vacant, rfl⟩ := exists_of_writeWith standing written
  exact standing.putAt vacant.closed

theorem get_of_write (standing : fs.IsStanding) (written : fs.write path bytes = .ok changed) :
    changed.get path = .ok (.file bytes) := by
  obtain ⟨place, -, found, vacant, rfl⟩ := exists_of_writeWith standing written
  rw [get, resolve_putAt vacant bytes found, ok_bind, entryAt, Entry.at?_putAt_self]

theorem get_of_append {log : Path} {more : List UInt8} (standing : fs.IsStanding)
    (held : fs.get path = .ok (.file bytes)) (written : fs.append log more = .ok changed)
    (elsewhere : changed.resolve log ≠ changed.resolve path) :
    changed.get path = .ok (.file bytes) := by
  obtain ⟨spot, old, logged, vacant, rfl⟩ := exists_of_writeWith standing written
  obtain ⟨place, found, held⟩ := exists_of_bind_eq_ok held
  have isFile : fs.root.at? place = some (.file bytes) := by
    unfold entryAt at held
    split at held <;> cases held
    assumption
  rw [resolve_putAt vacant _ found, resolve_putAt vacant _ logged] at elsewhere
  have differ : place ≠ spot := fun same => elsewhere (by rw [same])
  have closed : ¬fs.root.IsDirAt place := by simp [Entry.IsDirAt, isFile]
  rw [get, resolve_putAt vacant _ found, ok_bind, entryAt, vacant.at?_putAt isFile differ closed]

/-! ### Directories that are made -/

theorem exists_of_makeDir (made : fs.makeDir path = .ok changed) :
    ∃ parent name entries, fs.root.at? parent = some (.dir entries) ∧
      fs.root.at? (parent ++ [name]) = none ∧
      changed = { fs with root := Entry.putAt (.dir []) (parent ++ [name]) fs.root } := by
  obtain ⟨_, -, made⟩ := exists_of_bind_eq_ok made
  split at made
  next => cases made
  next name _ =>
  split at made
  next =>
    obtain ⟨_, -, refused⟩ := exists_of_bind_eq_ok made
    cases refused
  next =>
    obtain ⟨parent, -, made⟩ := exists_of_bind_eq_ok made
    split at made
    next => cases made
    next entries around =>
      split at made
      next => cases made
      next =>
      split at made
      next => cases made
      next missing =>
        cases made
        refine ⟨parent, name, entries, around, ?_, rfl⟩
        rw [Entry.at?_append, around, Option.bind_some, Entry.at?, Entry.entries,
          Option.not_isSome_iff_eq_none.1 missing]
        rfl
    next => cases made

theorem IsStanding.makeDir (standing : fs.IsStanding) (made : fs.makeDir path = .ok changed) :
    changed.IsStanding := by
  obtain ⟨parent, name, entries, -, nothing, rfl⟩ := exists_of_makeDir made
  -- No directory is replaced.
  exact standing.putAt (by simp [Entry.IsDirAt, nothing])

theorem IsStanding.ensureDir (standing : fs.IsStanding) (made : fs.ensureDir path = .ok changed) :
    changed.IsStanding := by
  unfold FileSystem.ensureDir at made
  split at made
  next new =>
    cases made
    exact standing.makeDir new
  next =>
    split at made <;> cases made
    exact standing

theorem IsStanding.ensureDirs {depth : Nat} (standing : fs.IsStanding)
    (made : fs.ensureDirs path depth = .ok changed) : changed.IsStanding := by
  induction depth generalizing path changed with
  | zero => exact standing.ensureDir made
  | succ depth ih =>
    rw [FileSystem.ensureDirs] at made
    split at made
    next =>
      obtain ⟨outer, around, made⟩ := exists_of_bind_eq_ok made
      exact (ih around).ensureDir made
    next => exact standing.ensureDir made

/-! ### Files that are there -/

theorem probe_of_get {entry : Entry} (held : fs.get path = .ok entry) :
    fs.probe path = .ok (some entry) := by
  rw [probe, held]

theorem read_of_get (held : fs.get path = .ok (.file bytes)) : fs.read path = .ok bytes := by
  rw [read, held]
  rfl

/-- The files when a file is written, and before that the directories that lead to it. -/
def withFile (fs : FileSystem) (path : Path) (bytes : List UInt8) : Except Fault FileSystem := do
  let outer ← fs.makeDirs path.parent
  (outer.write path bytes).mapError (.file · path.text)

theorem exists_of_withFile (standing : fs.IsStanding) (can : (fs.withFile path bytes).isOk) :
    ∃ outer files, fs.makeDirs path.parent = .ok outer ∧
      (outer.write path bytes).mapError (Fault.file · path.text) = .ok files ∧
      files.get path = .ok (.file bytes) := by
  cases done : fs.withFile path bytes with
  | error fault =>
    rw [done] at can
    cases can
  | ok files =>
    obtain ⟨outer, made, stored⟩ := exists_of_bind_eq_ok done
    have standing := standing.ensureDirs made
    exact ⟨outer, files, made, stored, get_of_write standing (ok_of_mapError stored)⟩

end FileSystem

end SyntaxGraph
