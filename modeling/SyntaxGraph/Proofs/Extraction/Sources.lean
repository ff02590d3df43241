import SyntaxGraph.Proofs.Extraction.Listings
import SyntaxGraph.Proofs.Files.Places

/-!
# The sources below a directory

Where there are no links, what the search meets can be told from the tree of the files alone: a file
is met if it ends like a source, if neither itself nor a directory on the way to it is ignored, if
its path is short enough to be used, and if the directories on the way may be listed.

Main statement: `exists_found`, which tells the findings of a search by the ways to them.
-/
namespace SyntaxGraph

open FileSystem List

/-- Whether all directories under an entry have distinct entries, with names that these can have. -/
def Entry.IsWellFormed (entry : Entry) : Prop :=
  ∀ way entries, entry.at? way = some (.dir entries) →
    (entries.map (·.1)).Nodup ∧ ∀ item ∈ entries, IsEntryName item.1

namespace Entry.IsWellFormed

theorem file (bytes : List UInt8) : (Entry.file bytes).IsWellFormed := by
  intro way entries found
  cases way with
  | nil => cases found
  | cons name rest => simp [at?, Entry.entries] at found

/-- A directory is well-formed if its own entries are, and what is in them. -/
theorem dir {entries : List (String × Entry)} (distinct : (entries.map (·.1)).Nodup)
    (names : ∀ item ∈ entries, IsEntryName item.1)
    (inner : ∀ item ∈ entries, item.2.IsWellFormed) : (Entry.dir entries).IsWellFormed := by
  intro way others found
  cases way with
  | nil =>
    cases found
    exact ⟨distinct, names⟩
  | cons name rest =>
    rw [at?, Entry.entries] at found
    cases listed : entries.lookup name with
    | none => simp [listed] at found
    | some entry =>
      rw [listed] at found
      exact inner _ ((lookup_eq_some_iff distinct).1 listed) rest others found

/-- What leads to an entry are names of entries. -/
theorem names_of_at? {root : Entry} (wellFormed : root.IsWellFormed) {place way : List String}
    {entry : Entry} (found : root.at? (place ++ way) = some entry) :
    ∀ name ∈ way, IsEntryName name := by
  intro name member
  obtain ⟨front, back, rfl⟩ := append_of_mem member
  have regrouped : place ++ (front ++ name :: back) = (place ++ front) ++ (name :: back) := by simp
  rw [regrouped, at?_append] at found
  obtain ⟨around, reached, found⟩ := Option.bind_eq_some_iff.1 found
  rw [at?] at found
  cases around with
  | file | link => simp [Entry.entries] at found
  | dir entries =>
    obtain ⟨distinct, names⟩ := wellFormed _ entries reached
    rw [Entry.entries] at found
    cases listed : entries.lookup name with
    | none => simp [listed] at found
    | some inner => exact names _ ((lookup_eq_some_iff distinct).1 listed)

end Entry.IsWellFormed

/-- What is on the way to something else is a directory. -/
theorem Entry.isDirAt_of_longer {root entry : Entry} {place back : List String}
    (held : root.at? (place ++ back) = some entry) (more : back ≠ []) : root.IsDirAt place := by
  rw [at?_append] at held
  obtain ⟨around, found, held⟩ := Option.bind_eq_some_iff.1 held
  cases back with
  | nil => exact absurd rfl more
  | cons name rest =>
    cases around with
    | dir entries => exact ⟨entries, found⟩
    | file | link => simp [at?, Entry.entries] at held

mutual

/-- Checks that directories are as file systems have them, and that there are no links. -/
def Entry.isTidy : Entry → Bool
  | .file _ => true
  | .link _ => false
  | .dir entries => decide (entries.map (·.1)).Nodup && Entry.areTidy entries

/-- Checks the entries of a directory. -/
def Entry.areTidy : List (String × Entry) → Bool
  | [] => true
  | (name, entry) :: rest => decide (IsEntryName name) && entry.isTidy && Entry.areTidy rest

end

theorem Entry.areTidy_iff {entries : List (String × Entry)} :
    areTidy entries ↔ ∀ item ∈ entries, IsEntryName item.1 ∧ item.2.isTidy := by
  induction entries with
  | nil => simp [areTidy]
  | cons item rest ih => simp [areTidy, ih]

/-- What was checked is well-formed and has no links. -/
theorem Entry.isWellFormed_of_isTidy (entry : Entry) (tidy : entry.isTidy) :
    entry.IsWellFormed ∧ ∀ place target, entry.at? place ≠ some (.link target) := by
  induction entry using Entry.induct_entries with
  | file bytes =>
    refine ⟨.file bytes, fun place target found => ?_⟩
    cases place with
    | nil => cases found
    | cons name rest => simp [at?, Entry.entries] at found
  | link target => simp [isTidy] at tidy
  | dir entries inner =>
    rw [isTidy, Bool.and_eq_true, decide_eq_true_eq, areTidy_iff] at tidy
    obtain ⟨names, each⟩ := tidy
    refine ⟨.dir names (fun item member => (each item member).1)
      fun item member => (inner item member (each item member).2).1,
      fun place target found => ?_⟩
    cases place with
    | nil => cases found
    | cons name rest =>
      rw [at?, Entry.entries] at found
      cases listed : entries.lookup name with
      | none => simp [listed] at found
      | some entry =>
        rw [listed] at found
        have member := (lookup_eq_some_iff names).1 listed
        exact (inner _ member (each _ member).2).2 rest target found

/-- Whether the directories of a file system are as file systems have them. -/
def FileSystem.IsWellFormed (fs : FileSystem) : Prop := fs.root.IsWellFormed

theorem FileSystem.IsWellFormed.distinct {fs : FileSystem} (wellFormed : fs.IsWellFormed) :
    fs.HasDistinctNames :=
  fun way entries found => (wellFormed way entries found).1

theorem IsEntryName.isName {name : String} (entry : IsEntryName name) : FileSystem.IsName name :=
  ⟨entry.notUp, entry.notHere, entry.short⟩

namespace Search

/-- Whether a file below the root ends like a source, and nothing on the way to it is ignored. -/
structure IsSource (s : Search) (way : List String) (bytes : List UInt8) : Prop where
  held : s.files.root.at? (s.files.placeOf s.root ++ way) = some (.file bytes)
  ending : Text.lower (s.root.below way).suffix ∈ s.endings
  kept : ∀ front, front <+: way → front ≠ [] →
    (s.root.below front).isIgnored s.root s.ignored = .ok false

/-- Whether the search can come to something below the root: the path is short enough to be used,
and the directories on the way may be listed. -/
structure Reaches (s : Search) (way : List String) : Prop where
  short : checkPathText (s.root.below way).text = .ok ()
  listed : ∀ front, front <+: way → front ≠ way → s.mayRead (s.files.placeOf s.root ++ front)

variable {s : Search} {way : List String} {bytes : List UInt8} {top : Entry}

theorem IsSource.names (source : s.IsSource way bytes) (wellFormed : s.files.IsWellFormed) :
    ∀ name ∈ way, IsEntryName name :=
  wellFormed.names_of_at? source.held

theorem IsSource.ne_nil (source : s.IsSource way bytes)
    (dir : s.files.root.IsDirAt (s.files.placeOf s.root)) : way ≠ [] := by
  rintro rfl
  obtain ⟨entries, isDir⟩ := dir
  have held := source.held
  rw [append_nil, isDir] at held
  cases held

section

variable (linkless : s.files.IsLinkless) (wellFormed : s.files.IsWellFormed)
  (start : s.files.get s.root = .ok top) (isDir : top.isDir)

include linkless start in
theorem at?_below (way : List String) :
    s.files.root.at? (s.files.placeOf s.root ++ way) = top.at? way := by
  rw [Entry.at?_append, at?_of_get linkless start]
  rfl

include linkless start isDir in
theorem isDirAt_placeOf : s.files.root.IsDirAt (s.files.placeOf s.root) := by
  cases top with
  | dir entries => exact ⟨entries, at?_of_get linkless start⟩
  | file | link => cases isDir

theorem lists_of_resolve {path : Path} {place : List String} {entries : List (String × Entry)}
    (found : s.files.resolve path = .ok place)
    (held : s.files.root.at? place = some (.dir entries)) : s.lists path = s.mayRead place := by
  simp [lists, FileSystem.isDir, FileSystem.get?, get_of_resolve found held, Entry.isDir, permits,
    found]

include linkless wellFormed start isDir

/-- The path to whatever is in the tree leads there, if it is short enough. -/
theorem resolve_below {entry : Entry}
    (held : s.files.root.at? (s.files.placeOf s.root ++ way) = some entry)
    (short : checkPathText (s.root.below way).text = .ok ()) :
    s.files.resolve (s.root.below way) = .ok (s.files.placeOf s.root ++ way) := by
  obtain ⟨place, resolved, -⟩ := exists_of_bind_eq_ok start
  have spelled := placeOf_of_resolve linkless resolved
  subst spelled
  exact FileSystem.resolve_below linkless resolved (isDirAt_placeOf linkless start isDir)
    (fun name member => (wellFormed.names_of_at? held name member).isName) held short

theorem get_below {entry : Entry}
    (held : s.files.root.at? (s.files.placeOf s.root ++ way) = some entry)
    (short : checkPathText (s.root.below way).text = .ok ()) :
    s.files.get (s.root.below way) = .ok entry :=
  get_of_resolve (resolve_below linkless wellFormed start isDir held short) held

/-- The directories on the way to a source can be listed if they may be read, as their paths are no
longer than that of the source. -/
theorem IsSource.lists_eq (source : s.IsSource way bytes)
    (short : checkPathText (s.root.below way).text = .ok ()) {front : List String}
    (ahead : front <+: way) (proper : front ≠ way) :
    s.lists (s.root.below front) = s.mayRead (s.files.placeOf s.root ++ front) := by
  obtain ⟨back, rfl⟩ := ahead
  have held := source.held
  rw [← append_assoc] at held
  obtain ⟨entries, inner⟩ := Entry.isDirAt_of_longer held fun none => proper (by simp [none])
  refine lists_of_resolve ?_ inner
  by_cases empty : (s.root.below front).parts = []
  · -- Then the front is the root itself.
    obtain ⟨-, rfl⟩ := append_eq_nil_iff.1 empty
    obtain ⟨place, resolved, -⟩ := exists_of_bind_eq_ok start
    rw [Path.below_nil, append_nil, resolved, placeOf_of_resolve linkless resolved]
  · refine resolve_below linkless wellFormed start isDir inner
      (Path.checkPathText_of_below empty back ?_)
    rw [Path.below_below]
    exact short

/-- The search comes to the sources that it can reach. -/
theorem IsSource.comesTo (source : s.IsSource way bytes) (reaches : s.Reaches way) :
    s.ComesTo s.root top way where
  file := ⟨.file bytes, (at?_below linkless start way).symm.trans source.held, trivial⟩
  reached front ahead proper := by
    rw [source.lists_eq linkless wellFormed start isDir reaches.short ahead proper]
    exact reaches.listed front ahead proper
  passed front ahead _ some := source.kept front ahead some

theorem IsSource.result_consider (source : s.IsSource way bytes)
    (short : checkPathText (s.root.below way).text = .ok ()) :
    (s.consider (s.root.below way)).result = (exceeds bytes.length s.maxSize).map
      fun large => [if large then .tooLarge (s.root.below way) else .source (s.root.below way)] :=
  Search.result_consider source.ending
    (source.kept way prefix_rfl (source.ne_nil (isDirAt_placeOf linkless start isDir)))
    (get_below linkless wellFormed start isDir source.held short)

/-- What the search is to find below the root, told by the tree of the files. -/
theorem meets_iff {f : Finding} :
    s.Meets s.root top way f ↔ ∃ bytes large, s.IsSource way bytes ∧ s.Reaches way ∧
      exceeds bytes.length s.maxSize = .ok large ∧
        f = if large then .tooLarge (s.root.below way) else .source (s.root.below way) := by
  have below := at?_below linkless start way
  constructor
  · rintro ⟨⟨⟨last, found, isFile⟩, reached, passed⟩, considered⟩
    obtain ⟨ending, ignored, entry, large, got, compared, rfl⟩ := consider_eq_ok_iff.1 considered
    obtain ⟨_, usable, -⟩ := exists_of_bind_eq_ok got
    -- The path was opened, so it is not too long.
    have short := (resolve_eq_ok_iff.1 usable).1
    cases last with
    | link target => exact absurd (below.trans found) (linkless _ target)
    | dir => exact isFile.elim
    | file bytes =>
      rw [get_below linkless wellFormed start isDir (below.trans found) short] at got
      cases got
      have source : s.IsSource way bytes := by
        refine ⟨below.trans found, ending, fun front ahead some => ?_⟩
        by_cases whole : front = way
        · exact whole ▸ ignored
        · exact passed front ahead whole some
      refine ⟨bytes, large, source, ⟨short, fun front ahead proper => ?_⟩, compared, rfl⟩
      rw [← source.lists_eq linkless wellFormed start isDir short ahead proper]
      exact reached front ahead proper
  · rintro ⟨bytes, large, source, reaches, compared, rfl⟩
    refine ⟨source.comesTo linkless wellFormed start isDir reaches, ?_⟩
    rw [source.result_consider linkless wellFormed start isDir reaches.short, compared]
    rfl

end

def waysOf (pick : Finding → Option Path) (found : List (List String × Finding)) :
    List (List String) :=
  (found.filter fun item => (pick item.2).isSome).map (·.1)

section

variable {pick : Finding → Option Path} {found : List (List String × Finding)}

theorem mem_waysOf_iff :
    way ∈ waysOf pick found ↔ ∃ f path, (way, f) ∈ found ∧ pick f = some path := by
  simp [waysOf, Option.isSome_iff_exists]

/-- The paths that are picked are those to which the ways lead. -/
theorem filterMap_eq_waysOf {root : Path} (own : ∀ f path, pick f = some path → path = f.path)
    (paths : ∀ item ∈ found, item.2.path = root.below item.1) :
    (found.map (·.2)).filterMap pick = (waysOf pick found).map root.below := by
  unfold waysOf
  induction found with
  | nil => rfl
  | cons item rest ih =>
    obtain ⟨here, later⟩ := forall_mem_cons.1 paths
    cases picked : pick item.2 with
    | none => simpa [picked] using ih later
    | some path => simpa [picked, own _ _ picked, here] using ih later

end

/-- Findings as two lists of ways from the root, which have nothing in common: to sources, and to
files that are too large. -/
structure Sorts (s : Search) (findings : List Finding) (sources large : List (List String)) :
    Prop where
  listed : findings.filterMap Finding.source? = sources.map s.root.below
  skipped : findings.filterMap Finding.tooLarge? = large.map s.root.below
  distinct : (sources ++ large).Nodup

/-- What a search finds are the sources that can be reached. -/
structure Found (s : Search) (findings : List Finding) (sources large : List (List String)) : Prop
    extends s.Sorts findings sources large where
  mem_sources_iff : ∀ way, way ∈ sources ↔ ∃ bytes, s.IsSource way bytes ∧ s.Reaches way ∧
    exceeds bytes.length s.maxSize = .ok false
  mem_large_iff : ∀ way, way ∈ large ↔ ∃ bytes, s.IsSource way bytes ∧ s.Reaches way ∧
    exceeds bytes.length s.maxSize = .ok true
  weighed : ∀ way bytes, s.IsSource way bytes → s.Reaches way →
    ∃ large, exceeds bytes.length s.maxSize = .ok large

theorem sorts_waysOf {found : List (List String × Finding)}
    (paths : ∀ item ∈ found, item.2.path = s.root.below item.1)
    (distinct : (found.map (·.1)).Nodup) :
    s.Sorts (found.map (·.2)) (waysOf Finding.source? found) (waysOf Finding.tooLarge? found) := by
  have once (pick : Finding → Option Path) : (waysOf pick found).Nodup :=
    distinct.sublist (filter_sublist.map _)
  refine ⟨filterMap_eq_waysOf ?_ paths, filterMap_eq_waysOf ?_ paths, ?_⟩
  · rintro (path | path) _ ⟨⟩
    rfl
  · rintro (path | path) _ ⟨⟩
    rfl
  · refine nodup_append.2 ⟨once _, once _, ?_⟩
    rintro way first _ second rfl
    obtain ⟨f, _, here, isSource⟩ := mem_waysOf_iff.1 first
    obtain ⟨g, _, there, isLarge⟩ := mem_waysOf_iff.1 second
    cases inj_on_of_nodup_map distinct here there rfl
    cases f <;> simp [Finding.source?, Finding.tooLarge?] at isSource isLarge

/-- Findings are sorted by ways, whether there are links or not. -/
theorem exists_sorts (wellFormed : s.files.IsWellFormed) {findings : List Finding}
    (ended : s.findings.result = .ok findings) : ∃ sources large, s.Sorts findings sources large ∧
      ∀ way ∈ sources, way ≠ [] ∧ ∀ name ∈ way, IsEntryName name := by
  cases start : s.files.get? s.root with
  | none =>
    rw [Search.findings, start] at ended
    cases ended
    exact ⟨[], [], ⟨rfl, rfl, .nil⟩, by simp⟩
  | some top =>
    by_cases isDir : top.isDir
    · obtain ⟨found, rfl, ordered, exactly⟩ :=
        (finds_findings start isDir (wellFormed.distinct.of_get? start) ended).lists
      obtain ⟨place, held⟩ := exists_at?_of_get? start
      refine ⟨_, _, sorts_waysOf ?_ (ordered.imp MetBefore.ne), fun way member => ?_⟩
      · rintro ⟨way, f⟩ member
        exact ((exactly way f).1 member).path_eq
      · obtain ⟨f, _, member, -⟩ := mem_waysOf_iff.1 member
        have meets := (exactly way f).1 member
        obtain ⟨last, there, -⟩ := meets.file
        constructor
        · -- The search starts at a directory, which is no file.
          refine meets.deeper fun taken => ?_
          cases top with
          | dir => exact taken
          | file | link => cases isDir
        · have reached : s.files.root.at? (place ++ way) = some last := by
            rw [Entry.at?_append, held]
            exact there
          exact wellFormed.names_of_at? reached
    · cases ended.symm.trans (findings_of_not_isDir start isDir)
      exact ⟨[], [], ⟨rfl, rfl, .nil⟩, by simp⟩

theorem exists_found (linkless : s.files.IsLinkless) (wellFormed : s.files.IsWellFormed)
    (start : s.files.get s.root = .ok top) (isDir : top.isDir) {findings : List Finding}
    (ended : s.findings.result = .ok findings) :
    ∃ sources large, s.Found findings sources large := by
  have begun : s.files.get? s.root = some top := by rw [FileSystem.get?, start]
  obtain ⟨⟨found, rfl, ordered, exactly⟩, considered⟩ :=
    finds_findings begun isDir (wellFormed.distinct.of_get? begun) ended
  have paths : ∀ item ∈ found, item.2.path = s.root.below item.1 := by
    rintro ⟨way, f⟩ member
    exact ((exactly way f).1 member).path_eq
  -- Sources and large files are picked from the same findings, by what the comparison says.
  have picked {pick : Finding → Option Path} {want : Bool}
      (picks : ∀ large path, (pick (if large then .tooLarge path else .source path)).isSome ↔
        large = want) (way : List String) : way ∈ waysOf pick found ↔
      ∃ bytes, s.IsSource way bytes ∧ s.Reaches way ∧
        exceeds bytes.length s.maxSize = .ok want := by
    rw [mem_waysOf_iff]
    simp only [exactly, meets_iff linkless wellFormed start isDir]
    constructor
    · rintro ⟨f, path, ⟨bytes, large, source, reaches, compared, rfl⟩, hit⟩
      obtain rfl := (picks large _).1 (Option.isSome_of_mem hit)
      exact ⟨bytes, source, reaches, compared⟩
    · rintro ⟨bytes, source, reaches, compared⟩
      obtain ⟨path, hit⟩ := Option.isSome_iff_exists.1 ((picks want (s.root.below way)).2 rfl)
      exact ⟨_, path, ⟨bytes, want, source, reaches, compared, rfl⟩, hit⟩
  refine ⟨_, _, sorts_waysOf paths (ordered.imp MetBefore.ne), picked ?_, picked ?_, ?_⟩
  · rintro (_ | _) path <;> simp [Finding.source?]
  · rintro (_ | _) path <;> simp [Finding.tooLarge?]
  · intro way bytes source reaches
    obtain ⟨part, ended⟩ := considered way (source.comesTo linkless wellFormed start isDir reaches)
    rw [source.result_consider linkless wellFormed start isDir reaches.short] at ended
    cases compared : exceeds bytes.length s.maxSize with
    | error fault => simp [compared, Except.map] at ended
    | ok large => exact ⟨large, rfl⟩

end Search

end SyntaxGraph
