import SyntaxGraph.Proofs.Files
import SyntaxGraph.Proofs.Paths

/-!
# Places without links, and what changes leave alone

Where there are no links, a path leads to the place that it spells, whatever else is in the file
system. This makes it possible to say which places a change may touch: making directories touches no
file, and writing a file touches the place that its path spells.

Main statement: `Evolves`, which composes, and which every change of a file system satisfies.
-/
namespace SyntaxGraph

namespace Entry

variable {root new : Entry} {place other : List String}

/-- An entry without entries of its own, put at a place for files, changes what is at other places
only inside of directories. -/
theorem at?_putAt_or (vacant : root.IsVacant place) (childless : new.entries = [])
    (differ : other ≠ place) :
    (putAt new place root).at? other = root.at? other ∨
      root.IsDirAt other ∧ (putAt new place root).IsDirAt other := by
  by_cases above : other <+: place
  · -- Around the place there are directories, before and after.
    right
    refine ⟨vacant.isDirAt_of_prefix above differ, ?_⟩
    obtain ⟨back, rfl⟩ := above
    have more : back ≠ [] := by
      rintro rfl
      exact differ (by simp)
    exact isDirAt_putAt_above new root other more
  · left
    by_cases inside : place <+: other
    · -- Inside of the place there is nothing, before and after.
      obtain ⟨back, rfl⟩ := inside
      cases back with
      | nil => exact absurd (by simp) differ
      | cons name rest =>
        have after : (putAt new place root).at? (place ++ name :: rest) = none := by
          rw [at?_append, at?_putAt_self, Option.bind_some, at?, childless]
          rfl
        have before : root.at? (place ++ name :: rest) = none := by
          cases found : root.at? (place ++ name :: rest) with
          | none => rfl
          | some entry =>
            exact absurd (isDirAt_of_at?_below (List.cons_ne_nil name rest) found) vacant.closed
        rw [after, before]
    · exact at?_putAt_of_apart new root above inside

end Entry

namespace FileSystem

variable {root entry : Entry} {links : Nat} {here parts place way : List String}
  {fs changed old new : FileSystem} {path : Path}

/-! ### Where paths lead -/

def IsLinkless (fs : FileSystem) : Prop := ∀ place target, fs.root.at? place ≠ some (.link target)

/-- The place that parts spell from another one. -/
def walk (here : List String) : List String → List String
  | [] => here
  | part :: rest =>
    walk (if part = ".." then here.dropLast else if part = "." then here else here ++ [part]) rest

def placeOf (fs : FileSystem) (path : Path) : List String := walk (fs.startOf path) path.parts

theorem walk_append (here front back : List String) :
    walk here (front ++ back) = walk (walk here front) back := by
  induction front generalizing here with
  | nil => rfl
  | cons part rest ih => exact ih _

theorem walk_names (names : ∀ name ∈ way, name ≠ ".." ∧ name ≠ ".") :
    walk here way = here ++ way := by
  induction way generalizing here with
  | nil => simp [walk]
  | cons name rest ih =>
    obtain ⟨⟨notUp, notHere⟩, later⟩ := List.forall_mem_cons.1 names
    rw [walk, if_neg notUp, if_neg notHere, ih later]
    simp

theorem placeOf_below (fs : FileSystem) (path : Path)
    (names : ∀ name ∈ way, name ≠ ".." ∧ name ≠ ".") :
    fs.placeOf (path.below way) = fs.placeOf path ++ way := by
  have start : fs.startOf (path.below way) = fs.startOf path := rfl
  rw [placeOf, placeOf, start]
  show walk _ (path.parts ++ way) = _
  rw [walk_append, walk_names names]

theorem placeOf_congr (same : new.here = old.here) (path : Path) :
    new.placeOf path = old.placeOf path := by
  rw [placeOf, placeOf, startOf, startOf, same]

/-- Without links, a path leads nowhere but to the place that it spells. -/
theorem Leads.eq_walk (linkless : ∀ place target, root.at? place ≠ some (.link target))
    (leads : Leads root links here parts place) : place = walk here parts := by
  induction leads with
  | arrive => rfl
  | up _ ih =>
    exact ih
  | stay _ ih =>
    exact ih
  | enter plain _ _ ih =>
    rw [walk, if_neg plain.notUp, if_neg plain.notHere]
    exact ih
  | turn _ found => exact absurd found (linkless _ _)
  | stop plain =>
    rw [walk, if_neg plain.notUp, if_neg plain.notHere]
    rfl

theorem placeOf_of_resolve (linkless : fs.IsLinkless) (found : fs.resolve path = .ok place) :
    place = fs.placeOf path :=
  (resolve_eq_ok_iff.1 found).2.eq_walk linkless

theorem at?_of_get (linkless : fs.IsLinkless) (found : fs.get path = .ok entry) :
    fs.root.at? (fs.placeOf path) = some entry := by
  obtain ⟨place, leads, held⟩ := exists_of_bind_eq_ok found
  rw [← placeOf_of_resolve linkless leads]
  unfold entryAt at held
  split at held <;> cases held
  assumption

/-- From a directory a path goes on as it would from there. -/
theorem Leads.append (linkless : ∀ place target, root.at? place ≠ some (.link target))
    (leads : Leads root links here parts place) (dir : root.IsDirAt place) {goal : List String}
    (onward : Leads root links place way goal) : Leads root links here (parts ++ way) goal := by
  induction leads with
  | arrive => exact onward
  | up _ ih => exact .up (ih dir onward)
  | stay _ ih => exact .stay (ih dir onward)
  | enter plain inner _ ih => exact .enter plain inner (ih dir onward)
  | turn _ found => exact absurd found (linkless _ _)
  | stop _ closed => exact absurd dir closed

theorem leads_names (linkless : ∀ place target, root.at? place ≠ some (.link target))
    (names : ∀ name ∈ way, IsName name) (found : root.at? (place ++ way) = some entry) :
    Leads root links place way (place ++ way) := by
  induction way generalizing place with
  | nil => simpa using .arrive
  | cons name rest ih =>
    obtain ⟨plain, later⟩ := List.forall_mem_cons.1 names
    have regrouped : place ++ name :: rest = place ++ [name] ++ rest := by simp
    rw [regrouped] at found ⊢
    by_cases inner : root.IsDirAt (place ++ [name])
    · exact .enter plain inner (ih later found)
    · -- Nothing is below what is no directory.
      cases rest with
      | nil =>
        rw [List.append_nil]
        exact .stop plain inner (linkless _)
      | cons second others =>
        exact absurd (Entry.isDirAt_of_at?_below (List.cons_ne_nil second others) found) inner

theorem get_of_resolve (found : fs.resolve path = .ok place)
    (held : fs.root.at? place = some entry) : fs.get path = .ok entry := by
  rw [get, found, ok_bind, entryAt, held]

/-- A path leads to what is below a directory, unless it is too long. -/
theorem resolve_below (linkless : fs.IsLinkless) (found : fs.resolve path = .ok place)
    (dir : fs.root.IsDirAt place) (names : ∀ name ∈ way, IsName name)
    (held : fs.root.at? (place ++ way) = some entry)
    (checked : checkPathText (path.below way).text = .ok ()) :
    fs.resolve (path.below way) = .ok (place ++ way) := by
  obtain ⟨-, leads⟩ := resolve_eq_ok_iff.1 found
  exact resolve_eq_ok_iff.2 ⟨checked, leads.append linkless dir (leads_names linkless names held)⟩

/-! ### What changes leave alone -/

/-- A file system that came about from another one: directories stay directories, no links are
made, and no file is made, changed or lost but at the places that were touched. -/
structure Evolves (touched : List String → Prop) (old new : FileSystem) : Prop where
  here : new.here = old.here
  dirs : ∀ place, old.root.IsDirAt place → new.root.IsDirAt place
  links : ∀ place target, new.root.at? place = some (.link target) →
    old.root.at? place = some (.link target)
  files : ∀ place bytes, ¬touched place →
    (new.root.at? place = some (.file bytes) ↔ old.root.at? place = some (.file bytes))

namespace Evolves

variable {touched more : List String → Prop}

theorem refl (fs : FileSystem) : Evolves touched fs fs :=
  ⟨rfl, fun _ dir => dir, fun _ _ found => found, fun _ _ _ => Iff.rfl⟩

theorem trans {middle : FileSystem} (first : Evolves touched old middle)
    (second : Evolves touched middle new) : Evolves touched old new where
  here := second.here.trans first.here
  dirs place dir := second.dirs place (first.dirs place dir)
  links place target found := first.links place target (second.links place target found)
  files place bytes apart := (second.files place bytes apart).trans (first.files place bytes apart)

variable (evolves : Evolves touched old new)

include evolves

theorem mono (wider : ∀ place, touched place → more place) :
    Evolves more old new where
  here := evolves.here
  dirs := evolves.dirs
  links := evolves.links
  files place bytes apart := evolves.files place bytes fun hit => apart (wider place hit)

theorem isStanding (standing : old.IsStanding) : new.IsStanding := by
  show new.root.IsDirAt new.here
  rw [evolves.here]
  exact evolves.dirs _ standing

theorem isLinkless (linkless : old.IsLinkless) : new.IsLinkless :=
  fun place target found => linkless place target (evolves.links place target found)

theorem placeOf (path : Path) : new.placeOf path = old.placeOf path :=
  placeOf_congr evolves.here path

theorem leads (linkless : old.IsLinkless)
    {links : Nat} {here parts place : List String} (leads : Leads old.root links here parts place) :
    Leads new.root links here parts place := by
  induction leads with
  | arrive => exact .arrive
  | up _ ih => exact .up ih
  | stay _ ih => exact .stay ih
  | enter plain inner _ ih => exact .enter plain (evolves.dirs _ inner) ih
  | turn _ found => exact absurd found (linkless _ _)
  | @stop links here name plain closed solid =>
    -- What was missing or a file may have become a directory.
    by_cases inner : new.root.IsDirAt (here ++ [name])
    · exact .enter plain inner .arrive
    · exact .stop plain inner (evolves.isLinkless linkless _)

theorem resolve (linkless : old.IsLinkless) {path : Path}
    {place : List String} (found : old.resolve path = .ok place) :
    new.resolve path = .ok place := by
  obtain ⟨checked, way⟩ := resolve_eq_ok_iff.1 found
  have start : new.startOf path = old.startOf path := by rw [startOf, startOf, evolves.here]
  rw [resolve_eq_ok_iff, start]
  exact ⟨checked, evolves.leads linkless way⟩

end Evolves

/-- An entry that is put changes nothing but directories around it and its own place. -/
theorem evolves_putAt {touched : List String → Prop} (vacant : fs.root.IsVacant place)
    (childless : entry.entries = []) (solid : ∀ target, entry ≠ .link target) (own : ∀ bytes,
      touched place ∨ (entry ≠ .file bytes ∧ fs.root.at? place ≠ some (.file bytes))) :
    Evolves touched fs { fs with root := Entry.putAt entry place fs.root } where
  here := rfl
  dirs other dir := dir.putAt vacant.closed
  links other target found := by
    by_cases same : other = place
    · subst same
      rw [Entry.at?_putAt_self] at found
      exact absurd (Option.some.inj found) (solid target)
    · rcases Entry.at?_putAt_or vacant childless same with equal | ⟨-, entries, isDir⟩
      · exact equal ▸ found
      · rw [isDir] at found
        cases found
  files other bytes apart := by
    by_cases same : other = place
    · subst same
      obtain ⟨notNew, notOld⟩ := (own bytes).resolve_left apart
      rw [Entry.at?_putAt_self]
      simp [notNew, notOld]
    · rcases Entry.at?_putAt_or vacant childless same with equal | ⟨⟨_, before⟩, _, after⟩
      · rw [equal]
      · simp only [after, before, Option.some.injEq, reduceCtorEq]

theorem evolves_writeWith (standing : fs.IsStanding) (linkless : fs.IsLinkless)
    {update : List UInt8 → List UInt8} (written : fs.writeWith path update = .ok changed) :
    Evolves (· = fs.placeOf path) fs changed := by
  obtain ⟨place, old, found, vacant, rfl⟩ := exists_of_writeWith standing written
  have spelled := placeOf_of_resolve linkless found
  exact evolves_putAt vacant rfl (by simp) fun _ => .inl spelled

theorem at?_of_write (standing : fs.IsStanding) (linkless : fs.IsLinkless) {bytes : List UInt8}
    (written : fs.write path bytes = .ok changed) :
    changed.root.at? (fs.placeOf path) = some (.file bytes) := by
  have evolves := evolves_writeWith standing linkless written
  rw [← evolves.placeOf]
  exact at?_of_get (evolves.isLinkless linkless) (get_of_write standing written)

theorem evolves_makeDir (made : fs.makeDir path = .ok changed) :
    Evolves (fun _ => False) fs changed := by
  obtain ⟨parent, name, entries, around, nothing, rfl⟩ := exists_of_makeDir made
  have vacant : fs.root.IsVacant (parent ++ [name]) :=
    ⟨⟨parent, name, rfl, entries, around⟩, by simp [Entry.IsDirAt, nothing], by simp [nothing]⟩
  exact evolves_putAt vacant rfl (by simp) fun bytes => .inr ⟨by simp, by simp [nothing]⟩

theorem evolves_ensureDir (made : fs.ensureDir path = .ok changed) :
    Evolves (fun _ => False) fs changed := by
  unfold ensureDir at made
  split at made
  next new =>
    cases made
    exact evolves_makeDir new
  next =>
    split at made <;> cases made
    exact .refl fs

/-- Making directories touches no file. -/
theorem evolves_ensureDirs {depth : Nat} (made : fs.ensureDirs path depth = .ok changed) :
    Evolves (fun _ => False) fs changed := by
  induction depth generalizing path changed with
  | zero => exact evolves_ensureDir made
  | succ depth ih =>
    rw [ensureDirs] at made
    split at made
    next =>
      obtain ⟨outer, around, made⟩ := exists_of_bind_eq_ok made
      exact (ih around).trans (evolves_ensureDir made)
    next => exact evolves_ensureDir made

end FileSystem

end SyntaxGraph
