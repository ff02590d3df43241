import Mathlib.Data.List.Induction
import SyntaxGraph.Registry

/-!
# What a registry remembers

A registry keeps two tables, one of front ends and one of the instances that were made of them. What
it answers is determined by the calls before: by the last one that registered or removed the front
end of a language, and by the one that brought the language in.

Main statement: whatever is asked of a registry, in any order, each instance that it keeps was made
of the front end that was registered last, a language has an instance exactly if it is registered,
the same one until the front end is registered again or removed, languages come in the order in
which they came in, and a file ending belongs to the first language that handles it.
-/
namespace SyntaxGraph

open List

/-- What is asked of a registry. -/
inductive Call
  | register (frontEnd : FrontEnd)
  | get (language : Json)
  | unregister (language : Json)
  | has (language : Json)
  | languages
  | languageForExtension (extension : String)

namespace Call

def Removes (language : Json) : Call → Prop
  | .unregister other => other.same language
  | .register _ | .get _ | .has _ | .languages | .languageForExtension _ => False

/-- Whether a call sets or takes away the front end of a language. -/
def Changes (language : Json) : Call → Prop
  | .register frontEnd => frontEnd.language.same language
  | .unregister other => other.same language
  | .get _ | .has _ | .languages | .languageForExtension _ => False

variable {calls : List Call} {call : Call} {language other : Json} {frontEnd : FrontEnd} {n : Nat}

/-- Whether a front end is the one that was registered last for a language, which was not taken away
since. -/
def Registered (calls : List Call) (language : Json) (frontEnd : FrontEnd) : Prop :=
  frontEnd.language.same language ∧ ∃ earlier later, calls = earlier ++ register frontEnd :: later ∧
    ∀ call ∈ later, ¬call.Changes language

/-- Whether a language came in with a call: it had no front end before, and was not taken away
since. -/
structure Entered (calls : List Call) (n : Nat) (language : Json) : Prop where
  registers : ∃ frontEnd, calls[n]? = some (register frontEnd) ∧ frontEnd.language = language
  absent : ∀ frontEnd, ¬Registered (calls.take n) language frontEnd
  stays : ∀ call ∈ calls.drop (n + 1), ¬call.Removes language

/-! ### One more call -/

theorem not_registered_nil : ¬Registered [] language frontEnd := by
  rintro ⟨-, earlier, later, split, -⟩
  simp at split

theorem registered_snoc_iff : Registered (calls ++ [call]) language frontEnd ↔
    call = register frontEnd ∧ frontEnd.language.same language ∨
      ¬call.Changes language ∧ Registered calls language frontEnd := by
  constructor
  · rintro ⟨same, earlier, later, split, kept⟩
    rcases eq_nil_or_concat later with rfl | ⟨front, last, rfl⟩
    · obtain ⟨-, last⟩ := append_inj' split rfl
      exact .inl ⟨(List.cons.inj last).1, same⟩
    · rw [concat_eq_append, ← cons_append, ← append_assoc] at split
      obtain ⟨rfl, last⟩ := append_inj' split rfl
      obtain ⟨rfl, -⟩ := List.cons.inj last
      rw [concat_eq_append] at kept
      exact .inr ⟨kept call (by simp), same, earlier, front, rfl, fun c member =>
        kept c (mem_append_left _ member)⟩
  · rintro (⟨rfl, same⟩ | ⟨unchanged, same, earlier, later, rfl, kept⟩)
    · exact ⟨same, calls, [], rfl, by simp⟩
    · refine ⟨same, earlier, later ++ [call], by simp, fun c member => ?_⟩
      rcases mem_append.1 member with member | member
      · exact kept c member
      · exact mem_singleton.1 member ▸ unchanged

theorem Removes.changes (removes : call.Removes language) : call.Changes language := by
  cases call with
  | unregister => exact removes
  | register | get | has | languages | languageForExtension => cases removes

theorem not_entered_nil : ¬Entered [] n language := by
  rintro ⟨⟨frontEnd, called, -⟩, -, -⟩
  simp at called

theorem Entered.lt (entered : Entered calls n language) : n < calls.length := by
  obtain ⟨frontEnd, called, -⟩ := entered.registers
  exact (List.getElem?_eq_some_iff.1 called).1

theorem entered_snoc_iff : Entered (calls ++ [call]) n language ↔
    Entered calls n language ∧ ¬call.Removes language ∨
      n = calls.length ∧ (∃ frontEnd, call = register frontEnd ∧ frontEnd.language = language) ∧
        ∀ frontEnd, ¬Registered calls language frontEnd := by
  constructor
  · intro entered
    have bound := entered.lt
    rw [length_append] at bound
    obtain ⟨⟨frontEnd, called, rfl⟩, absent, stays⟩ := entered
    -- The entry is older than the last call, or it is the last call.
    rcases Nat.lt_succ_iff_lt_or_eq.1 bound with early | rfl
    · rw [getElem?_append_left early] at called
      rw [take_append_of_le_length (Nat.le_of_lt early)] at absent
      rw [drop_append_of_le_length early] at stays
      exact .inl ⟨⟨⟨frontEnd, called, rfl⟩, absent, fun c member =>
        stays c (mem_append_left _ member)⟩, stays call (by simp)⟩
    · rw [take_left] at absent
      exact .inr ⟨rfl, ⟨frontEnd, by simpa using called, rfl⟩, absent⟩
  · rintro (⟨entered, kept⟩ | ⟨rfl, ⟨frontEnd, rfl, rfl⟩, absent⟩)
    · have early := entered.lt
      obtain ⟨⟨frontEnd, called, rfl⟩, absent, stays⟩ := entered
      refine ⟨⟨frontEnd, (getElem?_append_left early).trans called, rfl⟩, ?_, ?_⟩
      · rwa [take_append_of_le_length (Nat.le_of_lt early)]
      · rw [drop_append_of_le_length early]
        intro c member
        rcases mem_append.1 member with member | member
        · exact stays c member
        · exact mem_singleton.1 member ▸ kept
    · refine ⟨⟨frontEnd, by simp, rfl⟩, ?_, ?_⟩
      · rwa [take_left]
      · simp

end Call

namespace Registry

open Call

def blank : Registry where
  frontEnds := []
  instances := []
  made := 0

def after (r : Registry) : Call → Registry
  | .register frontEnd => r.register frontEnd
  | .get language =>
    match r.get language with
    | .ok (_, changed) => changed
    | .error _ => r
  | .unregister language => r.unregister language
  | .has _ | .languages | .languageForExtension _ => r

def afterAll (r : Registry) (calls : List Call) : Registry :=
  calls.foldl after r

variable {r changed : Registry} {calls : List Call} {call : Call} {language : Json}
  {found : Instance}

/-- The front end of a language is got from the instances or made anew. -/
theorem get_cases (given : r.get language = .ok (found, changed)) :
    r.frontEnds.get? language ≠ none ∧
      (r.instances.get? language = some found ∧ changed = r ∨
        r.instances.get? language = none ∧ r.frontEnds.get? language = some found.frontEnd ∧
          found.number = r.made ∧ changed =
            { r with instances := r.instances.put language found, made := r.made + 1 }) := by
  unfold get at given
  split at given
  · cases given
  next frontEnd known =>
    split at given
    next kept =>
      cases given
      exact ⟨by simp [known], .inl ⟨kept, rfl⟩⟩
    next none =>
      cases given
      exact ⟨by simp [known], .inr ⟨none, known, rfl, rfl⟩⟩

/-! ### Languages in their order -/

/-- Whether languages are those that came in with some calls, in the order of these. -/
def Lists (calls : List Call) (languages : List Json) : Prop :=
  ∃ entries : List (Nat × Json), entries.map (·.2) = languages ∧
    (entries.map (·.1)).Pairwise (· < ·) ∧ ∀ n language, (n, language) ∈ entries ↔
      Entered calls n language

namespace Lists

variable {languages : List Json}

theorem nil : Lists [] [] :=
  ⟨[], rfl, .nil, fun n language => by simp [not_entered_nil]⟩

theorem same (lists : Lists calls languages)
    (stays : ∀ n language, Entered (calls ++ [call]) n language ↔ Entered calls n language) :
    Lists (calls ++ [call]) languages := by
  obtain ⟨entries, shown, ordered, exactly⟩ := lists
  exact ⟨entries, shown, ordered,
    fun n language => (exactly n language).trans (stays n language).symm⟩

theorem append (lists : Lists calls languages) {new : Json}
    (enters : ∀ n language, Entered (calls ++ [call]) n language ↔
      Entered calls n language ∨ n = calls.length ∧ language = new) :
    Lists (calls ++ [call]) (languages ++ [new]) := by
  obtain ⟨entries, rfl, ordered, exactly⟩ := lists
  refine ⟨entries ++ [(calls.length, new)], by simp, ?_, fun n language => ?_⟩
  · rw [map_append, pairwise_append]
    refine ⟨ordered, pairwise_singleton _ _, fun n member last here => ?_⟩
    obtain ⟨⟨n, language⟩, listed, rfl⟩ := mem_map.1 member
    exact mem_singleton.1 here ▸ ((exactly n language).1 listed).lt
  · rw [mem_append, exactly, mem_singleton, enters, Prod.mk.injEq]

theorem filter (lists : Lists calls languages) {gone : Json}
    (leaves : ∀ n language, Entered (calls ++ [call]) n language ↔
      Entered calls n language ∧ ¬language.same gone) :
    Lists (calls ++ [call]) (languages.filter fun language => !language.same gone) := by
  obtain ⟨entries, rfl, ordered, exactly⟩ := lists
  refine ⟨entries.filter fun entry => !entry.2.same gone, ?_, ?_, fun n language => ?_⟩
  · rw [filter_map]
    rfl
  · exact ordered.sublist (filter_sublist.map _)
  · rw [mem_filter, exactly, leaves]
    simp

end Lists

/-! ### One step -/

/-- What a registry knows behind some calls. -/
structure Remembers (calls : List Call) (r : Registry) : Prop where
  known : ∀ language frontEnd,
    r.frontEnds.get? language = some frontEnd ↔ Registered calls language frontEnd
  distinct : r.frontEnds.IsDistinct
  listed : Lists calls r.languages
  cached : ∀ item ∈ r.instances,
    r.frontEnds.get? item.1 = some item.2.frontEnd ∧ item.2.number < r.made

namespace Remembers

theorem blank : Remembers [] blank where
  known _ _ := iff_of_false nofun not_registered_nil
  distinct := .nil
  listed := .nil
  cached := by simp [Registry.blank]

variable (remembers : Remembers calls r)

include remembers

theorem has_iff : r.has language ↔ ∃ frontEnd, Registered calls language frontEnd := by
  rw [has, Table.has, Option.isSome_iff_exists]
  exact exists_congr (remembers.known language)

/-- A call that changes no front end. -/
theorem of_quiet (quiet : ∀ language, ¬call.Changes language)
    (same : changed.frontEnds = r.frontEnds)
    (cached : ∀ item ∈ changed.instances,
      r.frontEnds.get? item.1 = some item.2.frontEnd ∧ item.2.number < changed.made) :
    Remembers (calls ++ [call]) changed := by
  have other (frontEnd : FrontEnd) : call ≠ .register frontEnd := by
    rintro rfl
    exact quiet frontEnd.language (Json.same_self _)
  refine ⟨fun language frontEnd => ?_, same ▸ remembers.distinct, ?_, same ▸ cached⟩
  · rw [same, remembers.known, registered_snoc_iff]
    simp [other, quiet]
  · rw [languages, same]
    refine remembers.listed.same fun n language => ?_
    have stays : ¬call.Removes language := fun removes => quiet language removes.changes
    simp [entered_snoc_iff, other, stays]

theorem register (frontEnd : FrontEnd) :
    Remembers (calls ++ [.register frontEnd]) (r.register frontEnd) := by
  refine ⟨fun language other => ?_, remembers.distinct.put, ?_, fun item member => ?_⟩
  · rw [Registry.register, Table.get?_put, registered_snoc_iff, Call.Changes, ← remembers.known]
    by_cases same : frontEnd.language.same language
    · rw [if_pos same]
      simp only [Option.some.injEq, Call.register.injEq, same, not_true, false_and, or_false]
      exact ⟨fun equal => ⟨equal, equal ▸ same⟩, And.left⟩
    · rw [if_neg same]
      refine ⟨fun found => .inr ⟨same, found⟩, fun registered => ?_⟩
      rcases registered with ⟨⟨⟩, here⟩ | ⟨-, found⟩
      · exact absurd here same
      · exact found
  · have keys : (r.register frontEnd).languages =
        if r.has frontEnd.language then r.languages else r.languages ++ [frontEnd.language] :=
      Table.keys_put
    rw [keys]
    split
    next known =>
      -- A language that is known keeps its place in the list.
      obtain ⟨old, registered⟩ := remembers.has_iff.1 known
      refine remembers.listed.same fun n language => ?_
      rw [entered_snoc_iff]
      refine ⟨?_, fun entered => .inl ⟨entered, id⟩⟩
      rintro (⟨entered, -⟩ | ⟨-, ⟨_, ⟨⟩, rfl⟩, absent⟩)
      · exact entered
      · exact absurd registered (absent old)
    next unknown =>
      -- A new one comes behind the others.
      have absent (old : FrontEnd) : ¬Registered calls frontEnd.language old :=
        fun registered => unknown (remembers.has_iff.2 ⟨old, registered⟩)
      refine remembers.listed.append fun n language => ?_
      rw [entered_snoc_iff]
      constructor
      · rintro (⟨entered, -⟩ | ⟨rfl, ⟨_, ⟨⟩, rfl⟩, -⟩)
        · exact .inl entered
        · exact .inr ⟨rfl, rfl⟩
      · rintro (entered | ⟨rfl, rfl⟩)
        · exact .inl ⟨entered, id⟩
        · exact .inr ⟨rfl, ⟨frontEnd, rfl, rfl⟩, absent⟩
  -- What is cached for the language is dropped, and the rest is still valid.
  · obtain ⟨member, apart⟩ := mem_filter.1 member
    obtain ⟨made, early⟩ := remembers.cached item member
    refine ⟨?_, early⟩
    rw [Registry.register, Table.get?_put, Json.same_comm, if_neg (by simpa using apart)]
    exact made

theorem unregister (gone : Json) : Remembers (calls ++ [.unregister gone]) (r.unregister gone) := by
  refine ⟨fun language frontEnd => ?_, remembers.distinct.drop, ?_, fun item member => ?_⟩
  · rw [Registry.unregister, Table.get?_drop, registered_snoc_iff, Call.Changes, ← remembers.known]
    by_cases same : gone.same language <;> simp [same]
  · have keys : (r.unregister gone).languages =
        r.languages.filter fun language => !language.same gone := Table.keys_drop
    rw [keys]
    refine remembers.listed.filter fun n language => ?_
    rw [entered_snoc_iff, Call.Removes, Json.same_comm]
    simp
  · obtain ⟨member, apart⟩ := mem_filter.1 member
    obtain ⟨made, early⟩ := remembers.cached item member
    refine ⟨?_, early⟩
    rw [Registry.unregister, Table.get?_drop, Json.same_comm, if_neg (by simpa using apart)]
    exact made

theorem get (given : r.get language = .ok (found, changed)) :
    Remembers (calls ++ [.get language]) changed := by
  obtain ⟨-, ⟨-, rfl⟩ | ⟨-, known, number, rfl⟩⟩ := get_cases given
  · exact remembers.of_quiet (fun _ => id) rfl remembers.cached
  · refine remembers.of_quiet (fun _ => id) rfl fun item member => ?_
    rcases Table.mem_of_mem_put member with member | ⟨same, rfl⟩
    · obtain ⟨made, early⟩ := remembers.cached item member
      exact ⟨made, Nat.lt_succ_of_lt early⟩
    · rw [Table.get?_congr same]
      exact ⟨known, Nat.lt_succ_of_le (Nat.le_of_eq number)⟩

theorem after (call : Call) : Remembers (calls ++ [call]) (r.after call) := by
  cases call with
  | register frontEnd => exact remembers.register frontEnd
  | unregister gone => exact remembers.unregister gone
  | get language =>
    rw [Registry.after]
    split
    next given => exact remembers.get given
    next => exact remembers.of_quiet (fun _ => id) rfl remembers.cached
  | has | languages | languageForExtension =>
    exact remembers.of_quiet (fun _ => id) rfl remembers.cached

end Remembers

theorem remembers_afterAll (calls : List Call) : Remembers calls (blank.afterAll calls) := by
  induction calls using List.reverseRecOn with
  | nil => exact .blank
  | append_singleton calls call ih =>
    rw [afterAll, foldl_append]
    exact ih.after call

/-! ### Instances over time -/

/-- How a registry stands to an instance that it gave for a language when it had made some number of
instances: it still has this one, or none that was made so early if the front end was changed. -/
structure Recalls (changes : Prop) (language : Json) (first : Instance) (before : Nat)
    (r : Registry) : Prop where
  later : before ≤ r.made
  kept : ¬changes → r.instances.get? language = some first
  fresh : changes → ∀ found, r.instances.get? language = some found → before ≤ found.number

namespace Recalls

variable {changes : Prop} {first : Instance} {before : Nat}

variable (recalls : r.Recalls changes language first before)

include recalls

theorem drop (gone : Json) {changed : Registry}
    (instances : changed.instances = r.instances.drop gone) (same : changed.made = r.made) :
    changed.Recalls (changes ∨ gone.same language) language first before := by
  obtain ⟨early, kept, fresh⟩ := recalls
  refine ⟨same ▸ early, fun untouched => ?_, fun touched found => ?_⟩
  · rw [not_or] at untouched
    rw [instances, Table.get?_drop, if_neg untouched.2, kept untouched.1]
  · rw [instances, Table.get?_drop]
    split
    · exact nofun
    next apart => exact fresh (touched.resolve_right apart) found

theorem get {other : Json}
    (given : r.get other = .ok (found, changed)) :
    changed.Recalls changes language first before := by
  obtain ⟨-, ⟨-, rfl⟩ | ⟨none, -, number, rfl⟩⟩ := get_cases given
  · exact recalls
  · obtain ⟨early, kept, fresh⟩ := recalls
    refine ⟨Nat.le_succ_of_le early, fun untouched => ?_, fun touched new => ?_⟩
    · have apart : ¬other.same language := by
        intro same
        rw [Table.get?_congr same, kept untouched] at none
        cases none
      rw [Table.get?_put, if_neg apart, kept untouched]
    · rw [Table.get?_put]
      split
      · rintro ⟨⟩
        exact number ▸ early
      · exact fresh touched new

theorem after (call : Call) :
    (r.after call).Recalls (changes ∨ call.Changes language) language first before := by
  cases call with
  | register frontEnd => exact recalls.drop frontEnd.language rfl rfl
  | unregister gone => exact recalls.drop gone rfl rfl
  | get other =>
    rw [Call.Changes, or_false, Registry.after]
    split
    next given => exact recalls.get given
    next => exact recalls
  | has | languages | languageForExtension => rwa [Call.Changes, or_false]

theorem afterAll (calls : List Call) :
    (r.afterAll calls).Recalls (changes ∨ ∃ call ∈ calls, call.Changes language) language first
      before := by
  induction calls generalizing r changes with
  | nil => simpa [Registry.afterAll] using recalls
  | cons call rest ih => simpa [Registry.afterAll, or_assoc] using ih (recalls.after call)

end Recalls

theorem Remembers.recalls (remembers : Remembers calls r)
    (given : r.get language = .ok (found, changed)) :
    found.number < changed.made ∧ changed.Recalls False language found changed.made := by
  have numbered : ∀ item ∈ r.instances, item.2.number < r.made :=
    fun item member => (remembers.cached item member).2
  obtain ⟨-, ⟨kept, rfl⟩ | ⟨-, -, number, rfl⟩⟩ := get_cases given
  · obtain ⟨item, member, rfl⟩ := Option.map_eq_some_iff.1 kept
    exact ⟨numbered item (mem_of_find?_eq_some member), Nat.le_refl _, fun _ => kept, nofun⟩
  · refine ⟨number ▸ Nat.lt_succ_self _, Nat.le_refl _, fun _ => ?_, nofun⟩
    rw [Table.get?_put, if_pos (Json.same_self _)]

/-- Of two instances that a registry gives for a language, the second is the first if the front end
was not changed in between, and was made later if it was. -/
theorem Remembers.get_again (remembers : Remembers calls r) {again : Instance}
    {between : List Call} {last : Registry} (given : r.get language = .ok (found, changed))
    (givenAgain : (changed.afterAll between).get language = .ok (again, last)) :
    ((∀ call ∈ between, ¬call.Changes language) → again = found) ∧
      ((∃ call ∈ between, call.Changes language) → found.number < again.number) := by
  obtain ⟨early, recalls⟩ := remembers.recalls given
  have recalls := recalls.afterAll between
  rw [false_or] at recalls
  have ⟨later, kept, fresh⟩ := recalls
  obtain ⟨-, ⟨held, -⟩ | ⟨none, -, number, -⟩⟩ := get_cases givenAgain
  · refine ⟨fun untouched => ?_, fun touched => Nat.lt_of_lt_of_le early (fresh touched again held)⟩
    have first := kept (by simpa using untouched)
    exact Option.some.inj (held.symm.trans first)
  · refine ⟨fun untouched => ?_, fun _ => number ▸ Nat.lt_of_lt_of_le early later⟩
    have first := kept (by simpa using untouched)
    cases none.symm.trans first

/-! ### File endings -/

/-- What the front end of a language says about a file ending: whether it handles it, or nothing if
it cannot be asked. -/
def Answers (calls : List Call) (extension : String) (answer : Option Bool) (language : Json) :
    Prop :=
  ∃ frontEnd, Registered calls language frontEnd ∧
    frontEnd.extensions.holds? (Text.lower extension) = answer

/-- The first front end that does not deny that it handles an ending decides. -/
theorem firstHandling_eq (extension : String) (table : Table FrontEnd) :
    ∃ front back, table = front ++ back ∧
      (∀ item ∈ front, item.2.extensions.holds? (Text.lower extension) = some false) ∧
      (back = [] ∧ languageForExtension?.firstHandling extension table = .ok none ∨
        ∃ language frontEnd rest, back = (language, frontEnd) :: rest ∧
          (frontEnd.extensions.holds? (Text.lower extension) = some true ∧
              languageForExtension?.firstHandling extension table = .ok (some language) ∨
            frontEnd.extensions.holds? (Text.lower extension) = none ∧
              languageForExtension?.firstHandling extension table = .error .wrongForm)) := by
  induction table with
  | nil => exact ⟨[], [], rfl, by simp, .inl ⟨rfl, rfl⟩⟩
  | cons item rest ih =>
    obtain ⟨language, frontEnd⟩ := item
    rw [languageForExtension?.firstHandling]
    split
    next handles =>
      exact ⟨[], _, rfl, by simp, .inr ⟨language, frontEnd, rest, rfl, .inl ⟨handles, rfl⟩⟩⟩
    next denies =>
      obtain ⟨front, back, rfl, denied, decided⟩ := ih
      exact ⟨(language, frontEnd) :: front, back, rfl, forall_mem_cons.2 ⟨denies, denied⟩, decided⟩
    next unknown =>
      exact ⟨[], _, rfl, by simp, .inr ⟨language, frontEnd, rest, rfl, .inr ⟨unknown, rfl⟩⟩⟩

theorem Remembers.registered (remembers : Remembers calls r) {item : Json × FrontEnd}
    (member : item ∈ r.frontEnds) : Registered calls item.1 item.2 :=
  (remembers.known _ _).1 (remembers.distinct.get?_of_mem member)

/-- An ending belongs to the first language whose front end handles it, and asking fails at a front
end that cannot be asked. -/
theorem Remembers.languageForExtension (remembers : Remembers calls r) (extension : String) :
    ∃ front back, r.languages = front ++ back ∧
      (∀ language ∈ front, Answers calls extension (some false) language) ∧
      (back = [] ∧ r.languageForExtension? extension = .ok none ∨
        ∃ language rest, back = language :: rest ∧
          (Answers calls extension (some true) language ∧
              r.languageForExtension? extension = .ok (some language) ∨
            Answers calls extension none language ∧
              r.languageForExtension? extension = .error .wrongForm)) := by
  obtain ⟨front, back, split, denied, decided⟩ := firstHandling_eq extension r.frontEnds
  refine ⟨front.map (·.1), back.map (·.1), by rw [languages, split, map_append], ?_, ?_⟩
  · intro language member
    obtain ⟨item, early, rfl⟩ := mem_map.1 member
    have registered := remembers.registered (split ▸ mem_append_left back early)
    exact ⟨item.2, registered, denied item early⟩
  · rcases decided with ⟨rfl, answer⟩ | ⟨language, frontEnd, rest, rfl, decided⟩
    · exact .inl ⟨rfl, answer⟩
    · have member : (language, frontEnd) ∈ r.frontEnds := by simp [split]
      have registered := remembers.registered member
      refine .inr ⟨language, rest.map (·.1), rfl, ?_⟩
      exact decided.imp (And.imp_left fun answered => ⟨frontEnd, registered, answered⟩)
        (And.imp_left fun answered => ⟨frontEnd, registered, answered⟩)

/-! ### Coherence -/

/-- What holds of a registry behind some calls. -/
structure Coherent (calls : List Call) (r : Registry) : Prop where
  /-- What is kept was made of the front end that was registered last, and this was not removed. -/
  cached : ∀ item ∈ r.instances, Registered calls item.1 item.2.frontEnd
  has_iff : ∀ language, r.has language ↔ ∃ frontEnd, Registered calls language frontEnd
  /-- Only languages without a front end are refused. -/
  refuses : ∀ language report, r.get language = .error report ↔
    report = .unsupportedLanguage language ∧ ∀ frontEnd, ¬Registered calls language frontEnd
  gives : ∀ language found changed, r.get language = .ok (found, changed) →
    Registered calls language found.frontEnd
  /-- The same instance is given until the front end is registered again or removed. -/
  again : ∀ language found changed between second last, r.get language = .ok (found, changed) →
    (changed.afterAll between).get language = .ok (second, last) →
      ((∀ call ∈ between, ¬call.Changes language) ↔ second = found) ∧
      ((∀ call ∈ between, ¬call.Changes language) ↔ second.number = found.number)
  listed : Lists calls r.languages
  /-- An ending belongs to the first language whose front end handles it. -/
  handled : ∀ extension, ∃ front back, r.languages = front ++ back ∧
    (∀ language ∈ front, Answers calls extension (some false) language) ∧
    (back = [] ∧ r.languageForExtension? extension = .ok none ∨
      ∃ language rest, back = language :: rest ∧
        (Answers calls extension (some true) language ∧
            r.languageForExtension? extension = .ok (some language) ∨
          Answers calls extension none language ∧
            r.languageForExtension? extension = .error .wrongForm))

theorem get_eq_error_iff {report : Report} : r.get language = .error report ↔
    report = .unsupportedLanguage language ∧ r.frontEnds.get? language = none := by
  unfold get
  cases r.frontEnds.get? language with
  | none => simp [eq_comm]
  | some frontEnd => cases r.instances.get? language <;> simp

theorem Remembers.registered_of_get (remembers : Remembers calls r)
    (given : r.get language = .ok (found, changed)) :
    Registered calls language found.frontEnd := by
  obtain ⟨-, ⟨kept, -⟩ | ⟨-, known, -⟩⟩ := get_cases given
  · obtain ⟨item, held, rfl⟩ := Option.map_eq_some_iff.1 kept
    have same : item.1.same language := by simpa using find?_some held
    have made := (remembers.cached item (mem_of_find?_eq_some held)).1
    rw [Table.get?_congr same] at made
    exact (remembers.known _ _).1 made
  · exact (remembers.known _ _).1 known

theorem Remembers.coherent (remembers : Remembers calls r) : Coherent calls r where
  cached item member := (remembers.known _ _).1 (remembers.cached item member).1
  has_iff _ := remembers.has_iff
  refuses language report := by
    rw [get_eq_error_iff, Option.eq_none_iff_forall_ne_some]
    simp only [ne_eq, remembers.known]
  gives _ _ _ := remembers.registered_of_get
  again language found changed between second last given givenAgain := by
    obtain ⟨same, later⟩ := remembers.get_again given givenAgain
    have touched (equal : second.number = found.number) :
        ∀ call ∈ between, ¬call.Changes language := by
      intro call member changes
      exact absurd (later ⟨call, member, changes⟩) (equal ▸ Nat.lt_irrefl _)
    exact ⟨⟨same, fun equal => touched (congrArg Instance.number equal)⟩,
      fun untouched => congrArg Instance.number (same untouched), touched⟩
  listed := remembers.listed
  handled := remembers.languageForExtension

/-- The calls that bring in Java. -/
def opening : List Call := [.register .java, .get (.str "java")]

theorem afterAll_opening : blank.afterAll opening = {} := by
  have named : FrontEnd.java.language = .str "java" := rfl
  simp [afterAll, opening, after, register, get, Table.put, Table.drop, Table.get?, blank, named]

/-- A registry is coherent behind any calls, be it that nothing was registered before, or Java
only. -/
theorem coherent_afterAll (calls : List Call) :
    Coherent calls (blank.afterAll calls) ∧
      Coherent (opening ++ calls) (({} : Registry).afterAll calls) := by
  have opened : blank.afterAll (opening ++ calls) = ({} : Registry).afterAll calls := by
    rw [afterAll, foldl_append, ← afterAll, ← afterAll, afterAll_opening]
  exact ⟨(remembers_afterAll calls).coherent, opened ▸ (remembers_afterAll _).coherent⟩

end Registry

end SyntaxGraph
