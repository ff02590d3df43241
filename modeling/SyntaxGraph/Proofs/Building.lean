import SyntaxGraph.Proofs.Conformance
import SyntaxGraph.Proofs.Reloading
import SyntaxGraph.Tree.SchemaData

/-!
# What a grammar builds and what it refuses

A node is built from contents by the names of slots. A slot may be left out or given null where its
arity allows it, and is then read as empty.

Main statement: a grammar builds a node exactly if its kind is declared, each name is one of a slot
and each slot admits what it is given. The node shows in each slot what it was given there, and its
children are those of the slots that are no aliases, in order. Otherwise the first thing that is
wrong is reported: the kind, then the names in the order in which they are given, then the slots in
the order in which they are declared.
-/
namespace SyntaxGraph

open List

/-! ### Slots -/

/-- Whether nothing is given: no content at all, or null. -/
def IsMissing (given : Option Content) : Prop := given = none ∨ given = some (.data .null)

namespace Slot

/-- Whether a slot may be given this. -/
def Admits (slot : Slot) (given : Option Content) : Prop :=
  match slot.arity with
  | .list => IsMissing given ∨
    ∃ items, given = some (.list items) ∧ ∀ item ∈ items, item.tree?.isSome
  | .single => ∃ t, given = some (.tree t)
  | .optional => IsMissing given ∨ ∃ t, given = some (.tree t)

/-- Why a slot may not be given this. -/
inductive Refuses (slot : Slot) (given : Option Content) : ShapeFault → Prop
  | required (isSingle : slot.arity = .single) (missing : IsMissing given) :
    Refuses slot given (.required slot.name)
  | notAList {content : Content} (isList : slot.arity = .list) (isGiven : given = some content)
    (isSome : ¬IsMissing given) (other : ∀ items, content ≠ .list items) :
    Refuses slot given (.notAList slot.name)
  | gap {items : List Content} {item : Content} (isList : slot.arity = .list)
    (isGiven : given = some (.list items)) (member : item ∈ items) (other : item.tree? = none) :
    Refuses slot given (.notATree slot.name)
  | notATree {content : Content} (one : slot.arity ≠ .list) (isGiven : given = some content)
    (isSome : ¬IsMissing given) (other : content.tree? = none) :
    Refuses slot given (.notATree slot.name)

/-- What a slot is read as: what it was given, or empty if that is nothing. -/
def value (slot : Slot) : Option Content → Content
  | none | some (.data .null) => slot.empty
  | some content => content

variable {slot : Slot} {given : Option Content}

theorem fill_of_missing (missing : IsMissing given) :
    slot.fill given =
      if slot.arity = .single then .error (.required slot.name) else .ok (slot.value given) := by
  obtain ⟨name, arity, aliasOf⟩ := slot
  rcases missing with rfl | rfl <;> cases arity <;> rfl

theorem fill_one {content : Content} (one : slot.arity ≠ .list)
    (isSome : ¬IsMissing (some content)) : slot.fill (some content) =
      if content.tree?.isSome then .ok content else .error (.notATree slot.name) := by
  unfold fill
  split <;> simp_all [IsMissing, Content.tree?]

theorem fill_list (isList : slot.arity = .list) (items : List Content) :
    slot.fill (some (.list items)) =
      if ∀ item ∈ items, item.tree?.isSome then .ok (.list items)
      else .error (.notATree slot.name) := by
  simp only [fill, isList, Option.getD_some, all_eq_true]

theorem fill_other {content : Content} (isList : slot.arity = .list)
    (isSome : ¬IsMissing (some content)) (other : ∀ items, content ≠ .list items) :
    slot.fill (some content) = .error (.notAList slot.name) := by
  unfold fill
  split <;> simp_all [IsMissing]

/-- A slot is filled with its value, or it refuses what it is given. -/
theorem fill_cases (slot : Slot) (given : Option Content) :
    (slot.Admits given ∧ slot.fill given = .ok (slot.value given)) ∨
      ∃ fault, slot.Refuses given fault ∧ ¬slot.Admits given ∧ slot.fill given = .error fault := by
  by_cases missing : IsMissing given
  · rw [fill_of_missing missing]
    cases isArity : slot.arity with
    | single =>
      refine .inr ⟨_, .required isArity missing, ?_, rfl⟩
      rcases missing with rfl | rfl <;> simp [Admits, isArity]
    | optional | list => exact .inl ⟨by simp [Admits, isArity, missing], rfl⟩
  · obtain ⟨content, rfl⟩ := Option.ne_none_iff_exists'.1 fun none => missing (.inl none)
    -- The order of the checks is that of filling: the list first, its items behind it.
    by_cases isList : slot.arity = .list
    · by_cases items : ∃ items, content = .list items
      · obtain ⟨items, rfl⟩ := items
        rw [fill_list isList]
        split
        next trees => exact .inl ⟨by simpa [Admits, isList] using .inr trees, rfl⟩
        next gap =>
          obtain ⟨item, member, other⟩ : ∃ item ∈ items, item.tree? = none := by simpa using gap
          refine .inr ⟨_, .gap isList rfl member other, ?_, rfl⟩
          simpa [Admits, isList, missing] using ⟨item, member, other⟩
      · have other : ∀ items, content ≠ .list items := fun own same => items ⟨own, same⟩
        refine .inr ⟨_, .notAList isList rfl missing other, ?_, fill_other isList missing other⟩
        simp [Admits, isList, missing, other]
    · rw [fill_one isList missing]
      cases tree : content.tree? with
      | some t =>
        obtain rfl : content = .tree t := by
          cases content with
          | tree u => exact congrArg _ (Option.some.inj tree)
          | _ => cases tree
        refine .inl ⟨?_, rfl⟩
        unfold Admits
        split <;> simp_all
      | none =>
        refine .inr ⟨_, .notATree isList rfl missing tree, ?_, rfl⟩
        have other : ∀ t, content ≠ .tree t := by
          rintro t rfl
          cases tree
        unfold Admits
        split <;> simp_all

end Slot

/-! ### Schemas -/

namespace Schema

variable {given : List (String × Content)}

/-- Slots are filled with their values, or the first one that refuses what it is given tells why. -/
theorem fillAll_cases (given : List (String × Content)) (slots : List Slot) :
    (∀ slot ∈ slots, slot.Admits (given.lookup slot.name)) ∧
        fillAll given slots =
          .ok (slots.map fun slot => (.slot slot, slot.value (given.lookup slot.name))) ∨
      ∃ before slot after fault, slots = before ++ slot :: after ∧
        (∀ earlier ∈ before, earlier.Admits (given.lookup earlier.name)) ∧
        slot.Refuses (given.lookup slot.name) fault ∧ ¬slot.Admits (given.lookup slot.name) ∧
        fillAll given slots = .error fault := by
  induction slots with
  | nil => exact .inl ⟨by simp, rfl⟩
  | cons slot rest ih =>
    obtain ⟨admits, filled⟩ | ⟨fault, refuses, not, failed⟩ :=
      slot.fill_cases (given.lookup slot.name)
    · obtain ⟨others, filledRest⟩ |
        ⟨before, later, after, fault, rfl, earlier, refuses, not, failed⟩ := ih
      · exact .inl ⟨forall_mem_cons.2 ⟨admits, others⟩, fillAll_cons filled filledRest⟩
      · refine .inr ⟨slot :: before, later, after, fault, rfl,
          forall_mem_cons.2 ⟨admits, earlier⟩, refuses, not, ?_⟩
        rw [fillAll, filled, failed]
        rfl
    · refine .inr ⟨[], slot, rest, fault, rfl, by simp, refuses, not, ?_⟩
      rw [fillAll, failed]
      rfl

end Schema

/-! ### Grammars -/

/-- Whether no kind is declared twice, and no slot in one schema. -/
structure Grammar.HasDistinctNames (grammar : Grammar) : Prop where
  kinds : (grammar.schemas.map (·.kind)).Nodup
  slots : ∀ schema ∈ grammar.schemas, (schema.slots.map (·.name)).Nodup

/-- A schema that the grammar declares for a kind. -/
structure Grammar.Declares (grammar : Grammar) (kind : Json) (schema : Schema) : Prop where
  member : schema ∈ grammar.schemas
  kind : kind = .str schema.kind

/-- Whether a schema has a slot with this name. -/
def Schema.HasSlot (schema : Schema) (name : String) : Prop :=
  ∃ slot ∈ schema.slots, slot.name = name

/-- What a node of a kind may be given. -/
def Grammar.Accepts (grammar : Grammar) (kind : Json) (given : List (String × Content)) : Prop :=
  ∃ schema, grammar.Declares kind schema ∧ (∀ pair ∈ given, schema.HasSlot pair.1) ∧
    ∀ slot ∈ schema.slots, slot.Admits (given.lookup slot.name)

/-- The first thing that is wrong with what a node is given. -/
inductive Grammar.Rejects (grammar : Grammar) (kind : Json) (given : List (String × Content)) :
    ShapeFault → Prop
  | kind (undeclared : ∀ schema, ¬grammar.Declares kind schema) :
    Rejects grammar kind given (.unknownKind grammar.name)
  | name {schema : Schema} {before after : List (String × Content)} {name : String}
    {content : Content} (declared : grammar.Declares kind schema)
    (place : given = before ++ (name, content) :: after)
    (earlier : ∀ pair ∈ before, schema.HasSlot pair.1) (unknown : ¬schema.HasSlot name) :
    Rejects grammar kind given (.unknownSlot name)
  | slot {schema : Schema} {before after : List Slot} {slot : Slot} {fault : ShapeFault}
    (declared : grammar.Declares kind schema) (names : ∀ pair ∈ given, schema.HasSlot pair.1)
    (place : schema.slots = before ++ slot :: after)
    (earlier : ∀ other ∈ before, other.Admits (given.lookup other.name))
    (refuses : slot.Refuses (given.lookup slot.name) fault) : Rejects grammar kind given fault

/-- A node of a schema that shows what it was given. -/
structure Tree.Shows (t : Tree) (schema : Schema) (given : List (String × Content)) : Prop where
  typed : t.schema? = some schema
  slots : ∀ slot ∈ schema.slots,
    t.child? slot.name = some (.ok (slot.value (given.lookup slot.name)))
  children : t.children = (schema.slots.filter (·.isTraversed)).flatMap fun slot =>
    (slot.value (given.lookup slot.name)).trees

theorem find?_of_nodup {α : Type} {key : α → String} {items : List α}
    (distinct : (items.map key).Nodup) {a : α} (member : a ∈ items) :
    items.find? (key · = key a) = some a := by
  induction items with
  | nil => cases member
  | cons first rest ih =>
    obtain ⟨new, distinct⟩ := nodup_cons.1 distinct
    rcases mem_cons.1 member with rfl | later
    · simp
    · have other : key first ≠ key a := fun same => new (same ▸ mem_map_of_mem later)
      simp [other, ih distinct later]

theorem Schema.slot?_eq_none_iff {schema : Schema} {name : String} :
    schema.slot? name = none ↔ ¬schema.HasSlot name := by
  simp [slot?, HasSlot]

theorem Schema.entries_cases (schema : Schema) (given : List (String × Content)) :
    ((∀ pair ∈ given, schema.HasSlot pair.1) ∧
        schema.entries given = fillAll given schema.slots) ∨
      ∃ before name content after, given = before ++ (name, content) :: after ∧
        (∀ pair ∈ before, schema.HasSlot pair.1) ∧ ¬schema.HasSlot name ∧
          schema.entries given = .error (.unknownSlot name) := by
  unfold entries
  split
  next name content unknown =>
    obtain ⟨isNone, before, after, place, known⟩ := find?_eq_some_iff_append.1 unknown
    refine .inr ⟨before, name, content, after, place, fun pair member => ?_,
      slot?_eq_none_iff.1 (Option.isNone_iff_eq_none.1 isNone), rfl⟩
    have := known pair member
    by_contra missing
    simp [slot?_eq_none_iff.2 missing] at this
  next unknown =>
    refine .inl ⟨fun pair member => ?_, rfl⟩
    have := find?_eq_none.1 unknown pair member
    by_contra missing
    simp [slot?_eq_none_iff.2 missing] at this

theorem Tree.shows_node {schema : Schema} {given : List (String × Content)} (head : Head)
    (distinct : (schema.slots.map (·.name)).Nodup)
    (admits : ∀ slot ∈ schema.slots, slot.Admits (given.lookup slot.name)) :
    Shows (.node head (some ⟨schema.kind, schema.isMethod⟩)
      (schema.slots.map fun slot => (.slot slot, slot.value (given.lookup slot.name))))
      schema given := by
  have slots : (schema.slots.map Place.slot).filterMap Place.slot? = schema.slots := by
    simp [filterMap_map, Function.comp_def, Place.slot?]
  have typed : (Tree.node head (some ⟨schema.kind, schema.isMethod⟩) (schema.slots.map fun slot =>
      (.slot slot, slot.value (given.lookup slot.name)))).schema? = some schema := by
    rw [schema?_node, map_map]
    exact congrArg some (congrArg (Schema.mk schema.kind · schema.isMethod) slots)
  refine ⟨typed, fun slot member => ?_, ?_⟩
  · have own : schema.slot? slot.name = some slot := find?_of_nodup distinct member
    rw [child?, typed, Option.map_some, own]
    refine congrArg (some ∘ Except.ok) ?_
    have accepted : slot.Accepts (slot.value (given.lookup slot.name)) := by
      obtain ⟨-, filled⟩ | ⟨_, -, not, -⟩ := slot.fill_cases (given.lookup slot.name)
      · exact (Slot.fill_eq_ok filled).1
      · exact absurd (admits slot member) not
    cases found : given? _ slot.name with
    | some content =>
      -- The slots have distinct names, so what is given under the name belongs to this slot.
      obtain ⟨place, listed, same⟩ := mem_of_given? found
      obtain ⟨other, isSlot, equal⟩ := mem_map.1 listed
      cases equal
      have also : schema.slot? other.name = some other := find?_of_nodup distinct isSlot
      rw [show other.name = slot.name from same, own] at also
      cases also
      rfl
    | none =>
      have passed := findSome?_eq_none_iff.1 found (.slot slot, _)
        (mem_reverse.2 (mem_map_of_mem member))
      cases held : slot.value (given.lookup slot.name) <;> simp_all [Place.name, Slot.Accepts]
  · rw [children, entries, flatMap_map]
    exact Graph.flatMap_ite Slot.isTraversed _ schema.slots

namespace Grammar

variable {grammar : Grammar} {kind : Json} {given : List (String × Content)}

theorem schemaFor_cases (isKey : kind.isKey) :
    (∃ schema, grammar.Declares kind schema ∧ grammar.schemaFor kind = .ok schema ∧
        grammar.schema? schema.kind = some schema) ∨
      (∀ schema, ¬grammar.Declares kind schema) ∧ grammar.schemaFor kind =
        .error (.report (.shape kind (.str (ShapeFault.unknownKind grammar.name).reason))) := by
  cases kind with
  | arr | obj | brokenObj => cases isKey
  | str kind =>
    cases found : grammar.schema? kind with
    | some schema =>
      have same : schema.kind = kind := by simpa using find?_some found
      refine .inl ⟨schema, ⟨mem_of_find?_eq_some found, by rw [same]⟩, ?_, same ▸ found⟩
      simp [schemaFor, schemaOf, found, Except.mapError]
    | none =>
      refine .inr ⟨?_, by simp [schemaFor, schemaOf, found, Except.mapError, ShapeError.report]⟩
      rintro schema ⟨member, same⟩
      exact find?_eq_none.1 found schema member (by simpa using (Json.str.inj same).symm)
  | _ => exact .inr ⟨fun schema declared => (by cases declared.kind), rfl⟩

/-- A node is built or the first thing that is wrong is reported. -/
theorem node_cases (distinct : grammar.HasDistinctNames) (isKey : kind.isKey) (head : Head)
    (free : ∀ pair ∈ given, pair.1 ∉ takenNames) :
    (∃ t schema, grammar.node kind head given = .ok t ∧ grammar.Accepts kind given ∧
        grammar.Declares kind schema ∧ t.head = head ∧ t.Shows schema given) ∨
      ∃ fault, grammar.node kind head given = .error (.report (.shape kind (.str fault.reason))) ∧
        ¬grammar.Accepts kind given ∧ grammar.Rejects kind given fault := by
  have opened : grammar.node kind head given = grammar.schemaFor kind >>= fun schema =>
      (grammar.build schema.kind head given).mapError (.report ·.report) := by
    rw [node, if_neg]
    simpa using fun name content member => free (name, content) member
  rw [opened]
  obtain ⟨schema, declared, found, own⟩ | ⟨undeclared, failed⟩ := schemaFor_cases isKey
  · -- Whatever else is declared for the kind is the same schema.
    have unique : ∀ other, grammar.Declares kind other → other = schema := by
      rintro other ⟨member, same⟩
      have also : grammar.schema? other.kind = some other := find?_of_nodup distinct.kinds member
      rw [← Json.str.inj (declared.kind.symm.trans same), own] at also
      exact (Option.some.inj also).symm
    rw [found, ok_bind, build_eq own]
    obtain ⟨names, entered⟩ | ⟨before, name, content, after, place, known, unknown, entered⟩ :=
      schema.entries_cases given
    · rw [entered]
      obtain ⟨admits, filled⟩ |
        ⟨before, slot, after, fault, place, earlier, refuses, not, failed⟩ :=
          Schema.fillAll_cases given schema.slots
      · rw [filled]
        exact .inl ⟨_, schema, rfl, ⟨schema, declared, names, admits⟩, declared, rfl,
          Tree.shows_node head (distinct.slots schema declared.member) admits⟩
      · rw [failed, declared.kind]
        refine .inr ⟨fault, rfl, ?_, .slot (declared.kind ▸ declared) names place earlier refuses⟩
        rintro ⟨other, isOther, -, admits⟩
        cases unique other (declared.kind ▸ isOther)
        exact not (admits slot (by simp [place]))
    · rw [entered, declared.kind]
      refine .inr ⟨_, rfl, ?_, .name (declared.kind ▸ declared) place known unknown⟩
      rintro ⟨other, isOther, names, -⟩
      cases unique other (declared.kind ▸ isOther)
      exact unknown (names (name, content) (by simp [place]))
  · rw [failed]
    refine .inr ⟨_, rfl, ?_, .kind undeclared⟩
    rintro ⟨schema, declared, -⟩
    exact undeclared schema declared

/-- A grammar builds a node exactly if it accepts what the node is given, none of which has a name
that is taken. The node shows what it was given; otherwise the first thing that is wrong is
reported. -/
theorem node_accepts (distinct : grammar.HasDistinctNames) (isKey : kind.isKey) (head : Head)
    (free : ∀ pair ∈ given, pair.1 ∉ takenNames) :
    ((∃ t, grammar.node kind head given = .ok t) ↔ grammar.Accepts kind given) ∧
      (∀ t, grammar.node kind head given = .ok t →
        ∃ schema, grammar.Declares kind schema ∧ t.head = head ∧ t.Shows schema given) ∧
      ∀ error, grammar.node kind head given = .error error →
        ∃ fault, grammar.Rejects kind given fault ∧
          error = .report (.shape kind (.str fault.reason)) := by
  obtain ⟨t, schema, built, accepts, declared, headed, shows⟩ | ⟨fault, failed, not, rejects⟩ :=
    node_cases distinct isKey head free
  · refine ⟨⟨fun _ => accepts, fun _ => ⟨t, built⟩⟩, fun u also => ?_, fun error also => ?_⟩
    · cases built.symm.trans also
      exact ⟨schema, declared, headed, shows⟩
    · cases built.symm.trans also
  · refine ⟨⟨fun ⟨t, also⟩ => ?_, fun accepts => absurd accepts not⟩, fun t also => ?_,
      fun error also => ?_⟩
    · cases failed.symm.trans also
    · cases failed.symm.trans also
    · cases failed.symm.trans also
      exact ⟨fault, rejects, rfl⟩

/-- A grammar with slots of all arities, one of which is an alias and one has a name that is
taken. -/
def sample : Grammar :=
  ⟨"sample", [⟨"CALL", [⟨"getSelect", .single, none⟩, ⟨"getArguments", .list, none⟩,
      ⟨"getOperands", .list, some "getArguments"⟩, ⟨"kind", .optional, none⟩], false⟩,
    ⟨"NAME", [], false⟩]⟩

/-- Contents for some slots of a call. -/
def sampleGiven : List (String × Content) :=
  let name (id : Nat) : Content := .tree (.node { id := id } (some ⟨"NAME", false⟩) [])
  [("getArguments", .list [name 1, name 2]), ("getOperands", .list [name 2]), ("getSelect", name 3)]

/-- A call is built, and refused without what is selected. -/
theorem node_accepts_sample :
    sample.HasDistinctNames ∧ (∀ pair ∈ sampleGiven, pair.1 ∉ takenNames) ∧
      (∃ t schema, sample.node (.str "CALL") {} sampleGiven = .ok t ∧ t.Shows schema sampleGiven ∧
        t.children.map Tree.id = [3, 1, 2]) ∧
      ∃ error fault, sample.node (.str "CALL") {} (sampleGiven.take 2) = .error error ∧
        sample.Rejects (.str "CALL") (sampleGiven.take 2) fault := by
  have distinct : sample.HasDistinctNames := ⟨by decide, by decide⟩
  have free : ∀ pair ∈ sampleGiven, pair.1 ∉ takenNames := by decide
  refine ⟨distinct, free, ?_, ?_⟩
  · have built : sample.node (.str "CALL") {} sampleGiven = .ok _ := rfl
    obtain ⟨schema, -, -, shows⟩ := (node_accepts distinct rfl {} free).2.1 _ built
    exact ⟨_, schema, built, shows, rfl⟩
  · have failed : sample.node (.str "CALL") {} (sampleGiven.take 2) = .error _ := rfl
    obtain ⟨fault, rejects, -⟩ := (node_accepts distinct rfl {}
      fun pair member => free pair (mem_of_mem_take member)).2.2 _ failed
    exact ⟨_, fault, failed, rejects⟩

/-- A slot with a name that is taken admits a tree, but cannot be given one. -/
theorem node_taken :
    let given := [("getSelect", .tree default), ("kind", .tree default)]
    sample.Accepts (.str "CALL") given ∧
      sample.node (.str "CALL") {} given = .error .wrongForm := by
  refine ⟨⟨_, ⟨mem_cons_self, rfl⟩, ?_, ?_⟩, rfl⟩
  · simp [Schema.HasSlot]
  · simp [Slot.Admits, IsMissing, lookup_cons]

end Grammar

end SyntaxGraph
