import SyntaxGraph.Proofs.Reloading

/-!
# Which data is a graph

Data of a graph is read row by row, then edge by edge, then the root. Each step may refuse what it
is given, and a row or an edge that is repeated is merged with the one that is there.

Main statement: data with the form of a graph is refused with a report exactly if one of seven
things is wrong with it. Otherwise the graph has the last row that is given for each id, in the
order in which the ids come first, each edge of the data once, the root that is named, and the next
id behind all others.
-/
namespace SyntaxGraph

open List

namespace Graph

/-! ### Forms and faults of data -/

def IsIntegerOrNull (value : Json) : Prop := value = .null ∨ ∃ n : Int, value = .int n

def endKeys : List String := ["source_id", "destination_id"]

/-- Data with the form of a graph: an object with lists of objects, in which ids are integers or
null. Types and contents may have any form. -/
structure HasForm (data : Json) : Prop where
  object : data.fields?.isSome
  lists : ∀ key ∈ ["nodes", "edges"], ∀ value ∈ data.field? key,
    ∃ items, value = .arr items ∧ ∀ item ∈ items, item.fields?.isSome
  ids : ∀ node ∈ listed data "nodes", ∀ id ∈ node.field? "id", IsIntegerOrNull id
  ends : ∀ edge ∈ listed data "edges", ∀ key ∈ endKeys, ∀ id ∈ edge.field? key, IsIntegerOrNull id
  root : ∀ id ∈ data.field? "root_id", IsIntegerOrNull id

/-- The ids of the nodes in the data of a graph, in order and with repetitions. -/
def idsIn (data : Json) : List Json :=
  (listed data "nodes").filterMap (·.field? "id")

/-- The id that is named as the root, unless it is null. -/
def rootIn (data : Json) : Option Json :=
  match data.field? "root_id" with
  | some .null => none
  | named => named

/-- What can be wrong with data that has the form of a graph. -/
inductive Malformed (data : Json) : Prop
  | lacksField {node : Json} {key : String} (given : node ∈ listed data "nodes")
    (needed : key ∈ ["id", "type", "contents"]) (missing : node.field? key = none)
  | nullId {node : Json} (given : node ∈ listed data "nodes") (null : node.field? "id" = some .null)
  | rowType {node type : Json} (given : node ∈ listed data "nodes")
    (typed : node.field? "type" = some type)
    (unknown : type ≠ .str "AST_ELEMENT" ∧ type ≠ .str "FAKE_AST")
  | lacksEnd {edge : Json} {key : String} (given : edge ∈ listed data "edges")
    (isEnd : key ∈ endKeys) (missing : edge.field? key = none)
  | unknownEnd {edge id : Json} {key : String} (given : edge ∈ listed data "edges")
    (isEnd : key ∈ endKeys) (named : edge.field? key = some id) (unknown : id ∉ idsIn data)
  | edgeType {edge type : Json} (given : edge ∈ listed data "edges")
    (typed : edge.field? "type" = some type) (unknown : type ≠ .str "AST_CHILD")
  | unknownRoot {id : Json} (named : data.field? "root_id" = some id) (isSome : id ≠ .null)
    (unknown : id ∉ idsIn data)

/-- A row with what a node says, and with defaults for positions and lines. -/
structure IsGivenBy (node : Json) (row : Row) : Prop where
  id : node.field? "id" = some row.id
  key : row.key = row.id
  type : node.field? "type" = some (.str row.type.text)
  contents : node.field? "contents" = some row.contents
  start : row.start = (node.field? "start_position").getD (.int (-1))
  stop : row.stop = (node.field? "end_position").getD (.int (-1))
  startLine : row.startLine = (node.field? "start_line").getD (.int (-1))
  stopLine : row.stopLine = (node.field? "end_line").getD (.int (-1))

/-- The last of some rows for each of their ids, in the order in which the ids come first. -/
def lastRows (rows : List Row) : List Row :=
  (rows.map (·.id)).eraseDups.filterMap fun id => rows.reverse.find? (·.id = id)

/-- The graph that data says. -/
structure Reads (data : Json) (g : Graph) : Prop where
  rows : ∃ given, List.Forall₂ IsGivenBy (listed data "nodes") given ∧ g.rows = lastRows given
  edges : g.edges = (idsIn data).eraseDups.flatMap fun id =>
    (((edgesIn data).filter (·.1 = id)).map Prod.snd).eraseDups.map fun child => (id, child)
  sameEdges : ∀ edge, edge ∈ g.edges ↔ edge ∈ edgesIn data
  root : g.root = rootIn data
  next : ∃ next : Int, g.nextId = .int next ∧ 0 ≤ next ∧
    (∀ id : Int, .int id ∈ idsIn data → id < next) ∧ (next = 0 ∨ .int (next - 1) ∈ idsIn data)

/-! ### Steps that may be refused -/

/-- A fault that is reported as one of stored data. -/
def IsReported (fault : DataFault) : Prop :=
  ∃ report, fault.fault = .report report ∧ report.family = .storage

/-- How a step of reading ends: well, or with a report if something is wrong. -/
def Judges {α : Type} (wrong : Prop) (good : α → Prop) : Except DataFault α → Prop
  | .ok a => good a
  | .error fault => IsReported fault ∧ wrong

namespace Judges

variable {α β : Type} {wrong : Prop} {good : α → Prop}

theorem bind {fine : β → Prop} {first : Except DataFault α} {second : α → Except DataFault β}
    (here : Judges wrong good first) (behind : ∀ a, good a → Judges wrong fine (second a)) :
    Judges wrong fine (first >>= second) := by
  cases first with
  | error fault => exact here
  | ok a => exact behind a here

/-- A fold ends well if each of its steps does; what holds may speak of the items that are done. -/
theorem foldlM {change : α → β → Except DataFault α} (holds : List β → α → Prop) {items : List β}
    (before : List β) {first : α} (start : holds before first)
    (steps : ∀ done b a, b ∈ items → holds done a →
      Judges wrong (holds (done ++ [b])) (change a b)) :
    Judges wrong (holds (before ++ items)) (items.foldlM change first) := by
  induction items generalizing before first with
  | nil =>
    rw [append_nil]
    exact start
  | cons b rest ih =>
    refine (steps before b first mem_cons_self start).bind fun a one => ?_
    simpa using ih (before ++ [b]) one
      fun done c a member => steps done c a (mem_cons_of_mem _ member)

theorem imp {fine : α → Prop} {run : Except DataFault α} (judges : Judges wrong good run)
    (implies : ∀ a, run = .ok a → good a → fine a) : Judges wrong fine run := by
  cases run with
  | error fault => exact judges
  | ok a => exact implies a rfl judges

theorem required {fields : List (String × Json)} {key : String}
    (missing : fields.lookup key = none → wrong) :
    Judges wrong (fun value => fields.lookup key = some value) (requiredField fields key) := by
  unfold requiredField
  cases found : fields.lookup key with
  | none => exact ⟨⟨_, rfl, rfl⟩, missing found⟩
  | some value => rfl

end Judges

theorem field?_of_fields {data : Json} {fields : List (String × Json)}
    (object : data.fields? = some fields) (key : String) :
    data.field? key = fields.lookup key := by
  simp [Json.field?, object]

variable {data : Json} {g rowed : Graph} {ids : List Int} {asked : List (Json × Json)}
  {given : List Row}

/-! ### Rows -/

theorem rowType_cases (type : Json) :
    (∃ found, RowType.ofJson type = .ok found ∧ type = .str found.text) ∨
      RowType.ofJson type = .error (.badRowType type) ∧
        type ≠ .str "AST_ELEMENT" ∧ type ≠ .str "FAKE_AST" := by
  by_cases element : type = .str "AST_ELEMENT"
  · exact .inl ⟨.element, by rw [element]; rfl, element⟩
  · by_cases holder : type = .str "FAKE_AST"
    · exact .inl ⟨.holder, by rw [holder]; rfl, holder⟩
    · refine .inr ⟨?_, element, holder⟩
      cases type with
      | str name =>
        have unknown : RowType.ofText? name = none := by
          rw [RowType.ofText?, if_neg fun same => element (congrArg _ same),
            if_neg fun same => holder (congrArg _ same)]
        simp [RowType.ofJson, unknown]
      | _ => rfl

/-- A node gives a row unless it lacks a field or has a type that is not in use. -/
theorem judges_rowOfJson {node : Json} (given : node ∈ listed data "nodes")
    (object : node.fields?.isSome) :
    Judges (Malformed data) (IsGivenBy node) (Row.ofJson node) := by
  obtain ⟨fields, object⟩ := Option.isSome_iff_exists.1 object
  have looked := field?_of_fields object
  have lacks {key : String} (needed : key ∈ ["id", "type", "contents"])
      (missing : fields.lookup key = none) : Malformed data :=
    .lacksField given needed ((looked key).trans missing)
  have opened : objectFields node = .ok fields := by simp [objectFields, object]
  rw [Row.ofJson, opened]
  refine (Judges.required (lacks (by simp))).bind fun id hasId => ?_
  refine (Judges.required (lacks (by simp))).bind fun type hasType => ?_
  rcases rowType_cases type with ⟨found, read, rfl⟩ | ⟨refused, unknown⟩
  · rw [read]
    refine (Judges.required (lacks (by simp))).bind fun contents hasContents => ?_
    constructor <;> simp [*, positionField, noPosition]
  · rw [refused]
    exact ⟨⟨_, rfl, rfl⟩, .rowType given ((looked _).trans hasType) unknown⟩

theorem find?_putRow {rows : List Row} (row : Row)
    (own : ∀ r ∈ rows, r.id.same row.id → r.key = row.key) (id : Json) :
    (putRow row rows).find? (·.id.same id) =
      if row.id.same id then some row else rows.find? (·.id.same id) := by
  induction rows with
  | nil =>
    rw [putRow, find?_singleton, find?_nil]
  | cons first rest ih =>
    obtain ⟨here, later⟩ := forall_mem_cons.1 own
    rw [putRow]
    split
    next same =>
      -- The row takes the place of one that is found under the same ids.
      have alike : first.id.same id = row.id.same id := by
        simp only [Json.same, decide_eq_true_eq] at same ⊢
        rw [same]
      rw [here same, find?_cons, find?_cons, alike]
      cases row.id.same id <;> rfl
    next other =>
      rw [find?_cons, find?_cons, ih later]
      cases found : first.id.same id with
      | false => rfl
      | true =>
        have apart : ¬row.id.same id = true := fun also =>
          other (Json.same_trans found (by rwa [Json.same_comm]))
        simp [apart]

/-- What holds of the graph behind some nodes. -/
structure HoldsRows (nodes : List Json) (given : List Row) (ids : List Int) (g : Graph) : Prop where
  rows : List.Forall₂ IsGivenBy nodes given
  integers : ∀ row ∈ given, ∃ n : Int, row.id = .int n
  distinct : ids.map Json.int = (given.map (·.id)).eraseDups
  records : g.Records ids []
  plain : g.Plain
  root : g.root = none
  last : ∀ n : Int, g.row? (.int n) = given.reverse.find? (·.id = .int n)

theorem holdsRows_empty (file : Json) : HoldsRows [] [] [] { sourceFile := file } where
  rows := .nil
  integers := by simp
  distinct := rfl
  records := records_empty file none
  plain := plain_empty file none
  root := rfl
  last _ := rfl

namespace HoldsRows

variable {nodes : List Json} {given : List Row}

theorem mem_ids_iff (holds : HoldsRows nodes given ids g) (n : Int) :
    n ∈ ids ↔ Json.int n ∈ given.map (·.id) := by
  rw [← mem_eraseDups (l := given.map _), ← holds.distinct,
    mem_map_of_injective fun _ _ => Json.int.inj]

theorem put (holds : HoldsRows nodes given ids g) {node : Json} {row : Row} {n : Int}
    (isGiven : IsGivenBy node row) (isInt : row.id = .int n) :
    HoldsRows (nodes ++ [node]) (given ++ [row]) (if n ∈ ids then ids else ids ++ [n])
      { g with rows := putRow row g.rows, nextId := .int (max (nextAfter ids) (n + 1)) } where
  rows := rel_append holds.rows (.cons isGiven .nil)
  integers := by
    simpa [isInt, or_imp, forall_and] using holds.integers
  distinct := by
    rw [map_append, map_singleton, isInt, Records.eraseDups_concat, ← holds.distinct]
    simp only [← holds.mem_ids_iff]
    split <;> simp
  records := holds.records.put row isInt isGiven.key g.trees
  plain := ⟨holds.plain.links, holds.plain.root⟩
  root := holds.root
  last k := by
    -- Only the row under the same integer is replaced, and it has the same key.
    have own : ∀ r ∈ g.rows, r.id.same row.id → r.key = row.key := by
      intro r member same
      obtain ⟨m, -, known⟩ := holds.records.id_mem member
      simp only [known, isInt, Json.same_int, decide_eq_true_eq] at same
      rw [holds.records.keys r member, isGiven.key, known, isInt, same]
    have found := find?_putRow row own (.int k)
    rw [row?, found, reverse_append, reverse_singleton, singleton_append,
      find?_cons, ← holds.last k, row?]
    by_cases same : n = k <;> simp [isInt, same]

end HoldsRows

theorem judges_readRow {nodes : List Json} {node : Json} (listed : node ∈ listed data "nodes")
    (object : node.fields?.isSome) (formed : ∀ id ∈ node.field? "id", IsIntegerOrNull id)
    (holds : ∃ given ids, HoldsRows nodes given ids g) :
    Judges (Malformed data)
      (fun changed => ∃ given ids, HoldsRows (nodes ++ [node]) given ids changed)
      (g.readRow node) := by
  obtain ⟨given, ids, holds⟩ := holds
  refine (judges_rowOfJson listed object).bind fun row isGiven => ?_
  rcases formed _ isGiven.id with isNull | ⟨n, isInt⟩
  · rw [insertRow, isNull]
    exact ⟨⟨_, rfl, rfl⟩, .nullId listed (isGiven.id.trans (congrArg _ isNull))⟩
  · have next : greaterId g.nextId (.int (n + 1)) = .int (max (nextAfter ids) (n + 1)) := by
      rw [holds.records.next, greaterId_int]
    simp only [insertRow, isInt, Json.addOne?, next]
    exact ⟨_, _, holds.put isGiven isInt⟩

/-! ### Edges and the root -/

/-- A value refers to the row with this id, if one was given. -/
theorem judges_reference {wrong : Prop} (records : g.Records ids asked)
    (known : ∀ n : Int, n ∈ ids ↔ .int n ∈ idsIn data) {id : Json} (formed : IsIntegerOrNull id)
    (unknown : id ∉ idsIn data → wrong) (noNull : .null ∉ idsIn data) :
    Judges wrong (fun found => found = id ∧ id ∈ idsIn data) (g.reference id) := by
  rcases formed with rfl | ⟨n, rfl⟩
  -- Null is the id of no row, as all ids are integers.
  · have absent : g.row? .null = none := by
      refine find?_eq_none.2 fun row member same => ?_
      obtain ⟨m, -, isInt⟩ := records.id_mem member
      simp [isInt, Json.same, Json.normal] at same
    simp only [reference, absent]
    exact ⟨⟨_, rfl, rfl⟩, unknown noNull⟩
  · by_cases member : n ∈ ids
    · have there : g.hasRow (.int n) := by
        refine hasRow_iff.2 ⟨.int n, ?_, Json.same_self _⟩
        rw [records.rows]
        exact mem_map_of_mem member
      rw [records.reference_int there]
      exact ⟨rfl, (known n).1 member⟩
    · have absent : g.row? (.int n) = none := by
        refine find?_eq_none.2 fun row here same => ?_
        obtain ⟨m, listed, isInt⟩ := records.id_mem here
        simp only [isInt, Json.same_int, decide_eq_true_eq] at same
        exact member (same ▸ listed)
      simp only [reference, absent]
      exact ⟨⟨_, rfl, rfl⟩, unknown fun given => member ((known n).2 given)⟩

/-- An edge between nodes of the data, of the type that is in use. -/
structure IsSound (data edge : Json) : Prop where
  ends : ∀ key ∈ endKeys, ∃ id ∈ idsIn data, edge.field? key = some id
  type : ∀ type ∈ edge.field? "type", type = .str "AST_CHILD"

theorem judges_readEdge {edge : Json} (given : edge ∈ listed data "edges")
    (object : edge.fields?.isSome)
    (formed : ∀ key ∈ endKeys, ∀ id ∈ edge.field? key, IsIntegerOrNull id)
    (records : g.Records ids asked) (known : ∀ n : Int, n ∈ ids ↔ .int n ∈ idsIn data)
    (noNull : .null ∉ idsIn data) :
    Judges (Malformed data) (fun _ => IsSound data edge) (g.readEdge edge) := by
  obtain ⟨fields, object⟩ := Option.isSome_iff_exists.1 object
  have looked := field?_of_fields object
  have opened : objectFields edge = .ok fields := by simp [objectFields, object]
  have ends {key : String} (isEnd : key ∈ endKeys) : Judges (Malformed data)
      (fun _ => ∃ id ∈ idsIn data, edge.field? key = some id)
      (requiredField fields key >>= g.reference) := by
    refine (Judges.required fun missing => .lacksEnd given isEnd ((looked key).trans missing)).bind
      fun id named => ?_
    have named := (looked key).trans named
    refine (judges_reference records known (formed key isEnd id named)
      (.unknownEnd given isEnd named) noNull).imp fun _ _ found => ⟨id, found.2, named⟩
  rw [readEdge, opened, ok_bind, ← bind_assoc]
  refine (ends (by simp [endKeys])).bind fun source first => ?_
  rw [← bind_assoc]
  refine (ends (by simp [endKeys])).bind fun destination second => ?_
  have ends : ∀ key ∈ endKeys, ∃ id ∈ idsIn data, edge.field? key = some id := by
    simpa [endKeys] using And.intro first second
  rw [← looked]
  cases isType : edge.field? "type" with
  | none =>
    rw [Option.getD_none, if_pos rfl]
    exact ⟨ends, by simp [isType]⟩
  | some type =>
    rw [Option.getD_some]
    by_cases same : type = .str edgeType
    · rw [if_pos same]
      exact ⟨ends, by simpa [isType, edgeType] using same⟩
    · rw [if_neg same]
      exact ⟨⟨_, rfl, rfl⟩, .edgeType given isType same⟩

/-- What holds of the graph behind all nodes and some edges. -/
structure HoldsEdges (data : Json) (ids : List Int) (rowed : Graph) (edges : List Json)
    (g : Graph) : Prop where
  records : g.Records ids (edges.map fun edge =>
    ((edge.field? "source_id").getD .null, (edge.field? "destination_id").getD .null))
  plain : g.Plain
  rows : g.rows = rowed.rows
  root : g.root = none
  sound : ∀ edge ∈ edges, IsSound data edge

theorem HoldsEdges.readEdge {changed : Graph} {edges : List Json} {edge : Json}
    (holds : HoldsEdges data ids rowed edges g) (read : g.readEdge edge = .ok changed)
    (sound : IsSound data edge) : HoldsEdges data ids rowed (edges ++ [edge]) changed := by
  obtain ⟨records, plain⟩ := holds.records.readEdge holds.plain read
  have same : changed.rows = g.rows ∧ changed.root = g.root := by
    obtain ⟨source, destination, -, -, rfl⟩ := exists_of_readEdge read
    rw [link]
    split <;> exact ⟨rfl, rfl⟩
  refine ⟨?_, plain, same.1.trans holds.rows, same.2.trans holds.root, ?_⟩
  · rw [map_append]
    exact records
  · exact forall_mem_append.2 ⟨holds.sound, by simpa using sound⟩

theorem judges_readRoot (named : ∀ id ∈ data.field? "root_id", IsIntegerOrNull id)
    (records : g.Records ids asked) (known : ∀ n : Int, n ∈ ids ↔ .int n ∈ idsIn data)
    (noNull : .null ∉ idsIn data) (free : g.root = none) :
    Judges (Malformed data)
      (fun changed => changed = { g with root := rootIn data } ∧
        ∀ id ∈ rootIn data, id ∈ idsIn data)
      (g.readRoot ((data.field? "root_id").getD .null)) := by
  cases given : data.field? "root_id" with
  | none =>
    have none : rootIn data = none := by simp [rootIn, given]
    exact ⟨by rw [none, ← free], by simp [none]⟩
  | some id =>
    rcases named id given with rfl | ⟨n, rfl⟩
    · have none : rootIn data = none := by simp [rootIn, given]
      exact ⟨by rw [none, ← free], by simp [none]⟩
    · have some : rootIn data = some (.int n) := by simp [rootIn, given]
      refine (judges_reference records known (.inr ⟨n, rfl⟩) (.unknownRoot given (by simp))
        noNull).bind ?_
      rintro found ⟨same, member⟩
      exact ⟨by rw [some, same], by simpa [some] using member⟩

/-! ### Whole graphs -/

/-- The next id is the least one that is behind all others. -/
theorem nextAfter_least (ids : List Int) :
    0 ≤ nextAfter ids ∧ (nextAfter ids = 0 ∨ nextAfter ids - 1 ∈ ids) := by
  induction ids using List.reverseRecOn with
  | nil => simp [nextAfter]
  | append_singleton ids last ih =>
    rw [nextAfter_append, mem_append, mem_singleton]
    rcases Int.le_total (last + 1) (nextAfter ids) with small | large
    · rw [Int.max_eq_left small]
      exact ⟨ih.1, ih.2.imp_right .inl⟩
    · exact ⟨by omega, .inr (.inr (by omega))⟩

theorem ids_of_given {nodes : List Json} (rows : List.Forall₂ IsGivenBy nodes given) :
    nodes.filterMap (·.field? "id") = given.map (·.id) := by
  induction rows with
  | nil => rfl
  | cons isGiven _ ih => simp [isGiven.id, ih]

theorem exists_given {nodes : List Json} (rows : List.Forall₂ IsGivenBy nodes given) {node : Json}
    (member : node ∈ nodes) : ∃ row, IsGivenBy node row := by
  induction rows with
  | nil => cases member
  | cons isGiven _ ih =>
    rcases mem_cons.1 member with rfl | later
    · exact ⟨_, isGiven⟩
    · exact ih later

theorem HoldsRows.rows_eq {nodes : List Json} (holds : HoldsRows nodes given ids g) :
    g.rows = lastRows given := by
  calc g.rows = g.rows.filterMap fun row => g.row? row.id := by
        have found : ∀ row ∈ g.rows, g.row? row.id = some row :=
          fun row member => find?_of_distinct holds.records.rows_apart member
        rw [filterMap_congr found, filterMap_some]
    _ = (ids.map Json.int).filterMap g.row? := by
        rw [← holds.records.rows, filterMap_map]
        rfl
    _ = lastRows given := by
        rw [lastRows, ← holds.distinct, filterMap_map, filterMap_map]
        exact filterMap_congr fun n _ => holds.last n

/-- Among integers, the children of a row are the ends of the edges that were asked for. -/
theorem childIds_of_asked (records : g.Records ids asked) (plain : g.Plain)
    (integers : ∀ edge ∈ asked, ∃ m n : Int, edge = (.int m, .int n)) (id : Int) :
    g.childIds (.int id) = ((asked.filter (·.1 = .int id)).map Prod.snd).eraseDups := by
  have normal : (g.childIds (.int id)).map Json.normal = g.childIds (.int id) := by
    refine (map_congr_left fun child member => ?_).trans (map_id _)
    obtain ⟨link, linked, rfl⟩ := mem_map.1 member
    obtain ⟨linked, -⟩ := mem_filter.1 linked
    obtain ⟨n, isInt⟩ := (plain.links link linked).2.eq_int records (records.ends link linked).2
    rw [isInt]
    rfl
  have starts : asked.filter (·.1.same (.int id)) = asked.filter (·.1 = .int id) := by
    refine filter_congr fun edge member => ?_
    obtain ⟨m, n, rfl⟩ := integers edge member
    simp
  have stops : (asked.filter (·.1 = .int id)).map (·.2.normal) =
      (asked.filter (·.1 = .int id)).map Prod.snd := by
    refine map_congr_left fun edge member => ?_
    obtain ⟨m, n, rfl⟩ := integers edge (mem_filter.1 member).1
    rfl
  rw [← normal, records.order, starts, stops]

theorem not_malformed (rows : List.Forall₂ IsGivenBy (listed data "nodes") given)
    (noNull : .null ∉ idsIn data) (edges : ∀ edge ∈ listed data "edges", IsSound data edge)
    (root : ∀ id ∈ rootIn data, id ∈ idsIn data) : ¬Malformed data := by
  have nodes := fun node => @exists_given _ _ rows node
  intro malformed
  cases malformed with
  | @lacksField node key member needed missing =>
    obtain ⟨row, isGiven⟩ := nodes node member
    simp only [mem_cons, not_mem_nil, or_false] at needed
    obtain rfl | rfl | rfl := needed
    · simp [isGiven.id] at missing
    · simp [isGiven.type] at missing
    · simp [isGiven.contents] at missing
  | nullId member null => exact noNull (mem_filterMap.2 ⟨_, member, null⟩)
  | @rowType node type member typed unknown =>
    obtain ⟨row, isGiven⟩ := nodes node member
    have same : type = .str row.type.text := by simpa [typed] using isGiven.type
    cases isType : row.type with
    | element => exact unknown.1 (by rw [same, isType]; rfl)
    | holder => exact unknown.2 (by rw [same, isType]; rfl)
  | lacksEnd member isEnd missing =>
    obtain ⟨id, -, named⟩ := (edges _ member).ends _ isEnd
    simp [named] at missing
  | unknownEnd member isEnd named unknown =>
    obtain ⟨id, known, same⟩ := (edges _ member).ends _ isEnd
    cases named.symm.trans same
    exact unknown known
  | edgeType member typed unknown => exact unknown ((edges _ member).type _ typed)
  | @unknownRoot id named isSome unknown =>
    refine unknown (root id ?_)
    cases id with
    | null => exact absurd rfl isSome
    | _ => simp [rootIn, named]

/-- The graph behind all nodes and edges is the one that the data says, up to its root. -/
theorem reads_of_holds (rows : HoldsRows (listed data "nodes") given ids rowed)
    (edges : HoldsEdges data ids rowed (listed data "edges") g) :
    Reads data { g with root := rootIn data } := by
  have known : idsIn data = given.map (·.id) := ids_of_given rows.rows
  have distinct : (idsIn data).eraseDups = g.rows.map (·.id) := by
    rw [known, ← rows.distinct, edges.records.rows]
  have integers : ∀ id ∈ idsIn data, ∃ n : Int, id = .int n := by
    rw [known]
    exact forall_mem_map.2 rows.integers
  have ends : ∀ edge ∈ edgesIn data, edge.1 ∈ idsIn data ∧ edge.2 ∈ idsIn data := by
    refine forall_mem_map.2 fun edge member => ?_
    have sound := (edges.sound edge member).ends
    simp only [endKeys, forall_mem_cons, not_mem_nil, false_imp_iff, forall_true_iff,
      and_true] at sound
    obtain ⟨⟨source, first, isSource⟩, ⟨destination, second, isDestination⟩⟩ := sound
    simpa [isSource, isDestination] using And.intro first second
  -- Edges are grouped by source, in the order of the rows; one asked twice is there once.
  have listedEdges : g.edges = (idsIn data).eraseDups.flatMap fun id =>
      (((edgesIn data).filter (·.1 = id)).map Prod.snd).eraseDups.map fun child => (id, child) := by
    rw [distinct, flatMap_map]
    refine flatMap_congr fun row member => ?_
    obtain ⟨n, -, isInt⟩ := edges.records.id_mem member
    rw [edges.records.keys row member, isInt, childIds_of_asked edges.records edges.plain]
    · rfl
    · intro edge asked
      obtain ⟨m, isM⟩ := integers _ (ends edge asked).1
      obtain ⟨n, isN⟩ := integers _ (ends edge asked).2
      exact ⟨m, n, Prod.ext isM isN⟩
  refine ⟨⟨given, rows.rows, edges.rows.trans rows.rows_eq⟩, listedEdges, fun edge => ?_, rfl, ?_⟩
  · change edge ∈ g.edges ↔ _
    rw [listedEdges]
    simp only [mem_flatMap, mem_map, mem_eraseDups, mem_filter, decide_eq_true_eq]
    constructor
    · rintro ⟨id, -, _, ⟨asked, ⟨member, rfl⟩, rfl⟩, rfl⟩
      exact member
    · intro member
      exact ⟨edge.1, (ends edge member).1, edge.2, ⟨edge, ⟨member, rfl⟩, rfl⟩, rfl⟩
  -- The next id is the least one behind all that are given.
  · obtain ⟨nonneg, least⟩ := nextAfter_least ids
    have same := rows.mem_ids_iff
    rw [← known] at same
    refine ⟨nextAfter ids, edges.records.next, nonneg, fun id member => ?_, ?_⟩
    · exact lt_nextAfter ((same id).2 member)
    · exact least.imp_right (same _).1

/-- Data with the form of a graph is read as the graph that it says, or refused with a report as
something is wrong with it. -/
theorem judges_ofJson (formed : HasForm data) :
    Judges (Malformed data) (fun g => Reads data g ∧ ¬Malformed data) (ofJson data) := by
  obtain ⟨fields, object⟩ := Option.isSome_iff_exists.1 formed.object
  have members (key : String) (here : key ∈ ["nodes", "edges"]) :
      membersOf ((fields.lookup key).getD (.arr [])) = .ok (listed data key) ∧
        ∀ item ∈ listed data key, item.fields?.isSome := by
    rw [← field?_of_fields object]
    cases found : data.field? key with
    | none => simp [listed, found, membersOf, Json.members?]
    | some value =>
      obtain ⟨items, rfl, objects⟩ := formed.lists key here value found
      simpa [listed, found, membersOf, Json.members?] using objects
  obtain ⟨nodes, areNodes⟩ := members "nodes" (by simp)
  obtain ⟨edges, areEdges⟩ := members "edges" (by simp)
  rw [ofJson, object]
  dsimp only
  rw [nodes, edges]
  refine (Judges.foldlM (fun done g => ∃ given ids, HoldsRows done given ids g) []
    ⟨[], [], holdsRows_empty _⟩ fun done node g member holds =>
      judges_readRow member (areNodes node member) (formed.ids node member) holds).bind ?_
  rintro rowed ⟨given, ids, rows⟩
  -- From here on all nodes are read, so the ids are those of the data.
  have known : idsIn data = given.map (·.id) := ids_of_given rows.rows
  have noNull : .null ∉ idsIn data := by
    rw [known, mem_map]
    rintro ⟨row, member, isNull⟩
    obtain ⟨n, isInt⟩ := rows.integers row member
    simp [isInt] at isNull
  have same : ∀ n, n ∈ ids ↔ .int n ∈ idsIn data := known ▸ rows.mem_ids_iff
  refine (Judges.foldlM (HoldsEdges data ids rowed) []
    ⟨rows.records, rows.plain, rfl, rows.root, by simp⟩ fun done edge g member holds =>
      (judges_readEdge member (areEdges edge member) (formed.ends edge member) holds.records same
        noNull).imp fun changed read sound => holds.readEdge read sound).bind ?_
  intro linked holds
  rw [← field?_of_fields object]
  refine (judges_readRoot formed.root holds.records same noNull holds.root).imp ?_
  rintro g - ⟨rfl, rooted⟩
  exact ⟨reads_of_holds rows holds, not_malformed rows.rows noNull holds.sound rooted⟩

/-- Data with the form of a graph is refused with a report exactly if something is wrong with it;
otherwise it is read as the graph that it says. -/
theorem ofJson_validates (formed : HasForm data) :
    ((∃ fault, ofJson data = .error fault ∧ IsReported fault) ↔ Malformed data) ∧
      (¬Malformed data → ∃ g, ofJson data = .ok g ∧ Reads data g) := by
  have judges := judges_ofJson formed
  cases read : ofJson data with
  | error fault =>
    rw [read] at judges
    exact ⟨⟨fun _ => judges.2, fun _ => ⟨fault, rfl, judges.1⟩⟩, fun sound => absurd judges.2 sound⟩
  | ok g =>
    rw [read] at judges
    exact ⟨⟨nofun, fun malformed => absurd malformed judges.2⟩, fun _ => ⟨g, rfl, judges.1⟩⟩

/-- A graph with an id and an edge that are given twice, and with an edge to a row that may not be
there. -/
def leadingTo (id : Int) : Json :=
  .obj [
    ("nodes", .arr [
      .obj [("id", .int 7), ("type", .str "AST_ELEMENT"), ("contents", .str "BLOCK")],
      .obj [("id", .int (-3)), ("type", .str "AST_ELEMENT"), ("contents", .str "EMPTY")],
      .obj [("id", .int 7), ("type", .str "FAKE_AST"), ("contents", .str "MEMBERS")]]),
    ("edges", .arr [
      .obj [("source_id", .int 7), ("destination_id", .int (-3))],
      .obj [("source_id", .int (-3)), ("destination_id", .int id)],
      .obj [("source_id", .int 7), ("destination_id", .int (-3)), ("type", .str "AST_CHILD")]]),
    ("root_id", .int (-3))]

theorem leadingTo_validated :
    (∀ id, HasForm (leadingTo id)) ∧ Malformed (leadingTo 1) ∧
      (∃ fault, ofJson (leadingTo 1) = .error fault ∧ IsReported fault) ∧
      ∃ g, ofJson (leadingTo 7) = .ok g ∧ Reads (leadingTo 7) g := by
  have formed (id : Int) : HasForm (leadingTo id) := by
    constructor <;> simp [leadingTo, listed, Json.field?, Json.fields?, Json.members?, endKeys,
      IsIntegerOrNull, lookup_cons]
  have malformed : Malformed (leadingTo 1) := by
    refine @Malformed.unknownEnd _ (.obj [("source_id", .int (-3)), ("destination_id", .int 1)])
      (.int 1) "destination_id" ?_ ?_ ?_ ?_ <;>
    simp [leadingTo, listed, idsIn, endKeys, Json.field?, Json.fields?, Json.members?, lookup_cons]
  have readable : (ofJson (leadingTo 7)).map (fun _ => ()) = .ok () := by decide +kernel
  obtain ⟨g, read, -⟩ := exists_of_map_eq_ok readable
  obtain ⟨refused, accepted⟩ := ofJson_validates (formed 7)
  have sound : ¬Malformed (leadingTo 7) := fun wrong => by
    obtain ⟨fault, failed, -⟩ := refused.2 wrong
    cases failed.symm.trans read
  exact ⟨formed, malformed, (ofJson_validates (formed 1)).1.2 malformed, accepted sound⟩

end Graph

end SyntaxGraph
