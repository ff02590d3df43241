import SyntaxGraph.Proofs.Arborescence
import SyntaxGraph.Proofs.Operations

/-!
# Graphs that are written and read again

Data of a graph groups the edges by their sources, and does not hold the next id. What is read back
has its edges in another order than the graph that was written, so the two are not equal.

Main statement: no operation can tell the two apart. They have the same rows, and the same children
of each row, and any further run gives the same answers and the same data.
-/
namespace SyntaxGraph

open List

/-- Whether the ids that an operation names stand for themselves. -/
def Operation.HasPlainIds : Operation → Prop
  | .element _ _ | .holder _ _ _ => True
  | .edge source destination => Graph.IsPlainId source ∧ Graph.IsPlainId destination
  | .root id => Graph.IsPlainId id

namespace Graph

variable {g h : Graph} {ids : List Int} {asked : List (Json × Json)}

/-! ### Ids stand for themselves all along -/

theorem Plain.step (plain : g.Plain) {op : Operation} (own : op.HasPlainIds) :
    (g.step op).1.Plain := by
  cases result : g.perform op with
  | error fault => simpa only [step_of_error result] using plain
  | ok changed =>
    rw [step_of_ok result]
    obtain ⟨-, type, contents, start, stop, startLine, stopLine, trees, -, rfl⟩ |
      ⟨source, destination, rfl, -, -, rfl⟩ | ⟨id, rfl, -, -, rfl⟩ := perform_cases result
    · exact ⟨plain.links, plain.root⟩
    · exact plain.link own.1 own.2
    · exact plain.setRoot own

theorem Plain.run (plain : g.Plain) {ops : List Operation} (own : ∀ op ∈ ops, op.HasPlainIds) :
    (g.run ops).1.Plain := by
  induction ops generalizing g with
  | nil => exact plain
  | cons op rest ih =>
    obtain ⟨first, later⟩ := forall_mem_cons.1 own
    exact ih (plain.step first) later

theorem newlines_link (g : Graph) (source destination : Json) :
    (g.link source destination).newlines = g.newlines := by
  rw [link]
  split <;> rfl

theorem source_step (g : Graph) (op : Operation) :
    (g.step op).1.sourceFile = g.sourceFile ∧ (g.step op).1.newlines = g.newlines := by
  cases result : g.perform op with
  | error fault => simp [step_of_error result]
  | ok changed =>
    rw [step_of_ok result]
    obtain ⟨-, type, contents, start, stop, startLine, stopLine, trees, -, rfl⟩ |
      ⟨source, destination, -, -, -, rfl⟩ | ⟨id, -, -, -, rfl⟩ := perform_cases result
    · exact ⟨rfl, rfl⟩
    · rw [link]
      split <;> exact ⟨rfl, rfl⟩
    · exact ⟨rfl, rfl⟩

theorem newlines_run (g : Graph) (ops : List Operation) : (g.run ops).1.newlines = g.newlines := by
  induction ops generalizing g with
  | nil => rfl
  | cons op rest ih => exact (ih _).trans (source_step g op).2

/-! ### Reading back what was written -/

theorem ofJson_toJson_row {row : Row} (own : row.key = row.id) :
    Row.ofJson row.toJson = .ok row := by
  obtain ⟨id, key, type, contents, start, stop, startLine, stopLine⟩ := row
  cases own
  simp [Row.ofJson, Row.toJson, objectFields, Json.fields?, requiredField, positionField,
    RowType.ofJson, lookup_cons]

theorem readRow_toJson {row : Row} {n : Int} (own : row.key = row.id) (isInt : row.id = .int n)
    (rows : g.rows.map (·.id) = ids.map .int) (next : g.nextId = .int (nextAfter ids))
    (new : n ∉ ids) :
    g.readRow row.toJson = .ok { g with
      rows := g.rows ++ [row]
      nextId := .int (nextAfter (ids ++ [n])) } := by
  have fresh : ∀ r ∈ g.rows, r.id.same row.id = false := by
    intro r member
    have listed : r.id ∈ ids.map Json.int := rows ▸ mem_map_of_mem member
    obtain ⟨k, here, same⟩ := mem_map.1 listed
    have other : k ≠ n := fun equal => new (equal ▸ here)
    simpa [← same, isInt] using other
  rw [readRow, ofJson_toJson_row own, ok_bind, insertRow]
  simp only [isInt, Json.addOne?, next, greaterId_int, putRow_of_new fresh, nextAfter_append]

theorem foldlM_readRow {rows : List Row} {more : List Int} (own : ∀ row ∈ rows, row.key = row.id)
    (integers : rows.map (·.id) = more.map .int) (known : g.rows.map (·.id) = ids.map .int)
    (next : g.nextId = .int (nextAfter ids)) (distinct : (ids ++ more).Nodup) :
    (rows.map Row.toJson).foldlM readRow g = .ok { g with
      rows := g.rows ++ rows
      nextId := .int (nextAfter (ids ++ more)) } := by
  induction rows generalizing g ids more with
  | nil =>
    cases more with
    | nil => simp [← next]; rfl
    | cons => simp at integers
  | cons row rest ih =>
    cases more with
    | nil => simp at integers
    | cons n others =>
      obtain ⟨isInt, integers⟩ := List.cons.inj integers
      obtain ⟨first, later⟩ := forall_mem_cons.1 own
      have new : n ∉ ids := fun member =>
        (nodup_append.1 distinct).2.2 n member n mem_cons_self rfl
      have known : (g.rows ++ [row]).map (·.id) = (ids ++ [n]).map .int := by simp [known, isInt]
      rw [map_cons, foldlM_cons, readRow_toJson first isInt ‹_› next new, ok_bind,
        ih later integers known rfl (by simpa using distinct)]
      simp

variable (records : g.Records ids asked)

include records

theorem Records.reference_int {n : Int}
    (there : g.hasRow (.int n)) : g.reference (.int n) = .ok (.int n) := by
  cases found : g.row? (.int n) with
  | none =>
    obtain ⟨row, member, same⟩ := any_eq_true.1 there
    exact absurd same (by simpa using find?_eq_none.1 found row member)
  | some row =>
    have same : row.id = .int n := records.id_of_row? found
    simp [Graph.reference, Json.isKey, found, same]

/-- An edge between rows is read behind the others, if it is not there. -/
theorem readEdge_edgeToJson (rows : h.rows = g.rows) {m n : Int}
    (first : g.hasRow (.int m)) (second : g.hasRow (.int n)) (new : (.int m, .int n) ∉ h.links)
    (integers : ∀ link ∈ h.links, ∃ a b : Int, link = (.int a, .int b)) :
    h.readEdge (edgeToJson (.int m, .int n)) =
      .ok { h with links := h.links ++ [(.int m, .int n)] } := by
  have referred (id : Json) : h.reference id = g.reference id := by
    simp only [reference, row?, rows]
  have absent : h.hasLink (.int m) (.int n) = false := by
    rw [hasLink, any_eq_false]
    intro link member same
    obtain ⟨a, b, rfl⟩ := integers link member
    simp only [Json.same_int, Bool.and_eq_true, decide_eq_true_eq] at same
    exact new (same.1 ▸ same.2 ▸ member)
  simp [readEdge, edgeToJson, objectFields, Json.fields?, requiredField, lookup_cons, referred,
    records.reference_int first, records.reference_int second, link, absent]

theorem foldlM_readEdge {edges : List (Json × Json)}
    (ends : ∀ edge ∈ edges, ∃ m n : Int, edge = (.int m, .int n) ∧ g.hasRow (.int m) ∧
      g.hasRow (.int n))
    (rows : h.rows = g.rows) (integers : ∀ link ∈ h.links, ∃ a b : Int, link = (.int a, .int b))
    (distinct : (h.links ++ edges).Nodup) :
    (edges.map edgeToJson).foldlM readEdge h = .ok { h with links := h.links ++ edges } := by
  induction edges generalizing h with
  | nil =>
    rw [append_nil]
    rfl
  | cons edge rest ih =>
    obtain ⟨⟨m, n, rfl, first, second⟩, later⟩ := forall_mem_cons.1 ends
    -- The edges were listed once each, so none is there already.
    have new : (.int m, .int n) ∉ h.links := fun member =>
      (nodup_append.1 distinct).2.2 _ member _ mem_cons_self rfl
    have one := readEdge_edgeToJson records rows first second new integers
    have both : ∀ link ∈ h.links ++ [(.int m, .int n)], ∃ a b : Int, link = (.int a, .int b) := by
      intro link member
      rcases mem_append.1 member with before | here
      · exact integers link before
      · exact ⟨m, n, mem_singleton.1 here⟩
    have all := ih (h := { h with links := h.links ++ [(.int m, .int n)] }) later rows both
      (by simpa using distinct)
    rw [map_cons, foldlM_cons, one, ok_bind, all]
    simp

/-! ### The edges in the order in which they are written -/

theorem IsPlainId.eq_int {id : Json} (own : IsPlainId id)
    (there : g.hasRow id) : ∃ n : Int, id = .int n := by
  obtain ⟨row, member, same⟩ := any_eq_true.1 there
  obtain ⟨n, -, isInt⟩ := records.id_mem member
  exact ⟨n, own n (by rwa [isInt, Json.same_comm] at same)⟩

/-- Edges are written from row to row, under integers. -/
theorem edges_ends (plain : g.Plain) :
    ∀ edge ∈ g.edges, ∃ m n : Int, edge = (.int m, .int n) ∧ g.hasRow (.int m) ∧
      g.hasRow (.int n) := by
  intro edge written
  obtain ⟨row, member, written⟩ := mem_flatMap.1 written
  obtain ⟨child, listed, rfl⟩ := mem_map.1 written
  obtain ⟨link, linked, rfl⟩ := mem_map.1 listed
  obtain ⟨linked, -⟩ := mem_filter.1 linked
  obtain ⟨m, -, isInt⟩ := records.id_mem member
  have there := (records.ends link linked).2
  obtain ⟨n, same⟩ := (plain.links link linked).2.eq_int records there
  refine ⟨m, n, by rw [records.keys row member, isInt, same], ?_, same ▸ there⟩
  exact hasRow_iff.2 ⟨row.id, mem_map_of_mem member, by rw [isInt, Json.same_self]⟩

theorem Records.childIds_nodup (id : Json) : (g.childIds id).Nodup := by
  refine pairwise_map.2 ((records.simple.filter _).imp_of_mem ?_)
  intro a b first second other same
  have source : a.1.same b.1 = true :=
    Json.same_trans (mem_filter.1 first).2 (Json.same_comm _ _ ▸ (mem_filter.1 second).2)
  exact other ⟨source, same ▸ Json.same_self _⟩

theorem Records.edges_nodup : g.edges.Nodup := by
  have keys : (g.rows.map (·.key)).Nodup := by
    rw [map_congr_left records.keys, records.rows]
    exact records.distinct.map fun _ _ => Json.int.inj
  refine nodup_flatMap.2 ⟨fun row _ => ?_, ?_⟩
  · exact (records.childIds_nodup row.id).map fun _ _ same => (Prod.mk.inj same).2
  · refine (pairwise_map.1 keys).imp fun other => ?_
    intro edge first second
    obtain ⟨_, -, rfl⟩ := mem_map.1 first
    obtain ⟨_, -, same⟩ := mem_map.1 second
    exact other (Prod.mk.inj same).1.symm

omit records

theorem toJson_eq (g : Graph) :
    g.toJson = .obj [("source_file", g.sourceFile), ("root_id", g.root.getD .null),
      ("nodes", .arr (g.rows.map Row.toJson)), ("edges", .arr (g.edges.map edgeToJson))] := by
  unfold toJson
  cases g.root <;> rfl

theorem readRoot_root (records : g.Records ids asked) (plain : g.Plain) (rows : h.rows = g.rows)
    (free : h.root = none) : h.readRoot (g.root.getD .null) = .ok { h with root := g.root } := by
  cases set : g.root with
  | none =>
    simp only [Option.getD_none, readRoot]
    rw [← free]
  | some id =>
    have there := records.root id set
    obtain ⟨n, rfl⟩ := (plain.root id set).eq_int records there
    have referred : h.reference (.int n) = .ok (.int n) := by
      simpa only [reference, row?, rows] using records.reference_int there
    simp [readRoot, referred]

/-- What is read back is the graph that was written, with its edges as they were written. -/
theorem ofJson_toJson (records : g.Records ids asked) (plain : g.Plain)
    (lineless : g.newlines = none) :
    ofJson g.toJson = .ok { g with links := g.edges, trees := [] } := by
  have empty : ({ sourceFile := g.sourceFile } : Graph).rows.map (·.id) =
      ([] : List Int).map .int := rfl
  have rows := foldlM_readRow records.keys records.rows empty rfl records.distinct
  have links := foldlM_readEdge
    (h := { sourceFile := g.sourceFile, rows := g.rows, nextId := g.nextId })
    records (edges_ends records plain) rfl (by simp) records.edges_nodup
  have root := readRoot_root
    (h := { sourceFile := g.sourceFile, rows := g.rows, nextId := g.nextId, links := g.edges })
    records plain rfl rfl
  simp only [nil_append, ← records.next] at rows links
  simp [toJson_eq, ofJson, Json.fields?, lookup_cons, membersOf, Json.members?, rows, links,
    root, lineless]

theorem flatMap_ite {α β : Type} (p : α → Bool) (f : α → List β) (items : List α) :
    (items.flatMap fun a => if p a then f a else []) = (items.filter p).flatMap f := by
  induction items with
  | nil => rfl
  | cons a rest ih => by_cases fits : p a = true <;> simp [fits, ih]

theorem Records.rows_apart (records : g.Records ids asked) :
    g.rows.Pairwise fun a b => a.id.same b.id = false := by
  have distinct : (g.rows.map (·.id)).Nodup :=
    records.rows ▸ records.distinct.map fun _ _ => Json.int.inj
  refine (pairwise_map.1 distinct).imp_of_mem ?_
  intro a b first second other
  obtain ⟨m, -, isM⟩ := records.id_mem first
  obtain ⟨n, -, isN⟩ := records.id_mem second
  simpa [isM, isN] using other

/-- Edges that are written keep their order at each row. -/
theorem childIds_edges (records : g.Records ids asked) (id : Json) :
    (g.edges.filter (·.1.same id)).map (·.2) = g.childIds id := by
  -- Only rows with this id have edges that count.
  have counted : (g.edges.filter (·.1.same id)).map (·.2) =
      (g.rows.filter (·.id.same id)).flatMap fun row => g.childIds row.id := by
    have ofRow : ∀ row ∈ g.rows,
        (((g.childIds row.id).map fun child => (row.key, child)).filter (·.1.same id)).map (·.2) =
          if row.id.same id then g.childIds row.id else [] := by
      intro row member
      rw [records.keys row member]
      simp only [filter_map, map_map, Function.comp_def]
      split
      next same => simp [same]
      next other => simp [other]
    rw [edges, filter_flatMap, map_flatMap, flatMap_congr ofRow, flatMap_ite]
  rw [counted]
  cases found : g.row? id with
  | none =>
    have nobody := find?_eq_none.1 found
    have rows : g.rows.filter (·.id.same id) = [] := filter_eq_nil_iff.2 nobody
    have links : g.links.filter (·.1.same id) = [] := by
      rw [filter_eq_nil_iff]
      intro link member same
      obtain ⟨row, here, also⟩ := any_eq_true.1 (records.ends link member).1
      exact nobody row here (Json.same_trans also same)
    simp [rows, childIds, links]
  | some row =>
    have same := find?_some found
    -- No two rows have the same id.
    have unique : g.rows.Pairwise fun a b => ¬(a.id.same id = true ∧ b.id.same id = true) := by
      refine records.rows_apart.imp ?_
      rintro a b apart ⟨one, two⟩
      rw [Json.same_trans one (Json.same_comm _ _ ▸ two)] at apart
      cases apart
    rw [filter_eq_singleton (mem_of_find?_eq_some found) same unique]
    simp only [Json.same, decide_eq_true_eq] at same
    simp [childIds, Json.same, same]

/-! ### Graphs that operations cannot tell apart -/

/-- Two graphs that may differ in the order of edges from different rows. -/
structure Twins (g h : Graph) : Prop where
  sourceFile : h.sourceFile = g.sourceFile
  newlines : h.newlines = g.newlines
  rows : h.rows = g.rows
  root : h.root = g.root
  next : h.nextId = g.nextId
  childIds : ∀ id, h.childIds id = g.childIds id

namespace Twins

variable (twins : Twins g h)

include twins

theorem children (id : Json) : h.children id = g.children id := by
  have found : h.row? = g.row? := by
    funext id
    rw [row?, row?, twins.rows]
  rw [Graph.children, Graph.children, twins.childIds, found]

theorem toJson : h.toJson = g.toJson := by
  simp only [Graph.toJson, edges, twins.sourceFile, twins.root, twins.rows, twins.childIds]

theorem hasRow (id : Json) : h.hasRow id = g.hasRow id := by
  rw [Graph.hasRow, Graph.hasRow, twins.rows]

theorem childrenOf (id : Json) : h.childrenOf id = g.childrenOf id := by
  rw [Graph.childrenOf, Graph.childrenOf, ask, ask, twins.hasRow, twins.children]

theorem link (source destination : Json) :
    Twins (g.link source destination) (h.link source destination) := by
  have known : h.hasLink source destination = g.hasLink source destination := by
    rw [Bool.eq_iff_iff, Records.hasLink_iff (Json.same_self _),
      Records.hasLink_iff (Json.same_self _), twins.childIds]
  rw [Graph.link, Graph.link, known]
  split
  · exact twins
  · refine { twins with childIds := fun id => ?_ }
    have before := twins.childIds id
    simp only [Graph.childIds, filter_append, map_append] at before ⊢
    rw [before]

theorem addRow (type : RowType) (contents start stop : Json)
    (startLine stopLine : Int) (trees others : List (Json × Tree)) :
    Twins { g.addRow type contents start stop startLine stopLine with trees }
      { h.addRow type contents start stop startLine stopLine with trees := others } where
  sourceFile := twins.sourceFile
  newlines := twins.newlines
  rows := by simp only [Graph.addRow, twins.rows, twins.next]
  root := twins.root
  next := by simp only [Graph.addRow, twins.next]
  childIds := twins.childIds

theorem checkRow (id : Json) (missing : GraphError) :
    h.checkRow id missing = g.checkRow id missing := by
  rw [Graph.checkRow, Graph.checkRow, twins.hasRow]

theorem perform (op : Operation) :
    (∃ changed other, g.perform op = .ok changed ∧ h.perform op = .ok other ∧
        Twins changed other) ∨
      ∃ fault, g.perform op = .error fault ∧ h.perform op = .error fault := by
  cases op with
  | element kind t =>
    -- Lines depend on the line feeds only, and twins have the same.
    have lines (position : Int) : h.lineOf position = g.lineOf position := by
      rw [lineOf, lineOf, twins.newlines]
    refine .inl ⟨_, _, rfl, rfl, ?_⟩
    rw [addElement, addElement, lines, lines]
    exact twins.addRow _ _ _ _ _ _ _ _
  | holder label start stop =>
    have lines (position : Json) : h.lineOfValue? position = g.lineOfValue? position := by
      simp only [lineOfValue?, lineOf, twins.newlines]
    simp only [Graph.perform, addHolder?, lines]
    cases g.lineOfValue? start with
    | none => exact .inr ⟨_, rfl, rfl⟩
    | some startLine =>
      cases g.lineOfValue? stop with
      | none => exact .inr ⟨_, rfl, rfl⟩
      | some stopLine => exact .inl ⟨_, _, rfl, rfl, twins.addRow _ _ _ _ _ _ _ _⟩
  | edge source destination =>
    simp only [Graph.perform, addEdge, twins.checkRow]
    cases g.checkRow source (.sourceMissing source) with
    | error e => exact .inr ⟨_, rfl, rfl⟩
    | ok u =>
      cases g.checkRow destination (.destinationMissing destination) with
      | error e => exact .inr ⟨_, rfl, rfl⟩
      | ok u => exact .inl ⟨_, _, rfl, rfl, twins.link source destination⟩
  | root id =>
    simp only [Graph.perform, setRoot, twins.root, twins.checkRow]
    cases g.root with
    | some root => exact .inr ⟨_, rfl, rfl⟩
    | none =>
      cases g.checkRow id (.rootMissing id) with
      | error e => exact .inr ⟨_, rfl, rfl⟩
      | ok u => exact .inl ⟨_, _, rfl, rfl, { twins with root := rfl }⟩

theorem step (op : Operation) :
    Twins (g.step op).1 (h.step op).1 ∧ (h.step op).2 = (g.step op).2 := by
  obtain ⟨changed, other, one, two, twins'⟩ | ⟨fault, one, two⟩ := twins.perform op
  · rw [step_of_ok one, step_of_ok two]
    refine ⟨twins', ?_⟩
    simp only [row?, twins'.rows, twins.next]
  · rw [step_of_error one, step_of_error two]
    exact ⟨twins, rfl⟩

theorem run (ops : List Operation) :
    Twins (g.run ops).1 (h.run ops).1 ∧ (h.run ops).2 = (g.run ops).2 := by
  induction ops generalizing g h with
  | nil => exact ⟨twins, rfl⟩
  | cons op rest ih =>
    obtain ⟨twins, answer⟩ := twins.step op
    obtain ⟨last, answers⟩ := ih twins
    refine ⟨last, ?_⟩
    simp only [Graph.run, answer, answers]

end Twins

/-! ### Reloading -/

/-- Graphs that are read have no line numbers, and no rows that were made for tree nodes. -/
theorem bare_ofJson {data : Json} (read : ofJson data = .ok g) :
    g.newlines = none ∧ g.trees = [] := by
  obtain ⟨file, rowed, linked, root, rows, links, read⟩ := exists_of_ofJson read
  have afterRows : rowed.newlines = none ∧ rowed.trees = [] :=
    of_foldlM (fun _ g => g.newlines = none ∧ g.trees = []) rows [] ⟨rfl, rfl⟩
      fun _ node g changed _ bare read => by
        obtain ⟨row, -, inserted⟩ := exists_of_bind_eq_ok read
        unfold insertRow at inserted
        split at inserted <;> cases inserted
        exact bare
  have afterLinks : linked.newlines = none ∧ linked.trees = [] :=
    of_foldlM (fun _ g => g.newlines = none ∧ g.trees = []) links [] afterRows
      fun _ edge g changed _ bare read => by
        obtain ⟨source, destination, -, -, rfl⟩ := exists_of_readEdge read
        rw [link]
        split <;> exact bare
  obtain rfl | ⟨id, -, rfl⟩ := exists_of_readRoot read
  · exact afterLinks
  · exact afterLinks

/-- Whatever was done with a graph without line numbers, writing it and reading it back succeeds
and gives a graph with the same data and the same children of each row, and any further run gives
the same answers and the same data on both. -/
theorem reload_run {start : Graph} {earlier : List (Json × Json)} (starts : start.Starts earlier)
    (lineless : start.newlines = none) {ops : List Operation}
    (own : ∀ op ∈ ops, op.HasPlainIds) :
    ∃ reloaded, ofJson (start.run ops).1.toJson = .ok reloaded ∧
      reloaded.toJson = (start.run ops).1.toJson ∧
      (∀ id, reloaded.children id = (start.run ops).1.children id ∧
        reloaded.childrenOf id = (start.run ops).1.childrenOf id) ∧
      ∀ further, (reloaded.run further).2 = ((start.run ops).1.run further).2 ∧
        (reloaded.run further).1.toJson = ((start.run ops).1.run further).1.toJson := by
  obtain ⟨ids, records, plain⟩ := starts.records
  obtain ⟨others, records⟩ := records.run ops
  have lineless : (start.run ops).1.newlines = none := (newlines_run start ops).trans lineless
  have read := ofJson_toJson records (plain.run own) lineless
  have twins : Twins (start.run ops).1
      { (start.run ops).1 with links := (start.run ops).1.edges, trees := [] } :=
    ⟨rfl, rfl, rfl, rfl, rfl, childIds_edges records⟩
  refine ⟨_, read, twins.toJson, fun id => ⟨twins.children id, twins.childrenOf id⟩,
    fun further => ?_⟩
  obtain ⟨last, answers⟩ := twins.run further
  exact ⟨answers, last.toJson⟩

theorem reload_sparseData : (∀ op ∈ mixedOperations, op.HasPlainIds) ∧
    ∃ g reloaded, ofJson sparseData = .ok g ∧
      ofJson (g.run mixedOperations).1.toJson = .ok reloaded ∧
      reloaded.toJson = (g.run mixedOperations).1.toJson ∧
      reloaded.children (.int 7) = (g.run mixedOperations).1.children (.int 7) ∧
      ∀ further, (reloaded.run further).2 = ((g.run mixedOperations).1.run further).2 := by
  have own : ∀ op ∈ mixedOperations, op.HasPlainIds := by
    simp [mixedOperations, Operation.HasPlainIds, isPlainId_int]
  have readable : (ofJson sparseData).map (fun _ => ()) = .ok () := by decide +kernel
  obtain ⟨g, read, -⟩ := exists_of_map_eq_ok readable
  obtain ⟨reloaded, again, same, children, alike⟩ :=
    reload_run (.loaded hasIntegerIds_sparseData read) (bare_ofJson read).1 own
  exact ⟨own, g, reloaded, read, again, same, (children _).1, fun further => (alike further).1⟩

end Graph

end SyntaxGraph
