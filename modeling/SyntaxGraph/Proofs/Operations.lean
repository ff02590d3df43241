import Mathlib.Data.List.Dedup
import Mathlib.Data.List.Induction
import SyntaxGraph.Graph.Fault
import SyntaxGraph.Proofs.Trace

/-!
# Runs of operations

A graph is changed by four operations: two that make rows, one that adds an edge and one that sets
the root. They name rows by ids that may be foreign to the graph, and they may be refused.

Main statement: in a run from an empty graph, or from one that was read from data with integer ids,
ids stay distinct and below the next one, edges lead from row to row and are not repeated, children
come in the order in which their edges were first asked for, the root stays once it is set, and
what is refused changes nothing. The invariant behind it ties the next id to the largest one and the
edges to the order of the requests.
-/
namespace SyntaxGraph

open List

/-- A request to change a graph. -/
inductive Operation
  /-- Make a row for a tree node. -/
  | element (kind : Json) (tree : Tree)
  /-- Make a row for a group of children. -/
  | holder (label start stop : Json)
  /-- Add an edge between the rows with two ids. -/
  | edge (source destination : Json)
  /-- Make the row with an id the root. -/
  | root (id : Json)

namespace Graph

/-! ### Runs -/

/-- The graph behind an operation, or why it is refused. -/
def perform (g : Graph) : Operation → Except Fault Graph
  | .element kind t => .ok (g.addElement kind t)
  | .holder label start stop =>
    match g.addHolder? label start stop with
    | some changed => .ok changed
    | none => .error .wrongForm
  | .edge source destination => (g.addEdge source destination).mapError GraphError.fault
  | .root id => (g.setRoot id).mapError GraphError.fault

/-- One operation, and what it answers: the row that it made, if it made one. That row has the id
that was free before. -/
def step (g : Graph) (op : Operation) : Graph × Except Fault (Option Row) :=
  match g.perform op with
  | .ok changed => (changed, .ok (changed.row? g.nextId))
  | .error fault => (g, .error fault)

/-- Operations one after the other, and what they answer. A run goes on behind refusals. -/
def run (g : Graph) : List Operation → Graph × List (Except Fault (Option Row))
  | [] => (g, [])
  | op :: rest =>
    let (changed, answer) := g.step op
    let (last, answers) := changed.run rest
    (last, answer :: answers)

/-- The edge that an operation asks for, unless it is refused. -/
def grantedEdge (g : Graph) (op : Operation) : List (Json × Json) :=
  match op, g.perform op with
  | .edge source destination, .ok _ => [(source, destination)]
  | _, _ => []

/-- The edges that a run asks for and is granted, in order and with repetitions. -/
def grantedEdges (g : Graph) : List Operation → List (Json × Json)
  | [] => []
  | op :: rest => g.grantedEdge op ++ (g.step op).1.grantedEdges rest

/-- The values that an object lists under a key. -/
def listed (data : Json) (key : String) : List Json :=
  ((data.field? key).bind Json.members?).getD []

/-- Whether the ids of all nodes in the data of a graph are integers. -/
def HasIntegerIds (data : Json) : Prop :=
  ∀ node ∈ listed data "nodes", ∀ id ∈ node.field? "id", ∃ n : Int, id = .int n

/-- The edges in the data of a graph, in order and with repetitions. -/
def edgesIn (data : Json) : List (Json × Json) :=
  (listed data "edges").map fun edge =>
    ((edge.field? "source_id").getD .null, (edge.field? "destination_id").getD .null)

/-- The graphs that runs start from, with the edges that were asked for before: empty ones, and
those that are read from data with integer ids. -/
inductive Starts : Graph → List (Json × Json) → Prop
  | fresh (file : Json) (source : Option String) (lineNumbers : Bool) :
    Starts (ofSource file source lineNumbers) []
  | loaded {data : Json} {g : Graph} (integers : HasIntegerIds data) (read : ofJson data = .ok g) :
    Starts g (edgesIn data)

/-- Whether an id stands for itself: if it is the same key as an integer, it is that integer. -/
def IsPlainId (id : Json) : Prop := ∀ n : Int, id.same (.int n) = true → id = .int n

/-- Whether edges and root of a graph are stored under ids that stand for themselves. -/
structure Plain (g : Graph) : Prop where
  links : ∀ link ∈ g.links, IsPlainId link.1 ∧ IsPlainId link.2
  root : ∀ id ∈ g.root, IsPlainId id

/-- A graph whose parts agree. -/
structure Coherent (g : Graph) : Prop where
  /-- Ids are distinct integers, and the next one is larger. -/
  numbered : ∃ (ids : List Int) (next : Int), g.rows.map (·.id) = ids.map .int ∧ ids.Nodup ∧
    g.nextId = .int next ∧ ∀ id ∈ ids, id < next
  /-- Edges lead from row to row. -/
  ends : ∀ link ∈ g.links, g.hasRow link.1 ∧ g.hasRow link.2
  /-- No two edges lead from one row to one other. -/
  simple : g.links.Pairwise fun a b => ¬(a.1.same b.1 ∧ a.2.same b.2)
  /-- The root is a row. -/
  root : ∀ id ∈ g.root, g.hasRow id

/-! ### What one operation does -/

/-- Type, contents and positions of the row that an operation asks for. -/
def rowAsked : Operation → Option (RowType × Json × Json × Json)
  | .element kind t => some (.element, kind, .int t.start, .int t.stop)
  | .holder label start stop => some (.holder, label, start, stop)
  | .edge _ _ | .root _ => none

theorem lineOfValue?_int (g : Graph) (position : Int) :
    g.lineOfValue? (.int position) = some (g.lineOf position) := by
  cases newlines : g.newlines <;> simp [lineOfValue?, lineOf, newlines]

variable {changed g : Graph} {op : Operation}

/-- What an operation does that is not refused: it makes the row that it asks for, with the lines of
its positions, links two rows, or makes a row the root of a graph that has none. -/
theorem perform_cases (done : g.perform op = .ok changed) :
    (g.grantedEdge op = [] ∧ ∃ type contents start stop startLine stopLine trees,
        (rowAsked op = some (type, contents, start, stop) ∧
          g.lineOfValue? start = some startLine ∧ g.lineOfValue? stop = some stopLine) ∧
        changed = { g.addRow type contents start stop startLine stopLine with trees }) ∨
      (∃ source destination, op = .edge source destination ∧ g.hasRow source ∧
        g.hasRow destination ∧ changed = g.link source destination) ∨
      (∃ id, op = .root id ∧ g.root = none ∧ g.hasRow id ∧
        changed = { g with root := some id }) := by
  -- A row that is checked and found is there.
  have found {id : Json} {missing : GraphError} {u : Unit}
      (checked : g.checkRow id missing = .ok u) : g.hasRow id := by
    unfold checkRow at checked
    split at checked
    · assumption
    · cases checked
  cases op with
  | element kind t =>
    cases done
    exact .inl ⟨rfl, _, _, _, _, _, _, _,
      ⟨rfl, lineOfValue?_int g t.start, lineOfValue?_int g t.stop⟩, rfl⟩
  | holder label start stop =>
    rw [perform] at done
    split at done
    next made =>
      cases done
      simp only [addHolder?, Option.bind_eq_bind, Option.pure_def, Option.bind_eq_some_iff,
        Option.some.injEq] at made
      obtain ⟨startLine, starts, stopLine, stops, rfl⟩ := made
      exact .inl ⟨rfl, _, _, _, _, _, _, _, ⟨rfl, starts, stops⟩, rfl⟩
    next => cases done
  | edge source destination =>
    refine .inr (.inl ⟨source, destination, rfl, ?_⟩)
    cases added : g.addEdge source destination with
    | error e => simp [perform, added, Except.mapError] at done
    | ok linked =>
      simp only [perform, added, Except.mapError, Except.ok.injEq] at done
      obtain ⟨_, first, added⟩ := exists_of_bind_eq_ok added
      obtain ⟨_, second, added⟩ := exists_of_bind_eq_ok added
      cases added
      exact ⟨found first, found second, done.symm⟩
  | root id =>
    refine .inr (.inr ⟨id, rfl, ?_⟩)
    cases set : g.setRoot id with
    | error e => simp [perform, set, Except.mapError] at done
    | ok rooted =>
      simp only [perform, set, Except.mapError, Except.ok.injEq] at done
      unfold setRoot at set
      split at set
      next => cases set
      next free =>
        obtain ⟨_, checked, set⟩ := exists_of_bind_eq_ok set
        cases set
        exact ⟨free, found checked, done.symm⟩

variable {source destination : Json}

theorem grantedEdge_of_ok (done : g.perform (.edge source destination) = .ok changed) :
    g.grantedEdge (.edge source destination) = [(source, destination)] := by
  simp [grantedEdge, done]

theorem step_of_error {fault : Fault} (refused : g.perform op = .error fault) :
    g.step op = (g, .error fault) := by
  simp [step, refused]

theorem step_of_ok (done : g.perform op = .ok changed) :
    g.step op = (changed, .ok (changed.row? g.nextId)) := by
  simp [step, done]

theorem step_eq_of_error {fault : Fault} (refused : (g.step op).2 = .error fault) :
    (g.step op).1 = g := by
  cases result : g.perform op with
  | error cause => rw [step_of_error result]
  | ok changed => simp [step_of_ok result] at refused

variable {row : Row} {rows : List Row}

/-- A row that is put is one of the rows from then on, maybe under another form of its id, and the
others were there before. -/
theorem mem_putRow {r : Row} (member : r ∈ putRow row rows) :
    r ∈ rows ∨ ∃ key, r = { row with key } := by
  induction rows with
  | nil => exact .inr ⟨row.key, mem_singleton.1 member⟩
  | cons first rest ih =>
    rw [putRow] at member
    split at member
    · rcases mem_cons.1 member with rfl | later
      · exact .inr ⟨first.key, rfl⟩
      · exact .inl (mem_cons_of_mem _ later)
    · rcases mem_cons.1 member with rfl | later
      · exact .inl mem_cons_self
      · exact (ih later).imp_left (mem_cons_of_mem _)

theorem forall_rows_step {P : Row → Prop} (rows : ∀ row ∈ g.rows, P row)
    (new : ∀ type contents start stop startLine stopLine id key,
      rowAsked op = some (type, contents, start, stop) → g.lineOfValue? start = some startLine →
        g.lineOfValue? stop = some stopLine →
        P ⟨id, key, type, contents, start, stop, .int startLine, .int stopLine⟩) :
    ∀ row ∈ (g.step op).1.rows, P row := by
  cases result : g.perform op with
  | error fault => simpa only [step_of_error result] using rows
  | ok changed =>
    rw [step_of_ok result]
    obtain ⟨-, type, contents, start, stop, startLine, stopLine, trees,
      ⟨asked, starts, stops⟩, rfl⟩ | ⟨source, destination, -, -, -, rfl⟩ |
      ⟨id, -, -, -, rfl⟩ := perform_cases result
    · intro row member
      rcases mem_putRow member with old | ⟨key, rfl⟩
      · exact rows row old
      · exact new _ _ _ _ _ _ _ _ asked starts stops
    · rw [link]
      split <;> exact rows
    · exact rows

/-! ### The invariant -/

/-- The id behind all of `ids`, and behind all negative numbers. -/
def nextAfter (ids : List Int) : Int :=
  ids.foldl (fun next id => max next (id + 1)) 0

@[simp]
theorem nextAfter_append (ids : List Int) (id : Int) :
    nextAfter (ids ++ [id]) = max (nextAfter ids) (id + 1) := by
  simp [nextAfter]

theorem lt_nextAfter {ids : List Int} {id : Int} (member : id ∈ ids) : id < nextAfter ids := by
  induction ids using List.reverseRecOn with
  | nil => cases member
  | append_singleton ids last ih =>
    rw [nextAfter_append]
    rcases mem_append.1 member with before | here
    · have := ih before
      omega
    · cases mem_singleton.1 here
      omega

/-- What holds of a graph with the given ids for which the given edges were asked so far. -/
structure Records (g : Graph) (ids : List Int) (asked : List (Json × Json)) : Prop where
  rows : g.rows.map (·.id) = ids.map .int
  keys : ∀ row ∈ g.rows, row.key = row.id
  distinct : ids.Nodup
  next : g.nextId = .int (nextAfter ids)
  ends : ∀ link ∈ g.links, g.hasRow link.1 ∧ g.hasRow link.2
  simple : g.links.Pairwise fun a b => ¬(a.1.same b.1 ∧ a.2.same b.2)
  order : ∀ id, (g.childIds id).map Json.normal =
    ((asked.filter (·.1.same id)).map (·.2.normal)).eraseDups
  root : ∀ id ∈ g.root, g.hasRow id

variable {g : Graph} {ids : List Int} {asked : List (Json × Json)}

theorem records_empty (file : Json) (newlines : Option (Array Nat)) :
    Records { sourceFile := file, newlines } [] [] where
  rows := rfl
  keys := by simp
  distinct := .nil
  next := rfl
  ends := by simp
  simple := .nil
  order := by simp [childIds]
  root := by simp

variable {id : Json}

theorem hasRow_iff : g.hasRow id ↔ ∃ known ∈ g.rows.map (·.id), known.same id = true := by
  simp only [hasRow, any_eq_true, mem_map, exists_exists_and_eq_and]

theorem hasRow_mono {old new : Graph} (kept : old.rows.map (·.id) ⊆ new.rows.map (·.id))
    (there : old.hasRow id) : new.hasRow id := by
  obtain ⟨known, member, same⟩ := hasRow_iff.1 there
  exact hasRow_iff.2 ⟨known, kept member, same⟩

namespace Records

theorem coherent (records : g.Records ids asked) : g.Coherent where
  numbered := ⟨ids, nextAfter ids, records.rows, records.distinct, records.next,
    fun _ member => lt_nextAfter member⟩
  ends := records.ends
  simple := records.simple
  root := records.root

theorem id_mem (records : g.Records ids asked) (member : row ∈ g.rows) :
    ∃ id ∈ ids, row.id = .int id := by
  have listed : row.id ∈ ids.map Json.int := records.rows ▸ mem_map_of_mem member
  obtain ⟨id, here, same⟩ := mem_map.1 listed
  exact ⟨id, here, same.symm⟩

theorem id_of_row? (records : g.Records ids asked) (found : g.row? id = some row) :
    row.id = id.normal := by
  have same := find?_some found
  obtain ⟨n, -, isInt⟩ := records.id_mem (mem_of_find?_eq_some found)
  simp only [Json.same, decide_eq_true_eq, isInt, Json.normal] at same
  rw [isInt, same]

/-- The children of a row come in the order in which their edges were first asked for. -/
theorem children_ids (records : g.Records ids asked) (id : Json) :
    (g.children id).map (·.id) = ((asked.filter (·.1.same id)).map (·.2.normal)).eraseDups := by
  rw [← records.order id, children, map_filterMap]
  -- Each edge leads to a row, so no child gets lost on the way from ids to rows.
  have there : ∀ child ∈ g.childIds id, (g.row? child).map (·.id) = some child.normal := by
    intro child member
    obtain ⟨link, linked, rfl⟩ := mem_map.1 member
    have ends := (records.ends link (mem_filter.1 linked).1).2
    cases found : g.row? link.2 with
    | none =>
      obtain ⟨row, here, same⟩ := any_eq_true.1 ends
      exact absurd same (by simpa using find?_eq_none.1 found row here)
    | some row => simp [records.id_of_row? found]
  rw [filterMap_congr there, filterMap_eq_map']

/-! ### Each change keeps the invariant -/

variable {n : Int}

theorem map_id_putRow (row : Row) (isInt : row.id = .int n)
    (before : rows.map (·.id) = ids.map .int) :
    (putRow row rows).map (·.id) = (if n ∈ ids then ids else ids ++ [n]).map .int := by
  induction rows generalizing ids with
  | nil =>
    cases ids with
    | nil => simp [putRow, isInt]
    | cons id rest => simp at before
  | cons first rest ih =>
    cases ids with
    | nil => simp at before
    | cons id others =>
      simp only [map_cons, List.cons.injEq] at before
      obtain ⟨here, later⟩ := before
      simp only [putRow, here, isInt, Json.same_int, decide_eq_true_eq]
      by_cases same : id = n
      · simp [same, later]
      · have other : n ≠ id := fun equal => same equal.symm
        simp only [if_neg same, map_cons, here, ih later, mem_cons, other, false_or]
        split <;> simp

theorem key_putRow (row : Row) (isInt : row.id = .int n)
    (own : row.key = row.id) (keys : ∀ r ∈ rows, r.key = r.id)
    (integers : ∀ r ∈ rows, ∃ k : Int, r.id = .int k) :
    ∀ r ∈ putRow row rows, r.key = r.id := by
  induction rows with
  | nil => simpa [putRow] using own
  | cons first rest ih =>
    obtain ⟨here, later⟩ := forall_mem_cons.1 keys
    obtain ⟨⟨k, firstInt⟩, restInts⟩ := forall_mem_cons.1 integers
    rw [putRow]
    split
    next same =>
      -- The row takes over the key of the row before it, which is the same integer.
      have equal : k = n := by simpa [firstInt, isInt] using same
      refine forall_mem_cons.2 ⟨?_, later⟩
      simp [here, firstInt, isInt, equal]
    next => exact forall_mem_cons.2 ⟨here, ih later restInts⟩

/-- A row that is put under an integer keeps the invariant if the next id is moved behind it. -/
theorem put (records : g.Records ids asked) (row : Row) (isInt : row.id = .int n)
    (own : row.key = row.id) (trees : List (Json × Tree)) :
    Records { g with
        rows := putRow row g.rows
        nextId := .int (max (nextAfter ids) (n + 1))
        trees } (if n ∈ ids then ids else ids ++ [n]) asked := by
  have rows := map_id_putRow row isInt records.rows
  -- No id is lost, so edges and root still have their rows.
  have kept : g.rows.map (·.id) ⊆ (putRow row g.rows).map (·.id) := by
    rw [rows, records.rows]
    split <;> simp
  refine ⟨rows, ?_, ?_, ?_, ?_, records.simple, records.order, ?_⟩
  · exact key_putRow row isInt own records.keys fun r member =>
      (records.id_mem member).imp fun _ => And.right
  · split
    next => exact records.distinct
    next new => exact by simpa using records.distinct.concat new
  · split
    next old =>
      have := lt_nextAfter old
      simp only [Json.int.injEq]
      omega
    next => rw [nextAfter_append]
  · exact fun link member => (records.ends link member).imp (hasRow_mono kept) (hasRow_mono kept)
  · exact fun id set => hasRow_mono kept (records.root id set)

theorem addRow (records : g.Records ids asked) (type : RowType) (contents start stop : Json)
    (startLine stopLine : Int) (trees : List (Json × Tree)) :
    Records { g.addRow type contents start stop startLine stopLine with trees }
      (ids ++ [nextAfter ids]) asked := by
  have new : nextAfter ids ∉ ids := fun member => absurd (lt_nextAfter member) (Int.lt_irrefl _)
  have larger : max (nextAfter ids) (nextAfter ids + 1) = nextAfter ids + 1 := by omega
  have kept := records.put
    { id := g.nextId, type, contents, start, stop
      startLine := .int startLine, stopLine := .int stopLine } records.next rfl trees
  rw [if_neg new, larger] at kept
  simpa [Graph.addRow, records.next] using kept

theorem eraseDups_concat {α : Type} [DecidableEq α] (items : List α) (last : α) :
    (items ++ [last]).eraseDups =
      if last ∈ items then items.eraseDups else items.eraseDups ++ [last] := by
  rw [eraseDups_append]
  split
  next member => simp [List.removeAll, member]
  next new => simp [List.removeAll, new, eraseDups_cons]

theorem hasLink_iff (start : source.same id = true) :
    g.hasLink source destination ↔ destination.normal ∈ (g.childIds id).map Json.normal := by
  have same : source.normal = id.normal := by simpa [Json.same] using start
  simp only [hasLink, childIds, any_eq_true, mem_map, mem_filter, Bool.and_eq_true,
    Json.same, decide_eq_true_eq, same]
  constructor
  · rintro ⟨link, member, first, second⟩
    exact ⟨link.2, ⟨link, ⟨member, first⟩, rfl⟩, second⟩
  · rintro ⟨_, ⟨link, ⟨member, first⟩, rfl⟩, second⟩
    exact ⟨link, member, first, second⟩

/-- An edge between rows is added behind the others, unless it is there already. -/
theorem link (records : g.Records ids asked) (first : g.hasRow source)
    (second : g.hasRow destination) :
    (g.link source destination).Records ids (asked ++ [(source, destination)]) := by
  have order (id : Json) : ((g.link source destination).childIds id).map Json.normal =
      (((asked ++ [(source, destination)]).filter (·.1.same id)).map (·.2.normal)).eraseDups := by
    rw [filter_append, map_append]
    by_cases start : source.same id = true
    · -- Among the children of this row the new one counts if it was not there before.
      simp only [filter_cons, start, if_true, filter_nil, map_cons, map_nil]
      have known : destination.normal ∈ (asked.filter (·.1.same id)).map (·.2.normal) ↔
          g.hasLink source destination = true := by
        rw [hasLink_iff start, records.order id, mem_eraseDups]
      rw [eraseDups_concat, ← records.order id, Graph.link]
      by_cases there : g.hasLink source destination = true
      · rw [if_pos there, if_pos (known.2 there)]
      · rw [if_neg there, if_neg fun member => there (known.1 member)]
        simp [childIds, start]
    · -- The children of other rows stay as they are.
      have other : [(source, destination)].filter (·.1.same id) = [] := by simpa using start
      rw [other, map_nil, append_nil, ← records.order id, Graph.link]
      split <;> simp [childIds, start]
  unfold Graph.link at order ⊢
  split
  next there =>
    refine { records with order := fun id => ?_ }
    simpa only [there, if_true] using order id
  next new =>
    refine ⟨records.rows, records.keys, records.distinct, records.next, ?_, ?_, fun id => ?_,
      records.root⟩
    · intro link member
      rcases mem_append.1 member with before | here
      · exact records.ends link before
      · cases mem_singleton.1 here
        exact ⟨first, second⟩
    -- No edge is there twice, since this one is new.
    · refine pairwise_append.2 ⟨records.simple, pairwise_singleton _ _, ?_⟩
      intro link member other last
      cases mem_singleton.1 last
      rintro ⟨one, two⟩
      exact new (any_eq_true.2 ⟨link, member, by simp [one, two]⟩)
    · simpa only [if_neg new] using order id

theorem setRoot (records : g.Records ids asked) (there : g.hasRow id) :
    Records { g with root := some id } ids asked where
  rows := records.rows
  keys := records.keys
  distinct := records.distinct
  next := records.next
  ends := records.ends
  simple := records.simple
  order := records.order
  root := by
    rintro _ ⟨⟩
    exact there

/-- One operation keeps the invariant; the edge that it is granted is asked for behind the
others. -/
theorem step (records : g.Records ids asked) (op : Operation) :
    ∃ others, (g.step op).1.Records (ids ++ others) (asked ++ g.grantedEdge op) := by
  cases result : g.perform op with
  | error fault =>
    have none : g.grantedEdge op = [] := by
      unfold grantedEdge
      split <;> simp_all
    exact ⟨[], by simpa [step_of_error result, none] using records⟩
  | ok changed =>
    rw [step_of_ok result]
    obtain ⟨none, type, contents, start, stop, startLine, stopLine, trees, -, rfl⟩ |
      ⟨source, destination, rfl, first, second, rfl⟩ | ⟨id, rfl, -, there, rfl⟩ :=
        perform_cases result
    · rw [none, append_nil]
      exact ⟨[nextAfter ids], records.addRow type contents start stop startLine stopLine trees⟩
    · rw [grantedEdge_of_ok result]
      exact ⟨[], by simpa only [append_nil] using records.link first second⟩
    · exact ⟨[], by simpa only [grantedEdge, append_nil] using records.setRoot there⟩

theorem run (records : g.Records ids asked) (ops : List Operation) :
    ∃ others, (g.run ops).1.Records (ids ++ others) (asked ++ g.grantedEdges ops) := by
  induction ops generalizing g ids asked with
  | nil => exact ⟨[], by simpa [Graph.run, grantedEdges] using records⟩
  | cons op rest ih =>
    obtain ⟨one, behind⟩ := records.step op
    obtain ⟨more, last⟩ := ih behind
    exact ⟨one ++ more, by simpa only [Graph.run, grantedEdges, append_assoc] using last⟩

end Records

/-! ### Ids that stand for themselves -/

theorem isPlainId_int (n : Int) : IsPlainId (.int n) := by
  simp [IsPlainId]

theorem plain_empty (file : Json) (newlines : Option (Array Nat)) :
    Plain { sourceFile := file, newlines } :=
  ⟨by simp, by simp⟩

theorem Plain.link (plain : g.Plain) (first : IsPlainId source)
    (second : IsPlainId destination) : (g.link source destination).Plain := by
  unfold Graph.link
  split
  · exact plain
  · refine ⟨fun link member => ?_, plain.root⟩
    rcases mem_append.1 member with before | here
    · exact plain.links link before
    · cases mem_singleton.1 here
      exact ⟨first, second⟩

theorem Plain.setRoot (plain : g.Plain) (own : IsPlainId id) : Plain { g with root := some id } :=
  ⟨plain.links, by simpa using own⟩

/-! ### Graphs that are read -/

/-- What holds at first and is kept by each step holds of what a fold ends with; it may speak of
the items that are done. -/
theorem of_foldlM {σ α ε : Type} {change : σ → α → Except ε σ} (holds : List α → σ → Prop)
    {items : List α} {first last : σ} (ended : items.foldlM change first = .ok last)
    (before : List α) (start : holds before first)
    (kept : ∀ done a s t, a ∈ items → holds done s → change s a = .ok t → holds (done ++ [a]) t) :
    holds (before ++ items) last := by
  induction items generalizing first before with
  | nil =>
    cases ended
    simpa using start
  | cons a rest ih =>
    obtain ⟨next, stepped, ended⟩ := exists_of_bind_eq_ok ended
    have one := kept before a first next mem_cons_self start stepped
    simpa using ih ended (before ++ [a]) one
      fun done b s t member => kept done b s t (mem_cons_of_mem _ member)

variable {fields : List (String × Json)} {value : Json}

theorem exists_of_requiredField {key : String} (given : requiredField fields key = .ok value) :
    fields.lookup key = some value := by
  unfold requiredField at given
  split at given
  next found =>
    cases given
    exact found
  next => cases given

variable {data : Json}

theorem fields?_of_objectFields (object : objectFields data = .ok fields) :
    data.fields? = some fields := by
  unfold objectFields at object
  split at object
  next found =>
    cases object
    exact found
  next => cases object

theorem id_of_rowOfJson (read : Row.ofJson data = .ok row) :
    data.field? "id" = some row.id ∧ row.key = row.id := by
  obtain ⟨fields, object, read⟩ := exists_of_bind_eq_ok read
  obtain ⟨id, given, read⟩ := exists_of_bind_eq_ok read
  obtain ⟨_, -, read⟩ := exists_of_bind_eq_ok read
  obtain ⟨_, -, read⟩ := exists_of_bind_eq_ok read
  obtain ⟨_, -, read⟩ := exists_of_bind_eq_ok read
  cases read
  refine ⟨?_, rfl⟩
  rw [Json.field?, fields?_of_objectFields object]
  exact exists_of_requiredField given

theorem Records.readRow (records : g.Records ids asked) (plain : g.Plain)
    (integer : ∀ id ∈ data.field? "id", ∃ n : Int, id = .int n)
    (read : g.readRow data = .ok changed) :
    ∃ others, changed.Records others asked ∧ changed.Plain := by
  obtain ⟨row, isRow, inserted⟩ := exists_of_bind_eq_ok read
  obtain ⟨given, own⟩ := id_of_rowOfJson isRow
  obtain ⟨n, isInt⟩ := integer _ given
  simp only [insertRow, isInt, Json.addOne?, records.next, greaterId_int] at inserted
  cases inserted
  exact ⟨_, records.put row isInt own _, plain.links, plain.root⟩

/-- What a value refers to is the id of a row: the integer that is the value in its normal form. -/
theorem Records.reference (records : g.Records ids asked) (referred : g.reference value = .ok id) :
    ∃ n : Int, id = .int n ∧ value.normal = .int n ∧ g.hasRow id := by
  unfold Graph.reference at referred
  split at referred
  · cases referred
  · split at referred
    next row found =>
      cases referred
      have member := mem_of_find?_eq_some found
      obtain ⟨n, -, isInt⟩ := records.id_mem member
      refine ⟨n, isInt, by rw [← records.id_of_row? found, isInt], ?_⟩
      exact hasRow_iff.2 ⟨row.id, mem_map_of_mem member, Json.same_self _⟩
    next => cases referred

/-- Which edges were asked for matters only up to the form of their ids. -/
theorem Records.relabel {edge other : Json × Json} (records : g.Records ids (asked ++ [edge]))
    (first : edge.1.normal = other.1.normal) (second : edge.2.normal = other.2.normal) :
    g.Records ids (asked ++ [other]) := by
  refine { records with order := fun id => ?_ }
  have ordered := records.order id
  simp only [filter_append, filter_cons, Json.same, first] at ordered ⊢
  rw [ordered]
  split <;> simp [second]

theorem exists_of_readEdge (read : g.readEdge data = .ok changed) :
    ∃ source destination, g.reference ((data.field? "source_id").getD .null) = .ok source ∧
      g.reference ((data.field? "destination_id").getD .null) = .ok destination ∧
      changed = g.link source destination := by
  obtain ⟨fields, object, read⟩ := exists_of_bind_eq_ok read
  obtain ⟨start, hasStart, read⟩ := exists_of_bind_eq_ok read
  obtain ⟨source, first, read⟩ := exists_of_bind_eq_ok read
  obtain ⟨stop, hasStop, read⟩ := exists_of_bind_eq_ok read
  obtain ⟨destination, second, read⟩ := exists_of_bind_eq_ok read
  have field {key : String} {value : Json} (given : requiredField fields key = .ok value) :
      (data.field? key).getD .null = value := by
    simp [Json.field?, fields?_of_objectFields object, exists_of_requiredField given]
  dsimp only at read
  split at read
  next =>
    cases read
    exact ⟨source, destination, by rw [field hasStart, first], by rw [field hasStop, second], rfl⟩
  next => cases read

theorem Records.readEdge (records : g.Records ids asked) (plain : g.Plain)
    (read : g.readEdge data = .ok changed) :
    changed.Records ids (asked ++ [((data.field? "source_id").getD .null,
      (data.field? "destination_id").getD .null)]) ∧ changed.Plain := by
  obtain ⟨_, _, first, second, rfl⟩ := exists_of_readEdge read
  obtain ⟨m, rfl, start, there⟩ := records.reference first
  obtain ⟨n, rfl, stop, also⟩ := records.reference second
  refine ⟨(records.link there also).relabel start.symm stop.symm, ?_⟩
  exact plain.link (isPlainId_int m) (isPlainId_int n)

theorem exists_of_readRoot (read : g.readRoot data = .ok changed) :
    changed = g ∨ ∃ id, g.reference data = .ok id ∧ changed = { g with root := some id } := by
  unfold Graph.readRoot at read
  split at read
  next =>
    cases read
    exact .inl rfl
  next =>
    obtain ⟨id, referred, read⟩ := exists_of_bind_eq_ok read
    cases read
    exact .inr ⟨id, referred, rfl⟩

theorem Records.readRoot (records : g.Records ids asked) (plain : g.Plain)
    (read : g.readRoot data = .ok changed) :
    changed.Records ids asked ∧ changed.Plain := by
  obtain rfl | ⟨_, referred, rfl⟩ := exists_of_readRoot read
  · exact ⟨records, plain⟩
  · obtain ⟨n, rfl, -, there⟩ := records.reference referred
    exact ⟨records.setRoot there, plain.setRoot (isPlainId_int n)⟩

theorem members_of_membersOf {members : List Json}
    (given : membersOf value = .ok members) : value.members? = some members := by
  unfold membersOf at given
  split at given
  next found =>
    cases given
    exact found
  next => cases given

theorem listed_eq {key : String}
    {members : List Json} (object : data.fields? = some fields)
    (given : membersOf ((fields.lookup key).getD (.arr [])) = .ok members) :
    listed data key = members := by
  have found := members_of_membersOf given
  cases value : fields.lookup key with
  | none =>
    simp only [value, Option.getD_none, Json.members?, Option.some.injEq] at found
    simp [listed, Json.field?, object, value, ← found]
  | some items =>
    simp only [value, Option.getD_some] at found
    simp [listed, Json.field?, object, value, found]

/-- How a graph is read: row by row, then edge by edge, then the root. -/
theorem exists_of_ofJson (read : ofJson data = .ok g) :
    ∃ file rowed linked root,
      (listed data "nodes").foldlM readRow { sourceFile := file } = .ok rowed ∧
      (listed data "edges").foldlM readEdge rowed = .ok linked ∧
      linked.readRoot root = .ok g := by
  unfold ofJson at read
  split at read
  next fields object =>
    obtain ⟨nodes, hasNodes, read⟩ := exists_of_bind_eq_ok read
    obtain ⟨rowed, rows, read⟩ := exists_of_bind_eq_ok read
    obtain ⟨edges, hasEdges, read⟩ := exists_of_bind_eq_ok read
    obtain ⟨linked, links, read⟩ := exists_of_bind_eq_ok read
    refine ⟨(fields.lookup "source_file").getD (.str ""), rowed, linked, _, ?_, ?_, read⟩
    · rw [listed_eq object hasNodes]
      exact rows
    · rw [listed_eq object hasEdges]
      exact links
  next => cases read

/-- The graphs that runs start from have the invariant, and name rows by integers only. -/
theorem Starts.records {g : Graph} {asked : List (Json × Json)} (start : g.Starts asked) :
    ∃ ids, g.Records ids asked ∧ g.Plain := by
  cases start with
  | fresh file source lineNumbers => exact ⟨[], records_empty _ _, plain_empty _ _⟩
  | @loaded data _ integers read =>
    obtain ⟨file, rowed, linked, root, rows, links, read⟩ := exists_of_ofJson read
    have hasRows : ∃ ids, rowed.Records ids [] ∧ rowed.Plain :=
      of_foldlM (fun _ g => ∃ ids, g.Records ids [] ∧ g.Plain) rows []
        ⟨[], records_empty file none, plain_empty file none⟩
        fun _ node _ _ member ⟨_, records, plain⟩ read =>
          records.readRow plain (integers node member) read
    obtain ⟨ids, records, plain⟩ := hasRows
    -- Edges are asked for in the order of the data.
    have hasLinks : linked.Records ids (edgesIn data) ∧ linked.Plain :=
      of_foldlM (fun done g => g.Records ids (done.map fun edge =>
          ((edge.field? "source_id").getD .null, (edge.field? "destination_id").getD .null)) ∧
            g.Plain)
        links [] ⟨records, plain⟩ fun done edge _ _ _ ⟨records, plain⟩ read => by
          rw [map_append]
          exact records.readEdge plain read
    exact ⟨ids, hasLinks.1.readRoot hasLinks.2 read⟩

/-! ### Whole runs -/

theorem root_step (set : g.root = some id) (op : Operation) : (g.step op).1.root = some id := by
  cases result : g.perform op with
  | error fault => rw [step_of_error result, set]
  | ok changed =>
    rw [step_of_ok result]
    obtain ⟨-, type, contents, start, stop, startLine, stopLine, trees, -, rfl⟩ |
      ⟨source, destination, -, -, -, rfl⟩ | ⟨id, -, free, -, -⟩ := perform_cases result
    · exact set
    · rw [link]
      split <;> exact set
    · rw [set] at free
      cases free

theorem root_run (set : g.root = some id) (ops : List Operation) :
    (g.run ops).1.root = some id := by
  induction ops generalizing g with
  | nil => exact set
  | cons op rest ih => exact ih (root_step set op)

theorem grantedEdge_edge (g : Graph) (source destination : Json) :
    g.grantedEdge (.edge source destination) =
      if g.hasRow source ∧ g.hasRow destination then [(source, destination)] else [] := by
  split
  next there =>
    exact grantedEdge_of_ok (by rw [perform, addEdge_of_hasRow there.1 there.2]; rfl)
  next missing =>
    cases result : g.perform (.edge source destination) with
    | error fault => simp [grantedEdge, result]
    | ok changed =>
      obtain ⟨granted, -⟩ | ⟨_, _, same, first, second, -⟩ | ⟨_, other, -⟩ := perform_cases result
      · exact granted
      · cases same
        exact absurd ⟨first, second⟩ missing
      · cases other

/-- Whatever is asked of a graph, its ids are distinct and below the next one, its edges lead from
row to row without repetition, children come in the order in which their edges were first asked
for, the root is a row and stays, and operations that are refused change nothing. -/
theorem run_coherent {start : Graph} {earlier : List (Json × Json)} (starts : start.Starts earlier)
    (ops : List Operation) :
    (start.run ops).1.Coherent ∧
      (∀ id, ((start.run ops).1.children id).map (·.id) =
        (((earlier ++ start.grantedEdges ops).filter (·.1.same id)).map (·.2.normal)).eraseDups) ∧
      (∀ source destination, (start.run ops).1.grantedEdge (.edge source destination) =
        if (start.run ops).1.hasRow source ∧ (start.run ops).1.hasRow destination
          then [(source, destination)] else []) ∧
      (∀ id, (start.run ops).1.root = some id →
        ∀ more, ((start.run ops).1.run more).1.root = some id) ∧
      ∀ op fault, ((start.run ops).1.step op).2 = .error fault →
        ((start.run ops).1.step op).1 = (start.run ops).1 := by
  obtain ⟨ids, records, -⟩ := starts.records
  obtain ⟨others, records⟩ := records.run ops
  exact ⟨records.coherent, records.children_ids, grantedEdge_edge _,
    fun _ set more => root_run set more, fun _ _ refused => step_eq_of_error refused⟩

/-- A graph with a negative id, a gap, an id that is given twice and an edge that is repeated in
another form. -/
def sparseData : Json :=
  .obj [
    ("nodes", .arr [
      .obj [("id", .int 7), ("type", .str "AST_ELEMENT"), ("contents", .str "BLOCK")],
      .obj [("id", .int (-3)), ("type", .str "AST_ELEMENT"), ("contents", .str "EMPTY")],
      .obj [("id", .int 1), ("type", .str "FAKE_AST"), ("contents", .str "STATEMENTS")],
      .obj [("id", .int 7), ("type", .str "FAKE_AST"), ("contents", .str "MEMBERS")]]),
    ("edges", .arr [
      .obj [("source_id", .int 7), ("destination_id", .int 1)],
      .obj [("source_id", .int 1), ("destination_id", .int (-3))],
      .obj [("source_id", .int 7), ("destination_id", .int (-3))],
      .obj [("source_id", .int 7), ("destination_id", .bool true)]])]

theorem hasIntegerIds_sparseData : HasIntegerIds sparseData := by
  simp [HasIntegerIds, listed, sparseData, Json.field?, Json.fields?, Json.members?]

/-- Requests of all kinds, of which the edge to a row that is not there and the second root are
refused. -/
def mixedOperations : List Operation :=
  [.holder (.str "ROOT") (.int 0) (.int 4), .edge (.int 7) (.int 8), .edge (.int 7) (.int 9),
    .root (.int 7), .edge (.int 7) (.int 1), .edge (.int 8) (.int 7), .root (.int 8)]

theorem run_sparseData_coherent : HasIntegerIds sparseData ∧
    ∃ g, ofJson sparseData = .ok g ∧ (g.run mixedOperations).1.Coherent ∧
      ((g.run mixedOperations).1.children (.int 7)).map (·.id) = [.int 1, .int (-3), .int 8] ∧
      ∀ more, ((g.run mixedOperations).1.run more).1.root = some (.int 7) := by
  have facts : (ofJson sparseData).map (fun g =>
      (g.grantedEdges mixedOperations, (g.run mixedOperations).1.root)) =
        .ok ([(.int 7, .int 8), (.int 7, .int 1), (.int 8, .int 7)], some (.int 7)) := by
    decide +kernel
  obtain ⟨g, read, facts⟩ := exists_of_map_eq_ok facts
  obtain ⟨granted, set⟩ := Prod.mk.inj facts
  obtain ⟨coherent, ordered, -, stays, -⟩ :=
    run_coherent (.loaded hasIntegerIds_sparseData read) mixedOperations
  refine ⟨hasIntegerIds_sparseData, g, read, coherent, ?_, stays _ set⟩
  rw [ordered, granted]
  decide +kernel

end Graph

end SyntaxGraph
