import Mathlib.Logic.Relation
import SyntaxGraph.Proofs.Traversal

/-!
# Scans of parts

A scan numbers the rows of a subtree one after the other, so that the rows of an element and of all
below it are a part of the graph. Main statement: this part is the graph of the scan of the tree
node behind the element, if its ids are counted from the element.
-/
namespace SyntaxGraph

open List

theorem filter_middle {α : Type} {p : α → Bool} {front middle back : List α}
    (early : ∀ x ∈ front, p x = false) (kept : ∀ x ∈ middle, p x = true)
    (late : ∀ x ∈ back, p x = false) : (front ++ (middle ++ back)).filter p = middle := by
  rw [filter_append, filter_append, filter_eq_self.2 kept,
    filter_eq_nil_iff.2 (by simpa using early), filter_eq_nil_iff.2 (by simpa using late),
    nil_append, append_nil]

/-! ### Nodes of forests -/

namespace Forest

variable {α β : Type}

/-- Whether a label stands somewhere in a forest, with a forest below it. -/
inductive Has : Forest α → α → Forest α → Prop
  | here {a : α} {below rest : Forest α} : Has (.cons a below rest) a below
  | inside {a b : α} {below rest inner : Forest α} (has : below.Has b inner) :
    Has (.cons a below rest) b inner
  | behind {a b : α} {below rest inner : Forest α} (has : rest.Has b inner) :
    Has (.cons a below rest) b inner

variable {f inner : Forest α} {a b : α}

theorem exists_has (member : a ∈ f.flatten) : ∃ inner, f.Has a inner := by
  induction f with
  | nil => simp [flatten] at member
  | cons label below rest ihBelow ihRest =>
    simp only [flatten, mem_cons, mem_append] at member
    rcases member with rfl | member | member
    · exact ⟨below, .here⟩
    · exact (ihBelow member).imp fun _ => .inside
    · exact (ihRest member).imp fun _ => .behind

namespace Has

theorem append_cases {g : Forest α} (has : (f.append g).Has a inner) :
    f.Has a inner ∨ g.Has a inner := by
  induction f with
  | nil => exact .inr has
  | cons label below rest _ ih =>
    cases has with
    | here => exact .inl .here
    | inside has => exact .inl (.inside has)
    | behind has => exact (ih has).imp_left .behind

theorem map (has : f.Has a inner) (g : α → β) : (f.map g).Has (g a) (inner.map g) := by
  induction has with
  | here => exact .here
  | inside _ ih => exact .inside ih
  | behind _ ih => exact .behind ih

theorem of_number {next n : Nat} {below : Forest (α × Nat)}
    (has : (f.number next).Has (a, n) below) :
    ∃ inner, f.Has a inner ∧ below = inner.number (n + 1) := by
  induction f generalizing next with
  | nil => cases has
  | cons label first rest ihBelow ihRest =>
    cases has with
    | here => exact ⟨first, .here, rfl⟩
    | inside has => exact (ihBelow has).imp fun _ => And.imp_left .inside
    | behind has => exact (ihRest has).imp fun _ => And.imp_left .behind

/-- In pre-order, a label and what is below it stand in one piece, and so do the links below it. -/
theorem split (has : f.Has a inner) (parent : α) :
    ∃ front back near far above, f.flatten = front ++ (a :: inner.flatten ++ back) ∧
      f.links parent = near ++ ((above, a) :: inner.links a ++ far) ∧
      near.map Prod.snd = front ∧ far.map Prod.snd = back ∧ above ∈ parent :: front := by
  -- The induction is on how the label is reached; the parent changes on the way down.
  induction has generalizing parent with
  | @here a below rest =>
    exact ⟨[], rest.flatten, [], rest.links parent, parent, rfl, rfl, rfl, links_map_snd _ _,
      mem_cons_self⟩
  | @inside label b below rest inner _ ih =>
    obtain ⟨front, back, near, far, above, labels, pairs, early, late, parents⟩ := ih label
    refine ⟨label :: front, back ++ rest.flatten, (parent, label) :: near,
      far ++ rest.links parent, above, ?_, ?_, ?_, ?_, mem_cons_of_mem _ parents⟩
    · simp [flatten, labels]
    · simp [links, pairs]
    · simp [early]
    · simp [late, links_map_snd]
  | @behind label b below rest inner _ ih =>
    obtain ⟨front, back, near, far, above, labels, pairs, early, late, parents⟩ := ih parent
    refine ⟨label :: (below.flatten ++ front), back, (parent, label) :: (below.links label ++ near),
      far, above, ?_, ?_, ?_, late, ?_⟩
    · simp [flatten, labels]
    · simp [links, pairs]
    · simp [early, links_map_snd]
    · simp only [mem_cons, mem_append] at parents ⊢
      tauto

theorem mem_flatten (has : f.Has a inner) (member : b ∈ a :: inner.flatten) : b ∈ f.flatten := by
  obtain ⟨front, back, -, -, -, labels, -⟩ := has.split a
  rw [labels]
  exact mem_append_right _ (mem_append_left _ member)

theorem agrees {children : α → List α} (has : f.Has a inner) (agrees : f.Agrees children) :
    children a = inner.roots ∧ inner.Agrees children := by
  induction has with
  | here => exact ⟨agrees.1, agrees.2.1⟩
  | inside _ ih => exact ih agrees.2.1
  | behind _ ih => exact ih agrees.2.2

end Has

theorem mem_flatten_of_mem_roots (member : a ∈ f.roots) : a ∈ f.flatten := by
  induction f with
  | nil => exact member
  | cons label below rest _ ih =>
    simp only [roots, flatten, mem_cons, mem_append] at member ⊢
    exact member.imp_right fun later => .inr (ih later)

theorem reflTransGen_of_roots {children : α → List α} (agrees : f.Agrees children)
    (reached : ∀ b ∈ f.roots, Relation.ReflTransGen (fun x y => y ∈ children x) a b) :
    ∀ b ∈ f.flatten, Relation.ReflTransGen (fun x y => y ∈ children x) a b := by
  induction f with
  | nil => simp [flatten]
  | cons label below rest ihBelow ihRest =>
    obtain ⟨here, inBelow, inRest⟩ := agrees
    have first := reached label mem_cons_self
    intro b member
    simp only [flatten, mem_cons, mem_append] at member
    rcases member with rfl | member | member
    · exact first
    · exact ihBelow inBelow (fun c root => first.tail (here ▸ root)) b member
    · exact ihRest inRest (fun c root => reached c (mem_cons_of_mem _ root)) b member

/-- From a label one comes to itself and to what is below it. -/
theorem reflTransGen_iff {children : α → List α} (agrees : f.Agrees children)
    (has : f.Has a inner) :
    Relation.ReflTransGen (fun x y => y ∈ children x) a b ↔ b ∈ a :: inner.flatten := by
  obtain ⟨here, below⟩ := has.agrees agrees
  have whole : (Forest.cons a inner .nil).Agrees children := ⟨here, below, trivial⟩
  constructor
  · intro reached
    induction reached with
    | refl => exact mem_cons_self
    | @tail x y _ step ih =>
      have member : x ∈ (Forest.cons a inner .nil).flatten := by simpa [flatten] using ih
      obtain ⟨under, hasX⟩ := exists_has member
      rw [(hasX.agrees whole).1] at step
      have deeper := hasX.mem_flatten (mem_cons_of_mem _ (mem_flatten_of_mem_roots step))
      simpa [flatten] using deeper
  · intro member
    rcases mem_cons.1 member with rfl | member
    · exact .refl
    · exact reflTransGen_of_roots below (fun c root => .single (here ▸ root)) b member

/-- A numbered label with a number that is greater by `n`. -/
def later (n : Nat) (numbered : α × Nat) : α × Nat := (numbered.1, n + numbered.2)

/-- Whether a numbered label has one of so many numbers from `n` on. -/
def isAmong (n size : Nat) (numbered : α × Nat) : Bool :=
  decide (n ≤ numbered.2 ∧ numbered.2 < n + size)

/-- Numbers that start later are all greater by the same. -/
theorem number_add (n next : Nat) (f : Forest α) :
    f.number (n + next) = (f.number next).map (later n) := by
  induction f generalizing next with
  | nil => rfl
  | cons label below rest ihBelow ihRest =>
    have behind : n + next + 1 + below.size = n + (next + 1 + below.size) := by omega
    rw [number, number, map, ← ihBelow, ← ihRest, behind]
    rfl

namespace Has

variable {next n : Nat}

/-- The numbers of a label and of what is below it follow each other; those in front are less, and
those behind are greater. -/
theorem numbers {front back : List (α × Nat)}
    (labels : (f.number next).flatten =
      front ++ ((a, n) :: (inner.number (n + 1)).flatten ++ back)) :
    n + 1 + inner.size ≤ next + f.size ∧ (∀ b ∈ front, b.2 < n) ∧
      (∀ b ∈ (a, n) :: (inner.number (n + 1)).flatten, isAmong n (inner.size + 1) b) ∧
      ∀ b ∈ back, n + 1 + inner.size ≤ b.2 := by
  have count (k : Nat) (g : Forest α) :
      (g.number k).flatten.map Prod.snd = List.range' k g.size := by
    rw [flatten_number, zipIdx_map_snd, length_flatten]
  -- Numbers are consecutive, and so are those of each piece of the list.
  have numbers := congrArg (List.map Prod.snd) labels
  rw [map_append, map_append, count, List.range'_eq_append_iff] at numbers
  obtain ⟨k, small, early, late⟩ := numbers
  have late := late.symm
  rw [List.range'_eq_append_iff] at late
  obtain ⟨m, enough, here, behind⟩ := late
  have size : inner.size + 1 = m := by simpa using congrArg List.length here
  subst size
  obtain ⟨rfl, -⟩ := List.cons.inj here
  refine ⟨by omega, fun b member => ?_, fun b member => ?_, fun b member => ?_⟩
  · have found := mem_map_of_mem (f := Prod.snd) member
    rw [early, mem_range'_1] at found
    omega
  · rw [isAmong, decide_eq_true_eq]
    rcases mem_cons.1 member with rfl | member
    · omega
    · have bounds := number_bounds member
      omega
  · have found := mem_map_of_mem (f := Prod.snd) member
    rw [behind, mem_range'_1] at found
    omega

variable (has : (f.number next).Has (a, n) (inner.number (n + 1)))

include has

theorem filter_flatten :
    (f.number next).flatten.filter (isAmong n (inner.size + 1)) =
      ((a, 0) :: (inner.number 1).flatten).map (later n) := by
  obtain ⟨front, back, -, -, -, labels, -⟩ := has.split (a, n)
  obtain ⟨-, less, among, more⟩ := numbers labels
  have middle : (a, n) :: (inner.number (n + 1)).flatten =
      ((a, 0) :: (inner.number 1).flatten).map (later n) := by
    rw [number_add, flatten_map]
    rfl
  rw [labels, ← middle]
  refine filter_middle (fun b member => ?_) among fun b member => ?_
  · have early := less b member
    simp only [isAmong, decide_eq_false_iff_not]
    omega
  · have late := more b member
    simp only [isAmong, decide_eq_false_iff_not]
    omega

theorem le_size : n + (inner.size + 1) ≤ next + f.size := by
  obtain ⟨front, back, -, -, -, labels, -⟩ := has.split (a, n)
  obtain ⟨bound, -⟩ := numbers labels
  omega

theorem mem_iff {b : α × Nat} :
    b ∈ (a, n) :: (inner.number (n + 1)).flatten ↔
      b ∈ (f.number next).flatten ∧ n ≤ b.2 ∧ b.2 < n + (inner.size + 1) := by
  obtain ⟨front, back, -, -, -, labels, -⟩ := has.split (a, n)
  obtain ⟨-, less, among, more⟩ := numbers labels
  refine ⟨fun member => ⟨has.mem_flatten member, by simpa [isAmong] using among b member⟩, ?_⟩
  rintro ⟨member, lower, upper⟩
  rw [labels, mem_append, mem_append] at member
  rcases member with early | member | late
  · have small := less b early
    omega
  · exact member
  · have large := more b late
    omega

theorem filter_links (parent : α × Nat)
    (outside : next + f.size ≤ parent.2) :
    ((f.number next).links parent).filter (fun link =>
        isAmong n (inner.size + 1) link.1 && isAmong n (inner.size + 1) link.2) =
      ((inner.number 1).links (a, 0)).map fun link => (later n link.1, later n link.2) := by
  obtain ⟨front, back, near, far, above, labels, pairs, early, late, parents⟩ := has.split parent
  obtain ⟨bound, less, among, more⟩ := numbers labels
  have middle : (inner.number (n + 1)).links (a, n) =
      ((inner.number 1).links (a, 0)).map fun link => (later n link.1, later n link.2) := by
    rw [number_add]
    exact links_map (later n) (a, 0) _
  -- The node above the part is no part of it, so the link to its top is dropped.
  have apart : isAmong n (inner.size + 1) above = false := by
    simp only [isAmong, decide_eq_false_iff_not]
    rcases mem_cons.1 parents with rfl | member
    · omega
    · have small := less above member
      omega
  -- That link goes to the front piece, of which nothing is kept.
  have regrouped : near ++ ((above, (a, n)) :: (inner.number (n + 1)).links (a, n) ++ far) =
      (near ++ [(above, (a, n))]) ++ ((inner.number (n + 1)).links (a, n) ++ far) := by simp
  rw [pairs, regrouped, ← middle]
  refine filter_middle (fun link member => ?_) (fun link member => ?_) fun link member => ?_
  · rcases mem_append.1 member with member | member
    · have small := less link.2 (early ▸ mem_map_of_mem member)
      simp only [isAmong, Bool.and_eq_false_iff, decide_eq_false_iff_not]
      omega
    · rw [mem_singleton.1 member, apart, Bool.false_and]
  · rw [among _ (fst_mem_of_mem_links member),
      among _ (mem_cons_of_mem _ (snd_mem_of_mem_links member)), Bool.and_self]
  · have large := more link.2 (late ▸ mem_map_of_mem member)
    simp only [isAmong, Bool.and_eq_false_iff, decide_eq_false_iff_not]
    omega

end Has

end Forest

/-! ### Nodes of views -/

variable {kind : String} {u : Tree} {inner : Forest Item}

theorem has_of_holderOver {accessor : String} {trees : List Tree} {members : Forest Item}
    (has : (holderOver accessor trees members).Has (.element kind u) inner) :
    members.Has (.element kind u) inner := by
  unfold holderOver at has
  split at has
  · cases has
  · cases has with
    | inside has => exact has
    | behind has => cases has

mutual

/-- Below an element of a view stands what is below it in its own view. -/
theorem view_of_has (t : Tree) (has : t.view.Has (.element kind u) inner) :
    u.view = .cons (.element kind u) inner .nil := by
  match t with
  | .node head none entries => cases has
  | .node head (some shape) entries =>
    rw [Tree.view] at has
    cases has with
    | here => rfl
    | inside has => exact view_of_viewEntries_has entries has
    | behind has => cases has

theorem view_of_viewEntries_has (entries : List (Place × Content))
    (has : (viewEntries entries).Has (.element kind u) inner) :
    u.view = .cons (.element kind u) inner .nil := by
  match entries with
  | [] => cases has
  | (place, content) :: rest =>
    rw [viewEntries] at has
    rcases has.append_cases with has | has
    · split at has
      · exact view_of_content_has content place.name has
      · cases has
    · exact view_of_viewEntries_has rest has

theorem view_of_content_has (content : Content) (accessor : String)
    (has : (content.view accessor).Has (.element kind u) inner) :
    u.view = .cons (.element kind u) inner .nil := by
  match content with
  | .absent => cases has
  | .data value => cases has
  | .tree t =>
    rw [Content.view] at has
    exact view_of_has t (has_of_holderOver has)
  | .list items =>
    rw [Content.view] at has
    exact view_of_viewItems_has items (has_of_holderOver has)

theorem view_of_viewItems_has (items : List Content)
    (has : (viewItems items).Has (.element kind u) inner) :
    u.view = .cons (.element kind u) inner .nil := by
  match items with
  | [] => cases has
  | .absent :: rest => exact view_of_viewItems_has rest has
  | .data _ :: rest => exact view_of_viewItems_has rest has
  | .list _ :: rest => exact view_of_viewItems_has rest has
  | .tree t :: rest =>
    rw [viewItems] at has
    rcases has.append_cases with has | has
    · split at has
      · exact view_of_has t has
      · cases has
    · exact view_of_viewItems_has rest has

end

/-! ### Parts of graphs -/

/-- Whether a value is an integer from a range. -/
def Json.isBetween (low high : Int) : Json → Bool
  | .int n => decide (low ≤ n ∧ n < high)
  | .null | .bool _ | .real _ | .str _ | .broken _ | .arr _ | .obj _ | .brokenObj _ => false

theorem Json.isBetween_int (n size k : Nat) :
    isBetween n (n + size) (.int k) = decide (n ≤ k ∧ k < n + size) := by
  simp only [isBetween, decide_eq_decide]
  omega

/-- Counts an integer from another one. -/
def Json.countedFrom (low : Int) : Json → Json
  | .int n => .int (n - low)
  | other => other

@[simp]
theorem Json.countedFrom_add (low n : Int) : (Json.int (low + n)).countedFrom low = .int n :=
  congrArg Json.int (by omega)

/-- The row with its id counted from another one. -/
def Row.countedFrom (low : Int) (row : Row) : Row :=
  { row with id := row.id.countedFrom low, key := row.key.countedFrom low }

namespace Graph

/-- The part of a graph with so many ids from `top` on, which are counted from there. It has the
rows with these ids and the edges between them, and its root is the first row. -/
def part (g : Graph) (top size : Nat) : Graph :=
  let inside := Json.isBetween top (top + size)
  { g with
    rows := (g.rows.filter fun row => inside row.id).map (Row.countedFrom top)
    links := (g.links.filter fun link => inside link.1 && inside link.2).map fun link =>
      (link.1.countedFrom top, link.2.countedFrom top)
    root := some (.int 0)
    nextId := .int size
    trees := (g.trees.filter fun entry => inside entry.1).map fun entry =>
      (entry.1.countedFrom top, entry.2) }

/-- Whether one comes from a row to another along edges. -/
def Descends (g : Graph) : Row → Row → Prop :=
  Relation.ReflTransGen fun row child => child ∈ g.children row.id

theorem countedFrom_row (lineOf : Int → Int) (low n : Int) (item : Item) :
    (item.row lineOf (low + n)).countedFrom low = item.row lineOf n := by
  cases item <;> simp [Item.row, Row.countedFrom]

section

variable {empty : Graph} {item other : Item} {drawn inner : Forest Item} {n : Nat}

theorem isBetween_eq_isAmong {α : Type} (n size : Nat) (numbered : α × Nat) :
    Json.isBetween n (n + size) (.int numbered.2) = Forest.isAmong n size numbered :=
  Json.isBetween_int n size numbered.2

theorem rows_part (lineOf : Int → Int)
    (has : ((Forest.cons item drawn .nil).number 0).Has (other, n) (inner.number (n + 1))) :
    ((((Forest.cons item drawn .nil).number 0).flatten.map fun numbered : Item × Nat =>
      numbered.1.row lineOf numbered.2).filter fun row =>
        row.id.isBetween n (n + (inner.size + 1 : Nat))).map (Row.countedFrom n) =
      ((other, 0) :: (inner.number 1).flatten).map fun numbered =>
        numbered.1.row lineOf numbered.2 := by
  have inside : (fun row : Row => row.id.isBetween n (n + (inner.size + 1 : Nat))) ∘
      (fun numbered : Item × Nat => numbered.1.row lineOf numbered.2) =
        Forest.isAmong n (inner.size + 1) := by
    funext numbered
    rw [Function.comp_apply, Item.row_id, isBetween_eq_isAmong]
  rw [filter_map, inside, has.filter_flatten, map_map, map_map]
  refine map_congr_left fun numbered _ => ?_
  exact countedFrom_row lineOf n numbered.2 numbered.1

theorem trees_part
    (has : ((Forest.cons item drawn .nil).number 0).Has (other, n) (inner.number (n + 1))) :
    ((((Forest.cons item drawn .nil).number 0).flatten.filterMap fun numbered : Item × Nat =>
      numbered.1.tree?.map fun t => (Json.int numbered.2, t)).filter fun entry =>
        entry.1.isBetween n (n + (inner.size + 1 : Nat))).map (fun entry =>
          (entry.1.countedFrom n, entry.2)) =
      ((other, 0) :: (inner.number 1).flatten).filterMap fun numbered =>
        numbered.1.tree?.map fun t => (Json.int numbered.2, t) := by
  have inside (numbered : Item × Nat) :
      ((numbered.1.tree?.map fun t => (Json.int numbered.2, t)).filter fun entry =>
        entry.1.isBetween n (n + (inner.size + 1 : Nat))) =
      if Forest.isAmong n (inner.size + 1) numbered then
        numbered.1.tree?.map fun t => (Json.int numbered.2, t) else none := by
    rw [← isBetween_eq_isAmong]
    cases numbered.1.tree? <;> simp [Option.filter]
  rw [filter_filterMap]
  simp only [inside]
  rw [← filterMap_filter, has.filter_flatten, filterMap_map, map_filterMap]
  refine filterMap_congr fun numbered _ => ?_
  simp [Forest.later, Function.comp_def]

theorem links_part
    (has : ((Forest.cons item drawn .nil).number 0).Has (other, n) (inner.number (n + 1))) :
    ((((drawn.number 1).links (item, 0)).map fun link : (Item × Nat) × (Item × Nat) =>
      (Json.int link.1.2, Json.int link.2.2)).filter fun link =>
        link.1.isBetween n (n + (inner.size + 1 : Nat)) &&
          link.2.isBetween n (n + (inner.size + 1 : Nat))).map (fun link =>
            (link.1.countedFrom n, link.2.countedFrom n)) =
      ((inner.number 1).links (other, 0)).map fun link =>
        (Json.int link.1.2, Json.int link.2.2) := by
  -- The parent of the whole gets a number that is behind all others.
  have kept := has.filter_links (item, drawn.size + 1) (by simp [Forest.size])
  have bound := has.le_size
  have apart : Forest.isAmong n (inner.size + 1) (item, drawn.size + 1) = false := by
    simp only [Forest.isAmong, decide_eq_false_iff_not]
    simp only [Forest.size] at bound
    omega
  rw [Forest.number, Forest.links, filter_cons_of_neg (by simp [apart])] at kept
  simp only [Forest.number, Forest.links, append_nil] at kept
  have inside : (fun link : Json × Json => link.1.isBetween n (n + (inner.size + 1 : Nat)) &&
      link.2.isBetween n (n + (inner.size + 1 : Nat))) ∘
        (fun link : (Item × Nat) × (Item × Nat) => (Json.int link.1.2, Json.int link.2.2)) =
      fun link => Forest.isAmong n (inner.size + 1) link.1 &&
        Forest.isAmong n (inner.size + 1) link.2 := by
    funext link
    rw [Function.comp_apply, isBetween_eq_isAmong, isBetween_eq_isAmong]
  rw [filter_map, inside, kept, map_map, map_map]
  refine map_congr_left fun link _ => ?_
  simp [Forest.later]

theorem part_grow (unlinked : empty.links = [])
    (has : ((Forest.cons item drawn .nil).number 0).Has (other, n) (inner.number (n + 1))) :
    ((empty.withRoot item).grow 0 (item, 0) (drawn.number 1)).part n (inner.size + 1) =
      (empty.withRoot other).grow 0 (other, 0) (inner.number 1) := by
  have linked (i : Item) (f : Forest Item) :
      ((empty.withRoot i).grow 0 (i, 0) (f.number 1)).links =
        ((f.number 1).links (i, 0)).map fun link => (Json.int link.1.2, Json.int link.2.2) := by
    simp [Graph.grow, withRoot, unlinked]
  have same : (empty.withRoot other).lineOf = empty.lineOf := rfl
  have count : (1 : Int) + inner.size = inner.size + 1 := Int.add_comm _ _
  rw [part, rows_withRoot_grow, trees_withRoot_grow, linked, ← Forest.flatten_number,
    rows_part _ has, trees_part has, links_part has, Graph.grow, Graph.grow, same]
  cases other <;> simp [withRoot, unlinked, Item.tree?, count]

end

/-- A tree with schemas throughout is drawn as it is viewed. -/
theorem scan_eq_grow (file : Json) (source : Option String) (lines : Bool) {t : Tree}
    (typed : ∀ u ∈ t.walk, u.shape.isSome) :
    ∃ kind below, t.view = .cons (.element kind t) below .nil ∧
      ((ofSource file source lines).scan t).1 =
        ((ofSource file source lines).withRoot (.element kind t)).grow 0 (.element kind t, 0)
          (below.number 1) := by
  have succeeds := succeeds_tree t typed none 0
  have rooted := typed t t.mem_walk_self
  obtain ⟨head, shape, entries⟩ := t
  cases shape with
  | none => cases rooted
  | some shape =>
    obtain ⟨drawn, -, graph, view⟩ := scan_grows file source lines head shape entries
    exact ⟨shape.kind, drawn, (view succeeds).symm, graph⟩

theorem Shows.descends_iff {g : Graph} {lineOf : Int → Int} {item other : Item}
    {drawn inner : Forest Item} {n : Nat}
    (shown : g.Shows (item.row lineOf 0) (rowsOf lineOf (drawn.number 1)))
    (has : ((Forest.cons item drawn .nil).number 0).Has (other, n) (inner.number (n + 1)))
    (row : Row) :
    g.Descends (other.row lineOf n) row ↔
      row ∈ g.rows ∧ ∃ k : Nat, row.id = .int k ∧ n ≤ k ∧ k < n + (inner.size + 1) := by
  have agrees := shown.agrees_children
  have whole : Forest.cons (item.row lineOf 0) (rowsOf lineOf (drawn.number 1)) .nil =
      ((Forest.cons item drawn .nil).number 0).map fun numbered =>
        numbered.1.row lineOf numbered.2 := rfl
  have rows : g.rows = ((Forest.cons item drawn .nil).number 0).flatten.map fun numbered =>
      numbered.1.row lineOf numbered.2 := by
    rw [shown.rows, ← Forest.flatten_map, ← whole]
    simp [Forest.flatten]
  rw [whole] at agrees
  have reaches := Forest.reflTransGen_iff (b := row) agrees
    (has.map fun numbered => numbered.1.row lineOf numbered.2)
  rw [Forest.flatten_map, ← map_cons (f := fun numbered : Item × Nat =>
    numbered.1.row lineOf numbered.2) (a := (other, n))] at reaches
  refine reaches.trans ⟨fun member => ?_, ?_⟩
  · obtain ⟨numbered, below, rfl⟩ := mem_map.1 member
    obtain ⟨found, bounds⟩ := has.mem_iff.1 below
    exact ⟨rows ▸ mem_map_of_mem found, numbered.2, Item.row_id .., bounds⟩
  · rintro ⟨member, k, id, bounds⟩
    rw [rows] at member
    obtain ⟨numbered, found, rfl⟩ := mem_map.1 member
    rw [Item.row_id] at id
    -- The number tells the row, whatever else is in it.
    have same : (numbered.2 : Int) = k := Json.int.inj id
    exact mem_map_of_mem (has.mem_iff.2 ⟨found, by omega⟩)

/-- The rows of an element of a scanned graph and of all below it have ids that follow each other,
and the part of the graph with these ids is the graph of the scan of the tree node behind the
element, if ids are counted from the element. -/
theorem scan_part (file : Json) (source : Option String) (lines : Bool) (t : Tree)
    (typed : ∀ u ∈ t.walk, u.shape.isSome) :
    let empty := ofSource file source lines
    let g := (empty.scan t).1
    ∀ row ∈ g.rows, row.type = .element → ∃ (top size : Nat) (u : Tree),
      row.id = .int top ∧ g.treeOf? row.id = some u ∧ top + size ≤ g.rows.length ∧
      (∀ other, g.Descends row other ↔
        other ∈ g.rows ∧ ∃ n : Nat, other.id = .int n ∧ top ≤ n ∧ n < top + size) ∧
      (empty.scan u).2 = .ok () ∧ g.part top size = (empty.scan u).1 := by
  intro empty g row member isElement
  obtain ⟨kind, below, view, graph⟩ := scan_eq_grow file source lines typed
  have shown : g.Shows _ _ := graph ▸ shows_grow rfl _ below
  have rows : g.rows = _ := (congrArg Graph.rows graph).trans (rows_withRoot_grow ..)
  have trees : g.trees = _ := (congrArg Graph.trees graph).trans (trees_withRoot_grow ..)
  have distinct := trees_distinct trees
  rw [← Forest.flatten_number] at rows trees
  rw [rows] at member
  obtain ⟨⟨item, n⟩, found, rfl⟩ := mem_map.1 member
  cases item with
  | holder accessor start stop => cases isElement
  | element kindU u =>
    obtain ⟨numbered, hasNumbered⟩ := Forest.exists_has found
    obtain ⟨inner, has, rfl⟩ := hasNumbered.of_number
    rw [← view] at has
    -- The element is drawn as the view of its own tree node, which is typed, too.
    have written : u ∈ t.written := by
      rw [← trees_view t (typed t t.mem_walk_self)]
      exact mem_filterMap.2 ⟨_, has.mem_flatten mem_cons_self, rfl⟩
    have typedU : ∀ v ∈ u.walk, v.shape.isSome := fun v met =>
      typed v (Tree.walk_subset (t.written_subset_walk written) met)
    obtain ⟨_, _, viewU, graphU⟩ := scan_eq_grow file source lines typedU
    cases viewU.symm.trans (view_of_has t has)
    refine ⟨n, inner.size + 1, u, rfl, ?_, ?_, shown.descends_iff hasNumbered,
      scan_ok rfl typedU, ?_⟩
    · refine treeOf?_of_mem distinct ?_
      rw [trees]
      exact mem_filterMap.2 ⟨_, found, rfl⟩
    · have bound := hasNumbered.le_size
      rw [Nat.zero_add] at bound
      rwa [rows, length_map, Forest.length_flatten, Forest.size_number]
    · rw [graphU, ← part_grow rfl hasNumbered, ← graph]

/-- The call in the sum is drawn behind the sum and its first holder, with its selector and its two
arguments. -/
theorem scan_part_sampleSum :
    (∀ u ∈ sampleSum.walk, u.shape.isSome) ∧
      let g := ((ofSource .null none false).scan sampleSum).1
      ∃ u, g.treeOf? (.int 2) = some u ∧ u.kind? = some "METHOD_INVOCATION" ∧
        g.part 2 6 = ((ofSource .null none false).scan u).1 := by
  have typed : ∀ u ∈ sampleSum.walk, u.shape.isSome := by decide
  refine ⟨typed, ?_⟩
  intro g
  have drawn : ∃ row ∈ g.rows, row.type = .element ∧ row.id = .int 2 := by decide +kernel
  have facts : (g.treeOf? (.int 2)).map (fun u =>
      (u.kind?, ((ofSource .null none false).scan u).1.nextId)) =
        some (some "METHOD_INVOCATION", .int 6) := by
    decide +kernel
  obtain ⟨row, member, isElement, second⟩ := drawn
  obtain ⟨top, size, u, id, behind, -, -, -, same⟩ :=
    scan_part .null none false sampleSum typed row member isElement
  rw [second] at id behind
  have two : (2 : Int) = top := Json.int.inj id
  rw [behind] at facts
  obtain ⟨kind, next⟩ := Prod.mk.inj (Option.some.inj facts)
  have six : (size : Int) = 6 := Json.int.inj ((congrArg Graph.nextId same).trans next)
  obtain rfl : top = 2 := by omega
  obtain rfl : size = 6 := by omega
  exact ⟨u, behind, kind, same⟩

end Graph

end SyntaxGraph
