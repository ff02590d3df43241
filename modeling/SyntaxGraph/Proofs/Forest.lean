import Mathlib.Data.List.Basic
import Mathlib.Data.List.Nodup

/-!
# Ordered forests

A forest is empty, or it starts with a tree: a label, the forest below it, and the trees that
follow. Graphs that hang together as trees are described by the forest of their rows.
-/
namespace SyntaxGraph

open List

/-- An ordered forest: the label of the first tree, what hangs below it, and the other trees. -/
inductive Forest (α : Type)
  | nil
  | cons (label : α) (below rest : Forest α)
deriving DecidableEq

namespace Forest

variable {α β γ : Type} {parent : α} {f : Forest α} {link : α × α}

/-- Puts the trees of one forest behind those of another. -/
def append : Forest α → Forest α → Forest α
  | .nil, other => other
  | .cons a below rest, other => .cons a below (rest.append other)

def size : Forest α → Nat
  | .nil => 0
  | .cons _ below rest => below.size + rest.size + 1

/-- The labels in pre-order. -/
def flatten : Forest α → List α
  | .nil => []
  | .cons a below rest => a :: (below.flatten ++ rest.flatten)

/-- The labels of the trees themselves, without what hangs below. -/
def roots : Forest α → List α
  | .nil => []
  | .cons a _ rest => a :: rest.roots

/-- The pairs of a label and one right below it, in pre-order of the latter; the trees themselves
hang below `parent`. -/
def links (parent : α) : Forest α → List (α × α)
  | .nil => []
  | .cons a below rest => (parent, a) :: (below.links a ++ rest.links parent)

/-- Changes every label. -/
def map (f : α → β) : Forest α → Forest β
  | .nil => .nil
  | .cons a below rest => .cons (f a) (below.map f) (rest.map f)

/-- Numbers the nodes in pre-order from `next` on. -/
def number (next : Nat) : Forest α → Forest (α × Nat)
  | .nil => .nil
  | .cons a below rest =>
    .cons (a, next) (below.number (next + 1)) (rest.number (next + 1 + below.size))

@[simp]
theorem nil_append (f : Forest α) : (nil : Forest α).append f = f := rfl

@[simp]
theorem append_nil (f : Forest α) : f.append .nil = f := by
  induction f with
  | nil => rfl
  | cons a below rest _ ih => simp only [append, ih]

@[simp]
theorem size_append (f g : Forest α) : (f.append g).size = f.size + g.size := by
  induction f with
  | nil => simp [append, size]
  | cons a below rest _ ih =>
    simp only [append, size, ih]
    omega

@[simp]
theorem length_flatten (f : Forest α) : f.flatten.length = f.size := by
  induction f with
  | nil => rfl
  | cons a below rest ihBelow ihRest =>
    simp only [flatten, size, length_cons, length_append, ihBelow, ihRest]

@[simp]
theorem flatten_map (g : α → β) (f : Forest α) : (f.map g).flatten = f.flatten.map g := by
  induction f with
  | nil => rfl
  | cons a below rest ihBelow ihRest => simp [map, flatten, ihBelow, ihRest]

@[simp]
theorem map_map (h : β → γ) (g : α → β) (f : Forest α) : (f.map g).map h = f.map (h ∘ g) := by
  induction f with
  | nil => rfl
  | cons a below rest ihBelow ihRest => simp [map, ihBelow, ihRest]

theorem links_map (g : α → β) (parent : α) (f : Forest α) :
    (f.map g).links (g parent) = (f.links parent).map fun link => (g link.1, g link.2) := by
  induction f generalizing parent with
  | nil => rfl
  | cons a below rest ihBelow ihRest => simp [map, links, ihBelow, ihRest]

@[simp]
theorem map_fst_number (next : Nat) (f : Forest α) : (f.number next).map Prod.fst = f := by
  induction f generalizing next with
  | nil => rfl
  | cons a below rest ihBelow ihRest => simp only [number, map, ihBelow, ihRest]

@[simp]
theorem size_number (next : Nat) (f : Forest α) : (f.number next).size = f.size := by
  induction f generalizing next with
  | nil => rfl
  | cons a below rest ihBelow ihRest => simp only [number, size, ihBelow, ihRest]

theorem number_append (next : Nat) (f g : Forest α) :
    (f.append g).number next = (f.number next).append (g.number (next + f.size)) := by
  induction f generalizing next with
  | nil => simp [append, number, size]
  | cons a below rest _ ih =>
    have place : next + 1 + below.size + rest.size = next + (below.size + rest.size + 1) := by omega
    simp only [append, number, size, ih, place]

/-- In pre-order the numbers are consecutive. -/
theorem flatten_number (next : Nat) (f : Forest α) :
    (f.number next).flatten = f.flatten.zipIdx next := by
  induction f generalizing next with
  | nil => rfl
  | cons a below rest ihBelow ihRest =>
    simp only [number, flatten, zipIdx_cons, zipIdx_append, length_flatten, ihBelow, ihRest]

/-- Each node is at the far end of exactly one link. -/
theorem links_map_snd (parent : α) (f : Forest α) : (f.links parent).map Prod.snd = f.flatten := by
  induction f generalizing parent with
  | nil => rfl
  | cons a below rest ihBelow ihRest => simp [links, flatten, ihBelow, ihRest]

/-- A link starts at a node of the forest or at its parent. -/
theorem fst_mem_of_mem_links (member : link ∈ f.links parent) : link.1 ∈ parent :: f.flatten := by
  induction f generalizing parent with
  | nil => simp [links] at member
  | cons a below rest ihBelow ihRest =>
    simp only [links, mem_cons, mem_append] at member
    simp only [flatten, mem_cons, mem_append]
    rcases member with rfl | member | member
    · exact .inl rfl
    · have found := ihBelow member
      simp only [mem_cons] at found
      tauto
    · have found := ihRest member
      simp only [mem_cons] at found
      tauto

theorem snd_mem_of_mem_links (member : link ∈ f.links parent) : link.2 ∈ f.flatten := by
  rw [← links_map_snd parent]
  exact mem_map_of_mem member

/-- The near end of a link comes before its far end in pre-order. -/
theorem rel_of_mem_links {R : α → α → Prop} (sorted : (parent :: f.flatten).Pairwise R)
    (member : link ∈ f.links parent) : R link.1 link.2 := by
  induction f generalizing parent with
  | nil => simp [links] at member
  | cons a below rest ihBelow ihRest =>
    simp only [flatten, pairwise_cons, pairwise_append, mem_cons, mem_append] at sorted
    simp only [links, mem_cons, mem_append] at member
    obtain ⟨after, afterLabel, sortedBelow, sortedRest, -⟩ := sorted
    rcases member with rfl | member | member
    · exact after a (.inl rfl)
    · refine ihBelow (pairwise_cons.2 ⟨?_, sortedBelow⟩) member
      exact fun b found => afterLabel b (.inl found)
    · refine ihRest (pairwise_cons.2 ⟨?_, sortedRest⟩) member
      exact fun b found => after b (.inr (.inr found))

/-! ### Links by their near ends -/

variable [DecidableEq β] (key : α → β)

/-- Of the links below a label that stands nowhere in the forest, those from the label lead to the
trees themselves. -/
theorem filter_links_parent (outside : ∀ a ∈ f.flatten, key a ≠ key parent) :
    ((f.links parent).filter fun link => key link.1 = key parent).map Prod.snd = f.roots := by
  induction f with
  | nil => rfl
  | cons a below rest ihBelow ihRest =>
    simp only [flatten, mem_cons, mem_append] at outside
    -- Inside the first tree no link starts at the parent.
    have inner : (below.links a).filter (fun link => key link.1 = key parent) = [] := by
      rw [filter_eq_nil_iff]
      intro link member
      have found := fst_mem_of_mem_links member
      simp only [mem_cons] at found
      simpa using outside link.1 (by tauto)
    simp only [links, filter_cons, filter_append, inner, decide_true, if_true,
      List.nil_append, List.map_cons, roots]
    rw [ihRest fun b member => outside b (.inr (.inr member))]

/-- No link starts at a label that is neither in the forest nor its parent. -/
theorem filter_links_outside (parent : α) (f : Forest α) {a : α}
    (outside : ∀ b ∈ parent :: f.flatten, key b ≠ key a) :
    (f.links parent).filter (fun link => key link.1 = key a) = [] := by
  rw [filter_eq_nil_iff]
  intro link member
  simpa using outside link.1 (fst_mem_of_mem_links member)

/-! ### Unfolding -/

/-- Unfolds a relation between labels and those below them, to a depth. -/
def unfold (children : α → List α) : Nat → List α → Forest α
  | 0, _ => .nil
  | depth + 1, labels =>
    labels.foldr (fun a rest => .cons a (unfold children depth (children a)) rest) .nil

/-- Whether `children` tells for every node of the forest what is right below it. -/
def Agrees (children : α → List α) : Forest α → Prop
  | .nil => True
  | .cons a below rest => children a = below.roots ∧ below.Agrees children ∧ rest.Agrees children

omit [DecidableEq β] in
/-- A forest is what its relation unfolds to, once the depth suffices. -/
theorem unfold_roots {children : α → List α} (agrees : f.Agrees children) (depth : Nat)
    (enough : f.size ≤ depth) : unfold children depth f.roots = f := by
  induction f generalizing depth with
  | nil => cases depth <;> rfl
  | cons a below rest ihBelow ihRest =>
    obtain ⟨here, inBelow, inRest⟩ := agrees
    simp only [size] at enough
    obtain ⟨depth, rfl⟩ : ∃ d, depth = d + 1 := ⟨depth - 1, by omega⟩
    have others := ihRest inRest (depth + 1) (by omega)
    rw [unfold] at others
    rw [roots, unfold, foldr_cons, others, here, ihBelow inBelow depth (by omega)]

/-- Where keys are distinct, the links by their near ends tell what is right below each node. The
links may be some among others that start elsewhere. -/
theorem agrees_links (parent : α) (f : Forest α) {among : List (α × α)}
    (distinct : (parent :: f.flatten).Pairwise fun a b => key a ≠ key b)
    (same : ∀ a ∈ f.flatten, among.filter (fun link => key link.1 = key a) =
      (f.links parent).filter fun link => key link.1 = key a) :
    f.Agrees fun a => (among.filter fun link => key link.1 = key a).map Prod.snd := by
  induction f generalizing parent with
  | nil => trivial
  | cons x below rest ihBelow ihRest =>
    simp only [flatten, pairwise_cons, pairwise_append, mem_cons, mem_append] at distinct same
    obtain ⟨notParent, notLabel, apartBelow, apartRest, apart⟩ := distinct
    -- Apart from the link to the first label, links are below it or in the rest.
    have step (a : α) (other : key a ≠ key parent) :
        ((Forest.cons x below rest).links parent).filter (fun link => key link.1 = key a) =
          (below.links x).filter (fun link => key link.1 = key a) ++
            (rest.links parent).filter (fun link => key link.1 = key a) := by
      simp [links, other.symm]
    refine ⟨?_, ihBelow x ?_ ?_, ihRest parent ?_ ?_⟩
    · -- The links from the first label are all below it.
      show (among.filter fun link => key link.1 = key x).map Prod.snd = below.roots
      rw [same x (.inl rfl), step x (notParent x (.inl rfl)).symm,
        filter_links_outside key parent rest, List.append_nil]
      · exact filter_links_parent key fun b member => (notLabel b (.inl member)).symm
      · intro b member
        rcases mem_cons.1 member with rfl | member
        · exact notParent x (.inl rfl)
        · exact (notLabel b (.inr member)).symm
    · exact pairwise_cons.2 ⟨fun b member => notLabel b (.inl member), apartBelow⟩
    · intro a member
      rw [same a (.inr (.inl member)), step a (notParent a (.inr (.inl member))).symm,
        filter_links_outside key parent rest, List.append_nil]
      intro b found
      rcases mem_cons.1 found with rfl | found
      · exact notParent a (.inr (.inl member))
      · exact (apart a member b found).symm
    · exact pairwise_cons.2 ⟨fun b member => notParent b (.inr (.inr member)), apartRest⟩
    · intro a member
      rw [same a (.inr (.inr member)), step a (notParent a (.inr (.inr member))).symm,
        filter_links_outside key x below, List.nil_append]
      intro b found
      rcases mem_cons.1 found with rfl | found
      · exact notLabel a (.inr member)
      · exact apart b found a member

end Forest

end SyntaxGraph
