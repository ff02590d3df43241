import SyntaxGraph.Java.Lowering.Basic
import SyntaxGraph.Proofs.Parse

/-!
# Parse trees without comments

Comments are deleted from a parse tree, with all that lies below them. What is looked for among the
parts of a node is found after the deletion if it was found before, and has itself lost its
comments.

Deletion is stated for any sort of marks, since comments that have no field are easier to reason
about than comments: where all comments are without a field, the two are the same.
-/
namespace SyntaxGraph

open List

namespace ParseTree

variable {α : Type}

mutual

/-- The tree without the nodes below its root whose marks are of the given sort. -/
def without (gone : Mark → Bool) : ParseTree α → ParseTree α
  | .node mark note children => .node mark note (withoutAll gone children)

/-- The trees without those of the given sort, and without such nodes in the others. -/
def withoutAll (gone : Mark → Bool) : List (ParseTree α) → List (ParseTree α)
  | [] => []
  | part :: rest =>
    if gone part.mark then withoutAll gone rest
    else part.without gone :: withoutAll gone rest

end

/-- The tree without the comments below its root. -/
def withoutComments (tree : ParseTree α) : ParseTree α := tree.without Mark.isComment

variable {gone other : Mark → Bool} {parts : List (ParseTree α)} {fits : ParseTree α → Bool}

@[simp]
theorem mark_without (part : ParseTree α) : (part.without gone).mark = part.mark := by
  cases part
  rfl

@[simp]
theorem note_without (part : ParseTree α) : (part.without gone).note = part.note := by
  cases part
  rfl

@[simp]
theorem children_without (part : ParseTree α) :
    (part.without gone).children = withoutAll gone part.children := by
  cases part
  rfl

@[simp]
theorem type_without (part : ParseTree α) : (part.without gone).type = part.type := by
  simp [type]

@[simp]
theorem isContent_without (part : ParseTree α) :
    (part.without gone).isContent = part.isContent := by
  simp [isContent]

@[simp]
theorem withoutAll_nil : withoutAll gone ([] : List (ParseTree α)) = [] := by
  rw [withoutAll]

theorem withoutAll_eq (parts : List (ParseTree α)) :
    withoutAll gone parts = (parts.filter fun part => !gone part.mark).map (without gone) := by
  induction parts with
  | nil => simp
  | cons part rest ih =>
    rw [withoutAll]
    split
    next deleted => simp [deleted, ih]
    next kept => simp [kept, ih]

/-- Parts that are kept are found among those that are left. -/
theorem filter_withoutAll (same : ∀ part, fits (part.without gone) = fits part)
    (kept : ∀ part, fits part = true → gone part.mark = false) :
    (withoutAll gone parts).filter fits = (parts.filter fits).map (without gone) := by
  have unchanged : fits ∘ without gone = fits := funext same
  rw [withoutAll_eq, filter_map, unchanged, filter_filter]
  congr 1
  refine filter_congr fun part _ => ?_
  cases chosen : fits part with
  | false => simp
  | true => simp [kept part chosen]

theorem find?_withoutAll (same : ∀ part, fits (part.without gone) = fits part)
    (kept : ∀ part, fits part = true → gone part.mark = false) :
    (withoutAll gone parts).find? fits = (parts.find? fits).map (without gone) := by
  rw [← head?_filter, filter_withoutAll same kept, head?_map, head?_filter]

/-- Parts are chosen before or after the deletion alike. -/
theorem filter_withoutAll_comm (same : ∀ part, fits (part.without gone) = fits part) :
    (withoutAll gone parts).filter fits = withoutAll gone (parts.filter fits) := by
  have unchanged : fits ∘ without gone = fits := funext same
  rw [withoutAll_eq, withoutAll_eq, filter_map, unchanged, filter_filter, filter_filter]
  simp only [Bool.and_comm]

theorem head?_withoutAll (kept : ∀ part ∈ parts.head?, gone part.mark = false) :
    (withoutAll gone parts).head? = parts.head?.map (without gone) := by
  cases parts with
  | nil => simp
  | cons part rest =>
    have stays : gone part.mark = false := kept part rfl
    simp [withoutAll, stays]

theorem getLast?_withoutAll (kept : ∀ part ∈ parts.getLast?, gone part.mark = false) :
    (withoutAll gone parts).getLast? = parts.getLast?.map (without gone) := by
  obtain rfl | ⟨before, part, rfl⟩ := eq_nil_or_concat parts
  · simp
  · have stays : gone part.mark = false := kept part (by simp)
    simp [withoutAll_eq, stays]

@[simp]
theorem parts_map_without (part : Option (ParseTree α)) :
    ParseTree.parts (part.map (without gone)) = withoutAll gone (ParseTree.parts part) := by
  cases part <;> simp [ParseTree.parts]

mutual

/-- What is deleted depends on the marks in the tree only. -/
theorem without_congr (tree : ParseTree α)
    (alike : ∀ node ∈ tree.nodes, ∀ m ∈ node.childMarks, gone m = other m) :
    tree.without gone = tree.without other := by
  match tree with
  | .node mark note children =>
    obtain ⟨here, below⟩ := forall_nodes_iff.1 alike
    rw [without, without, withoutAll_congr children here below]

theorem withoutAll_congr (trees : List (ParseTree α))
    (here : ∀ m ∈ trees.map mark, gone m = other m)
    (below : ∀ node ∈ allNodes trees, ∀ m ∈ node.childMarks, gone m = other m) :
    withoutAll gone trees = withoutAll other trees := by
  match trees with
  | [] => simp
  | tree :: rest =>
    obtain ⟨first, later⟩ := forall_mem_cons.1 here
    obtain ⟨inside, behind⟩ := forall_allNodes_cons.1 below
    rw [withoutAll, withoutAll, first, without_congr tree inside,
      withoutAll_congr rest later behind]

end

/-! ### Comments without a field -/

end ParseTree

/-- Whether the node is a comment and under no field. -/
def Mark.isLoose (mark : Mark) : Bool := mark.isComment && mark.field.isNone

namespace ParseTree

variable {α : Type} (parts : List (ParseTree α))

@[simp]
theorem field?_withoutAll (name : String) :
    field? (withoutAll Mark.isLoose parts) name = (field? parts name).map (without Mark.isLoose) :=
  find?_withoutAll (by simp) (by simp +contextual [Mark.isLoose])

@[simp]
theorem fields_withoutAll (name : String) :
    fields (withoutAll Mark.isLoose parts) name = (fields parts name).map (without Mark.isLoose) :=
  filter_withoutAll (by simp) (by simp +contextual [Mark.isLoose])

@[simp]
theorem contents_withoutAll :
    contents (withoutAll Mark.isLoose parts) = (contents parts).map (without Mark.isLoose) :=
  filter_withoutAll (by simp) (by simp +contextual [Mark.isLoose, isContent])

/-- A part of a type that no comment has is no comment. -/
theorem isLoose_of_type {part : ParseTree α} {type : String} (here : part.type = type)
    (uncommon : type ∉ commentTypes) : part.mark.isLoose = false := by
  subst here
  simp [Mark.isLoose, Mark.isComment, show part.mark.type ∉ commentTypes from uncommon]

@[simp]
theorem ofType?_withoutAll {type : String} (uncommon : type ∉ commentTypes) :
    ofType? (withoutAll Mark.isLoose parts) type =
      (ofType? parts type).map (without Mark.isLoose) :=
  find?_withoutAll (by simp) fun _ fits => isLoose_of_type (by simpa using fits) uncommon

end ParseTree

end SyntaxGraph
