import SyntaxGraph.Json.Comparison

/-!
# Tables whose keys are values

A table keeps its entries in the order in which their keys came. Keys that are the same value in
another form share one entry, which keeps the key that came first.
-/
namespace SyntaxGraph

abbrev Table (α : Type) := List (Json × α)

namespace Table

variable {α : Type}

def get? (table : Table α) (key : Json) : Option α :=
  (table.find? (·.1.same key)).map (·.2)

def has (table : Table α) (key : Json) : Bool :=
  (table.get? key).isSome

/-- Sets the entry of a key: an entry that is there keeps its place and its key, a new one goes to
the end. -/
def put (key : Json) (value : α) : Table α → Table α
  | [] => [(key, value)]
  -- The entry keeps the key that came first.
  | (k, v) :: rest => if k.same key then (k, value) :: rest else (k, v) :: put key value rest

def drop (table : Table α) (key : Json) : Table α :=
  table.filter fun entry => !entry.1.same key

/-! ### Entries -/

variable {table : Table α} {key other : Json} {value : α} {entry : Json × α}

theorem get?_cons : get? (entry :: table) key =
    if entry.1.same key then some entry.2 else table.get? key := by
  by_cases first : entry.1.same key <;> simp [get?, first]

theorem get?_congr (same : key.same other) : table.get? key = table.get? other := by
  have alike : key.normal = other.normal := by simpa [Json.same] using same
  simp only [get?, Json.same, alike]

/-- A key has the entry that was set last, and all other keys have what they had. -/
theorem get?_put : (put key value table).get? other =
    if key.same other then some value else table.get? other := by
  induction table with
  | nil => rw [put, get?_cons]
  | cons entry rest ih =>
    by_cases first : entry.1.normal = key.normal <;>
      by_cases here : key.normal = other.normal <;>
        simp_all [put, get?_cons, Json.same]

theorem get?_drop : (table.drop key).get? other =
    if key.same other then none else table.get? other := by
  induction table with
  | nil => simp [drop, get?]
  | cons entry rest ih =>
    rw [drop] at ih
    by_cases first : entry.1.normal = key.normal <;>
      by_cases here : key.normal = other.normal <;>
        simp_all [drop, get?_cons, Json.same]

theorem mem_of_mem_put (member : entry ∈ put key value table) :
    entry ∈ table ∨ entry.1.same key ∧ entry.2 = value := by
  induction table with
  | nil =>
    obtain rfl := List.mem_singleton.1 member
    exact .inr ⟨Json.same_self key, rfl⟩
  | cons first rest ih =>
    rw [put] at member
    split at member
    next same =>
      rcases List.mem_cons.1 member with rfl | later
      · exact .inr ⟨same, rfl⟩
      · exact .inl (List.mem_cons_of_mem _ later)
    next =>
      rcases List.mem_cons.1 member with rfl | later
      · exact .inl List.mem_cons_self
      · exact (ih later).imp_left (List.mem_cons_of_mem _)

/-! ### Keys -/

def keys (table : Table α) : List Json := table.map (·.1)

theorem keys_put : (put key value table).keys =
    if table.has key then table.keys else table.keys ++ [key] := by
  induction table with
  | nil => rfl
  | cons entry rest ih =>
    by_cases first : entry.1.same key
    · simp [put, keys, has, get?_cons, first]
    · rw [has] at ih
      simp only [keys] at ih
      simp only [put, keys, has, get?_cons, first, Bool.false_eq_true, if_false, List.map_cons, ih]
      split <;> rfl

theorem keys_drop : (table.drop key).keys = table.keys.filter fun k => !k.same key := by
  rw [keys, keys, drop, List.filter_map]
  rfl

theorem has_eq_false_iff : table.has key = false ↔ ∀ k ∈ table.keys, k.same key = false := by
  simp [has, get?, keys]

/-- Whether no two entries have the same key. -/
def IsDistinct (table : Table α) : Prop :=
  table.keys.Pairwise fun a b => a.same b = false

theorem IsDistinct.put (distinct : table.IsDistinct) : (put key value table).IsDistinct := by
  rw [IsDistinct, keys_put]
  split
  · exact distinct
  next absent =>
    rw [Bool.not_eq_true, has_eq_false_iff] at absent
    exact List.pairwise_append.2 ⟨distinct, List.pairwise_singleton _ _, by simpa using absent⟩

theorem IsDistinct.drop (distinct : table.IsDistinct) : (table.drop key).IsDistinct := by
  rw [IsDistinct, keys_drop]
  exact distinct.filter _

theorem IsDistinct.get?_of_mem (distinct : table.IsDistinct) (member : entry ∈ table) :
    table.get? entry.1 = some entry.2 := by
  induction table with
  | nil => simp at member
  | cons first rest ih =>
    obtain ⟨apart, later⟩ := List.pairwise_cons.1 distinct
    rcases List.mem_cons.1 member with rfl | member
    · simp [get?]
    · have passed := apart entry.1 (List.mem_map_of_mem member)
      simpa [get?, passed] using ih later member

end Table

end SyntaxGraph
