import SyntaxGraph.Json.Real
import SyntaxGraph.Text.Half

/-!
# JSON values

Objects keep the order of their fields. Values built by this library never repeat a key. A string
that escapes spell may hold halves of pairs; it is no text then, so there is a kind of its own for
such strings, and one for objects with such keys.
-/
namespace SyntaxGraph

inductive Json
  | null
  | bool (value : Bool)
  | int (value : Int)
  | real (value : Json.Real)
  | str (value : String)
  /-- A string that holds half a pair. -/
  | broken (codes : List Text.CodePoint)
  | arr (items : List Json)
  | obj (fields : List (String × Json))
  /-- An object of which a key holds half a pair. -/
  | brokenObj (fields : List (List Text.CodePoint × Json))
deriving Inhabited

namespace Json

mutual

def decEq : (a b : Json) → Decidable (a = b)
  | .null, b => match b with
    | .null => isTrue rfl
    | .bool _ | .int _ | .real _ | .str _ | .broken _ | .arr _ | .obj _
    | .brokenObj _ => isFalse nofun
  | .bool x, b => match b with
    | .bool y => if h : x = y then isTrue (h ▸ rfl) else isFalse (by simp [h])
    | .null | .int _ | .real _ | .str _ | .broken _ | .arr _ | .obj _
    | .brokenObj _ => isFalse nofun
  | .int x, b => match b with
    | .int y => if h : x = y then isTrue (h ▸ rfl) else isFalse (by simp [h])
    | .null | .bool _ | .real _ | .str _ | .broken _ | .arr _ | .obj _
    | .brokenObj _ => isFalse nofun
  | .real x, b => match b with
    | .real y => if h : x = y then isTrue (h ▸ rfl) else isFalse (by simp [h])
    | .null | .bool _ | .int _ | .str _ | .broken _ | .arr _ | .obj _
    | .brokenObj _ => isFalse nofun
  | .str x, b => match b with
    | .str y => if h : x = y then isTrue (h ▸ rfl) else isFalse (by simp [h])
    | .null | .bool _ | .int _ | .real _ | .broken _ | .arr _ | .obj _
    | .brokenObj _ => isFalse nofun
  | .broken x, b => match b with
    | .broken y => if h : x = y then isTrue (h ▸ rfl) else isFalse (by simp [h])
    | .null | .bool _ | .int _ | .real _ | .str _ | .arr _ | .obj _
    | .brokenObj _ => isFalse nofun
  | .arr xs, b => match b with
    | .arr ys => match decEqItems xs ys with
      | isTrue h => isTrue (h ▸ rfl)
      | isFalse h => isFalse (by simp [h])
    | .null | .bool _ | .int _ | .real _ | .str _ | .broken _ | .obj _
    | .brokenObj _ => isFalse nofun
  | .obj xs, b => match b with
    | .obj ys => match decEqFields xs ys with
      | isTrue h => isTrue (h ▸ rfl)
      | isFalse h => isFalse (by simp [h])
    | .null | .bool _ | .int _ | .real _ | .str _ | .broken _ | .arr _
    | .brokenObj _ => isFalse nofun
  | .brokenObj xs, b => match b with
    | .brokenObj ys => match decEqBroken xs ys with
      | isTrue h => isTrue (h ▸ rfl)
      | isFalse h => isFalse (by simp [h])
    | .null | .bool _ | .int _ | .real _ | .str _ | .broken _ | .arr _
    | .obj _ => isFalse nofun

def decEqItems : (a b : List Json) → Decidable (a = b)
  | [], [] => isTrue rfl
  | [], _ :: _ => isFalse nofun
  | _ :: _, [] => isFalse nofun
  | x :: xs, y :: ys => match decEq x y with
    | isFalse h => isFalse (by simp [h])
    | isTrue h => match decEqItems xs ys with
      | isTrue t => isTrue (by rw [h, t])
      | isFalse t => isFalse (by simp [t])

def decEqFields : (a b : List (String × Json)) → Decidable (a = b)
  | [], [] => isTrue rfl
  | [], _ :: _ => isFalse nofun
  | _ :: _, [] => isFalse nofun
  | (k, x) :: xs, (l, y) :: ys =>
    if e : k = l then
      match decEq x y with
      | isFalse h => isFalse (by simp [h])
      | isTrue h => match decEqFields xs ys with
        | isTrue t => isTrue (by rw [e, h, t])
        | isFalse t => isFalse (by simp [t])
    else isFalse (by simp [e])

def decEqBroken : (a b : List (List Text.CodePoint × Json)) → Decidable (a = b)
  | [], [] => isTrue rfl
  | [], _ :: _ => isFalse nofun
  | _ :: _, [] => isFalse nofun
  | (k, x) :: xs, (l, y) :: ys =>
    if e : k = l then
      match decEq x y with
      | isFalse h => isFalse (by simp [h])
      | isTrue h => match decEqBroken xs ys with
        | isTrue t => isTrue (by rw [e, h, t])
        | isFalse t => isFalse (by simp [t])
    else isFalse (by simp [e])

end

instance : DecidableEq Json := decEq

def ofCodePoints (codes : List Text.CodePoint) : Json :=
  match Text.ofCodePoints? codes with
  | some text => .str text
  | none => .broken codes

/-- Sets a key: a key that is there keeps its place, a new one goes to the end. -/
def insert {κ : Type} [DecidableEq κ] (fields : List (κ × Json)) (key : κ) (value : Json) :
    List (κ × Json) :=
  match fields with
  | [] => [(key, value)]
  | (k, v) :: rest => if k = key then (k, value) :: rest else (k, v) :: insert rest key value

def wholeField? (field : List Text.CodePoint × Json) : Option (String × Json) :=
  (Text.ofCodePoints? field.1).map fun key => (key, field.2)

def ofFields (fields : List (List Text.CodePoint × Json)) : Json :=
  match fields.mapM wholeField? with
  | some fields => .obj fields
  | none => .brokenObj fields

/-- The fields of an object whose keys are texts. -/
def fields? : Json → Option (List (String × Json))
  | .obj fields => some fields
  -- Keys that hold half a pair cannot be asked for.
  | .brokenObj fields => some (fields.filterMap wholeField?)
  | _ => none

def field? (value : Json) (key : String) : Option Json :=
  value.fields?.bind (·.lookup key)

/-- Whether a value counts as true where a condition is asked for: `null`, `false`, zero and
everything empty do not. -/
def isTruthy : Json → Bool
  | .null => false
  | .bool value => value
  | .int value => value ≠ 0
  | .real value => value.isNonzero
  | .str value => value ≠ ""
  | .broken codes => !codes.isEmpty
  | .arr items => !items.isEmpty
  | .obj fields => !fields.isEmpty
  | .brokenObj fields => !fields.isEmpty

/-- The integer a value stands for: truth values count as one and zero. -/
def toInt? : Json → Option Int
  | .int value => some value
  | .bool value => some (if value then 1 else 0)
  | .real value => value.toInt?
  | _ => none

/-- What a value gives when it is gone through: the items of an array, the keys of an object, the
characters of a text. -/
def members? : Json → Option (List Json)
  | .arr items => some items
  | .obj fields => some (fields.map fun field => .str field.1)
  | .brokenObj fields => some (fields.map fun field => ofCodePoints field.1)
  | .str text => some (text.toList.map fun c => .str (String.singleton c))
  | .broken codes => some (codes.map fun code => ofCodePoints [code])
  | .null | .bool _ | .int _ | .real _ => none

end Json

end SyntaxGraph
