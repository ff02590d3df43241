import SyntaxGraph.Json.Basic
import SyntaxGraph.Text.Tails

/-!
# Comparing values

Numbers are compared by what they are worth, whatever their form: `1`, `1.0` and `true` are the
same key. Two values count as the same exactly if they have the same normal form.
-/
namespace SyntaxGraph.Json

def sortFields (fields : List (String × Json)) : List (String × Json) :=
  fields.mergeSort fun a b => decide (a.1 ≤ b.1)

/-- The fields of an object with broken keys in the order of the codes of their keys. -/
def sortBroken (fields : List (List Text.CodePoint × Json)) : List (List Text.CodePoint × Json) :=
  fields.mergeSort fun a b => !(b.1.map (·.code)).lex (a.1.map (·.code)) (fun m n => m < n)

mutual

/-- The normal form of a value: numbers without a fraction are integers, truth values are one and
zero, and the fields of objects are sorted. -/
def normal : Json → Json
  | .null => .null
  -- True is the same key as one.
  | .bool value => .int (if value then 1 else 0)
  | .int value => .int value
  | .real value =>
    match value.toInt? with
    | some n => .int n
    | none => .real value
  | .str value => .str value
  | .broken codes => .broken codes
  | .arr items => .arr (normalItems items)
  | .obj fields => .obj (sortFields (normalFields fields))
  | .brokenObj fields => .brokenObj (sortBroken (normalBroken fields))

def normalItems : List Json → List Json
  | [] => []
  | item :: rest => normal item :: normalItems rest

def normalFields : List (String × Json) → List (String × Json)
  | [] => []
  | (key, value) :: rest => (key, normal value) :: normalFields rest

def normalBroken : List (List Text.CodePoint × Json) → List (List Text.CodePoint × Json)
  | [] => []
  | (key, value) :: rest => (key, normal value) :: normalBroken rest

end

/-- Whether two values are the same key. -/
def same (a b : Json) : Bool :=
  decide (a.normal = b.normal)

@[simp]
theorem same_self (a : Json) : a.same a = true := by
  simp [same]

theorem same_comm (a b : Json) : a.same b = b.same a := by
  simp [same, eq_comm]

theorem same_trans {a b c : Json} (first : a.same b = true) (second : b.same c = true) :
    a.same c = true := by
  simp_all [same]

@[simp]
theorem same_int (a b : Int) : (Json.int a).same (.int b) = decide (a = b) := by
  simp [same, normal]

/-- Whether two values are equal: as keys, except that the value that is no number equals
nothing. -/
def equals (a b : Json) : Bool :=
  a.same b && decide (a ≠ .real .nan)

/-- Whether a value can be a key; arrays and objects cannot. -/
def isKey : Json → Bool
  | .arr _ | .obj _ | .brokenObj _ => false
  | _ => true

inductive Worth
  | ratio (num : Int) (den : Nat)
  | infinity (negative : Bool)
  | nan
deriving DecidableEq

def Real.worth (value : Real) : Worth :=
  match value with
  | .nan => .nan
  | .infinity negative => .infinity negative
  | .finite negative digits exponent =>
    match Real.sizeOf digits exponent with
    | (num, den) => .ratio (if negative then -(num : Int) else num) den

/-- What a value is worth, if it counts as a number. -/
def worth? : Json → Option Worth
  | .int value => some (.ratio value 1)
  | .bool value => some (.ratio (if value then 1 else 0) 1)
  | .real value => some value.worth
  | .null | .str _ | .broken _ | .arr _ | .obj _ | .brokenObj _ => none

/-- Whether a number is worth less than another; never so where one is no number. -/
def Worth.lt : Worth → Worth → Bool
  | .nan, _ => false
  | _, .nan => false
  | .infinity a, .infinity b => a && !b
  | .infinity a, .ratio _ _ => a
  | .ratio _ _, .infinity b => !b
  -- Denominators are positive, so both sides may be multiplied by them.
  | .ratio a b, .ratio c d => decide (a * (d : Int) < c * (b : Int))

def codes? : Json → Option (List Nat)
  | .str text => some (text.toList.map Char.toNat)
  | .broken codes => some (codes.map Text.CodePoint.code)
  | _ => none

/-- Whether a value is less than another: numbers by their worth, strings by their codes. Other
values cannot be compared. -/
def lt? (a b : Json) : Option Bool :=
  match a.codes?, b.codes? with
  | some x, some y => some (decide (x < y))
  | _, _ => do
    let x ← a.worth?
    let y ← b.worth?
    return x.lt y

@[simp]
theorem lt?_int (a b : Int) : (Json.int a).lt? (.int b) = some (decide (a < b)) := by
  simp [lt?, codes?, worth?, Worth.lt]

/-- Whether a value holds a text: as an item of an array, as a key of an object, or as a part of a
string. Other values hold nothing and cannot be asked. -/
def holds? (value : Json) (text : String) : Option Bool :=
  match value with
  -- Items are compared as they are, not as keys.
  | .arr items => some (items.contains (.str text))
  | .obj fields => some (fields.lookup text).isSome
  | .brokenObj fields => some (fields.lookup (Text.codePoints text)).isSome
  | .str whole => some (Text.occursIn text.toList whole.toList)
  | .broken codes => some (Text.occursIn (Text.codePoints text) codes)
  | .null | .bool _ | .int _ | .real _ => none

/-- The value plus one, if it counts as a number. -/
def addOne? : Json → Option Json
  | .int value => some (.int (value + 1))
  | .bool value => some (.int (if value then 2 else 1))
  | .real value => some (.real value.addOne)
  | .null | .str _ | .broken _ | .arr _ | .obj _ | .brokenObj _ => none

/-- The number that comes so many steps of one after another. -/
def advance (start : Json) : Nat → Json
  | 0 => start
  | steps + 1 =>
    match start with
    -- Integers are counted at once; other numbers are rounded at each step.
    | .int value => .int (value + (steps + 1 : Nat))
    | other =>
      let before := advance other steps
      before.addOne?.getD before

@[simp]
theorem advance_int (value : Int) (steps : Nat) :
    advance (.int value) steps = .int (value + (steps : Int)) := by
  cases steps <;> simp [advance]

theorem advance_one (value : Json) : value.advance 1 = value.addOne?.getD value := by
  cases value <;> rfl

theorem advance_succ (start : Json) (steps : Nat) :
    (start.advance steps).advance 1 = start.advance (steps + 1) := by
  cases start with
  | int value => simp [Int.add_assoc]
  | _ => exact advance_one _

end SyntaxGraph.Json
