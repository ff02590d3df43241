import SyntaxGraph.Json.Printer
import SyntaxGraph.Text.Integer

/-!
# Documents

A document is a value in a file. Integers with too many digits cannot be written, and neither can
values that are nested too deep; writing stops there, and what was written before stays.
-/
namespace SyntaxGraph.Json

inductive Snag
  | hugeNumber
  | tooDeep
deriving DecidableEq

/-- How deep values may be nested in a document that is written. -/
def maxWrittenDepth : Nat := 990

/-- The least number with too many digits. Nothing but its definition is to compute it. -/
@[irreducible]
def leastHuge : Nat := Nat.pow 10 Text.maxDigits

mutual

/-- Whether a value can be written where there is room for so many brackets inside each other. -/
def isWritable (room : Nat) : Json → Bool
  | .int value => value.natAbs < leastHuge
  | .arr items => 0 < room && areWritable (room - 1) items
  | .obj fields => 0 < room && fieldsAreWritable (room - 1) fields
  | .brokenObj fields => 0 < room && brokenAreWritable (room - 1) fields
  | .null | .bool _ | .real _ | .str _ | .broken _ => true

def areWritable (room : Nat) : List Json → Bool
  | [] => true
  | item :: rest => isWritable room item && areWritable room rest

def fieldsAreWritable (room : Nat) : List (String × Json) → Bool
  | [] => true
  | (_, value) :: rest => isWritable room value && fieldsAreWritable room rest

def brokenAreWritable (room : Nat) : List (List Text.CodePoint × Json) → Bool
  | [] => true
  | (_, value) :: rest => isWritable room value && brokenAreWritable room rest

end

/-- A document that is being written: its text, the latest character first, and why writing
stopped. -/
structure Draft where
  reversed : List Char := []
  snag : Option Snag := none

namespace Draft

def add (text : List Char) (draft : Draft) : Draft :=
  if draft.snag.isSome then draft else { draft with reversed := text.reverseAux draft.reversed }

def stop (snag : Snag) (draft : Draft) : Draft :=
  if draft.snag.isSome then draft else { draft with snag := some snag }

def chars (draft : Draft) : List Char := draft.reversed.reverse

/-- Writes something in brackets, if there is room for it. What is inside begins with the opening
bracket. -/
def bracket (layout : Layout) (depth room : Nat) (first last : Char) (isEmpty : Bool)
    (inside : Nat → List Char → Draft → Draft) (draft : Draft) : Draft :=
  match room with
  | 0 => draft.stop .tooDeep
  | room + 1 =>
    if isEmpty then draft.add [first, last]
    else (inside room (first :: layout.gap (depth + 1)) draft).add (layout.gap depth ++ [last])

mutual

/-- Writes a value behind a draft. -/
def push (layout : Layout) (depth room : Nat) (before : List Char) (value : Json)
    (draft : Draft) : Draft :=
  match value with
  | .int value =>
    -- What stands in front of an integer is written together with it, or not at all.
    if value.natAbs < leastHuge then draft.add (before ++ scalarText (.int value))
    else draft.stop .hugeNumber
  | .arr items => (draft.add before).bracket layout depth room '[' ']' items.isEmpty
      fun room before => pushItems layout (depth + 1) room before items
  | .obj fields => (draft.add before).bracket layout depth room '\x7b' '\x7d' fields.isEmpty
      fun room before => pushFields layout (depth + 1) room before fields
  | .brokenObj fields => (draft.add before).bracket layout depth room '\x7b' '\x7d' fields.isEmpty
      fun room before => pushBroken layout (depth + 1) room before fields
  | .null => draft.add (before ++ scalarText .null)
  | .bool value => draft.add (before ++ scalarText (.bool value))
  | .real value => draft.add (before ++ scalarText (.real value))
  | .str value => draft.add (before ++ scalarText (.str value))
  | .broken codes => draft.add (before ++ scalarText (.broken codes))

def pushItems (layout : Layout) (depth room : Nat) (before : List Char) (items : List Json)
    (draft : Draft) : Draft :=
  match items with
  | [] => draft
  | item :: rest =>
    pushItems layout depth room (layout.comma depth) rest
      (push layout depth room before item draft)

def pushFields (layout : Layout) (depth room : Nat) (before : List Char)
    (fields : List (String × Json)) (draft : Draft) : Draft :=
  match fields with
  | [] => draft
  | (key, value) :: rest =>
    pushFields layout depth room (layout.comma depth) rest
      -- The key is written before the value is looked at, so it stays where the value cannot be
      -- written.
      (push layout depth room [] value (draft.add (before ++ quotedText key ++ [':', ' '])))

def pushBroken (layout : Layout) (depth room : Nat) (before : List Char)
    (fields : List (List Text.CodePoint × Json)) (draft : Draft) : Draft :=
  match fields with
  | [] => draft
  | (key, value) :: rest =>
    pushBroken layout depth room (layout.comma depth) rest
      (push layout depth room [] value (draft.add (before ++ quoted key ++ [':', ' '])))

end

end Draft

/-- The document that holds a value, as far as it can be written. -/
def draft (layout : Layout) (value : Json) : Draft :=
  -- A value that can be written needs no draft.
  if value.isWritable maxWrittenDepth then { reversed := (value.write layout 0 []).reverse }
  else Draft.push layout 0 maxWrittenDepth [] value {}

end SyntaxGraph.Json
