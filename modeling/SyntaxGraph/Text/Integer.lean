import SyntaxGraph.Text.Digit

/-!
# Integers as text

Blanks around the number, a sign, decimal digits of any script, and single underscores between
digits are accepted.
-/
namespace SyntaxGraph.Text

/-- Whether a character may stand around a number: the ASCII blanks without the four information
separators, and all blanks beyond ASCII. -/
def isNumberBlank (c : Char) : Bool :=
  if c.toNat < 128 then c = ' ' || (9 ≤ c.toNat && c.toNat ≤ 13) else isBlank c

/-- The value of digits with single underscores between them; `digits` counts those read. -/
def groupedDigits? (total digits : Nat) : List Char → Option (Nat × Nat)
  | [] => none
  | [c] => (digitValue? c).map fun d => (total * 10 + d, digits + 1)
  -- An underscore needs a digit on both sides.
  | c :: '_' :: rest => do
    let d ← digitValue? c
    groupedDigits? (total * 10 + d) (digits + 1) rest
  | c :: rest => do
    let d ← digitValue? c
    groupedDigits? (total * 10 + d) (digits + 1) rest

/-- Numbers with more digits than this are neither read nor written. -/
def maxDigits : Nat := 4300

def natural? (text : List Char) : Option Nat := do
  let (value, digits) ← groupedDigits? 0 0 text
  if digits ≤ maxDigits then return value else none

def integer? (text : String) : Option Int :=
  let trimmed := (text.toList.dropWhile isNumberBlank).reverse.dropWhile isNumberBlank |>.reverse
  match trimmed with
  | '-' :: rest => (natural? rest).map fun n => -(n : Int)
  | '+' :: rest => (natural? rest).map fun n => (n : Int)
  | rest => (natural? rest).map fun n => (n : Int)

end SyntaxGraph.Text
