/-!
# Halves of pairs

In units of 16 bits, a character beyond the first plane is a pair of units. Half a pair on its own
is no character, but escapes and some encodings can spell it. A sequence of code points may hold
halves; it is a text only if it holds none.
-/
namespace SyntaxGraph.Text

/-- Whether a unit is the first half of a pair. -/
def isHighHalf (unit : Nat) : Bool := 0xD800 ≤ unit && unit < 0xDC00

/-- Whether a unit is the second half of a pair. -/
def isLowHalf (unit : Nat) : Bool := 0xDC00 ≤ unit && unit < 0xE000

def isHalf (unit : Nat) : Bool := 0xD800 ≤ unit && unit < 0xE000

def joinHalves (high low : Nat) : Char :=
  Char.ofNat (0x10000 + (high - 0xD800) * 0x400 + (low - 0xDC00))

/-- What a code stands for: a character or half a pair. -/
inductive CodePoint
  | char (c : Char)
  | half (unit : Nat)
deriving DecidableEq

namespace CodePoint

def ofNat (code : Nat) : CodePoint :=
  if isHalf code then .half code else .char (Char.ofNat code)

def code : CodePoint → Nat
  | .char c => c.toNat
  | .half unit => unit

def char? : CodePoint → Option Char
  | .char c => some c
  | .half _ => none

end CodePoint

def codePoints (text : String) : List CodePoint :=
  text.toList.map .char

/-- The text of code points, if none of them is half a pair. -/
def ofCodePoints? (codes : List CodePoint) : Option String :=
  (codes.mapM CodePoint.char?).map String.ofList

theorem mapM_char? (chars : List Char) :
    (chars.map CodePoint.char).mapM CodePoint.char? = some chars := by
  induction chars with
  | nil => rfl
  | cons c rest ih => rw [List.map_cons, List.mapM_cons, ih]; rfl

theorem ofCodePoints?_codePoints (text : String) : ofCodePoints? (codePoints text) = some text := by
  rw [ofCodePoints?, codePoints, mapM_char?, Option.map_some, String.ofList_toList]

/-- The characters and halves that units spell: two halves in order are a character. -/
def joinUnits : List Nat → List CodePoint
  | [] => []
  | high :: low :: rest =>
    if isHighHalf high && isLowHalf low then .char (joinHalves high low) :: joinUnits rest
    else .ofNat high :: joinUnits (low :: rest)
  | [unit] => [.ofNat unit]

end SyntaxGraph.Text
