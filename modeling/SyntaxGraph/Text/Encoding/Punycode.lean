import SyntaxGraph.Text.Half

/-!
# Punycode

A text is spelled by its ASCII characters, a minus sign, and numbers that tell where the other
characters belong, in the order of their codes. The numbers are written in base 36 with digits whose
weights adapt to the numbers before.
-/
namespace SyntaxGraph.Text.Punycode

/-- The value of a digit in base 36, in either case. -/
def digit? (c : Char) : Option Nat :=
  if c.isAlpha then some (c.toUpper.toNat - 'A'.toNat)
  else if c.isDigit then some (c.toNat - '0'.toNat + 26)
  else none

/-- Digits below this threshold end a number. -/
def threshold (place bias : Nat) : Nat :=
  max 1 (min 26 (36 * (place + 1) - bias))

def readNumber? (bias place weight total : Nat) : List Char → Option (Nat × List Char)
  | [] => none
  | c :: rest =>
    match digit? c with
    | none => none
    | some digit =>
      let bound := threshold place bias
      if digit < bound then some (total + digit * weight, rest)
      else readNumber? bias (place + 1) (weight * (36 - bound)) (total + digit * weight) rest

/-- The bias that a large number leads to. -/
def scaled (delta divisions : Nat) : Nat → Nat
  | 0 => divisions
  | fuel + 1 =>
    if 455 < delta then scaled (delta / 35) (divisions + 36) fuel
    else divisions + 36 * delta / (delta + 38)

/-- The bias after a number, with so many characters in the text. -/
def adapt (delta : Nat) (first : Bool) (size : Nat) : Nat :=
  -- The first number is much larger than the others.
  let delta := if first then delta / 700 else delta / 2
  let delta := delta + delta / size
  scaled delta 0 (delta + 1)

/-- Puts characters into a text as numbers tell. The last one was put before the place `next` and
has the code `code`. -/
def insertAll (first : Bool) (code next bias : Nat) :
    Nat → List CodePoint → List Char → Option (List CodePoint)
  | _, text, [] => some text
  | 0, _, _ :: _ => none
  | fuel + 1, text, numbers => do
    let (delta, rest) ← readNumber? bias 0 1 0 numbers
    let size := text.length + 1
    -- The number counts places through the text, and goes on with the next code behind its end.
    let code := code + (next + delta) / size
    let place := (next + delta) % size
    if 0x10FFFF < code then none
    else
      insertAll false code (place + 1) (adapt delta first size) fuel
        (text.take place ++ .ofNat code :: text.drop place) rest

def decode? (basic numbers : List Char) : Option (List CodePoint) :=
  insertAll true 0x80 0 72 numbers.length (basic.map .char) numbers

/-! ### Writing -/

def digitChar (value : Nat) : Char :=
  if value < 26 then Char.ofNat (value + 'a'.toNat) else Char.ofNat (value - 26 + '0'.toNat)

def writeNumber (bias place number : Nat) : Nat → List Char
  | 0 => []
  | fuel + 1 =>
    let bound := threshold place bias
    if number < bound then [digitChar number]
    else
      digitChar (bound + (number - bound) % (36 - bound)) ::
        writeNumber bias (place + 1) ((number - bound) / (36 - bound)) fuel

/-- What is written so far: the digits, the number to be written next, the bias, and how many
characters are told. -/
structure Progress where
  digits : List Char := []
  delta : Nat := 0
  bias : Nat := 72
  told : Nat

/-- Passes a character of the text while the places of the character `code` are told. -/
def Progress.pass (basic code : Nat) (p : Progress) (c : Nat) : Progress :=
  if c < code then { p with delta := p.delta + 1 }
  else if c = code then
    { digits := p.digits ++ writeNumber p.bias 0 p.delta (p.delta + 1)
      delta := 0
      bias := adapt p.delta (p.told = basic) (p.told + 1)
      told := p.told + 1 }
  else p

/-- Tells the places of characters with given codes, in ascending order; `least` is the least code
that is not yet told. -/
def tellAll (basic : Nat) (text : List Nat) (least : Nat) (p : Progress) : List Nat → Progress
  | [] => p
  | code :: rest =>
    -- For each code in between the whole text is passed once.
    let p := { p with delta := p.delta + (code - least) * (p.told + 1) }
    let p := text.foldl (Progress.pass basic code) p
    tellAll basic text (code + 1) { p with delta := p.delta + 1 } rest

def encode (text : List Nat) : List Char :=
  let basic := (text.filter (· < 0x80)).map Char.ofNat
  let others := ((text.filter (0x80 ≤ ·)).mergeSort fun a b => decide (a ≤ b)).eraseDups
  let numbers := (tellAll basic.length text 0x80 { told := basic.length } others).digits
  if basic.isEmpty then numbers else basic ++ '-' :: numbers

end SyntaxGraph.Text.Punycode
