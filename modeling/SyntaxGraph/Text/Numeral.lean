import SyntaxGraph.Json.Real

/-!
# Numerals

How a number is written: a natural number in a base, or a quotient of natural numbers with a fixed
number of places, with a power of ten, or in the shorter of these two forms. Quotients are rounded
to the nearest numeral, a tie to the even one.
-/
namespace SyntaxGraph.Text

def zeros (count : Nat) : List Char :=
  List.replicate count '0'

/-- The digits of a number in a base, at least so many. -/
def digitsIn (base atLeast n : Nat) : List Char :=
  let digits := Nat.toDigits base n
  zeros (atLeast - digits.length) ++ digits

/-- Places behind a point; without places there is a point only if it is asked for. -/
def withPoint (point : Bool) (places : List Char) : List Char :=
  if places.isEmpty && !point then [] else '.' :: places

/-- A double precision number has no more places, and no more digits, than this; those behind are
zero. -/
def maxPlaces : Nat := 1100

def fixedNumeral (point : Bool) (places num den : Nat) : List Char :=
  let known := min places maxPlaces
  let digits := digitsIn 10 (known + 1) (Json.Real.roundDiv (num * Nat.pow 10 known) den)
  let whole := digits.length - known
  digits.take whole ++ withPoint point (digits.drop whole ++ zeros (places - known))

/-- The power of ten of the first digit of a quotient. -/
def leadingPower (num den : Nat) : Int :=
  if num = 0 then 0
  else
    let guess := ((num.log2 : Int) - (den.log2 : Int)) * 30103 / 100000 + 2
    Json.Real.decimalExponent num den guess 6

/-- The leading digits of a quotient, rounded to so many of them, and the power of ten of the first
one. -/
def leadingDigits (count num den : Nat) : List Char × Int :=
  let known := min count maxPlaces
  let power := leadingPower num den
  let (n, d) := Json.Real.decimalScaled num den ((known : Int) - 1 - power)
  let digits := digitsIn 10 known (Json.Real.roundDiv n d)
  -- Rounding may add a digit in front.
  let power := if digits.length = known then power else power + 1
  (digits.take known ++ zeros (count - known), power)

def powerMark (mark : Char) (power : Int) : List Char :=
  mark :: (if power < 0 then '-' else '+') :: digitsIn 10 2 power.natAbs

/-- A quotient with a power of ten, and so many places in front of it. -/
def scientificNumeral (mark : Char) (point : Bool) (places num den : Nat) : List Char :=
  let (digits, power) := leadingDigits (places + 1) num den
  digits.take 1 ++ withPoint point (digits.drop 1) ++ powerMark mark power

def dropZeros (places : List Char) : List Char :=
  (places.reverse.dropWhile (· = '0')).reverse

/-- The powers of ten below this are never written with places alone. -/
def leastFixedPower : Int := -4

/-- A quotient with so many leading digits: with places alone if its first digit is neither too far
behind the point nor followed by places that are unknown, with a power of ten otherwise. -/
def shorterNumeral (mark : Char) (point : Bool) (count num den : Nat) : List Char :=
  let count := max count 1
  let (digits, power) := leadingDigits count num den
  -- Zeros at the end are dropped unless the point is asked for.
  let trim (places : List Char) := if point then places else dropZeros places
  if leastFixedPower ≤ power ∧ power < count then
    let digits := zeros (-power).toNat ++ digits
    let whole := power.toNat + 1
    digits.take whole ++ withPoint point (trim (digits.drop whole))
  else digits.take 1 ++ withPoint point (trim (digits.drop 1)) ++ powerMark mark power

end SyntaxGraph.Text
