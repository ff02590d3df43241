/-!
# Numbers with a fraction or an exponent

A JSON number that is not a plain integer stands for a double precision value. It is kept as the
fewest decimal digits that read back as that value, so two spellings of one value are equal.
-/
namespace SyntaxGraph.Json

/-- A double precision value: `± digits · 10 ^ exponent`, or one of the three special values. -/
inductive Real
  | finite (negative : Bool) (digits : Nat) (exponent : Int)
  | infinity (negative : Bool)
  | nan
deriving DecidableEq, Inhabited

namespace Real

/-- The quotient rounded to the nearest integer, a tie to the even neighbour. -/
def roundDiv (num den : Nat) : Nat :=
  let quotient := num / den
  let twice := 2 * (num % den)
  if twice < den then quotient
  else if twice = den then quotient + quotient % 2
  else quotient + 1

/-- `num · 2 ^ shift / den` as a pair of naturals. -/
def scaled (num den : Nat) (shift : Int) : Nat × Nat :=
  if shift < 0 then (num, den * Nat.pow 2 shift.natAbs) else (num * Nat.pow 2 shift.natAbs, den)

/-- The binary exponent at which `num / den` has a 53 bit significand, or the least one there is. -/
def binaryExponent (num den : Nat) : Int :=
  let guess : Int := (num.log2 : Int) - (den.log2 : Int) - 52
  let (n, d) := scaled num den (-guess)
  -- The guess is right, or one too large.
  let exact := if n < Nat.pow 2 52 * d then guess - 1 else guess
  max exact (-1074)

/-- The double nearest to `num / den` as a significand and a binary exponent. -/
def nearest (num den : Nat) : Nat × Int :=
  let exponent := binaryExponent num den
  let (n, d) := scaled num den (-exponent)
  let significand := roundDiv n d
  -- A significand that is rounded up to the next power of two is halved.
  if significand = Nat.pow 2 53 then (Nat.pow 2 52, exponent + 1) else (significand, exponent)

/-- `10 ^ power · num / den` as a pair of naturals. -/
def decimalScaled (num den : Nat) (power : Int) : Nat × Nat :=
  if power < 0 then (num, den * Nat.pow 10 power.natAbs) else (num * Nat.pow 10 power.natAbs, den)

/-- The largest `p ≤ start` with `10 ^ p ≤ num / den`, looking at most `steps` places down. -/
def decimalExponent (num den : Nat) (start : Int) : Nat → Int
  | 0 => start
  | steps + 1 =>
    let (n, d) := decimalScaled num den (-start)
    if d ≤ n then start else decimalExponent num den (start - 1) steps

/-- Whether the decimal `digits · 10 ^ power` rounds to the double `significand · 2 ^ exponent`. -/
def readsBack (significand : Nat) (exponent : Int) (digits : Nat) (power : Int) : Bool :=
  let (n, d) := decimalScaled digits 1 power
  digits ≠ 0 && nearest n d == (significand, exponent)

/-- The fewest digits that read back as the value `num / den` of a double; of two candidates with
as many digits the nearer one, a tie to the even one. -/
def shortest (significand : Nat) (exponent : Int) (num den : Nat) (top : Int) :
    Nat → Nat → Nat × Int
  -- Seventeen digits always read back, so the fuel does not run out.
  | _, 0 => (0, 0)
  | places, fuel + 1 =>
    let power := top - (places : Int)
    let (n, d) := decimalScaled num den (-power)
    let low := n / d
    let near := roundDiv n d
    let far := if near = low then low + 1 else low
    if readsBack significand exponent near power then (near, power)
    else if readsBack significand exponent far power then (far, power)
    else shortest significand exponent num den top (places + 1) fuel

def trimZeros (digits : Nat) (exponent : Int) : Nat → Nat × Int
  | 0 => (digits, exponent)
  | fuel + 1 =>
    if digits ≠ 0 ∧ digits % 10 = 0 then trimZeros (digits / 10) (exponent + 1) fuel
    else (digits, exponent)

/-- The double nearest to `± num / den`, where `den` is not zero. -/
def ofRatio (negative : Bool) (num den : Nat) : Real :=
  let (significand, binary) := nearest num den
  if significand = 0 then .finite negative 0 0
  -- The largest finite double has the binary exponent 971.
  else if 971 < binary then .infinity negative
  else
    let (n, d) := scaled significand 1 binary
    -- The decimal logarithm of two is about 0.30103, and the search goes down from the guess.
    let guess : Int := ((n.log2 : Int) - (d.log2 : Int)) * 30103 / 100000 + 2
    let top := decimalExponent n d guess 6
    let (shown, power) := shortest significand binary n d top 0 18
    let (trimmed, raised) := trimZeros shown power 20
    .finite negative trimmed raised

/-- The double nearest to `± digits · 10 ^ exponent`. -/
def ofDecimal (negative : Bool) (digits : Nat) (exponent : Int) : Real :=
  if digits = 0 then .finite negative 0 0
  -- Beyond these exponents the outcome is clear, and powers of ten would get large.
  else if 400 < exponent then .infinity negative
  else if exponent + (digits.log2 : Int) < -1200 then .finite negative 0 0
  else
    let (num, den) := decimalScaled digits 1 exponent
    ofRatio negative num den

def zeros (count : Int) : String :=
  String.ofList (List.replicate count.toNat '0')

/-- Positional notation from `1e-4` up to `1e16`, scientific notation with a signed exponent of two
or more digits outside; a value without a fraction keeps `.0`. -/
def text : Real → String
  | .nan => "NaN"
  | .infinity negative => if negative then "-Infinity" else "Infinity"
  | .finite negative digits exponent =>
    let shown := toString digits
    let point : Int := exponent + (shown.length : Int)
    let body :=
      if digits = 0 then "0.0"
      else if -4 < point ∧ point ≤ 16 then
        -- An integer.
        if 0 ≤ exponent then shown ++ zeros exponent ++ ".0"
        else if 0 < point then
          String.ofList (shown.toList.take point.toNat) ++ "." ++
            String.ofList (shown.toList.drop point.toNat)
        -- Less than one.
        else "0." ++ zeros (-point) ++ shown
      else
        let power := point - 1
        let size := toString power.natAbs
        let mantissa :=
          match shown.toList with
          | [] => ""
          | [first] => String.singleton first
          | first :: rest => String.ofList (first :: '.' :: rest)
        mantissa ++ (if power < 0 then "e-" else "e+") ++
          -- An exponent has at least two digits.
          (if size.length < 2 then "0" ++ size else size)
    if negative then "-" ++ body else body

/-- The size of a double as a quotient: not of its digits, but of the value they stand for. -/
def sizeOf (digits : Nat) (exponent : Int) : Nat × Nat :=
  if digits = 0 then (0, 1)
  else
    let (num, den) := decimalScaled digits 1 exponent
    let (significand, binary) := nearest num den
    scaled significand 1 binary

/-- The value as a quotient; there is none for the special values. -/
def ratio? : Real → Option (Int × Nat)
  | .finite negative digits exponent =>
    let (num, den) := sizeOf digits exponent
    some (if negative then -(num : Int) else num, den)
  | .infinity _ | .nan => none

def toInt? (value : Real) : Option Int :=
  match value.ratio? with
  | some (num, den) => if num % (den : Int) = 0 then some (num / (den : Int)) else none
  | none => none

def ofSignedRatio (num : Int) (den : Nat) : Real :=
  -- A sum that is zero has no sign.
  if num = 0 then .finite false 0 0 else ofRatio (decide (num < 0)) num.natAbs den

def addOne (value : Real) : Real :=
  match value.ratio? with
  | some (num, den) => ofSignedRatio (num + den) den
  | none => value

def isNonzero : Real → Bool
  | .finite _ digits _ => digits ≠ 0
  | _ => true

end Real

end SyntaxGraph.Json
