import Mathlib.Algebra.Order.Field.Power
import Mathlib.Data.Int.Log
import Mathlib.Data.Rat.Floor
import Mathlib.Tactic.GCongr
import Mathlib.Tactic.IntervalCases
import Mathlib.Tactic.Positivity
import SyntaxGraph.Json.Draft
import SyntaxGraph.Json.Parser

/-!
# Numbers that read back

A number is written in one of several notations, and read as digits and a power of ten. Main
statement: behind the text of an integer or of a double, reading stops and gives the number back.
Where a double is written with more digits than it is kept with, the quotient that is rounded is
another one of the same value, so the nearest double is shown to depend on the value only.
-/
namespace SyntaxGraph.Json

open List

/-! ### The nearest double depends on the value only -/

namespace Real

theorem roundDiv_mul {c : Nat} (positive : 0 < c) (num den : Nat) :
    roundDiv (c * num) (c * den) = roundDiv num den := by
  have quotient : c * num / (c * den) = num / den := Nat.mul_div_mul_left num den positive
  have remainder : c * num % (c * den) = c * (num % den) := Nat.mul_mod_mul_left c num den
  have less : 2 * (c * (num % den)) < c * den ↔ 2 * (num % den) < den := by
    rw [Nat.mul_left_comm]
    exact Nat.mul_lt_mul_left positive
  have equal : 2 * (c * (num % den)) = c * den ↔ 2 * (num % den) = den := by
    rw [Nat.mul_left_comm]
    exact Nat.mul_right_inj (by omega)
  simp only [roundDiv, quotient, remainder, less, equal]

theorem scaled_mul (c num den : Nat) (shift : Int) :
    scaled (c * num) (c * den) shift =
      (c * (scaled num den shift).1, c * (scaled num den shift).2) := by
  unfold scaled
  split <;> simp only [Nat.mul_assoc]

theorem scaled_ratio (num den : Nat) (shift : Int) :
    ((scaled num den shift).1 : ℚ) / (scaled num den shift).2 = num / den * 2 ^ shift := by
  unfold scaled
  split
  next negative =>
    obtain ⟨n, rfl⟩ : ∃ n : Nat, shift = -(n : Int) := ⟨shift.natAbs, by omega⟩
    simp [div_eq_mul_inv, mul_assoc, mul_comm]
  next nonnegative =>
    obtain ⟨n, rfl⟩ : ∃ n : Nat, shift = (n : Int) := ⟨shift.natAbs, by omega⟩
    simp [div_eq_mul_inv, mul_assoc, mul_comm, mul_left_comm]

variable {den num : Nat}

theorem scaled_snd_pos (positive : 0 < den) (num : Nat) (shift : Int) :
    0 < (scaled num den shift).2 := by
  unfold scaled
  split
  · exact Nat.mul_pos positive (Nat.pow_pos (by decide))
  · exact positive

/-- The logarithms of two numbers tell that of their quotient up to one. -/
theorem log_ratio_bounds (hasNum : 0 < num) (hasDen : 0 < den) :
    (num.log2 : Int) - den.log2 - 1 ≤ Int.log 2 (num / den : ℚ) ∧
      Int.log 2 (num / den : ℚ) < (num.log2 : Int) - den.log2 + 1 := by
  -- Both numbers lie between two powers of two.
  have positive : (0 : ℚ) < num / den := by positivity
  have numLow : (2 : ℚ) ^ num.log2 ≤ num := by exact_mod_cast Nat.log2_self_le (by omega)
  have numHigh : (num : ℚ) < 2 ^ (num.log2 + 1) := by exact_mod_cast Nat.lt_log2_self
  have denLow : (2 : ℚ) ^ den.log2 ≤ den := by exact_mod_cast Nat.log2_self_le (by omega)
  have denHigh : (den : ℚ) < 2 ^ (den.log2 + 1) := by exact_mod_cast Nat.lt_log2_self
  constructor
  · rw [← Int.zpow_le_iff_le_log (by decide) positive, le_div_iff₀ (by positivity)]
    calc ((2 : Nat) : ℚ) ^ ((num.log2 : Int) - den.log2 - 1) * den
        ≤ 2 ^ ((num.log2 : Int) - den.log2 - 1) * 2 ^ (den.log2 + 1) := by
          push_cast
          gcongr
      _ = 2 ^ num.log2 := by
          rw [← zpow_natCast, ← zpow_natCast, ← zpow_add₀ (by decide)]
          congr 1
          omega
      _ ≤ num := numLow
  · rw [← Int.lt_zpow_iff_log_lt (by decide) positive, div_lt_iff₀ (by positivity)]
    calc (num : ℚ) < 2 ^ (num.log2 + 1) := numHigh
      _ = 2 ^ ((num.log2 : Int) - den.log2 + 1) * 2 ^ den.log2 := by
          rw [← zpow_natCast, ← zpow_natCast, ← zpow_add₀ (by decide)]
          congr 1
          omega
      _ ≤ ((2 : Nat) : ℚ) ^ ((num.log2 : Int) - den.log2 + 1) * den := by
          push_cast
          gcongr

/-- The binary exponent, from the value alone: the guess from the two logarithms is one too large or
right, and the comparison finds out which. -/
theorem binaryExponent_eq (hasNum : 0 < num) (hasDen : 0 < den) :
    binaryExponent num den = max (Int.log 2 (num / den : ℚ) - 52) (-1074) := by
  have positive : (0 : ℚ) < num / den := by positivity
  obtain ⟨low, high⟩ := log_ratio_bounds hasNum hasDen
  unfold binaryExponent
  generalize found : (num.log2 : Int) - den.log2 - 52 = guess
  have small : (scaled num den (-guess)).1 < Nat.pow 2 52 * (scaled num den (-guess)).2 ↔
      Int.log 2 (num / den : ℚ) < 52 + guess := by
    have hasSecond : (0 : ℚ) < (scaled num den (-guess)).2 := by
      exact_mod_cast scaled_snd_pos hasDen num (-guess)
    rw [← Int.lt_zpow_iff_log_lt (by decide) positive, ← Nat.cast_lt (α := ℚ), Nat.cast_mul,
      ← div_lt_iff₀ hasSecond, scaled_ratio, zpow_neg, ← div_eq_mul_inv,
      div_lt_iff₀ (by positivity), zpow_add₀ (by decide)]
    norm_cast
  simp only [small]
  split <;> congr 1 <;> omega

/-- Two quotients of one value have the same nearest double. -/
theorem nearest_mul {c : Nat} (positive : 0 < c) (hasNum : 0 < num) (hasDen : 0 < den) :
    nearest (c * num) (c * den) = nearest num den := by
  have ratio : ((c * num : Nat) : ℚ) / (c * den : Nat) = num / den := by
    push_cast
    rw [mul_div_mul_left]
    exact_mod_cast positive.ne'
  have exponent : binaryExponent (c * num) (c * den) = binaryExponent num den := by
    rw [binaryExponent_eq (Nat.mul_pos positive hasNum) (Nat.mul_pos positive hasDen),
      binaryExponent_eq hasNum hasDen, ratio]
  delta nearest
  simp only [exponent, scaled_mul, roundDiv_mul positive]

end Real

/-! ### Digits -/

/-- No digit comes next. -/
def EndsDigits (after : List Char) : Prop := ∀ c ∈ after.head?, c.isDigit = false

/-- The digits before a point: a zero stands alone. -/
structure IsWhole (digits : List Char) : Prop where
  isDigit : ∀ c ∈ digits, c.isDigit
  isSome : digits ≠ []
  zero : digits.head? = some '0' → digits = ['0']

theorem digitsValue_append (first second : List Char) :
    digitsValue (first ++ second) =
      second.foldl (fun total c => total * 10 + (c.toNat - 48)) (digitsValue first) :=
  foldl_append ..

theorem digitsValue_zeros (count : Nat) (digits : List Char) :
    digitsValue (List.replicate count '0' ++ digits) = digitsValue digits := by
  induction count with
  | zero => rfl
  | succ count ih => exact ih

theorem digitsValue_append_zeros (digits : List Char) (count : Nat) :
    digitsValue (digits ++ List.replicate count '0') = digitsValue digits * 10 ^ count := by
  induction count with
  | zero => simp
  | succ count ih =>
    rw [replicate_succ', ← append_assoc, digitsValue_append, ih]
    simp [Nat.pow_succ, Nat.mul_assoc]

theorem digitsValue_toDigits (n : Nat) : digitsValue (Nat.toDigits 10 n) = n := by
  have read : Nat.ofDigitChars 10 (Nat.toDigits 10 n) 0 = n :=
    Nat.ofDigitChars_toDigits (by decide) (by decide)
  unfold Nat.ofDigitChars at read
  simpa only [digitsValue, Nat.mul_comm 10, show '0'.toNat = 48 from rfl] using read

variable {n : Nat} {digits after : List Char}

theorem isDigit_toDigits {c : Char} (member : c ∈ Nat.toDigits 10 n) : c.isDigit :=
  Nat.isDigit_of_mem_toDigits (by decide) (by decide) member

theorem length_toDigits_le {limit : Nat} (positive : 0 < limit) (small : n < Nat.pow 10 limit) :
    (Nat.toDigits 10 n).length ≤ limit :=
  (Nat.length_toDigits_le_iff (by decide) positive).2 small

theorem head_toDigits (positive : 0 < n) : (Nat.toDigits 10 n).head? ≠ some '0' := by
  induction n using Nat.strongRecOn with
  | ind n ih =>
    rw [Nat.toDigits_eq_if (by decide)]
    split
    next small =>
      interval_cases n <;> decide
    next large =>
      have shorter := ih (n / 10) (by omega) (by omega)
      rwa [head?_append_of_ne_nil _ (by simp)]

theorem isWhole_toDigits (n : Nat) : IsWhole (Nat.toDigits 10 n) where
  isDigit _ := isDigit_toDigits
  isSome := by simp
  zero first := by
    rcases Nat.eq_zero_or_pos n with rfl | positive
    · rfl
    · exact absurd first (head_toDigits positive)

/-- Digits that begin like those of a positive number, with more digits behind them. -/
theorem isWhole_append (positive : 0 < n) {more : List Char} (areDigits : ∀ c ∈ more, c.isDigit) :
    IsWhole (Nat.toDigits 10 n ++ more) where
  isDigit c member := (mem_append.1 member).elim isDigit_toDigits (areDigits c)
  isSome := by simp
  zero first := by
    rw [head?_append_of_ne_nil _ (by simp)] at first
    exact absurd first (head_toDigits positive)

theorem isWhole_take (positive : 0 < n) {count : Nat} (some : 0 < count) :
    IsWhole ((Nat.toDigits 10 n).take count) where
  isDigit _ member := isDigit_toDigits (mem_of_mem_take member)
  isSome := by simp; omega
  zero first := by
    rw [head?_take, if_neg (by omega)] at first
    exact absurd first (head_toDigits positive)

theorem spanDigits_append (areDigits : ∀ c ∈ digits, c.isDigit) (ends : EndsDigits after) :
    spanDigits (digits ++ after) = (digits, after) := by
  have rest : after.takeWhile Char.isDigit = [] ∧ after.dropWhile Char.isDigit = after := by
    cases after with
    | nil => exact ⟨rfl, rfl⟩
    | cons c more => simp [ends c (by simp)]
  rw [spanDigits, takeWhile_append_of_pos areDigits, dropWhile_append_of_pos areDigits,
    rest.1, rest.2, append_nil]

theorem whole?_append (isWhole : IsWhole digits) (ends : EndsDigits after) :
    whole? (digits ++ after) = some (digits, after) := by
  unfold whole?
  split
  next rest same =>
    -- The digits begin with a zero, so there is no other digit.
    have first : digits.head? = some '0' := by
      obtain ⟨c, more, rfl⟩ := exists_cons_of_ne_nil isWhole.isSome
      simp_all
    rw [isWhole.zero first] at same ⊢
    simpa using same.symm
  next =>
    rw [spanDigits_append isWhole.isDigit ends]
    simp [isWhole.isSome]

theorem fraction?_append {places : List Char} (areDigits : ∀ c ∈ places, c.isDigit)
    (isSome : places ≠ []) (ends : EndsDigits after) :
    fraction? ('.' :: (places ++ after)) = some (places, after) := by
  simp [fraction?, spanDigits_append areDigits ends, isSome]

theorem exponent?_append (areDigits : ∀ c ∈ digits, c.isDigit) (isSome : digits ≠ [])
    (ends : EndsDigits after) (negative : Bool) :
    exponent? ('e' :: (if negative then '-' else '+') :: (digits ++ after)) =
      some (if negative then -(digitsValue digits : Int) else digitsValue digits, after) := by
  cases negative <;> simp [exponent?, spanDigits_append areDigits ends, isSome]

/-! ### Magnitudes -/

/-- No number goes on here. -/
def EndsNumber (after : List Char) : Prop :=
  ∀ c ∈ after.head?, c.isDigit = false ∧ c ≠ '.' ∧ c ≠ 'e' ∧ c ≠ 'E'

namespace EndsNumber

variable {after : List Char}

theorem endsDigits (ends : EndsNumber after) : EndsDigits after :=
  fun c first => (ends c first).1

theorem fraction? (ends : EndsNumber after) : Json.fraction? after = none := by
  cases after with
  | nil => rfl
  | cons c rest =>
    obtain ⟨-, point, -⟩ := ends c rfl
    simp [Json.fraction?, point]

theorem exponent? (ends : EndsNumber after) : Json.exponent? after = none := by
  cases after with
  | nil => rfl
  | cons c rest =>
    obtain ⟨-, -, small, large⟩ := ends c rfl
    simp [Json.exponent?, small, large]

end EndsNumber

/-- Whether digits, with or without a point and an exponent, are read as a value. -/
structure Reads (negative : Bool) (body : List Char) (value : Json) : Prop where
  isDigit : ∃ c ∈ body.head?, c.isDigit
  magnitude : ∀ start after, EndsNumber after →
    Json.magnitude start negative (body ++ after) = .ok (value, after)

section Magnitudes

variable {digits places : List Char}

theorem IsWhole.head (isWhole : IsWhole digits) (more : List Char) :
    ∃ c ∈ (digits ++ more).head?, c.isDigit := by
  obtain ⟨c, rest, rfl⟩ := exists_cons_of_ne_nil isWhole.isSome
  exact ⟨c, by simp, isWhole.isDigit c (by simp)⟩

theorem reads_integer (isWhole : IsWhole digits) (short : digits.length ≤ Text.maxDigits)
    (negative : Bool) :
    Reads negative digits
      (.int (if negative then -(digitsValue digits : Int) else digitsValue digits)) where
  isDigit := by simpa using isWhole.head []
  magnitude start after ends := by
    rw [magnitude, whole?_append isWhole ends.endsDigits]
    simp only [ends.fraction?, ends.exponent?]
    rw [integer, if_neg (by omega)]
    rfl

theorem isDigit_zero : ∀ c ∈ ['0'], c.isDigit := by
  intro c member
  rw [mem_singleton.1 member]
  rfl

theorem reads_fraction (isWhole : IsWhole digits) (areDigits : ∀ c ∈ places, c.isDigit)
    (isSome : places ≠ []) (negative : Bool) :
    Reads negative (digits ++ '.' :: places)
      (.real (.ofDecimal negative (digitsValue (digits ++ places)) (-(places.length : Int)))) where
  isDigit := isWhole.head _
  magnitude start after ends := by
    rw [magnitude, append_assoc, whole?_append isWhole (by simp [EndsDigits])]
    simp only [cons_append, fraction?_append areDigits isSome ends.endsDigits, ends.exponent?]

/-- The sign and the digits of an exponent. -/
def exponentText (negative : Bool) (size : List Char) : List Char :=
  'e' :: (if negative then '-' else '+') :: size

variable {size : List Char} (sizeDigits : ∀ c ∈ size, c.isDigit) (sizeSome : size ≠ [])

include sizeDigits sizeSome in
theorem reads_scientific (isWhole : IsWhole digits) (negative small : Bool) :
    Reads negative (digits ++ exponentText small size)
      (.real (.ofDecimal negative (digitsValue digits)
        (if small then -(digitsValue size : Int) else digitsValue size))) where
  isDigit := isWhole.head _
  magnitude start after ends := by
    have exponent := exponent?_append sizeDigits sizeSome ends.endsDigits small
    have noFraction : fraction? (exponentText small size ++ after) = none := rfl
    rw [magnitude, append_assoc, whole?_append isWhole (by simp [EndsDigits, exponentText])]
    simp only [noFraction]
    simp only [exponentText, cons_append, exponent]

include sizeDigits sizeSome in
theorem reads_scientific_fraction (isWhole : IsWhole digits) (areDigits : ∀ c ∈ places, c.isDigit)
    (isSome : places ≠ []) (negative small : Bool) :
    Reads negative (digits ++ '.' :: (places ++ exponentText small size))
      (.real (.ofDecimal negative (digitsValue (digits ++ places))
        ((if small then -(digitsValue size : Int) else digitsValue size) - places.length))) where
  isDigit := isWhole.head _
  magnitude start after ends := by
    have exponent := exponent?_append sizeDigits sizeSome ends.endsDigits small
    have ends' : EndsDigits (exponentText small size ++ after) := by simp [EndsDigits, exponentText]
    rw [magnitude, append_assoc, whole?_append isWhole (by simp [EndsDigits])]
    simp only [cons_append, append_assoc, fraction?_append areDigits isSome ends']
    simp only [exponentText, cons_append, exponent]

end Magnitudes

/-! ### Doubles -/

namespace Real

/-- Whether a double is kept with the digits that it is read with. -/
def isCanonical : Real → Bool
  | .finite negative digits exponent =>
    ofDecimal negative digits exponent = .finite negative digits exponent
  | .infinity _ | .nan => true

theorem ofRatio_congr (negative : Bool) {num den num' den' : Nat}
    (same : nearest num den = nearest num' den') :
    ofRatio negative num den = ofRatio negative num' den' := by
  unfold ofRatio
  rw [same]

/-- A point behind zeros that stand for a power of ten does not change the double. -/
theorem ofDecimal_expanded (negative : Bool) {digits exponent : Nat} (positive : 0 < digits)
    (small : exponent ≤ 16) :
    ofDecimal negative (digits * 10 ^ exponent * 10) (-1) = ofDecimal negative digits exponent := by
  have many : 0 < digits * 10 ^ exponent := Nat.mul_pos positive (Nat.pow_pos (by decide))
  have same : nearest (10 * (digits * 10 ^ exponent)) (10 * 1) =
      nearest (digits * 10 ^ exponent) 1 := nearest_mul (by decide) many (by decide)
  have left : ofDecimal negative (digits * 10 ^ exponent * 10) (-1) =
      ofRatio negative (10 * (digits * 10 ^ exponent)) (10 * 1) := by
    rw [ofDecimal, if_neg (by omega), if_neg (by omega), if_neg (by omega)]
    rw [Nat.mul_comm (digits * 10 ^ exponent)]
    rfl
  have right : ofDecimal negative digits exponent =
      ofRatio negative (digits * 10 ^ exponent) 1 := by
    rw [ofDecimal, if_neg (by omega), if_neg (by omega), if_neg (by omega), decimalScaled,
      if_neg (by omega)]
    rfl
  rw [left, right, ofRatio_congr negative same]

section Notations

variable (negative : Bool) {digits : Nat}

theorem reads_expanded (positive : 0 < digits) (exponent : Nat) (small : exponent ≤ 16) :
    Reads negative (Nat.toDigits 10 digits ++ List.replicate exponent '0' ++ ['.', '0'])
      (.real (ofDecimal negative digits exponent)) := by
  have zeros : ∀ c ∈ List.replicate exponent '0', c.isDigit := by
    intro c member
    rw [eq_of_mem_replicate member]
    rfl
  have read : Reads negative (Nat.toDigits 10 digits ++ List.replicate exponent '0' ++ '.' :: ['0'])
      _ := reads_fraction (isWhole_append positive zeros) isDigit_zero (by simp) negative
  have value : digitsValue (Nat.toDigits 10 digits ++ List.replicate exponent '0' ++ ['0']) =
      digits * 10 ^ exponent * 10 := by
    rw [append_assoc, ← replicate_succ' (n := exponent), digitsValue_append_zeros,
      digitsValue_toDigits, Nat.pow_succ, Nat.mul_assoc]
  rw [value] at read
  rw [← ofDecimal_expanded negative positive small]
  exact read

theorem reads_split (positive : 0 < digits) (count : Nat) (some : 0 < count)
    (more : count < (Nat.toDigits 10 digits).length) :
    Reads negative
      ((Nat.toDigits 10 digits).take count ++ '.' :: (Nat.toDigits 10 digits).drop count)
      (.real (ofDecimal negative digits (count - (Nat.toDigits 10 digits).length))) := by
  have read := reads_fraction (isWhole_take positive some)
    (fun c member => isDigit_toDigits (mem_of_mem_drop member))
    (drop_eq_nil_iff.not.2 (Nat.not_le.2 more)) negative
  rw [take_append_drop, digitsValue_toDigits, length_drop] at read
  have exponent : -(((Nat.toDigits 10 digits).length - count : Nat) : Int) =
      count - (Nat.toDigits 10 digits).length := by omega
  rwa [exponent] at read

theorem reads_shifted (digits zeros : Nat) :
    Reads negative (['0'] ++ '.' :: (List.replicate zeros '0' ++ Nat.toDigits 10 digits))
      (.real (ofDecimal negative digits (-(zeros + (Nat.toDigits 10 digits).length)))) := by
  have places : ∀ c ∈ List.replicate zeros '0' ++ Nat.toDigits 10 digits, c.isDigit := by
    intro c member
    rcases mem_append.1 member with zero | digit
    · rw [eq_of_mem_replicate zero]
      rfl
    · exact isDigit_toDigits digit
  have read : Reads negative (['0'] ++ '.' :: (List.replicate zeros '0' ++ Nat.toDigits 10 digits))
      _ := reads_fraction (isWhole_toDigits 0) places (by simp) negative
  have value : digitsValue (Nat.toDigits 10 0 ++
      (List.replicate zeros '0' ++ Nat.toDigits 10 digits)) = digits :=
    (digitsValue_zeros 1 _).trans ((digitsValue_zeros zeros _).trans (digitsValue_toDigits digits))
  rw [value, length_append, length_replicate] at read
  exact_mod_cast read

theorem reads_mantissa (positive : 0 < digits) {first : Char} {rest size : List Char}
    (shown : Nat.toDigits 10 digits = first :: rest) (sizeDigits : ∀ c ∈ size, c.isDigit)
    (sizeSome : size ≠ []) (small : Bool) :
    Reads negative
      ((if rest = [] then [first] else first :: '.' :: rest) ++ exponentText small size)
      (.real (ofDecimal negative digits
        ((if small then -(digitsValue size : Int) else digitsValue size) - rest.length))) := by
  have isWhole : IsWhole [first] := by
    have taken : IsWhole ((Nat.toDigits 10 digits).take 1) := isWhole_take positive (by decide)
    rwa [shown] at taken
  have value : digitsValue (first :: rest) = digits := by rw [← shown, digitsValue_toDigits]
  split
  next none =>
    subst none
    have read := reads_scientific sizeDigits sizeSome isWhole negative small
    rw [value] at read
    simpa using read
  next some =>
    have restDigits : ∀ c ∈ rest, c.isDigit := fun c member =>
      isDigit_toDigits (n := digits) (by simp [shown, member])
    have read :=
      reads_scientific_fraction sizeDigits sizeSome isWhole restDigits some negative small
    simpa [value] using read

end Notations

variable {negative : Bool} {digits : Nat} {exponent : Int}

/-- The digits of an exponent: two or more of them. -/
def padded (n : Nat) : List Char :=
  if (Nat.toDigits 10 n).length < 2 then '0' :: Nat.toDigits 10 n else Nat.toDigits 10 n

theorem digitsValue_padded (n : Nat) : digitsValue (padded n) = n := by
  unfold padded
  split
  · exact (digitsValue_zeros 1 _).trans (digitsValue_toDigits n)
  · exact digitsValue_toDigits n

theorem isDigit_padded (n : Nat) : ∀ c ∈ padded n, c.isDigit := by
  unfold padded
  split
  · exact forall_mem_cons.2 ⟨rfl, fun _ => isDigit_toDigits⟩
  · exact fun _ => isDigit_toDigits

theorem padded_ne_nil (n : Nat) : padded n ≠ [] := by
  unfold padded
  split <;> simp

/-- The text of a finite double is its sign and a body that reads back. -/
theorem reads_text (canonical : isCanonical (.finite negative digits exponent)) :
    ∃ body, (text (.finite negative digits exponent)).toList =
        (if negative then ['-'] else []) ++ body ∧
      Reads negative body (.real (.finite negative digits exponent)) := by
  have same : ofDecimal negative digits exponent = .finite negative digits exponent := by
    simpa [isCanonical] using canonical
  have shown : toString digits = String.ofList (Nat.toDigits 10 digits) :=
    Nat.repr_eq_ofList_toDigits
  have signed (body : String) : (if negative then "-" ++ body else body).toList =
      (if negative then ['-'] else []) ++ body.toList := by
    cases negative <;> simp
  have some : 0 < (Nat.toDigits 10 digits).length := length_pos_iff.2 (by simp)
  unfold text
  simp only [signed, shown, String.length_ofList, String.toList_ofList]
  rw [← same]
  refine ⟨_, rfl, ?_⟩
  generalize found : (exponent + ((Nat.toDigits 10 digits).length : Int)) = point
  by_cases isZero : digits = 0
  · -- Zero has no exponent of its own.
    have read : Reads negative (['0'] ++ '.' :: ['0']) _ :=
      reads_fraction (isWhole_toDigits 0) isDigit_zero (by simp) negative
    rw [if_pos isZero, isZero]
    exact read
  have positive : 0 < digits := Nat.pos_of_ne_zero isZero
  rw [if_neg isZero]
  split
  next positional =>
    split
    next nonnegative =>
      -- Whole: zeros fill the places up to the point.
      obtain ⟨count, rfl⟩ : ∃ count : Nat, exponent = count := ⟨exponent.toNat, by omega⟩
      have read := reads_expanded negative positive count (by omega)
      simpa [zeros] using read
    next negativeExponent =>
      split
      next inside =>
        -- The point stands among the digits.
        obtain ⟨count, rfl⟩ : ∃ count : Nat, point = count := ⟨point.toNat, by omega⟩
        have read := reads_split negative positive count (by omega) (by omega)
        rw [show exponent = count - (Nat.toDigits 10 digits).length by omega]
        simpa using read
      next before =>
        -- The point stands before all digits, with zeros between.
        obtain ⟨count, rfl⟩ : ∃ count : Nat, point = -count := ⟨point.natAbs, by omega⟩
        have read := reads_shifted negative digits count
        rw [show exponent = -(count + (Nat.toDigits 10 digits).length) by omega]
        simpa [zeros] using read
  next scientific =>
    -- One digit stands before the point, so the power is one less than the place of the point.
    obtain ⟨first, rest, written⟩ := exists_cons_of_ne_nil (length_pos_iff.1 some)
    have length : (Nat.toDigits 10 digits).length = rest.length + 1 := by simp [written]
    have size : toString (point - 1).natAbs =
        String.ofList (Nat.toDigits 10 (point - 1).natAbs) := Nat.repr_eq_ofList_toDigits
    have read := reads_mantissa negative positive written (isDigit_padded (point - 1).natAbs)
      (padded_ne_nil (point - 1).natAbs) (decide (point - 1 < 0))
    have power : (if decide (point - 1 < 0) = true then -((point - 1).natAbs : Int)
        else (point - 1).natAbs) - rest.length = exponent := by
      simp only [decide_eq_true_eq]
      split <;> omega
    rw [digitsValue_padded, power] at read
    have sign : (if point - 1 < 0 then "e-" else "e+").toList =
        ['e', if decide (point - 1 < 0) = true then '-' else '+'] := by
      simp only [decide_eq_true_eq]
      split <;> rfl
    have padding : (if (String.ofList (Nat.toDigits 10 (point - 1).natAbs)).length < 2 then
        "0" ++ String.ofList (Nat.toDigits 10 (point - 1).natAbs)
        else String.ofList (Nat.toDigits 10 (point - 1).natAbs)).toList =
        padded (point - 1).natAbs := by
      simp only [padded, String.length_ofList]
      split <;> simp
    rw [size, String.toList_append, String.toList_append, sign, padding, written]
    cases rest <;> simpa [exponentText] using read

end Real

/-! ### Values -/

/-- A number that reads back is no named value, so it is read as a number. -/
theorem word?_of_isDigit {negative : Bool} {c : Char} (isDigit : c.isDigit) (rest : List Char) :
    word? ((if negative then ['-'] else []) ++ c :: rest) = none := by
  have other (letter : Char) (noDigit : letter.isDigit = false) : letter ≠ c := by
    rintro rfl
    simp [noDigit] at isDigit
  cases negative <;>
    simp [word?, words, afterWord?, other 'n' rfl, other 't' rfl, other 'f' rfl, other 'N' rfl,
      other 'I' rfl, other '-' rfl]

theorem value_of_reads {negative : Bool} {body : List Char} {result : Json}
    (reads : Reads negative body result) (ends : EndsNumber after) (fuel room : Nat) :
    value (fuel + 1) room ((if negative then ['-'] else []) ++ body ++ after) =
      .ok (result, after) := by
  obtain ⟨c, first, isDigit⟩ := reads.isDigit
  obtain ⟨rest, rfl⟩ : ∃ rest, body = c :: rest := by
    cases body with
    | nil => cases first
    | cons d rest => exact ⟨rest, by cases first; rfl⟩
  -- A digit starts neither a word nor a bracket nor a quote, so a number is tried.
  have other (letter : Char) (noDigit : letter.isDigit = false) : c ≠ letter := by
    rintro rfl
    simp [noDigit] at isDigit
  have read : number ((if negative then ['-'] else []) ++ c :: rest ++ after) =
      .ok (result, after) := by
    cases negative with
    | true => exact reads.magnitude _ after ends
    | false => simpa [number, other '-' rfl] using reads.magnitude _ after ends
  have noWord : word? ((if negative then ['-'] else []) ++ c :: rest ++ after) = none := by
    rw [append_assoc]
    exact word?_of_isDigit isDigit (rest ++ after)
  rw [value, noWord]
  · exact read
  all_goals
    intro more same
    cases negative <;> simp [other '"' rfl, other '[' rfl, other '\x7b' rfl] at same

theorem scalarText_int (n : Int) :
    scalarText (.int n) =
      (if decide (n < 0) = true then ['-'] else []) ++ Nat.toDigits 10 n.natAbs := by
  have text (m : Nat) : (toString m).toList = Nat.toDigits 10 m := by
    rw [show toString m = m.repr from rfl, Nat.repr_eq_ofList_toDigits, String.toList_ofList]
  cases n with
  | ofNat m => exact text m
  | negSucc m =>
    have written : toString (Int.negSucc m) = "-" ++ toString (m + 1) := rfl
    rw [scalarText, written, String.toList_append, text]
    simp

theorem value_int {n : Int} (short : n.natAbs < leastHuge) (ends : EndsNumber after)
    (fuel room : Nat) :
    value (fuel + 1) room (scalarText (.int n) ++ after) = .ok (.int n, after) := by
  unfold leastHuge at short
  have few : (Nat.toDigits 10 n.natAbs).length ≤ Text.maxDigits :=
    length_toDigits_le (by decide) short
  have reads := reads_integer (isWhole_toDigits n.natAbs) few (decide (n < 0))
  have same : (if decide (n < 0) = true then -(n.natAbs : Int) else n.natAbs) = n := by
    simp only [decide_eq_true_eq]
    split <;> omega
  rw [digitsValue_toDigits, same] at reads
  rw [scalarText_int]
  exact value_of_reads reads ends fuel room

theorem value_real {real : Real} (canonical : real.isCanonical) (ends : EndsNumber after)
    (fuel room : Nat) :
    value (fuel + 1) room (scalarText (.real real) ++ after) = .ok (.real real, after) := by
  cases real with
  | finite negative digits exponent =>
    obtain ⟨body, written, reads⟩ := Real.reads_text canonical
    rw [scalarText, written]
    exact value_of_reads reads ends fuel room
  | infinity negative => cases negative <;> rfl
  | nan => rfl

end SyntaxGraph.Json
