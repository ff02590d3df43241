import SyntaxGraph.Json.Basic
import SyntaxGraph.Text.Integer

/-!
# Reading JSON

One value with blanks around it. The names `NaN`, `Infinity` and `-Infinity` are numbers, control
characters inside strings are refused, and of a key given twice the last value counts. A text that
holds no value is refused with the cause and the place where reading stopped.
-/
namespace SyntaxGraph.Json

inductive Cause
  | noValue
  | noKey
  | noColon
  | noComma
  | moreText
  | openString
  | controlCharacter
  | badEscape
  | badUnit
  | byteOrderMark
deriving DecidableEq

def Cause.text : Cause → String
  | .noValue => "Expecting value"
  | .noKey => "Expecting property name enclosed in double quotes"
  | .noColon => "Expecting ':' delimiter"
  | .noComma => "Expecting ',' delimiter"
  | .moreText => "Extra data"
  | .openString => "Unterminated string starting at"
  | .controlCharacter => "Invalid control character at"
  | .badEscape => "Invalid \\escape"
  | .badUnit => "Invalid \\uXXXX escape"
  | .byteOrderMark => "Unexpected UTF-8 BOM (decode using utf-8-sig)"

/-- Why a text is refused. A place is told by how many characters are left there. -/
inductive Refusal
  /-- The text breaks a rule of the format. -/
  | malformed (cause : Cause) (left : Nat)
  | hugeNumber
  | tooDeep
deriving DecidableEq

def refuse {α : Type} (cause : Cause) (left : List Char) : Except Refusal α :=
  .error (.malformed cause left.length)

def isBlank (c : Char) : Bool :=
  c = ' ' || c = '\t' || c = '\n' || c = '\r'

def skipBlanks (text : List Char) : List Char :=
  text.dropWhile isBlank

def hexValue? (c : Char) : Option Nat :=
  if '0' ≤ c ∧ c ≤ '9' then some (c.toNat - 48)
  else if 'a' ≤ c ∧ c ≤ 'f' then some (c.toNat - 87)
  else if 'A' ≤ c ∧ c ≤ 'F' then some (c.toNat - 55)
  else none

def unit? (a b c d : Char) : Option Nat := do
  let a ← hexValue? a
  let b ← hexValue? b
  let c ← hexValue? c
  let d ← hexValue? d
  return ((a * 16 + b) * 16 + c) * 16 + d

/-- A part of a string: a character, or a UTF-16 unit that may need a partner. -/
inductive Piece
  | char (value : Char)
  | unit (value : Nat)

def letterEscape? (c : Char) : Option Char :=
  if c = '"' then some '"'
  else if c = '\\' then some '\\'
  else if c = '/' then some '/'
  else if c = 'b' then some (Char.ofNat 8)
  else if c = 'f' then some (Char.ofNat 12)
  else if c = 'n' then some '\n'
  else if c = 'r' then some '\r'
  else if c = 't' then some '\t'
  else none

/-- The UTF-16 unit of the four digits after a backslash and a `u`, and what follows it; something
has to. -/
def unitAfter? (digits : List Char) : Option (Nat × List Char) :=
  match digits with
  | a :: b :: c :: d :: next :: rest => (unit? a b c d).map fun unit => (unit, next :: rest)
  | _ => none

/-- The pieces up to the closing quote, and what follows it; `start` is the string with its opening
quote. -/
def pieces (start : List Char) : Nat → List Char → Except Refusal (List Piece × List Char)
  | 0, _ | _, [] => refuse .openString start
  | fuel + 1, c :: rest =>
    if c = '"' then .ok ([], rest)
    else if c = '\\' then
      match rest with
      | [] => refuse .openString start
      | 'u' :: digits =>
        match unitAfter? digits with
        -- The place is that of the letter behind the backslash.
        | none => refuse .badUnit ('u' :: digits)
        | some (unit, after) => do
          let (more, after) ← pieces start fuel after
          return (.unit unit :: more, after)
      | letter :: after =>
        match letterEscape? letter with
        -- Here the place is that of the backslash.
        | none => refuse .badEscape (c :: rest)
        | some escaped => do
          let (more, after) ← pieces start fuel after
          return (.char escaped :: more, after)
    else if c.toNat < 32 then refuse .controlCharacter (c :: rest)
    else do
      let (more, after) ← pieces start fuel rest
      return (.char c :: more, after)

/-- Joins the two halves of each pair; half a pair on its own stays as it is. -/
def joinPieces : List Piece → List Text.CodePoint
  | [] => []
  | .char c :: rest => .char c :: joinPieces rest
  | .unit high :: .unit low :: rest =>
    if Text.isHighHalf high && Text.isLowHalf low then
      .char (Text.joinHalves high low) :: joinPieces rest
    -- The second unit may be the first half of another pair.
    else .ofNat high :: joinPieces (.unit low :: rest)
  | .unit unit :: rest => .ofNat unit :: joinPieces rest

def string (text : List Char) : Except Refusal (List Text.CodePoint × List Char) := do
  let (parts, after) ← pieces ('"' :: text) (text.length + 1) text
  return (joinPieces parts, after)

def digitsValue (digits : List Char) : Nat :=
  digits.foldl (fun total c => total * 10 + (c.toNat - 48)) 0

def spanDigits (text : List Char) : List Char × List Char :=
  (text.takeWhile Char.isDigit, text.dropWhile Char.isDigit)

def fraction? (text : List Char) : Option (List Char × List Char) :=
  match text with
  | '.' :: rest =>
    let (digits, after) := spanDigits rest
    if digits.isEmpty then none else some (digits, after)
  | _ => none

def exponent? (text : List Char) : Option (Int × List Char) :=
  match text with
  | mark :: rest =>
    if mark = 'e' ∨ mark = 'E' then
      let (negative, body) := match rest with
        | '-' :: body => (true, body)
        | '+' :: body => (false, body)
        | body => (false, body)
      let (digits, after) := spanDigits body
      -- Without digits the mark belongs to what follows the number.
      if digits.isEmpty then none
      else
        let size : Int := digitsValue digits
        some (if negative then -size else size, after)
    else none
  | [] => none

/-- The digits before the point: a zero stands alone. -/
def whole? (text : List Char) : Option (List Char × List Char) :=
  match text with
  | '0' :: rest => some (['0'], rest)
  | _ =>
    let (digits, after) := spanDigits text
    if digits.isEmpty then none else some (digits, after)

/-- An integer of given digits, which may not be too many. -/
def integer (negative : Bool) (digits : List Char) : Except Refusal Json :=
  if Text.maxDigits < digits.length then .error .hugeNumber
  else
    let size : Int := digitsValue digits
    .ok (.int (if negative then -size else size))

/-- A number without its sign; `start` is the number with its sign. -/
def magnitude (start : List Char) (negative : Bool) (text : List Char) :
    Except Refusal (Json × List Char) :=
  match whole? text with
  | none => refuse .noValue start
  | some (digits, after) =>
    match fraction? after, exponent? after with
    -- Only what has neither a fraction nor an exponent is an integer.
    | none, none => (integer negative digits).map fun value => (value, after)
    | none, some (power, rest) =>
      .ok (.real (Real.ofDecimal negative (digitsValue digits) power), rest)
    | some (places, rest), _ =>
      let value := digitsValue (digits ++ places)
      match exponent? rest with
      | none => .ok (.real (Real.ofDecimal negative value (-(places.length : Int))), rest)
      | some (power, rest) =>
        .ok (.real (Real.ofDecimal negative value (power - (places.length : Int))), rest)

def number (text : List Char) : Except Refusal (Json × List Char) :=
  match text with
  | '-' :: rest => magnitude text true rest
  | _ => magnitude text false text

def afterWord? : List Char → List Char → Option (List Char)
  | [], text => some text
  | c :: word, d :: text => if c = d then afterWord? word text else none
  | _ :: _, [] => none

def words : List (List Char × Json) :=
  [(['n', 'u', 'l', 'l'], .null), (['t', 'r', 'u', 'e'], .bool true),
    (['f', 'a', 'l', 's', 'e'], .bool false), (['N', 'a', 'N'], .real .nan),
    ("Infinity".toList, .real (.infinity false)), ("-Infinity".toList, .real (.infinity true))]

def word? (text : List Char) : Option (Json × List Char) :=
  words.findSome? fun (word, value) => (afterWord? word text).map fun after => (value, after)

mutual

/-- A value at the start of the text; there is room for so many brackets inside each other. -/
def value : Nat → Nat → List Char → Except Refusal (Json × List Char)
  -- The fuel exceeds the length of the text, so it never runs out.
  | 0, _, text => refuse .noValue text
  | fuel + 1, room, text =>
    match text with
    | '"' :: rest => (string rest).map fun (codes, after) => (ofCodePoints codes, after)
    | '[' :: rest =>
      match room, skipBlanks rest with
      | 0, _ => .error .tooDeep
      | _ + 1, ']' :: after => .ok (.arr [], after)
      | room + 1, inner => (items fuel room inner).map fun (items, after) => (.arr items, after)
    | '\x7b' :: rest =>
      match room, skipBlanks rest with
      | 0, _ => .error .tooDeep
      | _ + 1, '\x7d' :: after => .ok (.obj [], after)
      | room + 1, inner =>
        (fields fuel room [] inner).map fun (fields, after) => (ofFields fields, after)
    | _ =>
      match word? text with
      | some found => .ok found
      | none => number text

def items : Nat → Nat → List Char → Except Refusal (List Json × List Char)
  | 0, _, text => refuse .noValue text
  | fuel + 1, room, text => do
    let (item, after) ← value fuel room text
    match skipBlanks after with
    | ']' :: rest => return ([item], rest)
    | ',' :: rest =>
      let (more, rest) ← items fuel room (skipBlanks rest)
      return (item :: more, rest)
    | rest => refuse .noComma rest

/-- The fields of an object up to its closing bracket, added to those read before. -/
def fields : Nat → Nat → List (List Text.CodePoint × Json) → List Char →
    Except Refusal (List (List Text.CodePoint × Json) × List Char)
  | 0, _, _, text => refuse .noKey text
  | fuel + 1, room, known, text =>
    match text with
    | '"' :: body => do
      let (key, after) ← string body
      match skipBlanks after with
      | ':' :: rest =>
        let (item, after) ← value fuel room (skipBlanks rest)
        -- Of a key that is given twice the last value counts.
        let known := insert known key item
        match skipBlanks after with
        | '\x7d' :: rest => return (known, rest)
        | ',' :: rest => fields fuel room known (skipBlanks rest)
        | rest => refuse .noComma rest
      | rest => refuse .noColon rest
    | _ => refuse .noKey text

end

/-- The value that a text holds, and nothing else but blanks, with room for so many brackets inside
each other. -/
def parse (room : Nat) (text : List Char) : Except Refusal Json := do
  let (value, after) ← value (2 * text.length + 2) room (skipBlanks text)
  match skipBlanks after with
  | [] => return value
  | rest => refuse .moreText rest

def parse? (text : String) : Option Json :=
  (parse text.length text.toList).toOption

/-! ### Documents -/

/-- How deep values may be nested in a document. -/
def maxDepth : Nat := 9997

/-- The value that a document holds. A mark of the byte order at its beginning is refused. -/
def parseDocument (text : List Char) : Except Refusal Json :=
  if text.head? = some (Char.ofNat 0xFEFF) then refuse .byteOrderMark text
  else parse maxDepth text

/-- A place in a text in words: its line, its column, and its offset. -/
def placeText (text : List Char) (left : Nat) : String :=
  let offset := text.length - left
  let before := text.take offset
  let line := before.count '\n' + 1
  let column := (before.reverse.takeWhile (· ≠ '\n')).length + 1
  s!"line {line} column {column} (char {offset})"

/-- Why a text is refused, in words, where the refusal has words. -/
def Refusal.text? (text : List Char) : Refusal → Option String
  | .malformed cause left => some s!"{cause.text}: {placeText text left}"
  | .hugeNumber | .tooDeep => none

end SyntaxGraph.Json
