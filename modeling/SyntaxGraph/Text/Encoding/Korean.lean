import SyntaxGraph.Text.Encoding.Chinese
import SyntaxGraph.Text.Encoding.KoreanTable

/-!
# Korean encodings

A syllable is a leading consonant, a vowel, and perhaps a trailing consonant. KS X 1001 has cells
for the syllables in use and spells the others with the letters they are made of.
-/
namespace SyntaxGraph.Text

def ksx1001Cells : Array Char := cellsOf 8836 packedKsx1001

def ksx1001Char? (lead trail : Nat) : Option Char := squareCell? ksx1001Cells lead trail

def syllable (leading vowel trailing : Nat) : Char :=
  Char.ofNat (0xAC00 + leading * 588 + vowel * 28 + trailing)

/-- The letters for leading consonants, by the second byte of their cells. -/
def leadingCells : List Nat :=
  [0xA1, 0xA2, 0xA4, 0xA7, 0xA8, 0xA9, 0xB1, 0xB2, 0xB3, 0xB5, 0xB6, 0xB7, 0xB8, 0xB9, 0xBA, 0xBB,
    0xBC, 0xBD, 0xBE]

/-- The letters for trailing consonants, by the second byte of their cells; the first stands for
none. -/
def trailingCells : List Nat :=
  [0xD4, 0xA1, 0xA2, 0xA3, 0xA4, 0xA5, 0xA6, 0xA7, 0xA9, 0xAA, 0xAB, 0xAC, 0xAD, 0xAE, 0xAF, 0xB0,
    0xB1, 0xB2, 0xB4, 0xB5, 0xB6, 0xB7, 0xB8, 0xBA, 0xBB, 0xBC, 0xBD, 0xBE]

/-- The syllable that is spelled with a filler and three letters. -/
def spelledSyllable? : List UInt8 → Option Char
  | [0xA4, 0xD4, 0xA4, leading, 0xA4, vowel, 0xA4, trailing] =>
    let first := leadingCells.idxOf leading.toNat
    let last := trailingCells.idxOf trailing.toNat
    if first < leadingCells.length && last < trailingCells.length && 0xBF ≤ vowel &&
        vowel ≤ 0xD3 then
      some (syllable first (vowel.toNat - 0xBF) last)
    else none
  | _ => none

def readEucKr (bytes : List UInt8) : Reading Unit :=
  match bytes with
  | 0xA4 :: 0xD4 :: _ =>
    -- A filler begins a syllable that is spelled with letters.
    let spelled := bytes.take 8
    if spelled.length < 8 then .bad bytes.length incompleteSequence
    else .ofOption (spelledSyllable? spelled) 8 illegalSequence
  | bytes => readAsciiOrPair ksx1001Char? bytes

/-- The syllables without a cell in KS X 1001, in the order of their codes. -/
def extraSyllables : Array Char :=
  ((missingCodes 11172 0xAC00 (codesBetween 0xAC00 0xD7A3 ksx1001Cells)).map Char.ofNat).toArray

/-- The column of a second byte among those that Windows adds. -/
def addedColumn? (trail : Nat) : Option Nat :=
  if 0x41 ≤ trail && trail ≤ 0x5A then some (trail - 0x41)
  else if 0x61 ≤ trail && trail ≤ 0x7A then some (trail - 0x61 + 26)
  else if 0x81 ≤ trail && trail ≤ 0xFE then some (trail - 0x81 + 52)
  else none

/-- The place of a pair of bytes among the syllables that Windows adds: first the rows before those
of KS X 1001, then the cells before those of KS X 1001 in its rows. -/
def addedIndex? (lead trail : Nat) : Option Nat := do
  let column ← addedColumn? trail
  if 0x81 ≤ lead && lead ≤ 0xA0 then return (lead - 0x81) * 178 + column
  else if 0xA1 ≤ lead && lead ≤ 0xC6 && column < 84 then
    return 5696 + (lead - 0xA1) * 84 + column
  else none

def windowsKoreanChar? (lead trail : Nat) : Option Char :=
  (ksx1001Char? lead trail).or ((addedIndex? lead trail).bind (cell? extraSyllables))

/-! ### Syllables by their letters -/

/-- The leading consonants by their five bits: their number, and the letter on its own. -/
def leadingBits : List (Nat × Nat × Nat) :=
  (leadingCells.zipIdx.map fun (cell, index) => (index + 2, index, 0x3131 + cell - 0xA1))

def vowelBits : List Nat :=
  [3, 4, 5, 6, 7, 10, 11, 12, 13, 14, 15, 18, 19, 20, 21, 22, 23, 26, 27, 28, 29]

def trailingBits : List Nat :=
  [1, 2, 3, 4, 5, 6, 7, 8, 9, 10, 11, 12, 13, 14, 15, 16, 17, 19, 20, 21, 22, 23, 24, 25, 26, 27,
    28, 29]

def placeIn? (item : Nat) (items : List Nat) : Option Nat :=
  let place := items.idxOf item
  if place < items.length then some place else none

/-- The character of five bits each for a leading consonant, a vowel and a trailing consonant. One
is the bits of a consonant and two those of a vowel that are not there. -/
def lettersChar? (leading vowel trailing : Nat) : Option Char := do
  let last ← placeIn? trailing trailingBits
  let letter (cell : Nat) : Char := Char.ofNat (0x3131 + cell - 0xA1)
  if leading = 1 then
    if vowel = 2 then
      -- Without any letter there is a blank.
      if last = 0 then some (Char.ofNat 0x3000)
      else (trailingCells[last]?).map letter
    else
      let middle ← placeIn? vowel vowelBits
      if last = 0 then some (Char.ofNat (0x314F + middle)) else none
  else
    let (_, first, code) ← leadingBits.find? (·.1 = leading)
    if vowel = 2 then if last = 0 then some (Char.ofNat code) else none
    else
      let middle ← placeIn? vowel vowelBits
      some (syllable first middle last)

/-- The cell of KS X 1001 that stands for neither a letter nor a syllable, by two bytes that leave
room for these. -/
def otherCell? (lead trail : Nat) : Option Char :=
  if lead = 0xDF || 0xF9 < lead || lead < 0xD9 || trail < 0x31 || (0x80 ≤ trail && trail < 0x91) ||
      trail % 0x80 = 0x7F || (lead = 0xDA && 0xA1 ≤ trail && trail ≤ 0xD3) then none
  else
    -- Each first byte stands for two rows.
    let row := if lead < 0xE0 then 2 * (lead - 0xD9) else 2 * lead - 0x197
    let column := if trail < 0x91 then trail - 0x31 else trail - 0x43
    if column < 94 then cell? ksx1001Cells (row * 94 + column)
    else cell? ksx1001Cells ((row + 1) * 94 + (column - 94))

/-- The character of a pair of bytes where syllables are written by their letters. -/
def johabChar? (lead trail : Nat) : Option Char :=
  if lead < 0xD8 then
    lettersChar? (lead / 4 % 32) (lead % 4 * 8 + trail / 32) (trail % 32)
  else otherCell? lead trail

end SyntaxGraph.Text
