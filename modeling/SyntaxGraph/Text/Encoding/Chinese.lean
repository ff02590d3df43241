import SyntaxGraph.Text.Encoding.ChineseTable
import SyntaxGraph.Text.Encoding.Reading

/-!
# Chinese encodings

A character is an ASCII byte or a pair of bytes; GB 18030 has characters of four bytes besides. In
the encoding for mail, marks between ASCII characters switch to pairs and back.
-/
namespace SyntaxGraph.Text

def illegalSequence : String := "illegal multibyte sequence"

def incompleteSequence : String := "incomplete multibyte sequence"

def readPair (char? : Nat → Nat → Option Char) : List UInt8 → Reading Unit
  | lead :: trail :: _ => .ofOption (char? lead.toNat trail.toNat) 2 illegalSequence
  | _ => .bad 1 incompleteSequence

def readAsciiOrPair (char? : Nat → Nat → Option Char) (bytes : List UInt8) : Reading Unit :=
  match bytes with
  | byte :: _ =>
    if byte < 0x80 then .one (Char.ofNat byte.toNat) 1 else readPair char? bytes
  | [] => .bad 1 incompleteSequence

def squareCell? (cells : Array Char) (lead trail : Nat) : Option Char :=
  if 0xA1 ≤ lead && lead ≤ 0xFE && 0xA1 ≤ trail && trail ≤ 0xFE then
    cell? cells ((lead - 0xA1) * 94 + (trail - 0xA1))
  else none

/-! ### Mainland China -/

def gb2312Cells : Array Char := cellsOf 8836 packedGb2312

def gb2312Char? (lead trail : Nat) : Option Char := squareCell? gb2312Cells lead trail

def gbkIndex? (lead trail : Nat) : Option Nat :=
  if 0x81 ≤ lead && lead ≤ 0xFE && 0x40 ≤ trail && trail ≤ 0xFE && trail ≠ 0x7F then
    some ((lead - 0x81) * 190 + (if trail < 0x7F then trail - 0x40 else trail - 0x41))
  else none

/-- The ideographs that GB 2312 lacks, in the order of their codes. -/
def extraIdeographs : Array Char :=
  ((missingCodes 20902 0x4E00 (codesBetween 0x4E00 0x9FA5 gb2312Cells)).map Char.ofNat).toArray

/-- The cells of GBK apart from its ideographs in the order of their codes. -/
def gbkCells : Array Char := cellsOf 23940 packedGbk

/-- The place of a pair of bytes among the ideographs in the order of their codes: first the rows
before those of GB 2312, then the cells before those of GB 2312 in its rows. -/
def ideographIndex? (lead trail : Nat) : Option Nat :=
  if lead < 0xA1 then gbkIndex? lead trail
  else if 0xAA ≤ lead && lead ≤ 0xFE && 0x40 ≤ trail && trail ≤ 0xA0 && trail ≠ 0x7F then
    some (6080 + (lead - 0xAA) * 96 + (if trail < 0x7F then trail - 0x40 else trail - 0x41))
  else none

def gbkChar? (lead trail : Nat) : Option Char :=
  ((gbkIndex? lead trail).bind (cell? gbkCells)).or
    ((gb2312Char? lead trail).or ((ideographIndex? lead trail).bind (cell? extraIdeographs)))

def gb18030Cells : Array Char := cellsOf 23940 packedGb18030

def gb18030Char? (lead trail : Nat) : Option Char :=
  (gbkChar? lead trail).or ((gbkIndex? lead trail).bind (cell? gb18030Cells))

def gb18030Pairs : Array Char :=
  ((List.range 126).flatMap fun lead => (List.range 191).filterMap fun trail =>
    gb18030Char? (0x81 + lead) (0x40 + trail)).toArray

/-- The characters of the first plane that have no pair of bytes in GB 18030, in the order of their
codes. -/
def quadChars : Array Char :=
  ((missingCodes 65408 0x80 (codesBetween 0x80 0xFFFF gb18030Pairs)).filterMap fun code =>
    if code.isValidChar then some (Char.ofNat code) else none).toArray

def gb18030Quad? (a b c d : Nat) : Option Char :=
  if 0x81 ≤ a && a ≤ 0xFE && 0x81 ≤ c && c ≤ 0xFE && 0x30 ≤ d && d ≤ 0x39 then
    let index := (((a - 0x81) * 10 + (b - 0x30)) * 126 + (c - 0x81)) * 10 + (d - 0x30)
    if index < 50400 then cell? quadChars index
    -- Beyond the first plane the characters follow each other.
    else if 189000 ≤ index && index < 189000 + 0x100000 then
      some (Char.ofNat (index - 189000 + 0x10000))
    else none
  else none

def readGb18030 (bytes : List UInt8) : Reading Unit :=
  match bytes with
  | a :: b :: rest =>
    if a < 0x80 then .one (Char.ofNat a.toNat) 1
    -- A digit in the second place tells that there are four bytes.
    else if 0x30 ≤ b && b ≤ 0x39 then
      match rest with
      | c :: d :: _ =>
        .ofOption (gb18030Quad? a.toNat b.toNat c.toNat d.toNat) 4 illegalSequence
      | _ => .bad bytes.length incompleteSequence
    else readPair gb18030Char? bytes
  | bytes => readAsciiOrPair gb18030Char? bytes

/-- Reads a character in the encoding for mail. The state tells whether pairs are expected. -/
def readHz (pairs : Bool) (bytes : List UInt8) : Reading Bool :=
  match bytes with
  | 0x7E :: mark :: _ =>
    if mark = 0x7E && !pairs then .chars ['~'] 2 pairs
    else if mark = 0x7B && !pairs then .chars [] 2 true
    else if mark = 0x7D && pairs then .chars [] 2 false
    else if mark = 0x0A && !pairs then .chars [] 2 pairs
    else .bad 1 illegalSequence
  | [0x7E] => .bad 1 incompleteSequence
  | byte :: rest =>
    if 0x80 ≤ byte then .bad 1 illegalSequence
    else if !pairs then .chars [Char.ofNat byte.toNat] 1 false
    else
      match rest with
      | [] => .bad 1 incompleteSequence
      | trail :: _ =>
        match gb2312Char? (byte.toNat + 0x80) (trail.toNat + 0x80) with
        | some c => .chars [c] 2 pairs
        | none => .bad 1 illegalSequence
  | [] => .bad 1 incompleteSequence

/-! ### Taiwan and Hong Kong -/

def big5Index? (lead trail : Nat) : Option Nat :=
  if 0x81 ≤ lead && lead ≤ 0xFE then
    if 0x40 ≤ trail && trail ≤ 0x7E then some ((lead - 0x81) * 157 + (trail - 0x40))
    else if 0xA1 ≤ trail && trail ≤ 0xFE then some ((lead - 0x81) * 157 + (trail - 0xA1) + 63)
    else none
  else none

def big5Cells : Array Char := cellsOf 19782 packedBig5

def big5Char? (lead trail : Nat) : Option Char :=
  (big5Index? lead trail).bind (cell? big5Cells)

def windowsBig5Cells : Array Char := overwrite big5Cells packedWindowsBig5

def windowsBig5Char? (lead trail : Nat) : Option Char :=
  (big5Index? lead trail).bind (cell? windowsBig5Cells)

/-- The cells of Big5 that Hong Kong leaves empty. -/
def hongKongEmpty : List Nat := [10942, 10946, 10948, 10950, 10957, 10958]

def hongKongCells : Array Char :=
  hongKongEmpty.foldl (fun cells index => cells.setIfInBounds index noChar)
    (overwrite big5Cells packedHongKong)

/-- The pairs of bytes that stand for a letter with an accent of its own in Hong Kong. -/
def hongKongAccents : List ((Nat × Nat) × List Char) :=
  [((0x88, 0x62), [Char.ofNat 0xCA, Char.ofNat 0x304]),
    ((0x88, 0x64), [Char.ofNat 0xCA, Char.ofNat 0x30C]),
    ((0x88, 0xA3), [Char.ofNat 0xEA, Char.ofNat 0x304]),
    ((0x88, 0xA5), [Char.ofNat 0xEA, Char.ofNat 0x30C])]

def readHongKong (bytes : List UInt8) : Reading Unit :=
  let plain :=
    readAsciiOrPair (fun lead trail => (big5Index? lead trail).bind (cell? hongKongCells)) bytes
  match bytes with
  | lead :: trail :: _ =>
    match hongKongAccents.lookup (lead.toNat, trail.toNat) with
    | some chars => .chars chars 2 ()
    | none => plain
  | _ => plain

end SyntaxGraph.Text
