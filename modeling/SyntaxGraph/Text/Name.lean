import SyntaxGraph.Text.Name.Further

/-!
# Names of characters

The character that a name stands for. Most names are in tables; those of Korean syllables are put
together from the names of their letters, and those of ideographs from their codes.
-/
namespace SyntaxGraph.Text

def leadNames : List String :=
  ["G", "GG", "N", "D", "DD", "R", "M", "B", "BB", "S", "SS", "", "J", "JJ", "C", "K",
    "T", "P", "H"]

def vowelNames : List String :=
  ["A", "AE", "YA", "YAE", "EO", "E", "YEO", "YE", "O", "WA", "WAE", "OE", "YO", "U", "WEO", "WE",
    "WI", "YU", "EU", "YI", "I"]

/-- The names of trailing consonants, in order; a syllable may do without. -/
def tailNames : List String :=
  ["", "G", "GG", "GS", "N", "NJ", "NH", "D", "L", "LG", "LM", "LB", "LS", "LT", "LP", "LH", "M",
    "B", "BS", "S", "SS", "NG", "J", "C", "K", "T", "P", "H"]

/-- The longest of some names that a text begins with: its place and what follows it. -/
def longestName? (names : List String) (text : List Char) : Option (Nat × List Char) :=
  (names.zipIdx.foldl (fun best (name, place) =>
    if name.toList.isPrefixOf text && (best.all fun (size, _) => size < name.length) then
      some (name.length, place)
    else best) none).map fun (size, place) => (place, text.drop size)

/-- The code of a syllable by the names of its letters. -/
def syllableNamed? (text : List Char) : Option Nat := do
  let (lead, rest) ← longestName? leadNames text
  let (vowel, rest) ← longestName? vowelNames rest
  let (tail, rest) ← longestName? tailNames rest
  if rest.isEmpty then some (0xAC00 + (lead * 21 + vowel) * 28 + tail) else none

def ideographRanges : List (Nat × Nat) :=
  [(0x3400, 0x4DBF), (0x4E00, 0x9FFF), (0x20000, 0x2A6DF), (0x2A700, 0x2B739), (0x2B740, 0x2B81D),
    (0x2B820, 0x2CEA1), (0x2CEB0, 0x2EBE0), (0x30000, 0x3134A), (0x31350, 0x323AF)]

def inRanges (ranges : List (Nat × Nat)) (code : Nat) : Bool :=
  ranges.any fun (first, last) => first ≤ code && code ≤ last

/-- The code that four or five hexadecimal digits spell. -/
def codeSpelled? (digits : List Char) : Option Nat :=
  if digits.length = 4 || digits.length = 5 then numberSpelled? digits else none

/-- What names begin with that end in the code of their character, and the ranges of the codes. -/
def codedNames : List (String × List (Nat × Nat)) :=
  [("CJK COMPATIBILITY IDEOGRAPH-", [(0xF900, 0xFA6D), (0xFA70, 0xFAD9), (0x2F800, 0x2FA1D)]),
    ("KHITAN SMALL SCRIPT CHARACTER-", [(0x18B00, 0x18CD5)]),
    ("NUSHU CHARACTER-", [(0x1B170, 0x1B2FB)])]

def afterStart? (start : String) (text : List Char) : Option (List Char) :=
  if start.toList.isPrefixOf text then some (text.drop start.length) else none

/-- The code of a name that ends in its code, with a beginning and ranges. -/
def codeNamed? (start : String) (ranges : List (Nat × Nat)) (name : List Char) : Option Nat := do
  let digits ← afterStart? start name
  let code ← codeSpelled? digits
  -- There is no leading zero.
  if inRanges ranges code && digits.head? ≠ some '0' then some code else none

def tableNamed? (name : List Char) : Option Nat :=
  (furtherNamed? name).or <|
    (codedNames.findSome? fun (start, ranges) => codeNamed? start ranges name).or <|
      (unpackLines packedNames).findSome? (findInRun? (wordsOf name))

/-- The character that a name stands for. -/
def charNamed? (name : List Char) : Option Char :=
  match afterStart? "HANGUL SYLLABLE " name, afterStart? "CJK UNIFIED IDEOGRAPH-" name with
  | some letters, _ => (syllableNamed? letters).map Char.ofNat
  | none, some digits =>
    (codeSpelled? digits).bind fun code =>
      if inRanges ideographRanges code then some (Char.ofNat code) else none
  -- Only in the tables small letters are as good as capitals.
  | none, none => (tableNamed? (name.map Char.toUpper)).map Char.ofNat

end SyntaxGraph.Text
