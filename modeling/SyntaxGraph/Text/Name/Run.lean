import SyntaxGraph.Text.Name.Table

/-!
# Runs of names

The names of characters with consecutive codes. Names that follow each other often begin or end with
the same words, so each name is given by a sign, which counts the words that it begins with as the
name before, by words of its own, and by a small letter for the words that it ends with as that
name.
-/
namespace SyntaxGraph.Text

def wordsOf (text : List Char) : List (List Char) :=
  if text.isEmpty then [] else partsBetween ' ' text

/-- The signs that names in a run begin with, by the count of words that they stand for. -/
def countSigns : List Char :=
  ['!', '$', '%', '&', '(', ')', '*', '+', ',', '.', ':', ';', '<', '=', '>', '?', '@', '^', '_',
    '~']

/-- A text before the first sign, and the names behind it, each with its sign. -/
def signedNames : List Char → List Char × List (List Char)
  | [] => ([], [])
  | c :: rest =>
    let (open', names) := signedNames rest
    if countSigns.contains c then ([], (c :: open') :: names) else (c :: open', names)

/-- The words of a name, given those of the name before. -/
def nextName (before : List (List Char)) : List Char → List (List Char)
  | [] => []
  | sign :: rest =>
    let own := rest.takeWhile fun c => !c.isLower
    let kept := (rest.drop own.length).head?.elim 0 fun c => c.toNat - 'a'.toNat
    before.take (countSigns.idxOf sign) ++ wordsOf own ++ before.drop (before.length - kept)

/-- The place of a name among entries, which are counted from a place on. -/
def placeOfName? (wanted before : List (List Char)) (place : Nat) :
    List (List Char) → Option Nat
  | [] => none
  | entry :: rest =>
    let name := nextName before entry
    if name = wanted then some place else placeOfName? wanted name (place + 1) rest

def capitalHexDigit? (c : Char) : Option Nat :=
  if c.isDigit then some (c.toNat - '0'.toNat)
  else if 'A' ≤ c && c ≤ 'F' then some (c.toNat - 'A'.toNat + 10)
  else none

def numberSpelled? (digits : List Char) : Option Nat :=
  (digits.mapM capitalHexDigit?).map fun values => values.foldl (fun total d => total * 16 + d) 0

/-- The code of a name in a run, which begins with the code of its first character. -/
def findInRun? (wanted : List (List Char)) (run : List Char) : Option Nat :=
  let (start, names) := signedNames run
  (numberSpelled? start).bind fun code => placeOfName? wanted [] code names

end SyntaxGraph.Text
