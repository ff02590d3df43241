/-!
# Entries of tables

Tables are written as texts of entries, whose numbers are hexadecimal.
-/
namespace SyntaxGraph.Text

def partsBetween (mark : Char) : List Char → List (List Char)
  | [] => [[]]
  | c :: rest =>
    match partsBetween mark rest with
    | first :: others => if c = mark then [] :: first :: others else (c :: first) :: others
    | [] => [[c]]

def entryDigit (c : Char) : Nat :=
  if c.isDigit then c.toNat - '0'.toNat else c.toNat - 'A'.toNat + 10

def entryNumber (digits : List Char) : Nat :=
  digits.foldl (fun total c => total * 16 + entryDigit c) 0

def entryNumbers (entry : List Char) : List Nat :=
  (partsBetween ' ' entry).map entryNumber

/-- What a mark in an entry divides, if it is there. -/
def dividedBy? (mark : Char) (entry : List Char) : Option (List Char × List Char) :=
  match partsBetween mark entry with
  | [before, behind] => some (before, behind)
  | _ => none

/-- Characters and what they stand for, from `next` on. An entry names its character where that does
not follow the one before, and after a plus sign how many more characters stand for the like, each
beginning with the next character. -/
def spelledFrom : Nat → List (List Char) → List (Nat × List Nat)
  | _, [] => []
  | next, entry :: rest =>
    let (code, spelling) :=
      match dividedBy? ':' entry with
      | some (code, spelling) => (entryNumber code, spelling)
      | none => (next, entry)
    let (codes, more) :=
      match dividedBy? '+' spelling with
      | some (codes, more) => (entryNumbers codes, entryNumber more)
      | none => (entryNumbers spelling, 0)
    (List.range (more + 1)).map (fun k => (code + k, codes.modifyHead (· + k))) ++
      spelledFrom (code + more + 1) rest

/-- The entries of a text, divided by semicolons. Newlines are for the eye. -/
def spellings (text : List Char) : List (Nat × List Nat) :=
  spelledFrom 0 (partsBetween ';' (text.filter (· ≠ '\n')))

end SyntaxGraph.Text
