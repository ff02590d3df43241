import SyntaxGraph.Text.Normal.Table

/-!
# Normal forms

Characters that differ only in form, and characters that are put together from others, have one
spelling in normal form: everything is taken apart, marks are put in order, and what belongs
together is put together again. Korean syllables are taken apart by their place.
-/
namespace SyntaxGraph.Text.Normal

structure Tables where
  decompositions : List (Nat × List Nat)
  compositions : List (Nat × List Nat)
  marks : List (List Nat)

def tables (_ : Unit) : Tables :=
  match (unpackLines packedNormal).map (partsBetween ';') with
  | [decompositions, compositions, marks] =>
    ⟨spelledFrom 0 decompositions, spelledFrom 0 compositions, marks.map entryNumbers⟩
  | _ => ⟨[], [], []⟩

/-- The class of a mark; zero for everything else. -/
def classOf (t : Tables) (code : Nat) : Nat :=
  (t.marks.findSome? fun
    | [first, last, rank] => if first ≤ code && code ≤ last then some rank else none
    | _ => none).getD 0

/-! ### Korean syllables -/

/-- The letters that a syllable consists of. -/
def letters? (code : Nat) : Option (List Nat) :=
  if 0xAC00 ≤ code && code < 0xAC00 + 11172 then
    let place := code - 0xAC00
    let pair := [0x1100 + place / 588, 0x1161 + place % 588 / 28]
    -- A syllable may end without a consonant.
    some (if place % 28 = 0 then pair else pair ++ [0x11A7 + place % 28])
  else none

def lead? (code : Nat) : Option Nat :=
  if 0x1100 ≤ code && code < 0x1100 + 19 then some (code - 0x1100) else none

def vowel? (code : Nat) : Option Nat :=
  if 0x1161 ≤ code && code < 0x1161 + 21 then some (code - 0x1161) else none

/-- The place of a trailing consonant, from one on. -/
def tail? (code : Nat) : Option Nat :=
  if 0x11A7 < code && code < 0x11A7 + 28 then some (code - 0x11A7) else none

/-- The syllable that the next letters make up, and what follows them. -/
def syllable? (codes : List Nat) : Option (Nat × List Nat) :=
  match codes with
  | first :: second :: rest => do
    let lead ← lead? first
    let vowel ← vowel? second
    let base := 0xAC00 + (lead * 21 + vowel) * 28
    match rest.head?.bind tail? with
    | some tail => some (base + tail, rest.drop 1)
    | none => some (base, rest)
  | _ => none

/-! ### Taking apart and putting together -/

def decompose (t : Tables) (code : Nat) : List Nat :=
  ((letters? code).or (t.decompositions.lookup code)).getD [code]

/-- Puts a mark before the first character that is no mark of a lower class. -/
def insertMark (t : Tables) (code : Nat) : List Nat → List Nat
  | [] => [code]
  | next :: rest =>
    let rank := classOf t next
    if rank ≠ 0 && rank < classOf t code then next :: insertMark t code rest
    else code :: next :: rest

/-- Puts the marks behind each character in the order of their classes. -/
def orderMarks (t : Tables) (codes : List Nat) : List Nat :=
  codes.foldr
    (fun code rest => if classOf t code = 0 then code :: rest else insertMark t code rest) []

def composition? (t : Tables) (first second : Nat) : Option Nat :=
  t.compositions.findSome? fun
    | (joined, [a, b]) => if a = first && b = second then some joined else none
    | _ => none

/-- Joins to a character what follows it and is not kept away from it; `rank` is the class of the
last mark that could not be joined. -/
def absorb (t : Tables) (first rank : Nat) : List Nat → Nat × List Nat
  | [] => (first, [])
  | next :: rest =>
    let own := classOf t next
    -- A mark that could not be joined keeps the next letter away, and marks of its class.
    if rank ≠ 0 && own = 0 then (first, next :: rest)
    else if rank ≠ 0 && own ≤ rank then
      let (joined, left) := absorb t first rank rest
      (joined, next :: left)
    else
      match composition? t first next with
      | some joined => absorb t joined rank rest
      | none =>
        if own = 0 then (first, next :: rest)
        else
          let (joined, left) := absorb t first own rest
          (joined, next :: left)

/-- Puts together what belongs together, in at most so many steps. -/
def compose (t : Tables) : Nat → List Nat → List Nat
  | 0, codes => codes
  | _, [] => []
  | fuel + 1, first :: rest =>
    match syllable? (first :: rest) with
    | some (syllable, left) => syllable :: compose t fuel left
    | none =>
      let (joined, left) := absorb t first 0 rest
      joined :: compose t fuel left

def form (t : Tables) (codes : List Nat) : List Nat :=
  let apart := orderMarks t (codes.flatMap (decompose t))
  compose t apart.length apart

end SyntaxGraph.Text.Normal
