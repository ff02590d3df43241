import SyntaxGraph.Text.Encoding.Jis0213
import SyntaxGraph.Text.Encoding.PageTable

/-!
# Encodings with escape sequences

Texts of seven bits in which escape sequences choose the character set of what follows. Sequences
that choose no set are text themselves.
-/
namespace SyntaxGraph.Text

inductive CharSet
  | ascii
  | latin1
  | greek
  | roman
  | narrow
  | jis0208
  | jis0212
  | jis0213 (edition : JisEdition)
  | jis0213Second
  | ksx1001
  | gb2312
deriving DecidableEq

/-- Which sets an encoding knows, and how they are chosen. -/
structure Scheme where
  sets : List CharSet
  /-- Whether two control characters switch between the first two sets. -/
  shifts : Bool := false
  /-- Whether a sequence takes one character from a third set. -/
  third : Bool := false
  /-- Whether a sequence may announce a revised set. -/
  revised : Bool := true
  /-- Whether the first edition of JIS X 0208 may be chosen. -/
  oldEdition : Bool := true
deriving DecidableEq

/-- The sets in use, and where the reader stands. -/
structure SetState where
  first : CharSet := .ascii
  second : CharSet := .ascii
  third : CharSet := .ascii
  shifted : Bool := false
  /-- Whether an escape sequence that chooses no set goes on. -/
  passing : Bool := false

def CharSet.width : CharSet → Nat
  | .ascii | .latin1 | .greek | .roman | .narrow => 1
  | .jis0208 | .jis0212 | .jis0213 _ | .jis0213Second | .ksx1001 | .gb2312 => 2

def singleSet? (letter : UInt8) : Option CharSet :=
  [(66, CharSet.ascii), (74, .roman), (73, .narrow), (65, .latin1), (70, .greek)].lookup letter

def pairSet? (oldEdition : Bool) (letter : UInt8) : Option CharSet :=
  if letter = 64 && !oldEdition then none
  else
    [(66, CharSet.jis0208), (64, .jis0208), (68, .jis0212), (67, .ksx1001), (65, .gb2312),
      (79, .jis0213 .first), (81, .jis0213 .second), (80, .jis0213Second)].lookup letter

def CharSet.chars? (set : CharSet) (a b : Nat) : Option (List Char) :=
  let index? := if a < 0x80 && b < 0x80 then squareIndex? (a + 0x80) (b + 0x80) else none
  let pair (cells : Array Char) : Option (List Char) :=
    (index?.bind (cell? cells)).map fun c => [c]
  match set with
  | .ascii => some [Char.ofNat a]
  | .latin1 | .greek => none
  | .roman => (romanSingle? a).map fun c => [c]
  | .narrow => (narrowChar? (a + 0x80)).map fun c => [c]
  | .jis0213 edition => index?.bind (firstPlane? edition mailCells)
  | .jis0213Second => (index?.bind (secondPlane? .second)).map fun c => [c]
  | .jis0208 => pair jis0208Cells
  | .jis0212 => pair jis0212Cells
  | .ksx1001 => pair ksx1001Cells
  | .gb2312 => pair gb2312Cells

def endsEscape (byte : UInt8) : Bool := 64 ≤ byte && byte ≤ 90

/-- Whether a byte after an escape character begins the choice of a set. -/
def choosesSet (byte : UInt8) : Bool := [40, 41, 36, 46, 38].contains byte

inductive EscapeEnd
  | missing
  | overlong
  | length (count : Nat)

/-- The end of an escape sequence of which `count` bytes were passed, looking at most `room` bytes
on; `skip` bytes are passed over first. -/
def escapeEnd (revised : Bool) (count skip : Nat) : Nat → List UInt8 → EscapeEnd
  | 0, _ => .overlong
  | _ + 1, [] => .missing
  | room + 1, byte :: rest =>
    if 0 < skip then escapeEnd revised (count + 1) (skip - 1) room rest
    else if endsEscape byte then .length (count + 1)
    -- The announcement of a revised set is followed by a sequence of its own.
    else if revised && byte = 38 && rest.head? = some 64 then
      escapeEnd revised (count + 1) 2 room rest
    else escapeEnd revised (count + 1) 0 room rest

inductive SetPlace
  | first
  | second
  | third
deriving DecidableEq

def SetState.choose (state : SetState) (place : SetPlace) (set : CharSet) : SetState :=
  match place with
  | .first => { state with first := set }
  | .second => { state with second := set }
  | .third => { state with third := set }

def setPlace? (third : Bool) (byte : UInt8) : Option SetPlace :=
  if byte = 40 then some .first
  else if byte = 41 then some .second
  else if byte = 46 && third then some .third
  else none

/-- The place and the set that an escape sequence chooses, if it makes sense. -/
def chosenSet? (scheme : Scheme) (sequence : List UInt8) : Option (SetPlace × CharSet) :=
  match sequence with
  | [_, 36, letter] => (pairSet? scheme.oldEdition letter).map fun set => (.first, set)
  | [_, place, letter] => do
    let set ← singleSet? letter
    let place ← setPlace? scheme.third place
    return (place, set)
  | [_, 36, place, letter] => do
    let set ← pairSet? scheme.oldEdition letter
    let place ← setPlace? false place
    return (place, set)
  | [_, _, _, 27, 36, 66] => if scheme.revised then some (.first, .jis0208) else none
  | _ => none

def readChoice (scheme : Scheme) (state : SetState) (bytes : List UInt8) : Reading SetState :=
  match escapeEnd scheme.revised 1 0 15 (bytes.drop 1) with
  | .missing => .bad bytes.length incompleteSequence
  | .overlong => .bad 1 illegalSequence
  | .length count =>
    match chosenSet? scheme (bytes.take count) with
    | some (place, set) =>
      -- ASCII can always be chosen.
      if set = .ascii || scheme.sets.contains set then .chars [] count (state.choose place set)
      else .bad count illegalSequence
    | none => .bad count illegalSequence

def thirdChar? (set : CharSet) (byte : Nat) : Option Char :=
  if set = .greek then
    let code := if byte < 0x80 then byte + 0x80 else byte - 0x80
    if code < 0xA0 then some (Char.ofNat code)
    else if [0xA4, 0xA5, 0xAA].contains code then none
    else
      match (pageOf "iso8859_7")[code - 0xA0]? with
      | some c => if c = Char.ofNat 0xFFFE then none else some c
      | none => none
  else if 0x80 ≤ byte then none
  else if set = .latin1 then some (Char.ofNat (byte + 0x80))
  else some (Char.ofNat byte)

def readInSet (state : SetState) (set : CharSet) (bytes : List UInt8) : Reading SetState :=
  let found :=
    match bytes.take set.width with
    | [a] => if set.width = 1 then some (set.chars? a.toNat 0) else none
    | [a, b] => some (set.chars? a.toNat b.toNat)
    | _ => none
  match found with
  | none => .bad bytes.length incompleteSequence
  | some none => .bad set.width illegalSequence
  | some (some chars) => .chars chars set.width state

def readMail (scheme : Scheme) (state : SetState) (bytes : List UInt8) : Reading SetState :=
  match bytes with
  | [] => .bad 1 incompleteSequence
  | byte :: rest =>
    let plain (state : SetState) : Reading SetState := .chars [Char.ofNat byte.toNat] 1 state
    -- A sequence that chooses no set is text up to its end.
    if state.passing then plain { state with passing := !endsEscape byte }
    else if byte = 27 then
      match rest with
      | [] => .bad 1 incompleteSequence
      | next :: rest =>
        if choosesSet next then readChoice scheme state bytes
        else if scheme.third && next = 78 then
          match rest with
          | [] => .bad 2 incompleteSequence
          | third :: _ =>
            match thirdChar? state.third third.toNat with
            | some c => .chars [c] 3 state
            | none => .bad 3 illegalSequence
        else plain { state with passing := true }
    else if byte = 15 && scheme.shifts then .chars [] 1 { state with shifted := false }
    else if byte = 14 && scheme.shifts then .chars [] 1 { state with shifted := true }
    -- Each line begins with the first set.
    else if byte = 10 then plain { state with shifted := false }
    else if byte < 32 then plain state
    else if 0x80 ≤ byte then .bad 1 illegalSequence
    else
      let set := if state.shifted then state.second else state.first
      if set = .ascii then plain state else readInSet state set bytes

end SyntaxGraph.Text
