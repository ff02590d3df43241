import SyntaxGraph.Text.Half

/-!
# Glob patterns

Patterns for names: `*` stands for any text, `?` for any character, and brackets for one of the
characters that they list. A slash is a character like any other.
-/
namespace SyntaxGraph.Text

inductive GlobPiece
  | star
  | any
  | char (c : CodePoint)
  /-- A character inside or outside of ranges. -/
  | set (negated : Bool) (ranges : List (CodePoint × CodePoint))
deriving DecidableEq

/-- What brackets list, and what follows them; `none` if they are never closed. -/
def bracketBody (rest : List CodePoint) : Option (List CodePoint × List CodePoint) :=
  -- A closing bracket in the first place is listed.
  let (lead, rest) : List CodePoint × List CodePoint :=
    match rest with
    | .char '!' :: .char ']' :: rest => ([.char '!', .char ']'], rest)
    | .char '!' :: rest => ([.char '!'], rest)
    | .char ']' :: rest => ([.char ']'], rest)
    | rest => ([], rest)
  match rest.dropWhile (· ≠ CodePoint.char ']') with
  | [] => none
  | _ :: after => some (lead ++ rest.takeWhile (· ≠ CodePoint.char ']'), after)

/-- Cuts a list at the hyphens that make ranges: `skip` characters are passed over first, and two
after each cut. -/
def cutRanges (skip : Nat) (chunk : List CodePoint) : List CodePoint → List (List CodePoint)
  | [] => [chunk]
  -- A hyphen at the very end is a character.
  | [.char '-'] => [chunk ++ [.char '-']]
  | c :: rest =>
    if c = .char '-' && skip = 0 then chunk :: cutRanges 2 [] rest
    else cutRanges (skip - 1) (chunk ++ [c]) rest

/-- Drops the ranges that hold nothing, the last one first. -/
def dropEmptyRanges : List (List CodePoint) → List (List CodePoint)
  | [] => []
  | chunk :: rest =>
    match dropEmptyRanges rest with
    | [] => [chunk]
    | next :: others =>
      match chunk.getLast?, next.head? with
      | some last, some first =>
        if first.code < last.code then (chunk.dropLast ++ next.drop 1) :: others
        else chunk :: next :: others
      | _, _ => chunk :: next :: others

def singletons (chars : List CodePoint) : List (CodePoint × CodePoint) :=
  chars.map fun c => (c, c)

/-- The ranges between chunks, and the characters inside them. -/
def rangesOf (chunk : List CodePoint) : List (List CodePoint) → List (CodePoint × CodePoint)
  | [] => singletons chunk
  | next :: others =>
    singletons chunk.dropLast ++
      (match chunk.getLast?, next.head? with
        | some first, some last => [(first, last)]
        | _, _ => []) ++
      rangesOf (next.drop 1) others

def bracketPiece (body : List CodePoint) : GlobPiece :=
  let skip := if body.head? = some (.char '!') then 2 else 1
  match dropEmptyRanges (cutRanges skip [] body) with
  -- Nothing is left of what is not to be accepted.
  | [[.char '!']] => .any
  | (.char '!' :: chunk) :: others => .set true (rangesOf chunk others)
  | chunk :: others => .set false (rangesOf chunk others)
  | [] => .set false []

def globPieces : Nat → List CodePoint → List GlobPiece
  | 0, _ => []
  | _ + 1, [] => []
  | fuel + 1, c :: rest =>
    if c = .char '*' then .star :: globPieces fuel rest
    else if c = .char '?' then .any :: globPieces fuel rest
    else if c = .char '[' then
      match bracketBody rest with
      -- A bracket that is never closed stands for itself.
      | none => .char c :: globPieces fuel rest
      | some (body, after) => bracketPiece body :: globPieces fuel after
    else .char c :: globPieces fuel rest

def GlobPiece.accepts : GlobPiece → CodePoint → Bool
  | .star, _ => true
  | .any, _ => true
  | .char d, c => c = d
  | .set negated ranges, c =>
    (ranges.any fun (first, last) => first.code ≤ c.code && c.code ≤ last.code) != negated

/-- For each place in a list, whether a mark stands there or later. -/
def marksAhead : List Bool → List Bool
  | [] => []
  | mark :: rest =>
    match marksAhead rest with
    | [] => [mark]
    | later :: more => (mark || later) :: later :: more

/-- For each tail of a text, the text itself first, whether pieces stand for it. -/
def tailMatches : List GlobPiece → List CodePoint → List Bool
  | [], text => text.map (fun _ => false) ++ [true]
  -- Each piece goes over the text once, however many stars there are.
  | .star :: pieces, text => marksAhead (tailMatches pieces text)
  | piece :: pieces, text =>
    List.zipWith (fun c later => piece.accepts c && later) text (tailMatches pieces text).tail ++
      [false]

/-- Whether a pattern, which may hold halves of pairs, stands for a text. -/
def globMatches (pattern : List CodePoint) (text : String) : Bool :=
  (tailMatches (globPieces pattern.length pattern) (codePoints text)).headD false

end SyntaxGraph.Text
