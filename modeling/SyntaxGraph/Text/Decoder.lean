import SyntaxGraph.Text.Utf8

/-!
# Decoders

A decoder reads the code points that bytes spell. Which decoders there are, and by which names, is
for the system to say; UTF-8 is always among them.
-/
namespace SyntaxGraph.Text

inductive TextFault
  /-- Some bytes make no sense in the encoding. -/
  | undecodable (fault : DecodeFault)
  /-- The encoding cannot be told, or is for nothing. -/
  | unmarked
deriving DecidableEq

abbrev Decoder := List UInt8 → Except TextFault (List CodePoint)

namespace Decoder

/-- Reads bytes without a state under the name of an encoding. -/
def plain {α : Type} (name : String) (step : List UInt8 → Reading Unit α) (bytes : List UInt8) :
    Except TextFault (List α) :=
  (readPlain step bytes).mapError fun halt => .undecodable (.ofHalt name bytes halt)

def asCodes (chars : Except TextFault (List Char)) : Except TextFault (List CodePoint) :=
  chars.map (·.map .char)

def utf8 : Decoder := fun bytes => asCodes (plain "utf-8" readUtf8 bytes)

/-- The decoder of UTF-8, by its own name only. -/
def onlyUtf8? (name : String) : Option Decoder :=
  if name = "utf-8" then some utf8 else none

end Decoder

/-- A text in which every line ends with a line feed. -/
def unifyLineEnds {α : Type} [DecidableEq α] (ret feed : α) : List α → List α
  | [] => []
  | [a] => [if a = ret then feed else a]
  | a :: b :: rest =>
    if a ≠ ret then a :: unifyLineEnds ret feed (b :: rest)
    -- A return takes the feed behind it along.
    else if b = feed then feed :: unifyLineEnds ret feed rest
    else feed :: unifyLineEnds ret feed (b :: rest)

def unifyNewlines (text : List Char) : List Char :=
  unifyLineEnds '\r' '\n' text

end SyntaxGraph.Text
