import SyntaxGraph.Parse.Tree

/-!
# Source texts

Parsers count bytes; trees and graphs count characters. This module leads from the bytes of the
UTF-8 form of a text to its characters.
-/
namespace SyntaxGraph

def byteLength : List Char → Nat
  | [] => 0
  | c :: rest => c.utf8Size + byteLength rest

/-- Enters the index of each character behind the entries of a table, once for each of its bytes,
and at last the index behind all characters. -/
def fillTable (table : Array Nat) (index : Nat) : List Char → Array Nat
  | [] => table.push index
  -- A character of several bytes has several entries.
  | c :: rest => fillTable (table ++ Array.replicate c.utf8Size index) (index + 1) rest

/-- For each byte of a text the index of the character that it belongs to; at the end stands the
length of the text. -/
def charTable (chars : List Char) : Array Nat := fillTable #[] 0 chars

def charTable? (chars : List Char) : Option (Array Nat) :=
  -- Where bytes and characters are counted alike, no table is needed.
  if chars.all (·.utf8Size = 1) then none else some (charTable chars)

/-- The text behind a number of bytes; `none` if they end inside a character. -/
def dropBytes : List Char → Nat → Option (List Char)
  | chars, 0 => some chars
  | [], _ + 1 => some []
  | c :: rest, count + 1 =>
    if c.utf8Size ≤ count + 1 then dropBytes rest (count + 1 - c.utf8Size) else none

/-- The text within a number of bytes; `none` if they end inside a character. -/
def takeBytes : List Char → Nat → Option (List Char)
  | _, 0 => some []
  | [], _ + 1 => some []
  | c :: rest, count + 1 =>
    if c.utf8Size ≤ count + 1 then (takeBytes rest (count + 1 - c.utf8Size)).map (c :: ·) else none

/-- The text between two byte offsets; `none` if one of them lies inside a character. -/
def sliceBytes (chars : List Char) (start stop : Nat) : Option (List Char) :=
  if stop ≤ start then some [] else (dropBytes chars start).bind (takeBytes · (stop - start))

/-- A source text with the table that leads from its bytes to its characters. -/
structure Source where
  chars : List Char
  table : Option (Array Nat) := charTable? chars
  own : table = charTable? chars := by rfl

namespace Source

def ofString (text : String) : Source := { chars := text.toList }

/-- The character offset of a byte offset. -/
def offset? (source : Source) (byte : Nat) : Option Nat :=
  match source.table with
  -- Offsets behind the end stand for themselves here; elsewhere they have no place.
  | none => some byte
  | some table => table[byte]?

end Source

end SyntaxGraph
