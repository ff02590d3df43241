import SyntaxGraph.Json.Basic
import SyntaxGraph.Text.Quoted

/-!
# Values in messages

How a value is spelled in an error message or a report, which is not how it is stored.
-/
namespace SyntaxGraph.Json

def realLiteral : Real → String
  | .nan => "nan"
  | .infinity negative => if negative then "-inf" else "inf"
  | value => value.text

mutual

/-- The spelling of a value, texts in quotes. -/
def literal : Json → String
  | .null => "None"
  | .bool true => "True"
  | .bool false => "False"
  | .int value => toString value
  | .real value => realLiteral value
  | .str value => Text.quoted value
  | .broken codes => Text.quotedCodes codes
  | .arr items => "[" ++ ", ".intercalate (itemLiterals items) ++ "]"
  | .obj fields => "\x7b" ++ ", ".intercalate (fieldLiterals fields) ++ "\x7d"
  | .brokenObj fields => "\x7b" ++ ", ".intercalate (brokenLiterals fields) ++ "\x7d"

def itemLiterals : List Json → List String
  | [] => []
  | item :: rest => literal item :: itemLiterals rest

def fieldLiterals : List (String × Json) → List String
  | [] => []
  | (key, value) :: rest => (Text.quoted key ++ ": " ++ literal value) :: fieldLiterals rest

def brokenLiterals : List (List Text.CodePoint × Json) → List String
  | [] => []
  | (key, value) :: rest =>
    (Text.quotedCodes key ++ ": " ++ literal value) :: brokenLiterals rest

end

/-- The spelling of a value on its own: a text stands without quotes, with halves of pairs shown by
their code. -/
def plain : Json → String
  | .str value => value
  | .broken codes => Text.codedHalves codes
  | value => literal value

end SyntaxGraph.Json
