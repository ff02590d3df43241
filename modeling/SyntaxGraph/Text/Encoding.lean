import SyntaxGraph.Text.Encoding.Names

/-!
# Choosing an encoding

The decoders that the program is run with.
-/
namespace SyntaxGraph.Text

def isNameChar (c : Char) : Bool :=
  c.isAlphanum || c = '.'

/-- The usual form of an encoding's name: lower case, with an underscore in the place of each run
of other characters. -/
def encodingKey : List Char → List Char
  | [] => []
  | c :: rest =>
    if isNameChar c then c.toLower :: encodingKey rest
    else
      match encodingKey rest with
      | '_' :: key => '_' :: key
      | key => '_' :: key

def trimUnderscores (key : List Char) : List Char :=
  ((key.dropWhile (· = '_')).reverse.dropWhile (· = '_')).reverse

def Encoding.ofName? (name : String) : Option Encoding :=
  if name = "locale" then some .utf8
  else
    let key := trimUnderscores (encodingKey name.toList)
    -- Other names may have dots in the place of underscores.
    let undotted := key.map fun c => if c = '.' then '_' else c
    (encodingNames.lookup (String.ofList key)).or
      ((encodingAliased? key).or (encodingAliased? undotted))

/-- The decoders of all encodings. -/
def Encoding.decoder? (name : String) : Option Decoder :=
  (ofName? name).map decode

end SyntaxGraph.Text
