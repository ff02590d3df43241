/-!
# Tails of a text
-/
namespace SyntaxGraph.Text

variable {α : Type}

/-- Whether some end of a text has a property. -/
def anyTail (p : List α → Bool) : List α → Bool
  | [] => p []
  | c :: rest => p (c :: rest) || anyTail p rest

def occursIn [BEq α] (needle text : List α) : Bool :=
  anyTail needle.isPrefixOf text

end SyntaxGraph.Text
