import SyntaxGraph.Tree.Basic

/-!
# Trees as data

How a tree is written as a JSON object. Slots that hold nothing are left out, and so is everything
else that says nothing.
-/
namespace SyntaxGraph

def Content.isBlank : Content → Bool
  | .absent | .data .null | .data (.arr []) | .list [] => true
  | _ => false

def fieldIf (told : Bool) (key : String) (value : Json) : List (String × Json) :=
  if told then [(key, value)] else []

mutual

def Tree.toJson : Tree → Json
  | .node head shape entries =>
    let children := entriesToJson [] entries
    .obj ([("kind", (shape.map fun shape => Json.str shape.kind).getD .null),
      ("start", .int head.start), ("end", .int head.stop)] ++
      fieldIf (!head.attributes.isEmpty) "attributes" (.obj head.attributes) ++
      fieldIf (!children.isEmpty) "children" (.obj children) ++
      fieldIf head.synthetic "synthetic" (.bool true) ++
      fieldIf head.generated "generated_constructor" (.bool true))

def entriesToJson (written : List (String × Json)) : List (Place × Content) → List (String × Json)
  | [] => written
  | (place, content) :: rest =>
    let value := content.toJson
    -- Of two slots with one name the later counts.
    entriesToJson (if content.isBlank then written else Json.insert written place.name value) rest

def Content.toJson : Content → Json
  | .absent => .null
  | .data value => value
  | .tree t => t.toJson
  | .list items => .arr (itemsToJson items)

def itemsToJson : List Content → List Json
  | [] => []
  | item :: rest => item.toJson :: itemsToJson rest

end

end SyntaxGraph
