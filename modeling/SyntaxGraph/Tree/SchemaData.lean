import SyntaxGraph.Fault
import SyntaxGraph.Tree.Data
import SyntaxGraph.Tree.Report

/-!
# Schemas and grammars as data

How slots, schemas and grammars are read from JSON objects and written as such.
-/
namespace SyntaxGraph

def Arity.text : Arity → String
  | .single => "single"
  | .optional => "optional"
  | .list => "list"

def Arity.ofJson : Json → Except Fault Arity
  | .str "single" => .ok .single
  | .str "optional" => .ok .optional
  | .str "list" => .ok .list
  | _ => .error .badValue

def neededField (value : Json) (key : String) : Except Fault Json :=
  match value.fields? with
  | some fields => (fields.lookup key).elim (.error .missingKey) .ok
  | none => .error .wrongForm

/-- What the value of a key gives when it is gone through; a key that is missing gives nothing. -/
def fieldMembers (value : Json) (key : String) : Except Fault (List Json) :=
  match value.field? key with
  | none => .ok []
  | some found => found.members?.elim (.error .wrongForm) .ok

namespace Slot

def ofJson (value : Json) : Except Fault Slot := do
  let name ← neededField value "name"
  let arity ← Arity.ofJson ((value.field? "arity").getD (.str "single"))
  return {
    name := name.plain, arity
    aliasOf := match (value.field? "alias_of").getD .null with
      | .null => none
      | other => some other.plain }

def toJson (slot : Slot) : Json :=
  .obj [("name", .str slot.name), ("arity", .str slot.arity.text),
    ("alias_of", (slot.aliasOf.map Json.str).getD .null),
    ("traversed", .bool slot.isTraversed), ("empty", slot.empty.toJson)]

end Slot

namespace Schema

def ofJson (value : Json) : Except Fault Schema := do
  let kind ← neededField value "kind"
  let slots ← (← fieldMembers value "slots").mapM Slot.ofJson
  return {
    kind := kind.plain, slots
    isMethod := ((value.field? "method_declaration").getD .null).isTruthy }

def toJson (schema : Schema) : Json :=
  .obj [("kind", .str schema.kind), ("method_declaration", .bool schema.isMethod),
    ("slots", .arr (schema.slots.map Slot.toJson)),
    ("slot_names", .arr (schema.slots.map fun slot => .str slot.name))]

end Schema

namespace Grammar

def ofJson (value : Json) : Except Fault Grammar := do
  let name ← neededField value "name"
  let schemas ← (← fieldMembers value "schemas").mapM Schema.ofJson
  (ofSchemas name.plain schemas).mapError .duplicateKind

def schemaFor (grammar : Grammar) (kind : Json) : Except Fault Schema :=
  match kind with
  | .str kind => (grammar.schemaOf kind).mapError fun e => .report e.report
  -- These cannot even be looked up.
  | .arr _ | .obj _ | .brokenObj _ => .error .wrongForm
  | kind =>
    .error (.report (.shape kind (.str (ShapeFault.unknownKind grammar.name).reason)))

/-- The names that a node has for other things than slots. -/
def takenNames : List String :=
  ["self", "kind", "start", "end", "attributes", "synthetic", "generated_constructor"]

/-- Builds a node of a kind of any form. -/
def node (grammar : Grammar) (kind : Json) (head : Head) (given : List (String × Content)) :
    Except Fault Tree :=
  -- Names that a node has for other things cannot be given to a slot.
  if given.any fun (name, _) => takenNames.contains name then .error .wrongForm
  else do
    let schema ← grammar.schemaFor kind
    (grammar.build schema.kind head given).mapError (.report ·.report)

end Grammar

end SyntaxGraph
