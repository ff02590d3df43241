import SyntaxGraph.Proofs.Lowering.Unit

/-!
# Spans of compilation units

Main statement: a parse tree in the order of the source is lowered to a tree whose nodes lie inside
the source and enclose their children. There is one exception, the array type of the variable of a
loop whose dimensions are written behind the name.
-/
namespace SyntaxGraph.Java

/-- A parse tree in order is lowered to a tree of nodes that nest. -/
theorem yields_lowerUnit {frame : Frame} {α : Type} (root : ParseTree α)
    (ordered : ∀ node ∈ root.nodes, frame.Ordered node.mark node.childMarks) :
    Sound (fun unit => ∀ u ∈ unit.nodes, frame.Nests u) (lowerUnit frame.source root) :=
  let stage : Stage := ⟨frame, True⟩
  (stage.sound_lowerUnit root fun _ => ordered).imp fun _ lowered => lowered.nests trivial

/-- Lowering a parse tree in the order of the source gives a tree in which every node lies inside
the source, unless it is an empty list of modifiers without a position, and encloses what it holds
with a position. Only the array type of the variable of a loop may end behind its variable, namely
where dimensions behind the name end. -/
theorem lowerUnit_spans {α : Type} (text : String) (root : ParseTree α)
    (arranged : ∀ node ∈ root.nodes, Arranged (byteLength text.toList) node.mark node.childMarks)
    {unit : Tree} (lowered : (lowerUnit (.ofString text) root).result = .ok unit) :
    ∀ u ∈ unit.nodes,
      (u.IsUnwritten ∨ 0 ≤ u.start ∧ u.start ≤ u.stop ∧ u.stop ≤ text.length) ∧
        ∀ v ∈ u.held, v.start ≠ noPosition → u.start ≤ v.start ∧
          (v.stop ≤ u.stop ∨ u.kind? = some "VARIABLE" ∧ v.kind? = some "ARRAY_TYPE" ∧
            ∃ loop ∈ root.nodes, LoopEnds text loop.mark loop.childMarks u.stop v.stop) := by
  let frame : Frame := ⟨text, fun stop reach =>
    ∃ loop ∈ root.nodes, LoopEnds text loop.mark loop.childMarks stop reach⟩
  have ordered : ∀ node ∈ root.nodes, frame.Ordered node.mark node.childMarks :=
    fun node member => ⟨arranged node member, fun stop reach ends => ⟨node, member, ends⟩⟩
  have nests := (yields_lowerUnit root ordered).of_result lowered
  exact fun u member => ⟨(nests u member).span, (nests u member).encloses⟩

/-- A class with two variables in one declaration, the first with dimensions behind its name, and
with a letter of two bytes before them: `class É{int b[],c=1;}`. -/
def declaringText : String := "class É\x7bint b[],c=1;\x7d"

def declaringParse : ParseTree Unit :=
  let name (start : Nat) := part "identifier" start (start + 1) [] "name"
  let array := part "variable_declarator" 13 16
    [name 13, part "dimensions" 14 16 [token "[" 14, token "]" 15] "dimensions"] "declarator"
  let number := part "variable_declarator" 17 20
    [name 17, token "=" 18, part "decimal_integer_literal" 19 20 [] "value"] "declarator"
  let field := part "field_declaration" 9 21
    [part "integral_type" 9 12 [token "int" 9] "type", array, token "," 16, number, token ";" 20]
  classUnit 8 8 22 [field]

/-- The kinds and spans of the nodes of the lowered declarations. -/
def declaringFaces : List (Option String × Int × Int) :=
  [(some "COMPILATION_UNIT", 0, 21), (some "CLASS", 0, 21), (some "MODIFIERS", -1, -1),
    (some "VARIABLE", 8, 15), (some "MODIFIERS", -1, -1), (some "ARRAY_TYPE", 8, 15),
    (some "PRIMITIVE_TYPE", 8, 11), (some "VARIABLE", 8, 19), (some "MODIFIERS", -1, -1),
    (some "PRIMITIVE_TYPE", 8, 11), (some "INT_LITERAL", 18, 19)]

theorem faces_lowerUnit_declaringParse :
    (lowerUnit (.ofString declaringText) declaringParse).result.map
      (fun unit => unit.nodes.map Tree.face) = .ok declaringFaces := by
  decide +kernel

theorem lowerUnit_declaringParse_spans :
    ∃ unit, (lowerUnit (.ofString declaringText) declaringParse).result = .ok unit ∧
      unit.nodes.map Tree.face = declaringFaces ∧ ∀ u ∈ unit.nodes,
        (u.IsUnwritten ∨ 0 ≤ u.start ∧ u.start ≤ u.stop ∧ u.stop ≤ declaringText.length) ∧
          ∀ v ∈ u.held, v.start ≠ noPosition → u.start ≤ v.start ∧
            (v.stop ≤ u.stop ∨ u.kind? = some "VARIABLE" ∧ v.kind? = some "ARRAY_TYPE" ∧
              ∃ loop ∈ declaringParse.nodes,
                LoopEnds declaringText loop.mark loop.childMarks u.stop v.stop) := by
  obtain ⟨unit, lowered, faces⟩ := exists_of_map_eq_ok faces_lowerUnit_declaringParse
  exact ⟨unit, lowered, faces, lowerUnit_spans declaringText declaringParse (by decide +kernel)
    lowered⟩

/-- A loop with dimensions behind the name of its variable: `class A{{for(int x[]:y);}}`. -/
def loopingText : String := "class A\x7b\x7bfor(int x[]:y);\x7d\x7d"

def loopingParse : ParseTree Unit :=
  let loop := part "enhanced_for_statement" 9 24
    [token "for" 9, token "(" 12, part "integral_type" 13 16 [token "int" 13] "type",
      part "identifier" 17 18 [] "name",
      part "dimensions" 18 20 [token "[" 18, token "]" 19] "dimensions",
      token ":" 20, part "identifier" 21 22 [] "value", token ")" 22, token ";" 23 "body"]
  classUnit 7 7 26 [part "block" 8 25 [token "\x7b" 8, loop, token "\x7d" 24]]

/-- The parse tree is in the order of the source, and yet the variable of the loop does not enclose
its type. -/
theorem lowerUnit_loopingParse_overhangs :
    (∀ node ∈ loopingParse.nodes,
      Arranged (byteLength loopingText.toList) node.mark node.childMarks) ∧
      ∃ unit, (lowerUnit (.ofString loopingText) loopingParse).result = .ok unit ∧
        ∃ u ∈ unit.nodes, ∃ v ∈ u.held, u.face = (some "VARIABLE", 13, 18) ∧
          v.face = (some "ARRAY_TYPE", 13, 20) := by
  have overhangs : (lowerUnit (.ofString loopingText) loopingParse).result.map
      (fun unit => unit.nodes.any fun u => u.held.any fun v =>
        decide (u.face = (some "VARIABLE", 13, 18)) &&
          decide (v.face = (some "ARRAY_TYPE", 13, 20))) = .ok true := by
    decide +kernel
  obtain ⟨unit, lowered, found⟩ := exists_of_map_eq_ok overhangs
  refine ⟨by decide +kernel, unit, lowered, ?_⟩
  simpa only [List.any_eq_true, Bool.and_eq_true, decide_eq_true_eq] using found

end SyntaxGraph.Java
