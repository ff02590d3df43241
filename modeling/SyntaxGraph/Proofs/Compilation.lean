import SyntaxGraph.Java.Compilation
import SyntaxGraph.Proofs.Constructors
import SyntaxGraph.Proofs.Filling

/-!
# Compiled sources

A source that compiles has a parse tree without faults, a lowering, and a unit that is the lowering
with implicit constructors. Main statement: the unit conforms to the Java grammar throughout and can
be scanned.
-/
namespace SyntaxGraph.Java

theorem exists_of_enterUnit {lowered unit : Tree}
    (entered : (enterUnit lowered).result = .ok unit) :
    ∃ added, addConstructors lowered = .ok (unit, added) := by
  unfold enterUnit at entered
  split at entered
  next => cases entered
  next added done =>
    cases entered
    exact ⟨_, done⟩

theorem exists_of_compile {α : Type} {file : Json} {source : Source} {root : ParseTree α}
    {unit : Tree} (compiled : (compile file source root).result = .ok unit) :
    Diagnostic.ofTree source root = [] ∧ ∃ lowered added,
      (lowerUnit source root).result = .ok lowered ∧
        addConstructors lowered = .ok (unit, added) := by
  unfold compile at compiled
  split at compiled
  next clean =>
    rw [Traced.result_bind] at compiled
    obtain ⟨lowered, ended, compiled⟩ := exists_of_bind_eq_ok compiled
    rw [Traced.result_bind] at compiled
    obtain ⟨entered, done, compiled⟩ := exists_of_bind_eq_ok compiled
    cases compiled
    obtain ⟨added, done⟩ := exists_of_enterUnit done
    refine ⟨clean, lowered, added, ?_, done⟩
    cases found : (lowerUnit source root).result with
    | error cause => simp [Traced.mapError, Traced.mapTrace, found, Except.mapError] at ended
    | ok t => simpa [Traced.mapError, Traced.mapTrace, found, Except.mapError] using ended
  next => cases compiled

/-- Every node of a compiled unit, those of generated constructors included, has the schema that the
grammar has for its kind, in all slots what their arities ask for, and so every scan of the unit
into a fresh graph succeeds. -/
theorem compile_conforms {α : Type} {file : Json} {source : Source} {root : ParseTree α}
    {unit : Tree} (compiled : (compile file source root).result = .ok unit) :
    unit.Conforms grammar ∧ ∀ (name : Json) (text : Option String) (lines : Bool),
      ((Graph.ofSource name text lines).scan unit).2 = .ok () := by
  obtain ⟨-, lowered, added, ended, entered⟩ := exists_of_compile compiled
  have java : IsJava lowered := (sound_lowerUnit source root).of_result ended
  obtain ⟨plan, rfl⟩ := exists_plan_of_addConstructors entered
  have conforms := isJava_addTo plan lowered java
  exact ⟨conforms, fun name text lines => Graph.scan_ok rfl conforms.typed⟩

/-- A class with a record in it, neither with a constructor: `class A { record B(int x) {} }`. -/
def sampleText : String := "class A \x7b record B(int x) \x7b\x7d \x7d"

def sampleParse : ParseTree Unit :=
  let name (start : Nat) := part "identifier" start (start + 1) [] "name"
  let parameter := part "formal_parameter" 19 24
    [part "integral_type" 19 22 [token "int" 19] "type", name 23]
  let record := part "record_declaration" 10 28
    [token "record" 10, name 17,
      part "formal_parameters" 18 25 [token "(" 18, parameter, token ")" 24] "parameters",
      part "class_body" 26 28 [token "\x7b" 26, token "\x7d" 27] "body"]
  classUnit 7 8 30 [record]

/-- The kinds of the nodes of the compiled sample: the class and the record have constructors
before their members, and that of the record has a parameter. -/
def sampleKinds : List String :=
  ["COMPILATION_UNIT", "CLASS", "MODIFIERS",
    "METHOD", "MODIFIERS", "BLOCK", "EXPRESSION_STATEMENT", "METHOD_INVOCATION", "IDENTIFIER",
    "RECORD", "MODIFIERS",
    "METHOD", "MODIFIERS", "VARIABLE", "MODIFIERS", "PRIMITIVE_TYPE", "BLOCK",
    "VARIABLE", "MODIFIERS", "PRIMITIVE_TYPE"]

theorem kinds_compile_sampleParse :
    (compile (.str "A.java") (.ofString sampleText) sampleParse).result.map
      (fun unit => unit.nodes.filterMap Tree.kind?) = .ok sampleKinds := by
  decide +kernel

theorem compile_sampleParse_conforms :
    ∃ unit, (compile (.str "A.java") (.ofString sampleText) sampleParse).result = .ok unit ∧
      unit.nodes.filterMap Tree.kind? = sampleKinds ∧ unit.Conforms grammar ∧
        ((Graph.ofSource .null none false).scan unit).2 = .ok () := by
  obtain ⟨unit, compiled, kinds⟩ := exists_of_map_eq_ok kinds_compile_sampleParse
  obtain ⟨conforms, scans⟩ := compile_conforms compiled
  exact ⟨unit, compiled, kinds, conforms, scans .null none false⟩

end SyntaxGraph.Java
