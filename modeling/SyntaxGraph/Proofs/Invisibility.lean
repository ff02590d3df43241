import SyntaxGraph.Extraction
import SyntaxGraph.Proofs.Compilation

/-!
# Generated constructors are invisible

A scan passes over the constructors that were added to a tree. What it emits for the rest is the
same as before, except that the trees it hands to the graph have more members; a written graph does
not show these. Main statement: adding constructors does not change the graph of a tree, so the
graph of a source is that of its lowering.
-/
namespace SyntaxGraph

open List Traced

/-! ### Emissions without the trees below a node -/

/-- The node alone, without what its places hold. -/
def Tree.alone : Tree → Tree
  | .node head shape _ => .node head shape []

/-- The emission with a node alone in place of its tree. -/
def Emission.alone : Emission → Emission
  | .element kind t => .element kind t.alone
  | .holder accessor start stop => .holder accessor start stop
  | .edge parent child => .edge parent child
  | .root node => .root node

namespace Graph

/-- The graph without the trees that its rows were made for. -/
def withoutTrees (g : Graph) : Graph := { g with trees := [] }

theorem toJson_withoutTrees (g : Graph) : g.withoutTrees.toJson = g.toJson := rfl

theorem withoutTrees_link (g : Graph) (source destination : Json) :
    (g.link source destination).withoutTrees = g.withoutTrees.link source destination := by
  have same : g.withoutTrees.hasLink source destination = g.hasLink source destination := rfl
  unfold link
  rw [same]
  split <;> rfl

/-- An emission does the same whatever trees the graph has, and of its own tree only the node
counts. -/
theorem withoutTrees_apply (base : Json) (g : Graph) (emission : Emission) :
    (g.apply base emission).withoutTrees =
      (g.withoutTrees.apply base emission.alone).withoutTrees := by
  cases emission with
  | element kind t => cases t; rfl
  | holder accessor start stop => rfl
  | root node => rfl
  | edge parent child =>
    show (g.link _ _).withoutTrees = (g.withoutTrees.link _ _).withoutTrees
    rw [withoutTrees_link, withoutTrees_link]
    rfl

theorem withoutTrees_foldl (base : Json) {emissions others : List Emission}
    (alike : emissions.map Emission.alone = others.map Emission.alone) {g g' : Graph}
    (same : g.withoutTrees = g'.withoutTrees) :
    (emissions.foldl (apply base) g).withoutTrees =
      (others.foldl (apply base) g').withoutTrees := by
  induction emissions generalizing others g g' with
  | nil =>
    cases map_eq_nil_iff.1 alike.symm
    exact same
  | cons emission rest ih =>
    obtain ⟨other, behind, rfl, first, later⟩ := map_eq_cons_iff.1 alike.symm
    refine ih later.symm ?_
    rw [withoutTrees_apply, withoutTrees_apply base g', same, first]

/-- Trees whose scans differ only below the nodes that they emit have the same written graph. -/
theorem scan_eq_of_alike {t u : Tree}
    (alike : t.scan.mapTrace Emission.alone = u.scan.mapTrace Emission.alone) (g : Graph) :
    (g.scan t).1.toJson = (g.scan u).1.toJson ∧ (g.scan t).2 = (g.scan u).2 := by
  obtain ⟨trace, result⟩ := Traced.mk.inj alike
  cases unscanned : g.root with
  | some root => simp only [scan, unscanned, and_self]
  | none =>
    simp only [scan_of_rootless unscanned, result, and_true]
    rw [← toJson_withoutTrees, applyAll, withoutTrees_foldl g.nextId trace rfl]
    rfl

end Graph

namespace Java

/-! ### Scans of trees with constructors -/

variable (plan : Plan)

/-- A generated constructor before the members of a type declaration changes no scan. -/
theorem scanFrom_insertConstructor (kind : String) (position : Int) (number : Nat)
    (content : Content) (accessor : String) (owner next : Nat) :
    (insertConstructor kind position number content).scanFrom accessor owner next =
      content.scanFrom accessor owner next := by
  cases content with
  | absent | data value | tree t => rfl
  | list items =>
    rw [insertConstructor]
    split
    next t built =>
      obtain ⟨shape, generated⟩ := isGenerated_of_defaultConstructor built
      -- The constructor is neither in the group that makes the holder nor among the items below it.
      have unseen : t.isInSource = .ok false := by simp [Tree.isInSource, shape, generated]
      have hidden : t.isVisible = false := by rw [Tree.isVisible, unseen]
      have group : visibleTrees (t :: items.filterMap Content.tree?) =
          visibleTrees (items.filterMap Content.tree?) := by
        rw [visibleTrees, unseen, ok_bind]
        cases visibleTrees (items.filterMap Content.tree?) <;> rfl
      rw [Content.scanFrom, Content.scanFrom, filterMap_cons, scanGroup, scanGroup]
      simp only [Content.tree?, group, scanItems, hidden]
      rfl
    next => rfl

theorem scanEntries_withConstructor (kind : String) (position : Int) (number : Nat)
    (entries : List (Place × Content)) (owner next : Nat) :
    scanEntries owner next (withConstructor kind position number entries) =
      scanEntries owner next entries := by
  induction entries generalizing next with
  | nil => rfl
  | cons entry rest ih =>
    obtain ⟨place, content⟩ := entry
    show scanEntries owner next ((if place.name = "getMembers" then
      (place, insertConstructor kind position number content) else (place, content)) ::
        withConstructor kind position number rest) = _
    split
    · simp only [scanEntries, scanFrom_insertConstructor, ih]
    · simp only [scanEntries, ih]

/-- With the planned constructors a node has other contents, which are scanned as if none was
planned for the node itself. -/
theorem exists_addTo_eq (head : Head) (shape : Option Shape) (entries : List (Place × Content)) :
    ∃ others, addTo plan (.node head shape entries) = .node head shape others ∧
      ∀ owner next, scanEntries owner next others =
        scanEntries owner next (addToEntries plan entries) := by
  rw [addTo_node]
  split
  · exact ⟨_, rfl, scanEntries_withConstructor _ _ _ _⟩
  · exact ⟨_, rfl, fun _ _ => rfl⟩

theorem isInSource_addTo (t : Tree) : (addTo plan t).isInSource = t.isInSource := by
  simp only [Tree.isInSource, Tree.start, Tree.stop, shape_addTo, head_addTo]

theorem isVisible_addTo (t : Tree) : (addTo plan t).isVisible = t.isVisible := by
  rw [Tree.isVisible, isInSource_addTo, Tree.isVisible]

theorem visibleTrees_addTo (trees : List Tree) :
    visibleTrees (trees.map (addTo plan)) = (visibleTrees trees).map (List.map (addTo plan)) := by
  induction trees with
  | nil => rfl
  | cons t rest ih =>
    rw [map_cons, visibleTrees, visibleTrees, isInSource_addTo, ih]
    cases t.isInSource with
    | error e => rfl
    | ok visible =>
      cases visibleTrees rest with
      | error e => rfl
      | ok others => cases visible <;> rfl

theorem scanGroup_addTo (accessor : String) (owner next : Nat) (trees : List Tree)
    {members others : Nat → Nat → Scan}
    (alike : (others next (next + 1)).mapTrace Emission.alone =
      (members next (next + 1)).mapTrace Emission.alone) :
    (scanGroup accessor owner next (trees.map (addTo plan)) others).mapTrace Emission.alone =
      (scanGroup accessor owner next trees members).mapTrace Emission.alone := by
  unfold scanGroup
  rw [visibleTrees_addTo]
  cases visibleTrees trees with
  | error e => rfl
  | ok visible =>
    cases visible with
    | nil => rfl
    | cons first rest =>
      -- The span of the holder is read off the heads of the first and the last tree.
      have last : ((first :: rest).map (addTo plan)).getLastD (addTo plan first) =
          addTo plan ((first :: rest).getLastD first) := by
        rw [getLastD_eq_getLast?, getLastD_eq_getLast?, getLast?_map, Option.getD_map]
      obtain ⟨trace, result⟩ := Traced.mk.inj alike
      simp only [Except.map, map_cons, ofExcept_ok_bind, emit_bind,
        Traced.mapTrace, Tree.start, Tree.stop] at last trace result ⊢
      rw [trace, result, last, head_addTo, head_addTo]

mutual

/-- A scan emits the same nodes, holders and edges with the planned constructors as without. -/
theorem scanFrom_addTo (t : Tree) (parent : Option Nat) (next : Nat) :
    ((addTo plan t).scanFrom parent next).mapTrace Emission.alone =
      (t.scanFrom parent next).mapTrace Emission.alone := by
  match t with
  | .node head shape entries =>
    obtain ⟨others, same, scanned⟩ := exists_addTo_eq plan head shape entries
    obtain ⟨trace, result⟩ := Traced.mk.inj (scanEntries_addTo entries next (next + 1))
    rw [same]
    cases shape with
    | none => rfl
    | some shape =>
      simp only [Tree.scanFrom, emit_bind, scanned, Traced.mapTrace, map_cons, trace, result]
      rfl

theorem scanEntries_addTo (entries : List (Place × Content)) (owner next : Nat) :
    (scanEntries owner next (addToEntries plan entries)).mapTrace Emission.alone =
      (scanEntries owner next entries).mapTrace Emission.alone := by
  match entries with
  | [] => rfl
  | (place, content) :: rest =>
    rw [addToEntries, scanEntries, scanEntries]
    split
    · rw [mapTrace_bind, mapTrace_bind, scanContent_addTo content]
      simp only [scanEntries_addTo rest]
    · exact scanEntries_addTo rest owner next

theorem scanContent_addTo (content : Content) (accessor : String) (owner next : Nat) :
    ((addToContent plan content).scanFrom accessor owner next).mapTrace Emission.alone =
      (content.scanFrom accessor owner next).mapTrace Emission.alone := by
  match content with
  | .absent | .data _ => rfl
  | .tree t =>
    rw [addToContent, Content.scanFrom, Content.scanFrom]
    exact scanGroup_addTo plan accessor owner next [t] (scanFrom_addTo t (some next) (next + 1))
  | .list items =>
    rw [addToContent, Content.scanFrom, Content.scanFrom, trees_addToItems]
    exact scanGroup_addTo plan accessor owner next _ (scanItems_addTo items next (next + 1))

theorem scanItems_addTo (items : List Content) (holder next : Nat) :
    (scanItems holder next (addToItems plan items)).mapTrace Emission.alone =
      (scanItems holder next items).mapTrace Emission.alone := by
  match items with
  | [] => rfl
  | .absent :: rest | .data _ :: rest | .list _ :: rest => exact scanItems_addTo rest holder next
  | .tree t :: rest =>
    rw [addToItems, addToContent, scanItems, scanItems, isVisible_addTo]
    split
    · rw [mapTrace_bind, mapTrace_bind, scanFrom_addTo t]
      simp only [scanItems_addTo rest]
    · exact scanItems_addTo rest holder next

end

variable {plan}

theorem scan_of_addConstructors {t entered : Tree} {added : Nat}
    (done : addConstructors t = .ok (entered, added)) (g : Graph) :
    (g.scan entered).1.toJson = (g.scan t).1.toJson ∧ (g.scan entered).2 = (g.scan t).2 := by
  obtain ⟨plan, rfl⟩ := exists_plan_of_addConstructors done
  exact Graph.scan_eq_of_alike (scanFrom_addTo plan t none 0) g

end Java

/-! ### Extraction -/

namespace Extractor

variable {x : Extractor} {text : String} {fileName language : Json} {compilation : Compilation}

theorem exists_of_compileWith {frontEnd : FrontEnd}
    (compiled : (x.compileWith frontEnd (.str text) fileName).result = .ok compilation) :
    ∃ parsed, x.parser text = .ok parsed ∧ compilation.source = text ∧
      compilation.fileName = fileName ∧
      (Java.compile fileName (.ofString text) parsed).result = .ok compilation.unit := by
  unfold compileWith at compiled
  split at compiled
  · cases compiled
  · simp only [sourceText, ofExcept_ok_bind, result_bind,
      result_ofExcept] at compiled
    obtain ⟨parsed, found, compiled⟩ := exists_of_bind_eq_ok compiled
    obtain ⟨unit, ended, compiled⟩ := exists_of_bind_eq_ok compiled
    cases compiled
    refine ⟨parsed, found, rfl, rfl, ?_⟩
    cases java : (Java.compile fileName (.ofString text) parsed).result with
    | error cause => simp [Traced.mapError, java, Except.mapError] at ended
    | ok t => simpa [Traced.mapError, java, Except.mapError] using ended

theorem exists_frontEnd_of_compile
    (compiled : (x.compile (.str text) fileName language).result = .ok compilation) :
    ∃ frontEnd, (x.compileWith frontEnd (.str text) fileName).result = .ok compilation := by
  -- However the language was found, its front end compiles.
  have found : ∀ language : Json, (Traced.ofExcept (x.frontEndFor language) >>= fun frontEnd =>
      x.compileWith frontEnd (.str text) fileName).result = .ok compilation →
        ∃ frontEnd, (x.compileWith frontEnd (.str text) fileName).result = .ok compilation := by
    intro language compiled
    rw [result_bind] at compiled
    obtain ⟨frontEnd, -, compiled⟩ := exists_of_bind_eq_ok compiled
    exact ⟨frontEnd, compiled⟩
  dsimp only [compile] at compiled
  split at compiled
  · exact found language compiled
  · rw [result_bind] at compiled
    obtain ⟨language, -, compiled⟩ := exists_of_bind_eq_ok compiled
    exact found language compiled

/-- The graph of a compiled text is the scan of its unit, if the settings can be read. -/
theorem result_graphOf (typed : ∀ u ∈ compilation.unit.walk, u.shape.isSome) :
    (x.graphOf compilation).result = x.settings.graph.map fun settings =>
      ((Graph.ofSource compilation.fileName (some compilation.source)
        settings.lineNumbers.isTruthy).scan compilation.unit).1 := by
  rw [graphOf, result_bind, result_ofExcept]
  cases x.settings.graph with
  | error e => rfl
  | ok settings =>
    rw [ok_bind]
    have ended : ((Graph.ofSource compilation.fileName (some compilation.source)
        settings.lineNumbers.isTruthy).scan compilation.unit).2 = .ok () := Graph.scan_ok rfl typed
    dsimp only [Except.map]
    split
    next g scanned =>
      rw [scanned]
      rfl
    next g e scanned =>
      rw [scanned] at ended
      cases ended

theorem result_extractText
    (compiled : (x.compile (.str text) fileName language).result = .ok compilation) :
    (x.extractText (.str text) fileName language).result = (x.graphOf compilation).result := by
  rw [extractText, result_bind, compiled, ok_bind, result_bind]
  cases (x.graphOf compilation).result <;> rfl

end Extractor

/-- Constructors can be added to every tree of the Java grammar, and neither the written graph of a
scan nor its outcome changes. So of a text that compiles, the written graph is that of its lowering,
to which no constructors were added. -/
theorem constructors_invisible :
    (∀ t : Tree, t.Conforms Java.grammar →
      ∃ entered added, Java.addConstructors t = .ok (entered, added) ∧ ∀ g : Graph,
        (g.scan entered).1.toJson = (g.scan t).1.toJson ∧ (g.scan entered).2 = (g.scan t).2) ∧
    ∀ (x : Extractor) (text : String) (fileName language : Json) (compilation : Compilation),
      (x.compile (.str text) fileName language).result = .ok compilation →
        ∃ parsed lowered, x.parser text = .ok parsed ∧
          Diagnostic.ofTree (.ofString text) parsed = [] ∧
          (Java.lowerUnit (.ofString text) parsed).result = .ok lowered ∧
          (∀ lines, ((Graph.ofSource fileName (some text) lines).scan lowered).2 = .ok ()) ∧
          (x.extractText (.str text) fileName language).result.map Graph.toJson =
            x.settings.graph.map fun settings =>
              ((Graph.ofSource fileName (some text) settings.lineNumbers.isTruthy).scan
                lowered).1.toJson := by
  refine ⟨fun t java => ?_, fun x text fileName language compilation compiled => ?_⟩
  · obtain ⟨entered, added, done⟩ := Java.exists_addConstructors java
    exact ⟨entered, added, done, Java.scan_of_addConstructors done⟩
  · obtain ⟨frontEnd, made⟩ := Extractor.exists_frontEnd_of_compile compiled
    obtain ⟨parsed, found, rfl, rfl, ended⟩ := Extractor.exists_of_compileWith made
    obtain ⟨clean, lowered, added, lowers, done⟩ := Java.exists_of_compile ended
    have java : Java.IsJava lowered := (Java.sound_lowerUnit _ parsed).of_result lowers
    -- The unit conforms as the lowering does, so it is scanned to the end.
    have unit : Java.IsJava compilation.unit := by
      obtain ⟨plan, same⟩ := Java.exists_plan_of_addConstructors done
      exact same ▸ Java.isJava_addTo plan lowered java
    refine ⟨parsed, lowered, found, clean, lowers, fun _ => Graph.scan_ok rfl java.typed, ?_⟩
    rw [Extractor.result_extractText compiled, Extractor.result_graphOf unit.typed]
    cases x.settings.graph with
    | error e => rfl
    | ok settings => exact congrArg Except.ok (Java.scan_of_addConstructors done _).1

/-- An extractor whose parser knows the sample only. -/
def sampleExtractor : Extractor where
  parser text := if text = Java.sampleText then .ok Java.sampleParse else .error .missingPart

theorem parser_sampleText : sampleExtractor.parser Java.sampleText = .ok Java.sampleParse := by
  simp [sampleExtractor]

theorem exists_compile_sampleText : ∃ compilation,
    (sampleExtractor.compile (.str Java.sampleText) (.str "A.java") .null).result =
      .ok compilation := by
  obtain ⟨unit, compiled, -⟩ := exists_of_map_eq_ok Java.kinds_compile_sampleParse
  have language : sampleExtractor.languageFor (.str "A.java") = .ok (.str "java") := by
    decide +kernel
  have frontEnd : sampleExtractor.frontEndFor (.str "java") = .ok .java := by decide +kernel
  refine ⟨⟨unit, Java.sampleText, .str "A.java", .str "java"⟩, ?_⟩
  have falsy : ¬Json.null.isTruthy := by decide
  have able : ¬(!FrontEnd.java.compilesJava) := by decide
  simp only [Extractor.compile, if_neg falsy, language, frontEnd, Extractor.compileWith,
    if_neg able, sourceText, parser_sampleText, ofExcept_ok_bind, result_bind,
    Traced.mapError, compiled]
  rfl

/-- The sample is drawn as it was lowered, and so is a block that has it twice. -/
theorem constructors_invisible_sample : ∃ lowered shared entered added,
    (Java.lowerUnit (.ofString Java.sampleText) Java.sampleParse).result = .ok lowered ∧
      Java.grammar.build "BLOCK" { id := 100 } [("getStatements", .ofTrees [lowered, lowered])] =
        .ok shared ∧
      Java.addConstructors shared = .ok (entered, added) ∧
      ((Graph.ofSource .null none false).scan entered).1.toJson =
        ((Graph.ofSource .null none false).scan shared).1.toJson ∧
      (sampleExtractor.extractText (.str Java.sampleText) (.str "A.java") .null).result.map
          Graph.toJson =
        .ok ((Graph.ofSource (.str "A.java") (some Java.sampleText) true).scan
          lowered).1.toJson := by
  obtain ⟨trees, texts⟩ := constructors_invisible
  obtain ⟨compilation, compiled⟩ := exists_compile_sampleText
  obtain ⟨parsed, lowered, found, -, lowers, -, graph⟩ := texts _ _ _ _ _ compiled
  cases parser_sampleText.symm.trans found
  have java : Java.IsJava lowered := (Java.sound_lowerUnit _ _).of_result lowers
  have built := Java.build_block { id := 100 } [lowered, lowered]
  obtain ⟨entered, added, done, unchanged⟩ :=
    trees _ (Grammar.conforms_build built (by simpa using java))
  exact ⟨lowered, _, entered, added, lowers, built, done, (unchanged _).1, graph⟩

end SyntaxGraph
