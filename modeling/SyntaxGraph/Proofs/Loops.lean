import SyntaxGraph.Proofs.Slots
import SyntaxGraph.Proofs.Spans.Unit

/-!
# Variables of loops

The variable of a loop over a collection spans from its modifiers or its type to its name. Its
modifiers lie inside it, and so does its type, unless brackets follow the name: these make the type
an array type that ends where they end, while the variable still ends with its name.
-/
namespace SyntaxGraph.Java

open ParseTree
open Mark (Precedes under? ofType?)

/-- The parts of a loop over a collection, in the order in which they are written. -/
def loopParts (children : List Mark) : List (Option Mark) :=
  [ofType? children "modifiers", under? children "type", under? children "name",
    under? children "dimensions", under? children "value", under? children "body"]

/-- A loop whose parts, as far as they are there, follow each other inside it. -/
@[mk_iff]
structure LoopOrdered (here : Mark) (children : List Mark) : Prop where
  inside : ∀ part ∈ loopParts children, ∀ mark ∈ part,
    here.start ≤ mark.start ∧ mark.start ≤ mark.stop ∧ mark.stop ≤ here.stop
  apart : (loopParts children).Pairwise Precedes

instance (here : Mark) (children : List Mark) : Decidable (LoopOrdered here children) :=
  decidable_of_iff _ (loopOrdered_iff here children).symm

variable {source : Source} {here : Mark} {parts : List Part}

/-! ### Offsets -/

theorem le_of_offsetAt {first second : Nat} {i j : Int} (ordered : first ≤ second)
    (starts : (offsetAt source first).result = .ok i)
    (stops : (offsetAt source second).result = .ok j) : i ≤ j := by
  unfold offsetAt at starts stops
  split at starts
  next m found =>
    split at stops
    next n also =>
      cases starts
      cases stops
      exact Int.ofNat_le.2 (offset?_mono source ordered found also)
    next => cases stops
  next => cases starts

/-! ### Parts of the variable -/

/-- Modifiers with a position span the parse node that they are written in. -/
theorem yields_modifiers_spans (source : Source) (parts : List Part) :
    Yields (fun flags => flags.start ≠ noPosition →
      ∃ list ∈ ParseTree.ofType? parts "modifiers", Spans source list.mark flags)
      (modifiers source parts) := by
  unfold modifiers
  split
  next =>
    refine (yields_makeAt_makes ..).imp fun flags ⟨_, start, _⟩ positioned => ?_
    exact absurd start positioned
  next list found =>
    refine (yields_any (lowerAll ..)).bind fun annotations _ => ?_
    refine (yields_any (Traced.each ..)).bind fun texts _ => ?_
    refine (yields_make_makes ..).imp fun flags ⟨_, spans⟩ _ => ?_
    exact ⟨list, found, spans⟩

/-- With brackets behind a name, a type is an array type that ends with them. -/
theorem iterate_arrayAround_ends {stop : Int} {count : Nat} (some : 0 < count) (element : Tree) :
    ((arrayAround stop)^[count] element).kind? = Option.some "ARRAY_TYPE" ∧
      ((arrayAround stop)^[count] element).stop = stop := by
  obtain ⟨count, rfl⟩ := Nat.exists_eq_add_of_lt some
  rw [Function.iterate_succ_apply']
  exact ⟨rfl, rfl⟩

/-- A type starts with what its part is lowered to, and it is just that unless brackets follow. -/
theorem WrapsIn.ends {α : Type} {dimensions : Option (ParseTree α)} {element t : Tree}
    (wraps : WrapsIn source (dimensions.map (ParseTree.annotate (lowerNode source))) element t) :
    t.start = element.start ∧
      ((∀ part ∈ dimensions, ParseTree.brackets part.children = 0) → t = element) ∧
      ∀ part ∈ dimensions, 0 < ParseTree.brackets part.children →
        t.kind? = some "ARRAY_TYPE" ∧ (stopOf source part.mark).result = .ok t.stop := by
  cases dimensions with
  | none =>
    cases wraps
    simp
  | some brackets =>
    obtain ⟨stop, stops, rfl⟩ := wraps
    rw [mark_annotate] at stops
    rw [children_annotate, brackets_annotateAll]
    refine ⟨start_iterate_arrayAround _ _ _, fun none => ?_, ?_⟩
    · rw [none brackets rfl]
      rfl
    · rintro _ ⟨⟩ some
      obtain ⟨kind, same⟩ := iterate_arrayAround_ends some element
      rw [same]
      exact ⟨kind, stops⟩

/-! ### The variable -/

/-- What the variable of a loop is made of. -/
structure LoopVariable (source : Source) (parts : List Part) (v : Tree) : Prop where
  kind : v.kind? = some "VARIABLE"
  first : ∃ part ∈ (ParseTree.ofType? parts "modifiers").or (ParseTree.field? parts "type"),
    (startOf source part.mark).result = .ok v.start
  last : ∃ name ∈ ParseTree.field? parts "name", (stopOf source name.mark).result = .ok v.stop
  modifiers : ∀ flags ∈ v.treesIn "getModifiers", flags.start ≠ noPosition →
    ∃ list ∈ ParseTree.ofType? parts "modifiers", Spans source list.mark flags
  type : Typed source (ParseTree.field? parts "type") (ParseTree.field? parts "dimensions")
    (v.treesIn "getType")

theorem yields_loopVariable_parts (source : Source) (parts : List Part) :
    Yields (LoopVariable source parts) (loopVariable source parts) := by
  refine (yields_need _).bind fun first isFirst => ?_
  refine (yields_result (startOf source first.mark)).bind fun start starts => ?_
  refine (yields_need _).bind fun name isName => ?_
  refine (yields_result (stopOf source name.mark)).bind fun stop stops => ?_
  refine (yields_any (textOf? ..)).bind fun text _ => ?_
  refine (yields_modifiers_spans source parts).bind fun flags spans => ?_
  refine (yields_result (lower? ..)).bind fun element lowered => ?_
  refine (yields_wrapDimensions_wraps ..).bind fun type wraps => ?_
  refine (yields_makeAt_makes ..).imp fun v ⟨makes, same, also⟩ => ?_
  subst same also
  have flagged : v.treesIn "getModifiers" = [flags] := makes.holds.trees _
  refine ⟨makes.kind, ⟨first, isFirst, starts⟩, ⟨name, isName, stops⟩, ?_,
    makes.typed rfl lowered wraps⟩
  simpa [flagged] using spans

theorem yields_enhancedFor_parts (source : Source) (here : Mark) (parts : List Part) :
    Yields (fun t => t.kind? = some "ENHANCED_FOR_LOOP" ∧ Spans source here t ∧
      ∃ v, t.treesIn "getVariable" = [v] ∧ LoopVariable source parts v)
      (enhancedFor source here parts) := by
  refine (yields_loopVariable_parts source parts).bind fun v declares => ?_
  refine (yields_any (lower? ..)).bind fun expression _ => ?_
  refine (yields_any (lower? ..)).bind fun body _ => ?_
  refine (yields_make_makes ..).imp fun t ⟨⟨kind, holds⟩, spans⟩ => ?_
  exact ⟨kind, spans, v, holds.trees _, declares⟩

/-! ### Spans -/

/-- A tree inside the span of a parse node. -/
def LiesIn (source : Source) (mark : Mark) (t : Tree) : Prop :=
  ∃ i j, (startOf source mark).result = .ok i ∧ (stopOf source mark).result = .ok j ∧
    i ≤ t.start ∧ t.stop ≤ j

theorem liesIn_of_arranged {α : Type} {text : String} {tree : ParseTree α}
    (arranged : ∀ node ∈ tree.nodes, Arranged (byteLength text.toList) node.mark node.childMarks)
    {role : Role} {t : Tree}
    (lowered : ((lowerable (.ofString text) tree).note role).result = .ok (some t)) :
    LiesIn (.ofString text) tree.mark t := by
  let stage : Stage := ⟨⟨text, fun _ _ => True⟩, True⟩
  have placed : stage.PlacedPart (lowerable stage.source tree) :=
    placedPart_lowerable tree fun _ node below => ⟨arranged node below, fun _ _ _ => trivial⟩
  have within := (placed.note role).of_result lowered t rfl
  have here := placed.laid.arranged trivial
  rw [lowerable, mark_annotate] at here within
  have found {byte : Nat} (bounded : byte ≤ stage.bytes) :
      (offsetAt stage.source byte).result = .ok (stage.placeOf byte) := by
    rw [Stage.placeOf, offsetAt, Source.offset?_of_le _ bounded]
    rfl
  exact ⟨_, _, found (Nat.le_trans here.ordered here.bounded), found here.bounded,
    within.lower trivial, within.upper trivial⟩

/-- The modifiers and the type of a loop in order lie between the first of them and the name. -/
theorem LoopOrdered.order {children : List Mark} (ordered : LoopOrdered here children)
    {first name : Mark}
    (isFirst : first ∈ (ofType? children "modifiers").or (under? children "type"))
    (isName : name ∈ under? children "name") :
    (here.start ≤ first.start ∧ name.stop ≤ here.stop) ∧
      (∀ list ∈ ofType? children "modifiers", first.start ≤ list.start ∧ list.stop ≤ name.stop) ∧
      ∀ type ∈ under? children "type", first.start ≤ type.start ∧ type.stop ≤ name.stop := by
  obtain ⟨inside, apart⟩ := ordered
  simp only [loopParts, List.forall_mem_cons, List.pairwise_cons] at inside apart
  obtain ⟨inList, inType, inName, -⟩ := inside
  obtain ⟨⟨listType, listName, -⟩, ⟨typeName, -⟩, -⟩ := apart
  have named := inName name isName
  rcases Option.or_eq_some_iff.1 isFirst with isList | ⟨noList, isType⟩
  · have opens := inList first isList
    refine ⟨⟨opens.1, named.2.2⟩, fun list found => ?_, fun type found => ?_⟩
    · cases Option.mem_unique isList found
      exact ⟨Nat.le_refl _, Nat.le_trans (listName _ found _ isName) named.2.1⟩
    · exact ⟨Nat.le_trans opens.2.1 (listType _ isList _ found),
        Nat.le_trans (typeName _ found _ isName) named.2.1⟩
  · refine ⟨⟨(inType first isType).1, named.2.2⟩, ?_, fun type found => ?_⟩
    · rw [noList]
      rintro _ ⟨⟩
    · cases Option.mem_unique isType found
      exact ⟨Nat.le_refl _, Nat.le_trans (typeName _ found _ isName) named.2.1⟩

/-- The variable of a loop in order lies inside the loop and around its modifiers. Where its type is
lowered to a tree inside the node of the type, it starts before that tree and ends behind it. -/
theorem LoopVariable.spans {v t : Tree} (declares : LoopVariable source parts v)
    (ordered : LoopOrdered here (parts.map ParseTree.mark)) (spans : Spans source here t) :
    (t.start ≤ v.start ∧ v.stop ≤ t.stop) ∧
      (∀ flags ∈ v.treesIn "getModifiers", flags.start ≠ noPosition →
        v.start ≤ flags.start ∧ flags.stop ≤ v.stop) ∧
      ∀ part ∈ ParseTree.field? parts "type", ∀ element, LiesIn source part.mark element →
        v.start ≤ element.start ∧ element.stop ≤ v.stop := by
  obtain ⟨first, isFirst, starts⟩ := declares.first
  obtain ⟨name, isName, stops⟩ := declares.last
  have opens : first.mark ∈ (ofType? (parts.map ParseTree.mark) "modifiers").or
      (under? (parts.map ParseTree.mark) "type") := by
    rw [Mark.ofType?, under?, List.find?_map, List.find?_map, ← Option.map_or]
    exact Option.mem_map_of_mem ParseTree.mark isFirst
  obtain ⟨⟨starting, ending⟩, flagged, typed⟩ :=
    ordered.order opens (ParseTree.mark_mem_under? isName)
  refine ⟨⟨le_of_offsetAt starting spans.start starts, le_of_offsetAt ending stops spans.stop⟩,
    ?_, ?_⟩
  · intro flags held positioned
    obtain ⟨list, isList, own⟩ := declares.modifiers flags held positioned
    obtain ⟨before, behind⟩ := flagged _ (mark_mem_ofType? isList)
    exact ⟨le_of_offsetAt before starts own.start, le_of_offsetAt behind own.stop stops⟩
  · rintro part isType element ⟨_, _, begins, ends, lower, upper⟩
    obtain ⟨before, behind⟩ := typed _ (mark_mem_under? isType)
    exact ⟨Int.le_trans (le_of_offsetAt before starts begins) lower,
      Int.le_trans upper (le_of_offsetAt behind ends stops)⟩

/-- The variable of a loop over a collection, in a loop whose parts are in order and whose type is
lowered in order, lies inside the loop and around its written modifiers. Its type starts inside it.
It ends inside it too where no brackets follow the name; where some do, it is an array type that
ends with them, although the variable ends with its name. -/
theorem lowerable_enhancedFor_spans {α : Type} (text : String) (loop : ParseTree α)
    (isLoop : loop.type = "enhanced_for_statement")
    (ordered : LoopOrdered loop.mark (loop.children.map ParseTree.mark))
    (typed : ∀ type ∈ ParseTree.field? loop.children "type", ∀ node ∈ type.nodes,
      Arranged (byteLength text.toList) node.mark node.childMarks)
    {role : Role} (own : role.isOwn) {item : Option Tree}
    (lowered : ((lowerable (.ofString text) loop).note role).result = .ok item) :
    ∃ t v, item = some t ∧ t.kind? = some "ENHANCED_FOR_LOOP" ∧
      t.treesIn "getVariable" = [v] ∧ v.kind? = some "VARIABLE" ∧
      (t.start ≤ v.start ∧ v.stop ≤ t.stop) ∧
      (∀ flags ∈ v.treesIn "getModifiers", flags.start ≠ noPosition →
        v.start ≤ flags.start ∧ flags.stop ≤ v.stop) ∧
      (∃ name ∈ ParseTree.field? loop.children "name",
        (stopOf (.ofString text) name.mark).result = .ok v.stop) ∧
      ∀ type ∈ v.treesIn "getType", v.start ≤ type.start ∧
        ((∀ part ∈ ParseTree.field? loop.children "dimensions",
          ParseTree.brackets part.children = 0) → type.stop ≤ v.stop) ∧
        ∀ part ∈ ParseTree.field? loop.children "dimensions",
          0 < ParseTree.brackets part.children → type.kind? = some "ARRAY_TYPE" ∧
            (stopOf (.ofString text) part.mark).result = .ok type.stop := by
  have looped : Construct.ofType loop.type = .enhancedFor := by
    rw [isLoop]
    decide
  rw [note_of_meaning looped (by decide) own] at lowered
  obtain ⟨t, rfl, kind, spans, v, held, declares⟩ :=
    Yields.exists_of_some (yields_enhancedFor_parts ..) lowered
  -- The order is known of the parse tree, and lowering keeps the marks.
  rw [← map_mark_annotateAll (lowerNode (.ofString text))] at ordered
  obtain ⟨within, flagged, around⟩ := declares.spans ordered spans
  obtain ⟨_, isName, stops⟩ := declares.last
  rw [field?_annotateAll] at isName
  obtain ⟨name, named, rfl⟩ := Option.map_eq_some_iff.1 isName
  rw [mark_annotate] at stops
  refine ⟨t, v, rfl, kind, held, declares.kind, within, flagged, ⟨name, named, stops⟩, ?_⟩
  -- The type comes from the part of that field, wrapped in the brackets behind the name.
  intro type inside
  obtain ⟨_, isType, element, note, wraps⟩ := declares.type.origin inside
  have around := around _ isType element
  rw [field?_annotateAll] at isType wraps
  obtain ⟨part, found, rfl⟩ := Option.map_eq_some_iff.1 isType
  rw [mark_annotate] at around
  obtain ⟨lower, upper⟩ := around (liesIn_of_arranged (typed part found) note)
  obtain ⟨starts, bare, wrapped⟩ := wraps.ends
  exact ⟨starts ▸ lower, fun none => bare none ▸ upper, wrapped⟩

/-- A loop with modifiers and with brackets behind the name of its variable. -/
def overhangingText : String := "for(final int x[]:y);"

def overhangingLoop : ParseTree Unit :=
  part "enhanced_for_statement" 0 21
    [token "for" 0, token "(" 3, part "modifiers" 4 9 [token "final" 4],
      part "integral_type" 10 13 [token "int" 10] "type",
      part "identifier" 14 15 [] "name",
      part "dimensions" 15 17 [token "[" 15, token "]" 16] "dimensions",
      token ":" 17, part "identifier" 18 19 [] "value", token ")" 19,
      token ";" 20 "body"]

/-- Whether a loop declares a variable and a type with given spans. -/
def declaresSpans (variableSpan typeSpan : Int × Int) (loop : Tree) : Bool :=
  (loop.treesIn "getVariable").any fun v => (v.start, v.stop) = variableSpan &&
    (v.treesIn "getType").any fun type => (type.start, type.stop) = typeSpan

theorem declaresSpans_overhangingLoop :
    ((lowerable (.ofString overhangingText) overhangingLoop).note .statement).result.map
      (fun item => item.map (declaresSpans (4, 15) (10, 17))) = .ok (some true) := by
  decide +kernel

theorem lowerable_enhancedFor_overhangingLoop :
    ∃ t v, ((lowerable (.ofString overhangingText) overhangingLoop).note .statement).result =
        .ok (some t) ∧
      t.treesIn "getVariable" = [v] ∧ (t.start ≤ v.start ∧ v.stop ≤ t.stop) ∧
      ∀ type ∈ v.treesIn "getType", v.start ≤ type.start ∧ type.kind? = some "ARRAY_TYPE" := by
  obtain ⟨item, lowered, -⟩ := exists_of_map_eq_ok declaresSpans_overhangingLoop
  obtain ⟨t, v, rfl, -, held, -, within, -, -, typed⟩ :=
    lowerable_enhancedFor_spans overhangingText overhangingLoop rfl (by decide +kernel)
      (by decide +kernel) rfl lowered
  refine ⟨t, v, lowered, held, within, fun type inside => ?_⟩
  obtain ⟨starts, -, ends⟩ := typed type inside
  exact ⟨starts, (ends _ rfl (by decide)).1⟩

/-- The parts of the loop are in order, and yet its variable ends before the type of the variable
does. -/
theorem lowerable_overhangingLoop :
    LoopOrdered overhangingLoop.mark (overhangingLoop.children.map ParseTree.mark) ∧
      ∃ t, ((lowerable (.ofString overhangingText) overhangingLoop).note .statement).result =
          .ok (some t) ∧
        ∃ v ∈ t.treesIn "getVariable", ∃ type ∈ v.treesIn "getType", v.stop < type.stop := by
  obtain ⟨item, lowered, found⟩ := exists_of_map_eq_ok declaresSpans_overhangingLoop
  obtain ⟨t, rfl, spans⟩ := Option.map_eq_some_iff.1 found
  simp only [declaresSpans, List.any_eq_true, Bool.and_eq_true, decide_eq_true_eq,
    Prod.mk.injEq] at spans
  obtain ⟨v, held, ⟨-, stop⟩, type, inside, -, reach⟩ := spans
  refine ⟨by decide +kernel, t, lowered, v, held, type, inside, ?_⟩
  rw [stop, reach]
  decide

end SyntaxGraph.Java
