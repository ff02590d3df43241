import Mathlib.Algebra.Ring.Nat
import SyntaxGraph.Proofs.Loops

/-!
# Ranks of array types

The brackets of an array are written in several places: in its type, behind the name of a variable
or the parameters of a method, as dots, or around the sizes of a new array. Wherever they stand,
lowering turns each into one array type, or into a dimension of a new array, so that ranks are kept.
-/
namespace SyntaxGraph

open List ParseTree

/-! ### Ranks -/

mutual

/-- How many array types stand at the top of a tree, each right inside the one before. -/
def Tree.arrayRank : Tree → Nat
  | .node _ shape entries =>
    if shape.map (·.kind) = some "ARRAY_TYPE" then elementRank entries + 1 else 0

/-- The rank of what stands under `getType`. -/
def elementRank : List (Place × Content) → Nat
  | [] => 0
  | (place, content) :: rest =>
    if place.name = "getType" then content.arrayRank else elementRank rest

def Content.arrayRank : Content → Nat
  | .tree t => t.arrayRank
  | _ => 0

end

theorem Tree.arrayRank_of_kind {t : Tree} (other : t.kind? ≠ some "ARRAY_TYPE") :
    t.arrayRank = 0 := by
  cases t
  exact if_neg other

namespace ParseTree

variable {α : Type}

/-- The brackets in the dimensions among some nodes. -/
def dimensions (children : List (ParseTree α)) : Nat :=
  brackets (parts (field? children "dimensions"))

mutual

/-- How many brackets a type is written with: for an array type, those of its element and those of
its dimensions. -/
def rank : ParseTree α → Nat
  | .node mark _ children =>
    if mark.type = "array_type" then rankOfElement children + dimensions children else 0

/-- The rank of the first element among some nodes. -/
def rankOfElement : List (ParseTree α) → Nat
  | [] => 0
  | part :: rest =>
    if part.mark.field = some "element" then part.rank else rankOfElement rest

end

end ParseTree

namespace Java

variable {source : Source} {here : Mark} {parts : List Part}

theorem arrayRank_arrayAround (stop : Int) (element : Tree) :
    (arrayAround stop element).arrayRank = element.arrayRank + 1 := by
  rfl

theorem arrayRank_iterate (stop : Int) (count : Nat) (element : Tree) :
    ((arrayAround stop)^[count] element).arrayRank = element.arrayRank + count := by
  induction count with
  | zero => rfl
  | succ count ih => rw [Function.iterate_succ_apply', arrayRank_arrayAround, ih, Nat.add_assoc]

/-! ### Types that are no arrays -/

/-- A tree that is no array type. -/
def Flat (t : Tree) : Prop := t.kind? ≠ some "ARRAY_TYPE"

theorem flat_make {kind : String} {mark : Mark} {attributes : Attributes} {given : Given}
    (other : kind ≠ "ARRAY_TYPE") : Yields Flat (make source kind mark attributes given) := by
  refine (yields_make_makes ..).imp fun t ⟨makes, _⟩ => ?_
  rw [Flat, makes.kind]
  simpa using other

theorem flat_kind {kinds : List String} {run : Lower String} {next : String → Lower Tree}
    (known : Sound (· ∈ kinds) run) (none : "ARRAY_TYPE" ∉ kinds)
    (each : ∀ kind ≠ "ARRAY_TYPE", Yields Flat (next kind)) : Yields Flat (run >>= next) := by
  refine (yields_result run).bind fun kind told => each kind ?_
  rintro rfl
  exact none (known.of_result told)

theorem flat_some {run : Lower Tree} (flat : Yields Flat run) :
    Yields (fun item => ∀ t ∈ item, Flat t) (some <$> run) := by
  refine flat.bind fun t plain => .pure ?_
  simpa using plain

section

-- A node is made in the last step; it is not to be taken apart into steps of its own.
attribute [local irreducible] make

/-- Only array types are lowered to array types. -/
theorem flat_lowerConstruct {construct : Construct} (declared : construct.isDeclared)
    (other : construct ≠ .arrayType) :
    Yields (fun item => ∀ t ∈ item, Flat t) (lowerConstruct source construct here parts) := by
  cases construct with
  | arrayType => exact absurd rfl other
  | literal form =>
    refine flat_some (.tail fun text => flat_kind (sound_literalKind form text) (by decide) ?_)
    exact fun kind other => flat_make other
  | binary =>
    refine flat_some (.tail fun text => flat_kind (sound_operatorKind _ text) (by decide) ?_)
    exact fun kind other => .tail fun _ => .tail fun _ => flat_make other
  | unary =>
    refine flat_some (.tail fun text => flat_kind (sound_operatorKind _ text) (by decide) ?_)
    exact fun kind other => .tail fun _ => flat_make other
  | assignment =>
    refine flat_some (.tail fun text => ?_)
    split
    · rw [Traced.pure_bind]
      exact .tail fun _ => .tail fun _ => flat_make (by decide)
    · refine flat_kind (sound_operatorKind _ text) (by decide) fun kind other => ?_
      exact .tail fun _ => .tail fun _ => flat_make other
  | update =>
    refine flat_some (.tail fun first => .tail fun last => .tail fun _ => flat_make ?_)
    intro same
    exact absurd (same ▸ updateKind_mem first.type last.type) (by decide)
  | wildcard =>
    have other : wildcardKind parts ≠ "ARRAY_TYPE" := fun same =>
      absurd (same ▸ wildcardKind_mem parts) (by decide)
    refine flat_some ?_
    dsimp only [wildcard]
    split <;> exact .tail fun _ => flat_make other
  | typeDeclaration kind =>
    have other : kind ≠ "ARRAY_TYPE" := by
      rintro rfl
      exact absurd declared (by decide)
    refine flat_some ?_
    dsimp only [typeDeclaration]
    repeat' first
      | refine .tail fun _ => ?_
      | exact flat_make other
      | split
  | invocation | objectCreation | breakStatement | continueStatement | tryStatement
  | constructorCall | method =>
    -- In these, what comes next depends on whether a part is there.
    refine flat_some ?_
    dsimp only [invocation, objectCreation, jump, tryStatement, constructorCall, callBetween,
      methodDeclaration]
    repeat' first
      | refine .tail fun _ => ?_
      | exact flat_make (by decide)
      | split
  | _ =>
    refine flat_some ?_
    repeat' first
      | refine .tail fun _ => ?_
      | exact flat_make (by decide)

end

/-! ### Ranks of types -/

/-- Each bracket behind a name adds an array type. -/
theorem WrapsIn.rank {α : Type} {behind : List (ParseTree α)} {element t : Tree}
    (wraps : WrapsIn source (field? (annotateAll (lowerNode source) behind) "dimensions")
      element t) : t.arrayRank = element.arrayRank + ParseTree.dimensions behind := by
  rw [field?_annotateAll] at wraps
  unfold ParseTree.dimensions
  cases found : field? behind "dimensions" with
  | none =>
    rw [found] at wraps
    cases wraps
    rfl
  | some part =>
    rw [found] at wraps
    obtain ⟨stop, -, rfl⟩ := wraps
    rw [arrayRank_iterate, children_annotate, brackets_annotateAll]
    rfl

theorem yields_arrayType_typed (source : Source) (parts : List Part) :
    Yields (fun item => Typed source (field? parts "element")
      (field? parts "dimensions") item.toList) (arrayType source parts) := by
  refine (yields_result (lower? ..)).bind fun element lowered => ?_
  exact (yields_wrapDimensions_wraps ..).imp fun item wraps => ⟨element, item, lowered, wraps, rfl⟩

mutual

/-- A type is lowered to as many array types as it has brackets. -/
theorem arrayRank_lowerable {α : Type} (tree : ParseTree α) {t : Tree}
    (lowered : ((lowerable source tree).note .plain).result = .ok (some t)) :
    t.arrayRank = tree.rank := by
  match tree with
  | .node mark note children =>
    rw [note_lowerable] at lowered
    change (lowerConstruct source (.ofType mark.type) mark
      (annotateAll (lowerNode source) children)).result = .ok (some t) at lowered
    rw [ParseTree.rank]
    split
    next array =>
      -- The element comes from one of the children, and the dimensions wrap it.
      rw [array] at lowered
      have typed := (yields_arrayType_typed ..).of_result lowered
      obtain ⟨part, found, element, told, wraps⟩ := typed.origin (mem_singleton_self t)
      rw [wraps.rank, arrayRank_element children found told]
    next other =>
      have flat := @flat_lowerConstruct source mark
        (annotateAll (lowerNode source) children) _ (isDeclared_ofType mark.type)
        fun same => other (type_of_ofType.1 same)
      exact Tree.arrayRank_of_kind (flat.of_result lowered t rfl)

theorem arrayRank_element {α : Type} (trees : List (ParseTree α)) {part : Part}
    (found : part ∈ field? (annotateAll (lowerNode source) trees) "element")
    {t : Tree} (lowered : (part.note .plain).result = .ok (some t)) :
    t.arrayRank = ParseTree.rankOfElement trees := by
  match trees with
  | [] => cases found
  | tree :: rest =>
    rw [annotateAll, field?, find?_cons, mark_annotate] at found
    rw [ParseTree.rankOfElement]
    split at found
    next here =>
      cases found
      rw [if_pos (of_decide_eq_true here)]
      exact arrayRank_lowerable tree lowered
    next there =>
      rw [if_neg (of_decide_eq_false there)]
      exact arrayRank_element rest found lowered

end

/-! ### Where types stand -/

/-- A node with one tree in a slot, which has a rank. -/
def HasRank (t : Tree) (slot : String) (rank : Nat) : Prop :=
  ∃ type, t.treesIn slot = [type] ∧ type.arrayRank = rank

section

variable {α : Type}

/-- A type that is there and that is lowered to a tree. -/
def Lowers (source : Source) (type : Option (ParseTree α)) : Prop :=
  ∃ node ∈ type, ∃ t, ((lowerable source node).note .plain).result = .ok (some t)

def typeRank (type : Option (ParseTree α)) : Nat := type.elim 0 ParseTree.rank

/-- The rank of what some nodes declare: the brackets of their type and those in `behind`. -/
def declaredRank (children behind : List (ParseTree α)) : Nat :=
  typeRank (field? children "type") + ParseTree.dimensions behind

theorem Typed.hasRank {children behind : List (ParseTree α)} {t : Tree} {slot : String}
    (typed : Typed source (field? (annotateAll (lowerNode source) children) "type")
      (field? (annotateAll (lowerNode source) behind) "dimensions") (t.treesIn slot))
    (lowers : Lowers source (field? children "type")) :
    HasRank t slot (declaredRank children behind) := by
  obtain ⟨node, found, element, lowered⟩ := lowers
  rw [field?_annotateAll _ children, found] at typed
  obtain ⟨array, held, wraps⟩ := typed.exists_of_lowered rfl lowered
  refine ⟨array, held, ?_⟩
  rw [wraps.rank, arrayRank_lowerable node lowered, declaredRank, found]
  rfl

end

theorem yields_variableOf_typed (source : Source) (here : Mark) (parts : List Part)
    (declarator : Part) :
    Yields (fun v => Typed source (field? parts "type")
      (field? declarator.children "dimensions") (v.treesIn "getType"))
      (variableOf source here parts declarator) := by
  refine .tail fun start => .tail fun stop => .tail fun name => .tail fun flags => ?_
  refine (yields_result (lower? ..)).bind fun element lowered => ?_
  refine (yields_wrapDimensions_wraps ..).bind fun type wraps => .tail fun value => ?_
  exact (yields_makeAt_makes ..).imp fun v ⟨makes, _⟩ => makes.typed rfl lowered wraps

theorem yields_formalParameter_typed (source : Source) (parameter : Part) :
    Yields (fun v => Typed source (field? parameter.children "type")
      (field? parameter.children "dimensions") (v.treesIn "getType"))
      (formalParameter source parameter) := by
  refine .tail fun name => .tail fun flags => ?_
  refine (yields_result (lower? ..)).bind fun element lowered => ?_
  refine (yields_wrapDimensions_wraps ..).bind fun type wraps => ?_
  exact (yields_make_makes ..).imp fun v ⟨makes, _⟩ => makes.typed rfl lowered wraps

theorem yields_methodDeclaration_typed {form : MethodForm} (source : Source) (here : Mark)
    (parts : List Part) (returning : form.isConstructor = false) :
    Yields (fun t => Typed source (field? parts "type")
      (field? parts "dimensions") (t.treesIn "getReturnType"))
      (methodDeclaration source form here parts) := by
  dsimp only [methodDeclaration]
  simp only [returning, Bool.false_eq_true, if_false]
  refine (yields_result (lower? ..)).bind fun element lowered => ?_
  refine (yields_wrapDimensions_wraps ..).bind fun type wraps => .tail fun parameters => ?_
  -- Only elements of annotation types have a default value, but both ways end alike.
  split <;>
    exact .tail fun default => .tail fun name => .tail fun flags => .tail fun bounded =>
      .tail fun thrown => .tail fun body => (yields_make_makes ..).imp fun t ⟨makes, _⟩ =>
        makes.typed rfl lowered wraps

/-- What stands for the type of a parameter that takes any number of arguments. -/
def spreadType {α : Type} (children : List (ParseTree α)) : Option (ParseTree α) :=
  (ParseTree.contents children).find? fun part =>
    part.type ≠ "modifiers" && part.type ≠ "variable_declarator" &&
      !annotationTypes.contains part.type

/-- Dots make one array type. -/
theorem yields_spreadParameter_type (source : Source) (parameter : Part) :
    Yields (fun v => ∀ part ∈ spreadType parameter.children, ∀ element,
      (part.note .plain).result = .ok (some element) →
        ∃ stop, v.treesIn "getType" = [arrayAround stop element])
      (spreadParameter source parameter) := by
  refine (yields_result (lower? ..)).bind fun item lowered => ?_
  have same {part : Part} (found : part ∈ spreadType parameter.children) {element : Tree}
      (told : (part.note .plain).result = .ok (some element)) : item = some element := by
    change (lower? .plain (spreadType parameter.children)).result = .ok item at lowered
    rw [found] at lowered
    cases told.symm.trans lowered
    rfl
  dsimp only
  split
  next =>
    refine (yields_any _).imp fun v _ part found element told => ?_
    cases same found told
  next element =>
    -- The array type ends with the dots, or else with its element.
    split
    all_goals
      refine .tail fun stop => ?_
      rw [makeAt_arrayAround, Traced.pure_bind, Traced.pure_bind]
      refine .tail fun name => .tail fun flags => (yields_make_makes ..).imp ?_
      intro v ⟨makes, _⟩ part found element told
      cases same found told
      exact ⟨stop, makes.holds.trees _⟩

/-! ### New arrays -/

/-- The nodes of a type that stand among the dimensions of a new array. -/
def dimensionNodes {α : Type} (children : List (ParseTree α)) (type : String) :
    List (ParseTree α) :=
  (fields children "dimensions").filter (·.type = type)

/-- How many brackets of a new array are empty. -/
def emptyBrackets {α : Type} (children : List (ParseTree α)) : Nat :=
  ((dimensionNodes children "dimensions").map fun node => brackets node.children).sum

theorem dimensionNodes_annotateAll {α : Type} (children : List (ParseTree α)) (type : String) :
    dimensionNodes (annotateAll (lowerNode source) children) type =
      (dimensionNodes children type).map (lowerable source) := by
  simp [dimensionNodes, fields_annotateAll, filter_map, Function.comp_def, lowerable]

theorem emptyBrackets_annotateAll {α : Type} (children : List (ParseTree α)) :
    emptyBrackets (annotateAll (lowerNode source) children) = emptyBrackets children := by
  simp [emptyBrackets, dimensionNodes_annotateAll, Function.comp_def, lowerable,
    children_annotate, brackets_annotateAll]

theorem extraDimensions_eq (parts : List Part) :
    extraDimensions parts =
      if (field? parts "value").isSome then emptyBrackets parts - 1
      else emptyBrackets parts := by
  have sum : (dimensionNodes parts "dimensions").foldl
      (fun count part => count + brackets part.children) 0 = emptyBrackets parts := by
    rw [emptyBrackets, sum_eq_foldl_nat, foldl_map]
  rw [← sum]
  rfl

theorem yields_elementType_wraps (parts : List Part) (element : Option Tree) :
    Yields (fun item => ∀ e ∈ element, ∃ stop,
      item = some ((arrayAround stop)^[extraDimensions parts] e)) (elementType parts element) := by
  unfold elementType
  split
  next none => exact .pure fun e found => ⟨0, by rw [none]; exact found⟩
  next count more =>
    refine (yields_need element).bind fun e found => ?_
    rw [arrayOf_eq]
    refine .pure fun other also => ⟨e.stop, ?_⟩
    cases Option.mem_unique found also
    rw [more]

theorem yields_arrayCreation_parts (source : Source) (here : Mark) (parts : List Part) :
    Yields (fun t => (∀ part ∈ field? parts "type", ∀ element,
      (part.note .plain).result = .ok (some element) → ∃ stop,
        t.treesIn "getType" = [(arrayAround stop)^[extraDimensions parts] element]) ∧
      (t.treesIn "getDimensions").length = (dimensionNodes parts "dimensions_expr").length)
      (arrayCreation source here parts) := by
  refine (yields_result (lower? ..)).bind fun element lowered => ?_
  refine (yields_elementType_wraps parts element).bind fun type wraps => ?_
  refine (forall₂_each fun part _ => yields_any _).bind fun sizes pairs => ?_
  refine .tail fun values => (yields_make_makes ..).imp fun t ⟨makes, _⟩ => ⟨?_, ?_⟩
  · intro part found e told
    rw [found] at lowered
    cases told.symm.trans lowered
    obtain ⟨stop, rfl⟩ := wraps e rfl
    exact ⟨stop, makes.holds.trees _⟩
  · have full := makes.holds.full "getDimensions" sizes rfl
    rw [← length_map (f := some), ← full]
    exact pairs.length_eq.symm

/-! ### Ranks are kept -/

section

variable {α : Type}

/-- A new array whose brackets are shared out between its type, its sizes and its values. -/
def SharesBrackets (children : List (ParseTree α)) (t : Tree) : Prop :=
  ∃ type, t.treesIn "getType" = [type] ∧
    type.arrayRank + (t.treesIn "getDimensions").length +
        (if (field? children "value").isSome then 1 else 0) =
      typeRank (field? children "type") + (dimensionNodes children "dimensions_expr").length +
        emptyBrackets children

/-- What a node declares or makes has the rank that it is written with, wherever the brackets
stand, if the node is lowered and its type is lowered to a tree. -/
structure RanksKept (source : Source) (node : ParseTree α) : Prop where
  /-- Each variable of a declaration has the brackets of the type and those behind its own name. -/
  declared : Lowers source (field? node.children "type") → ∀ declared,
    (declaredVariables source (lowerable source node)).result = .ok declared →
    List.Forall₂ (fun declarator v =>
        HasRank v "getType" (declaredRank node.children declarator.children))
      (fields node.children "declarator") declared
  formal : node.type ≠ "spread_parameter" → Lowers source (field? node.children "type") → ∀ v,
    (parameter source (lowerable source node)).result = .ok v →
    HasRank v "getType" (declaredRank node.children node.children)
  spread : node.type = "spread_parameter" → Lowers source (spreadType node.children) → ∀ v,
    (parameter source (lowerable source node)).result = .ok v →
    HasRank v "getType" (typeRank (spreadType node.children) + 1)
  returned : ∀ form, Construct.ofType node.type = .method form → form.isConstructor = false →
    Lowers source (field? node.children "type") →
    LowersTo source node fun t =>
      HasRank t "getReturnType" (declaredRank node.children node.children)
  loop : node.type = "enhanced_for_statement" → Lowers source (field? node.children "type") →
    LowersTo source node fun t => ∃ v, t.treesIn "getVariable" = [v] ∧
      HasRank v "getType" (declaredRank node.children node.children)
  /-- Sizes are dimensions of a new array, and so are initial values; empty brackets that these do
  not stand for are in its type. -/
  creation : node.type = "array_creation_expression" →
    Lowers source (field? node.children "type") →
    ((field? node.children "value").isSome → 0 < emptyBrackets node.children) →
    LowersTo source node (SharesBrackets node.children)

theorem hasRank_declaredVariables {node : ParseTree α}
    (lowers : Lowers source (field? node.children "type")) {declared : List Tree}
    (lowered : (declaredVariables source (lowerable source node)).result = .ok declared) :
    List.Forall₂ (fun declarator v =>
        HasRank v "getType" (declaredRank node.children declarator.children))
      (fields node.children "declarator") declared := by
  have pairs := (forall₂_each fun declarator _ => yields_variableOf_typed source
    (lowerable source node).mark (lowerable source node).children declarator).of_result lowered
  rw [lowerable, children_annotate, fields_annotateAll, List.forall₂_map_left_iff] at pairs
  refine pairs.imp fun declarator v typed => ?_
  rw [children_annotate] at typed
  exact typed.hasRank lowers

theorem hasRank_formalParameter {node : ParseTree α}
    (lowers : Lowers source (field? node.children "type")) {v : Tree}
    (lowered : (formalParameter source (lowerable source node)).result = .ok v) :
    HasRank v "getType" (declaredRank node.children node.children) := by
  have typed := (yields_formalParameter_typed source _).of_result lowered
  rw [lowerable, children_annotate] at typed
  exact typed.hasRank lowers

theorem spreadType_annotateAll (children : List (ParseTree α)) :
    spreadType (annotateAll (lowerNode source) children) =
      (spreadType children).map (lowerable source) := by
  rw [spreadType, contents_annotateAll, find?_map]
  simp only [Function.comp_def, type_annotate]
  rfl

theorem hasRank_spreadParameter {node : ParseTree α}
    (lowers : Lowers source (spreadType node.children)) {v : Tree}
    (lowered : (spreadParameter source (lowerable source node)).result = .ok v) :
    HasRank v "getType" (typeRank (spreadType node.children) + 1) := by
  have spread := (yields_spreadParameter_type source _).of_result lowered
  obtain ⟨type, found, element, told⟩ := lowers
  rw [lowerable, children_annotate, spreadType_annotateAll, found] at spread
  obtain ⟨stop, held⟩ := spread _ rfl element told
  refine ⟨_, held, ?_⟩
  rw [arrayRank_arrayAround, arrayRank_lowerable type told, found]
  rfl

theorem yields_arrayCreation_shares {children : List (ParseTree α)}
    (lowers : Lowers source (field? children "type"))
    (opened : (field? children "value").isSome → 0 < emptyBrackets children) :
    Yields (SharesBrackets children)
      (arrayCreation source here (annotateAll (lowerNode source) children)) := by
  refine (yields_arrayCreation_parts ..).imp fun t ⟨typed, sized⟩ => ?_
  obtain ⟨node, found, element, told⟩ := lowers
  rw [field?_annotateAll, found] at typed
  obtain ⟨stop, held⟩ := typed _ rfl element told
  refine ⟨_, held, ?_⟩
  rw [dimensionNodes_annotateAll, length_map] at sized
  rw [arrayRank_iterate, arrayRank_lowerable node told, sized, extraDimensions_eq,
    emptyBrackets_annotateAll, field?_annotateAll, Option.isSome_map, found, typeRank,
    Option.elim_some]
  -- Initial values stand for one pair of empty brackets, which is there.
  split
  next valued =>
    have := opened valued
    omega
  next => omega

/-- Lowering keeps the ranks of arrays. -/
theorem lowerable_ranksKept (source : Source) (node : ParseTree α) : RanksKept source node where
  declared lowers declared lowered := hasRank_declaredVariables lowers lowered
  formal other lowers v lowered := by
    rw [parameter, lowerable, type_annotate, if_neg other] at lowered
    exact hasRank_formalParameter lowers lowered
  spread isSpread lowers v lowered := by
    rw [parameter, lowerable, type_annotate, if_pos isSpread] at lowered
    exact hasRank_spreadParameter lowers lowered
  returned form isMethod returning lowers := by
    refine .of_meaning isMethod (by simp) rfl ?_
    exact (yields_methodDeclaration_typed _ _ _ returning).imp fun t typed => typed.hasRank lowers
  loop isLoop lowers := by
    have meaning : Construct.ofType node.type = .enhancedFor := by rw [isLoop]; decide
    refine .of_meaning meaning (by decide) rfl ?_
    refine (yields_enhancedFor_parts ..).imp fun t ⟨_, _, v, held, declares⟩ => ?_
    exact ⟨v, held, declares.type.hasRank lowers⟩
  creation isCreation lowers opened := by
    have meaning : Construct.ofType node.type = .arrayCreation := by rw [isCreation]; decide
    exact .of_meaning meaning (by decide) rfl <| yields_arrayCreation_shares lowers opened

end

/-- The text of a declaration of two variables with different ranks. -/
def mixedText : String := "int[] a[][], b;"

def mixedDeclaration : ParseTree Unit :=
  part "local_variable_declaration" 0 15
    [part "array_type" 0 5
        [part "integral_type" 0 3 [] "element",
          part "dimensions" 3 5 [token "[" 3, token "]" 4] "dimensions"] "type",
      part "variable_declarator" 6 11
        [part "identifier" 6 7 [] "name",
          part "dimensions" 7 11
            [token "[" 7, token "]" 8, token "[" 9, token "]" 10] "dimensions"] "declarator",
      token "," 11,
      part "variable_declarator" 13 14 [part "identifier" 13 14 [] "name"] "declarator",
      token ";" 14]

/-- The text of a new array with initial values, which stand for one of its dimensions. -/
def filledText : String := "new int[][]\x7b\x7d"

def filledArray : ParseTree Unit :=
  part "array_creation_expression" 0 13
    [part "integral_type" 4 7 [] "type",
      part "dimensions" 7 11
        [token "[" 7, token "]" 8, token "[" 9, token "]" 10] "dimensions",
      part "array_initializer" 11 13 [token "\x7b" 11, token "\x7d" 12] "value"]

theorem lowers_of_isSome {α : Type} {type : Option (ParseTree α)}
    (lowered : (lower? .plain (type.map (lowerable source))).result.map Option.isSome =
      .ok true) : Lowers source type := by
  obtain ⟨item, told, found⟩ := exists_of_map_eq_ok lowered
  obtain ⟨t, rfl⟩ := Option.isSome_iff_exists.1 found
  cases type with
  | none => cases told
  | some node => exact ⟨node, rfl, t, told⟩

theorem lowerable_ranksKept_samples :
    (∃ v w, (declaredVariables (.ofString mixedText)
        (lowerable (.ofString mixedText) mixedDeclaration)).result = .ok [v, w] ∧
      HasRank v "getType" 3 ∧ HasRank w "getType" 1) ∧
    ∃ t type, ((lowerable (.ofString filledText) filledArray).note .plain).result = .ok (some t) ∧
      t.treesIn "getType" = [type] ∧
      type.arrayRank + (t.treesIn "getDimensions").length + 1 = 2 := by
  constructor
  · have run : (declaredVariables (.ofString mixedText)
        (lowerable (.ofString mixedText) mixedDeclaration)).result.map List.length = .ok 2 := by
      decide +kernel
    obtain ⟨declared, lowered, -⟩ := exists_of_map_eq_ok run
    have pairs := (lowerable_ranksKept (.ofString mixedText) mixedDeclaration).declared
      (lowers_of_isSome (by decide +kernel)) declared lowered
    obtain ⟨v, _, first, rest, rfl⟩ := List.forall₂_cons_left_iff.1 pairs
    obtain ⟨w, _, second, none, rfl⟩ := List.forall₂_cons_left_iff.1 rest
    cases List.forall₂_nil_left_iff.1 none
    exact ⟨v, w, lowered, first, second⟩
  · have run : ((lowerable (.ofString filledText) filledArray).note .plain).result.map
        Option.isSome = .ok true := by
      decide +kernel
    obtain ⟨item, lowered, -⟩ := exists_of_map_eq_ok run
    obtain ⟨t, rfl, type, held, sum⟩ :=
      (lowerable_ranksKept (.ofString filledText) filledArray).creation rfl
        (lowers_of_isSome (by decide +kernel)) (by decide +kernel) .plain rfl item lowered
    exact ⟨t, type, lowered, held, sum⟩

end Java

end SyntaxGraph
