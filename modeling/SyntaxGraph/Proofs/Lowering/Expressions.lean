import SyntaxGraph.Java.Lowering.Expressions
import SyntaxGraph.Proofs.Lowering.Declarations

/-!
# Expressions are lowered soundly
-/
namespace SyntaxGraph.Java

open List Stage

variable {stage : Stage} {low high : Int} {here : Mark} {parts : List Part}

/-! ### Literals and operators -/

theorem sound_endsIn (text : String) (lower upper : Char) :
    Sound (fun _ => True) (endsIn text lower upper) := by
  refine (sound_needSome _).bind fun last _ => ?_
  exact .pure trivial

theorem sound_literalKind (form : LiteralForm) (text : String) :
    Sound (· ∈ literalKinds) (form.kind text) := by
  cases form with
  | integer =>
    refine (sound_endsIn text 'l' 'L').bind fun long _ => .pure ?_
    cases long <;> simp [literalKinds]
  | floating =>
    refine (sound_endsIn text 'f' 'F').bind fun short _ => .pure ?_
    cases short <;> simp [literalKinds]
  | boolean | character | null | text => exact .pure (by simp [literalKinds])

theorem sound_literal (form : LiteralForm) (laid : stage.Laid here parts) :
    Sound (stage.Over here) (literal stage.source form here) := by
  refine (sound_textOf_eq stage.source here).bind fun text ⟨part, cut, isText⟩ => ?_
  refine (sound_literalKind form text).bind fun kind known => ?_
  subst isText
  refine laid.makeSpelled cut (declares_literal kind known) fun t own spells =>
    ⟨fun identifier => ?_, fun _ _ _ => spells⟩
  cases own.symm.trans identifier
  exact absurd known (by decide)

theorem sound_parenthesized : stage.Lowers (parenthesized stage.source) := fun laid => by
  refine (sound_lower? laid.allLie.contents.head .plain).bind fun expression within => ?_
  exact laid.make (.cons (.option within) .nil) rfl

theorem sound_operatorKind (operators : List (String × String)) (text : String) :
    Sound (· ∈ operators.map Prod.snd) (operatorKind operators text) := by
  unfold operatorKind
  split
  next kind found =>
    obtain ⟨before, behind, rfl, -⟩ := lookup_eq_some_iff.1 found
    exact .pure (by simp)
  next => exact .fail trivial

theorem sound_binary : stage.Lowers (binary stage.source) := fun laid => by
  refine sound_textOf?.bind fun operator _ => ?_
  refine (sound_operatorKind binaryOperators operator).bind fun kind known => ?_
  refine (laid.lower "left").bind fun left first => ?_
  refine (laid.lower "right").bind fun right second => ?_
  exact laid.make (.cons (.option first) (.cons (.option second) .nil)) (declares_binary kind known)

theorem sound_unary : stage.Lowers (unary stage.source) := fun laid => by
  refine sound_textOf?.bind fun operator _ => ?_
  refine (sound_operatorKind unaryOperators operator).bind fun kind known => ?_
  refine (laid.lower "operand").bind fun expression within => ?_
  exact laid.make (.cons (.option within) .nil) (declares_unary kind (mem_append_left _ known))

theorem updateKind_mem (first last : String) : updateKind first last ∈ updateKinds := by
  unfold updateKind
  split_ifs <;> simp [updateKinds]

theorem sound_update : stage.Lowers (update stage.source) := fun laid => by
  refine (sound_needSome _).bind fun first _ => ?_
  refine (sound_needSome _).bind fun last _ => ?_
  refine (sound_lower? laid.allLie.contents.head .plain).bind fun expression within => ?_
  exact laid.make (.cons (.option within) .nil)
    (declares_unary _ (mem_append_right _ (updateKind_mem first.type last.type)))

theorem sound_assignment : stage.Lowers (assignment stage.source) := fun laid => by
  refine sound_textOf?.bind fun operator _ => ?_
  refine .ite_bind (.pure mem_cons_self) (fun finish =>
    (sound_operatorKind assignmentOperators operator).bind fun kind known =>
      finish kind (mem_cons_of_mem _ known)) fun kind known => ?_
  refine (laid.lower "left").bind fun target within => ?_
  refine (laid.lower "right").bind fun value given => ?_
  exact laid.make (.cons (.option within) (.cons (.option given) .nil))
    (declares_assignment kind known)

theorem sound_ternary : stage.Lowers (ternary stage.source) := fun laid => by
  refine (laid.lower "condition").bind fun condition test => ?_
  refine (laid.lower "consequence").bind fun consequence yes => ?_
  refine (laid.lower "alternative").bind fun alternative no => ?_
  exact laid.make (.cons (.option test) (.cons (.option yes) (.cons (.option no) .nil))) rfl

/-! ### Casts and patterns -/

theorem sound_lowerAll_rising (lie : stage.AllLie low high parts) (apart : stage.Apart parts)
    (role : Role) :
    Sound (fun items => stage.AllWithinOptions low high items ∧ stage.Rising items)
      (lowerAll role parts) := by
  refine (forall₂_each fun part member => (lie part member).placed.note role).imp
    fun items pairs => ⟨fun item member t found => ?_, ?_⟩
  · obtain ⟨part, listed, spanned⟩ := exists_of_forall₂ pairs member
    exact (lie part listed).within (spanned t found)
  · refine pairwise_of_forall₂ pairs apart ?_
    intro a b first second before spanned also x here y there
    exact ((spanned x here).mono (.refl _) (placeOf_mono before)).rises (also y there)

/-- An intersection of types spans from the first type to the last. -/
theorem sound_castType {types : List (Option Tree)} (start : stage.Le 0 low)
    (within : stage.AllWithinOptions low high types) (rising : stage.Rising types) :
    Sound (stage.WithinOption low high) (castType types) := by
  unfold castType
  split
  next type => exact .pure (within type mem_cons_self)
  next =>
    refine (sound_needSome _).bind fun first isFirst => ?_
    refine (sound_need first).bind fun begin found => ?_
    refine (sound_needSome _).bind fun last isLast => ?_
    refine (sound_need last).bind fun final there => ?_
    cases found
    cases there
    have opening := within _ (mem_of_head? isFirst) begin rfl
    have closing := within _ (mem_of_getLast? isLast) final rfl
    -- No type starts before the first or ends behind the last.
    have between : stage.AllWithinOptions begin.start final.stop types := fun item member t held =>
      ⟨(within item member t held).toLowered, rising.start_le isFirst item member t held,
        (within item member t held).ordered, rising.le_stop isLast item member t held⟩
    have ordered := between _ (mem_of_head? isFirst) begin rfl
    refine (sound_makeAt (start.trans opening.lower)
      (ordered.ordered.trans ordered.upper) (closing.le_length start)
      (.cons (.options between) .nil) rfl).bind fun type ⟨made, _⟩ => ?_
    exact .pure (made.mono opening.lower closing.upper).some

theorem sound_cast : stage.Lowers (cast stage.source) := fun laid => by
  have inside := laid.allLie
  refine (sound_lowerAll_rising (inside.fields "type") (laid.apart.filter _) .plain).bind
    fun types ⟨within, rising⟩ => ?_
  refine (sound_castType (placeOf_nonneg _) within rising).bind fun type typed => ?_
  refine (laid.lower "value").bind fun expression value => ?_
  exact laid.make (.cons (.option typed) (.cons (.option value) .nil)) rfl

/-- Two parts under fields that follow each other. -/
theorem Stage.Laid.precedes (laid : stage.Laid here parts) {first second : String}
    (known : (first, second) ∈ fieldOrder) :
    ∀ a ∈ ParseTree.field? parts first, ∀ b ∈ ParseTree.field? parts second,
      stage.Le a.mark.stop b.mark.start :=
  fun _ here _ there sure => (laid.arranged sure).fields _ known _
    (ParseTree.mark_mem_under? here) _ (ParseTree.mark_mem_under? there)

/-- A pattern spans from its type to its name. -/
theorem sound_bindingPattern {type name : Part} (lies : stage.Lies low high type)
    (also : stage.Lies low high name) (precedes : stage.Le type.mark.stop name.mark.start) :
    Sound (stage.Within low high) (bindingPattern stage.source type name) := by
  have before : stage.Le (stage.placeOf type.mark.stop) (stage.placeOf name.mark.stop) :=
    (placeOf_mono precedes).trans also.placed.laid.start_le_stop
  have ordered := lies.placed.laid.start_le_stop.trans before
  refine (sound_offsetAt stage _).bind fun start same => ?_
  refine (sound_offsetAt stage _).bind fun stop further => ?_
  subst same further
  refine sound_textOf.bind fun text _ => ?_
  refine (sound_noModifiers stage).bind fun flags plain => ?_
  refine (lies.placed.note .plain).bind fun bound spanned => ?_
  have typed : stage.WithinOption (stage.placeOf type.mark.start) (stage.placeOf name.mark.stop)
      bound := fun t found => (spanned t found).mono (.refl _) before
  refine (sound_makeAt (placeOf_nonneg _) ordered also.placed.laid.le_length
    (.cons (.flags (plain _ _)) (.cons (.option typed) .nil))
    rfl).bind fun binding ⟨made, _⟩ => ?_
  exact (sound_makeAt (placeOf_nonneg _) ordered also.placed.laid.le_length
    (.cons (.tree made) .nil)
    rfl).imp fun t ⟨within, _⟩ => within.mono lies.lower also.upper

theorem sound_typeTest (laid : stage.Laid here parts) :
    Sound (fun (type, pattern) => (∀ t ∈ type, stage.Over here t) ∧
      ∀ t ∈ pattern, stage.Over here t) (typeTest stage.source parts) := by
  have inside := laid.allLie
  unfold typeTest
  split
  next name type isName isType =>
    refine (sound_bindingPattern (inside.field _ type isType) (inside.field _ name isName)
      (laid.precedes (by decide) type isType name isName)).bind fun pattern within => ?_
    exact .pure ⟨withinOption_none, within.some⟩
  next =>
    split
    next pattern found =>
      refine ((inside.field _ pattern found).note .plain).bind fun pattern within => ?_
      exact .pure ⟨withinOption_none, within⟩
    next =>
      refine (laid.lower "right").bind fun type within => ?_
      exact .pure ⟨within, withinOption_none⟩

theorem sound_instanceOf : stage.Lowers (instanceOf stage.source) := fun laid => by
  refine (sound_typeTest laid).bind fun (type, pattern) ⟨typed, bound⟩ => ?_
  refine (laid.lower "left").bind fun expression within => ?_
  exact laid.make (.cons (.option within) (.cons (.option typed) (.cons (.option bound) .nil))) rfl

/-! ### Functions and objects -/

theorem sound_lambdaParameters {list : Option Part} (lies : stage.LiesOption low high list) :
    Sound (stage.AllWithin low high) (lambdaParameters stage.source list) := by
  cases list with
  | none => exact .pure (forall_mem_nil _)
  | some list =>
    have own := lies list rfl
    have inside := own.children.contents
    rw [lambdaParameters]
    split
    · refine (sound_implicitParameter own.placed).bind fun parameter spanned => .pure ?_
      exact forall_mem_singleton.2 (own.within spanned)
    · split
      · exact inside.each fun part _ => sound_implicitParameter
      · exact (inside.filter _).each fun part _ => sound_parameter

theorem sound_lambda : stage.Lowers (lambda stage.source) := fun laid => by
  have inside := laid.allLie
  refine (sound_lambdaParameters (inside.field "parameters")).bind fun parameters within => ?_
  refine (sound_need _).bind fun body found => ?_
  refine ((inside.field "body" body found).note .plain).bind fun lowered given => ?_
  exact laid.make (.cons (.trees within) (.cons (.option given) .nil)) rfl

/-- A selection spans from its target to the name. -/
theorem sound_selected {target : Part} {name : Option Part} (lies : stage.Lies low high target)
    (named : stage.LiesOption low high name)
    (precedes : ∀ p ∈ name, stage.Le target.mark.stop p.mark.start) :
    Sound (fun t => stage.Within low high t ∧
      ∃ p ∈ name, t.stop = stage.placeOf p.mark.stop) (selected stage.source target name) := by
  refine (sound_offsetAt stage _).bind fun start same => ?_
  refine (sound_need name).bind fun name found => ?_
  have also := named name found
  have before : stage.Le (stage.placeOf target.mark.stop) (stage.placeOf name.mark.stop) :=
    (placeOf_mono (precedes name found)).trans also.placed.laid.start_le_stop
  refine (sound_offsetAt stage _).bind fun stop further => ?_
  subst same further
  refine sound_textOf.bind fun text _ => ?_
  refine (lies.placed.note .plain).bind fun expression spanned => ?_
  have inside : stage.WithinOption (stage.placeOf target.mark.start)
      (stage.placeOf name.mark.stop) expression :=
    fun t found => (spanned t found).mono (.refl _) before
  refine (sound_makeAt (placeOf_nonneg _)
    (lies.placed.laid.start_le_stop.trans before) also.placed.laid.le_length
    (.cons (.option inside) .nil) rfl).imp fun t ⟨made, same⟩ => ?_
  exact ⟨made.mono lies.lower also.upper, name, found, (Tree.face_eq_iff.1 same).2.2⟩

theorem sound_invocation (laid : stage.Laid here parts) :
    Sound (stage.Over here) (invocation stage.source here parts) := by
  have inside := laid.allLie
  have finish : ∀ method, stage.Over here method → Sound (stage.Over here) (do
      let typeArguments ← arguments (ParseTree.field? parts "type_arguments")
      let arguments ← arguments (ParseTree.field? parts "arguments")
      make stage.source "METHOD_INVOCATION" here []
        [("getTypeArguments", .ofOptions typeArguments), ("getMethodSelect", .tree method),
          ("getArguments", .ofOptions arguments)]) := by
    intro method named
    refine (sound_arguments (inside.field "type_arguments")).bind fun typeArguments typed => ?_
    refine (sound_arguments (inside.field "arguments")).bind fun arguments within => ?_
    exact laid.make (.cons (.options typed) (.cons (.tree named) (.cons (.options within) .nil)))
      rfl
  dsimp only [invocation]
  split
  next target found =>
    exact (sound_selected (inside.field _ target found) (inside.field "name")
      (laid.precedes (by decide) target found)).bind fun method ⟨within, _⟩ => finish method within
  next => exact (sound_neededIdentifier (inside.field "name")).bind finish

theorem sound_objectCreation : stage.Lowers (objectCreation stage.source) := fun laid => by
  have inside := laid.allLie
  refine (sound_needSome _).bind fun first found => ?_
  refine .ite_bind ((inside.head first found).note .plain)
    (fun finish => finish none withinOption_none) fun enclosing around => ?_
  refine (sound_arguments (inside.field "type_arguments")).bind fun typeArguments typed => ?_
  refine (laid.lower "type").bind fun type named => ?_
  refine (sound_arguments (inside.field "arguments")).bind fun arguments within => ?_
  refine (sound_anonymousClass? (inside.ofType "class_body")).bind fun body declared => ?_
  exact laid.make (.cons (.option around) (.cons (.options typed) (.cons (.option named)
    (.cons (.options within) (.cons (.option declared) .nil))))) rfl

/-! ### Arrays and references -/

theorem sound_elementType (parts : List Part) {element : Option Tree} (start : stage.Le 0 low)
    (within : stage.WithinOption low high element) :
    Sound (stage.WithinOption low high) (elementType parts element) := by
  unfold elementType
  split
  next => exact .pure within
  next count _ =>
    refine (sound_need element).bind fun element found => ?_
    have own := within element found
    have exactly : stage.Within low element.stop element :=
      ⟨own.toLowered, own.lower, own.ordered, .refl _⟩
    refine (sound_arrayOf (count + 1) start exactly (own.le_length start)).bind
      fun type ⟨made, _⟩ => ?_
    exact .pure (made.mono (.refl _) own.upper).some

theorem sound_arrayCreation (laid : stage.Laid here parts) :
    Sound (stage.Over here) (arrayCreation stage.source here parts) := by
  have inside := laid.allLie
  have sized := (inside.fields "dimensions").filter (·.type = "dimensions_expr")
  refine (laid.lower "type").bind fun element within => ?_
  refine (sound_elementType parts (placeOf_nonneg _) within).bind fun type typed => ?_
  refine (Traced.Ends.each fun part member =>
    sound_lower? (sized part member).children.contents.head .plain).bind
      fun dimensions lengths => ?_
  refine (sound_lowerAll (inside.field "value").parts.contents .plain).bind fun values given => ?_
  exact laid.make (.cons (.option typed) (.cons (.options lengths) (.cons (.options given) .nil)))
    rfl

theorem sound_arrayInitializer : stage.Lowers (arrayInitializer stage.source) := fun laid => by
  refine (sound_lowerAll laid.allLie.contents .plain).bind fun values within => ?_
  exact laid.make (.cons (.options within) .nil) rfl

theorem sound_arrayAccess : stage.Lowers (arrayAccess stage.source) := fun laid => by
  refine (laid.lower "array").bind fun array within => ?_
  refine (laid.lower "index").bind fun index given => ?_
  exact laid.make (.cons (.option within) (.cons (.option given) .nil)) rfl

theorem sound_referenceName (source : Source) (parts : List Part) :
    Sound (fun _ => True) (referenceName source parts) := by
  unfold referenceName
  split
  · exact .pure trivial
  · split
    · exact sound_textOf
    · exact .pure trivial

theorem sound_methodReference (laid : stage.Laid here parts) :
    Sound (stage.Over here) (methodReference stage.source here parts) := by
  refine (sound_referenceName stage.source parts).bind fun name _ => ?_
  refine (sound_lower? laid.allLie.contents.head .plain).bind fun qualifier within => ?_
  refine (sound_arguments (laid.allLie.ofType "type_arguments")).bind fun typeArguments typed => ?_
  exact laid.make (.cons (.option within) (.cons (.options typed) .nil)) rfl

end SyntaxGraph.Java
