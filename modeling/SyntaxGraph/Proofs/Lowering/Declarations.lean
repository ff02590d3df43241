import SyntaxGraph.Java.Lowering.Declarations
import SyntaxGraph.Proofs.Lowering.Basic

/-!
# Types and declarations are lowered soundly
-/
namespace SyntaxGraph.Java

open List Stage
open ParseTree (field? fields mark_mem_find?_contents mark_mem_ofType? mark_mem_under? ofType?)

variable {stage : Stage} {low high : Int} {here : Mark} {parts : List Part}
  {part declaration : Part}

/-! ### Types and names -/

theorem sound_select (laid : stage.Laid here parts) {target : Option Part}
    (lies : stage.LiesOption (stage.placeOf here.start) (stage.placeOf here.stop) target)
    (name : String) : Sound (stage.Over here) (select stage.source here target name) := by
  refine (sound_lower? lies .plain).bind fun expression within => ?_
  exact laid.make (.cons (.option within) .nil) rfl

theorem sound_scopedName : stage.Lowers (scopedName stage.source) := fun laid => by
  refine sound_textOf?.bind fun name _ => ?_
  exact sound_select laid (laid.allLie.field "scope") name

theorem sound_scopedType : stage.Lowers (scopedType stage.source) := fun laid => by
  have named := laid.allLie.contents.filter (!isAnnotationPart ·)
  refine (sound_needSome _).bind fun first isFirst => ?_
  refine (sound_needSome _).bind fun last _ => ?_
  refine sound_textOf.bind fun name _ => ?_
  exact sound_select laid (named.head first isFirst).some name

theorem sound_fieldAccess : stage.Lowers (fieldAccess stage.source) := fun laid => by
  refine sound_textOf?.bind fun name _ => ?_
  exact sound_select laid (laid.allLie.field "object") name

theorem sound_classLiteral : stage.Lowers (classLiteral stage.source) := fun laid =>
  sound_select laid laid.allLie.contents.head "class"

theorem sound_primitiveType (laid : stage.Laid here parts) :
    Sound (stage.Over here) (primitiveType stage.source here) := by
  refine sound_textOf.bind fun text _ => ?_
  exact laid.makeBare rfl

theorem sound_arrayType (laid : stage.Laid here parts) (array : here.type = "array_type") :
    Sound (fun item => ∀ t ∈ item, stage.Over here t) (arrayType stage.source parts) := by
  have typed := laid.allLie.field "element"
  refine (sound_lower?_over typed .plain).bind fun element spanned => ?_
  refine (sound_wrapDimensions (placeOf_nonneg _) spanned typed
    (laid.allLie.field "dimensions") fun p here d there => ?_).imp fun _ wrapped => wrapped.1
  -- The element of an array type comes before its dimensions.
  exact fun sure => (laid.arranged sure).element array _ (mark_mem_under? here) _
    (mark_mem_under? there)

theorem sound_genericType : stage.Lowers (genericType stage.source) := fun laid => by
  refine (sound_lower? laid.allLie.contents.head .plain).bind fun type typed => ?_
  refine (sound_lowerAll (laid.allLie.ofType "type_arguments").parts.contents .plain).bind
    fun arguments within => ?_
  exact laid.make (.cons (.option typed) (.cons (.options within) .nil)) rfl

theorem wildcardKind_mem (parts : List Part) :
    wildcardKind parts ∈ ["UNBOUNDED_WILDCARD", "EXTENDS_WILDCARD", "SUPER_WILDCARD"] := by
  -- The last bound that was met decides, and every bound leads to one of the kinds.
  refine List.foldlRecOn parts _ (by simp) fun kind known part _ => ?_
  split
  · simp
  · split
    · simp
    · exact known

theorem sound_wildcard (laid : stage.Laid here parts) :
    Sound (stage.Over here) (wildcard stage.source here parts) := by
  refine .ite_bind (.pure withinOption_none)
    (sound_lower? (laid.allLie.contents.filter _).last .plain).bind fun bound within => ?_
  exact laid.make (.cons (.option within) .nil) (declares_wildcard _ (wildcardKind_mem parts))

theorem sound_annotatedType : stage.Lowers (annotatedType stage.source) := fun laid => by
  refine (sound_lowerAll (laid.allLie.contents.filter isAnnotationPart) .plain).bind
    fun annotations within => ?_
  refine (sound_lower? (laid.allLie.contents.filter (!isAnnotationPart ·)).head .plain).bind
    fun underlying typed => ?_
  exact laid.make (.cons (.options within) (.cons (.option typed) .nil)) rfl

theorem sound_typeList {clause : Part} (lies : stage.Lies low high clause) :
    Sound (stage.AllWithinOptions low high) (typeList clause) := by
  unfold typeList
  split
  next types found =>
    exact sound_lowerAll (lies.children.ofType _ types found).children.contents .plain
  next => exact sound_lowerAll lies.children.contents .plain

/-! ### Modifiers and annotations -/

theorem sound_modifiers
    (lies : stage.LiesOption low high (ofType? parts "modifiers")) :
    Sound (stage.Flags low high) (modifiers stage.source parts) := by
  unfold modifiers
  split
  -- Without a list of modifiers the node stands for no text, so it lies anywhere.
  · exact (sound_noModifiers stage).imp fun _ flags => flags _ _
  next list found =>
    have own := lies list found
    have laid := own.placed.laid
    refine (sound_lowerAll (laid.allLie.contents.filter isAnnotationPart) .plain).bind
      fun annotations within => ?_
    refine (Traced.Ends.each fun part _ => sound_textOf).bind fun flags _ => ?_
    exact (laid.make (.cons (.options within) .nil)
      rfl).imp fun _ spanned => (own.within spanned).flags

theorem sound_annotationArgument {argument : Part} (lies : stage.Lies low high argument) :
    Sound (stage.WithinOption low high) (annotationArgument stage.source argument) := by
  have laid := lies.placed.laid
  unfold annotationArgument
  split
  · refine (sound_neededIdentifier (laid.allLie.field "key")).bind fun key named => ?_
    refine (sound_lower? (laid.allLie.field "value") .elementValue).bind fun value within => ?_
    refine (laid.make (.cons (.tree named) (.cons (.option within) .nil))
      rfl).bind fun assignment spanned => ?_
    exact .pure (lies.within spanned).some
  · exact lies.note .elementValue

theorem sound_annotationUse : stage.Lowers (annotationUse stage.source) := fun laid => by
  have listed := (laid.allLie.field "arguments").parts.contents
  refine (Traced.Ends.each fun part member => sound_annotationArgument (listed part member)).bind
    fun arguments within => ?_
  refine (laid.lower "name").bind fun type typed => ?_
  exact laid.make (.cons (.option typed) (.cons (.options within) .nil)) rfl

theorem sound_elementValueArray : stage.Lowers (elementValueArray stage.source) := fun laid => by
  refine (sound_lowerAll laid.allLie.contents .elementValue).bind fun values within => ?_
  exact laid.make (.cons (.options within) .nil) rfl

/-! ### Parameters -/

theorem sound_typeParameter {parameter : Part} (placed : stage.PlacedPart parameter) :
    Sound (stage.Over parameter.mark) (typeParameter stage.source parameter) := by
  have inside := placed.laid.allLie
  refine (sound_lowerAll (inside.contents.filter isAnnotationPart) .plain).bind
    fun annotations within => ?_
  refine sound_textOf?.bind fun name _ => ?_
  refine (sound_lowerAll (inside.ofType "type_bound").parts.contents .plain).bind
    fun bounds typed => ?_
  exact placed.laid.make (.cons (.options within) (.cons (.options typed) .nil)) rfl

theorem sound_typeParameters (lie : stage.AllLie low high parts) :
    Sound (stage.AllWithin low high) (typeParameters stage.source parts) := by
  have list := (lie.field "type_parameters").or (lie.ofType "type_parameters")
  exact (list.parts.contents.filter _).each fun part _ => sound_typeParameter

theorem typeMark_eq_under? (plain : here.type ≠ "spread_parameter") (children : List Mark) :
    typeMark here children = Mark.under? children "type" :=
  if_neg plain

theorem Stage.Laid.type_precedes_dimensions (laid : stage.Laid here parts)
    (plain : here.type ≠ "spread_parameter") :
    ∀ type ∈ field? parts "type", ∀ dimensions ∈ field? parts "dimensions",
      stage.Le type.mark.stop dimensions.mark.start := by
  intro type found dimensions behind sure
  have precedes := (laid.arranged sure).type.2.1
  rw [typeMark_eq_under? plain] at precedes
  exact precedes _ (mark_mem_under? found) _ (mark_mem_under? behind)

theorem sound_spreadParameter {parameter : Part} (placed : stage.PlacedPart parameter)
    (spread : parameter.mark.type = "spread_parameter") :
    Sound (stage.Over parameter.mark) (spreadParameter stage.source parameter) := by
  have laid := placed.laid
  have inside := laid.allLie
  -- What follows is the same for every type, and also without one.
  have finish : ∀ type, (∀ t ∈ type, stage.Over parameter.mark t) →
      Sound (stage.Over parameter.mark) (do
        let name ← textOf? stage.source (field?
          (ParseTree.parts (ofType? parameter.children "variable_declarator")) "name")
        let flags ← modifiers stage.source parameter.children
        make stage.source "VARIABLE" parameter.mark [("name", .str name), ("varargs", .bool true)]
          [("getModifiers", .tree flags), ("getType", .ofOption type)]) := by
    intro type typed
    refine sound_textOf?.bind fun name _ => ?_
    refine (sound_modifiers (inside.ofType _)).bind fun flags plain => ?_
    exact laid.make (.cons (.flags plain) (.cons (.option typed) .nil)) rfl
  refine (sound_lower?_over (inside.contents.find _) .plain).bind fun element spanned => ?_
  cases element with
  | none => exact finish none withinOption_none
  | some element =>
    obtain ⟨type, found, lies⟩ := spanned element rfl
    have own := inside.contents.find _ type found
    dsimp only
    split
    next dots behind =>
      -- The dots follow the type and end the array type.
      have after := inside.ofType _ dots behind
      have precedes : stage.Le type.mark.stop dots.mark.start := fun sure => by
        have arranged := (laid.arranged sure).type.2.2.1
        rw [typeMark, if_pos spread] at arranged
        exact arranged _ (mark_mem_find?_contents found) _ (mark_mem_ofType? behind)
      refine (sound_offsetAt stage _).bind fun stop same => ?_
      subst same
      have before := lies.mono own.lower
        ((placeOf_mono precedes).trans after.placed.laid.start_le_stop)
      refine (sound_arrayAround (placeOf_nonneg _) before after.placed.laid.le_length).bind
        fun array around => finish _ ?_
      exact (around.1.mono (.refl _) after.upper).some
    next =>
      have within := own.within lies
      -- Without dots the array type ends with its element, which then need not precede anything.
      have exactly : stage.Within _ element.stop element :=
        ⟨within.toLowered, within.lower, within.ordered, .refl _⟩
      refine (sound_arrayAround (placeOf_nonneg _) exactly
        (within.le_length (placeOf_nonneg _))).bind fun array around => finish _ ?_
      exact (around.1.mono (.refl _) within.upper).some

theorem sound_formalParameter {parameter : Part} (placed : stage.PlacedPart parameter)
    (plain : parameter.mark.type ≠ "spread_parameter") :
    Sound (stage.Over parameter.mark) (formalParameter stage.source parameter) := by
  have laid := placed.laid
  have inside := laid.allLie
  refine sound_textOf?.bind fun name _ => ?_
  refine (sound_modifiers (inside.ofType _)).bind fun flags unwritten => ?_
  refine (sound_lower?_over (inside.field "type") .plain).bind fun element spanned => ?_
  refine (sound_wrapDimensions (placeOf_nonneg _) spanned (inside.field "type")
    (inside.field "dimensions") (laid.type_precedes_dimensions plain)).bind
      fun type ⟨typed, _⟩ => ?_
  exact laid.make (.cons (.flags unwritten) (.cons (.option typed) .nil)) rfl

theorem sound_parameter (placed : stage.PlacedPart part) :
    Sound (stage.Over part.mark) (parameter stage.source part) := by
  unfold parameter
  split
  next spread => exact sound_spreadParameter placed spread
  next plain => exact sound_formalParameter placed plain

theorem sound_receiverParameter (placed : stage.PlacedPart part) :
    Sound (stage.Over part.mark) (receiverParameter stage.source part) := by
  have inside := placed.laid.allLie
  refine (sound_modifiers (inside.ofType _)).bind fun flags plain => ?_
  refine (sound_lower? (inside.contents.find _) .plain).bind fun type typed => ?_
  exact placed.laid.make (.cons (.flags plain) (.cons (.option typed) .nil)) rfl

theorem sound_implicitParameter (placed : stage.PlacedPart part) :
    Sound (stage.Over part.mark) (implicitParameter stage.source part) := by
  refine sound_textOf.bind fun name _ => ?_
  refine (sound_noModifiers stage).bind fun flags plain => ?_
  exact placed.laid.make (.cons (.flags (plain _ _)) .nil) rfl

/-! ### Variables -/

theorem Stage.Laid.precedes_declarator (laid : stage.Laid here parts)
    (plain : here.type ≠ "spread_parameter") {declarator : Part}
    (member : declarator ∈ fields parts "declarator") :
    (∀ list ∈ ofType? parts "modifiers", stage.Le list.mark.stop declarator.mark.start) ∧
      ∀ type ∈ field? parts "type", stage.Le type.mark.stop declarator.mark.start := by
  obtain ⟨listed, field⟩ := mem_filter.1 member
  have known : declarator.mark ∈ parts.map ParseTree.mark := mem_map_of_mem listed
  have own := of_decide_eq_true field
  refine ⟨fun list found sure => ?_, fun part found sure => ?_⟩
  · exact (laid.arranged sure).modifiers.2.2 _ known own _ (mark_mem_ofType? found) _ rfl
  -- A declaration is no spread parameter, so its type is the one under that field.
  · have type := (laid.arranged sure).type.2.2.2 _ known own
    rw [typeMark_eq_under? plain] at type
    exact type _ (mark_mem_under? found) _ rfl

/-- A variable ends where its declarator ends, behind the modifiers and the type. -/
theorem sound_variableOf (laid : stage.Laid here parts) (plain : here.type ≠ "spread_parameter")
    {declarator : Part} (member : declarator ∈ fields parts "declarator") :
    Sound (fun t => stage.Over here t ∧ t.start = stage.placeOf here.start ∧
      t.stop = stage.placeOf declarator.mark.stop)
      (variableOf stage.source here parts declarator) := by
  have inside := laid.allLie
  have own := inside.fields _ declarator member
  have declared := own.placed.laid
  obtain ⟨flagged, typed⟩ := laid.precedes_declarator plain member
  have ordered := declared.bytes_ordered
  have flagged := (inside.ofType "modifiers").before fun p found => (flagged p found).trans ordered
  have named := (inside.field "type").before fun p found => (typed p found).trans ordered
  -- The dimensions are inside the declarator, so the type comes before them too.
  have dimensioned : ∀ type ∈ field? parts "type",
      ∀ dimensions ∈ field? declarator.children "dimensions",
        stage.Le type.mark.stop dimensions.mark.start := fun type found dimensions behind =>
    (typed type found).trans fun sure => ((declared.arranged sure).inside dimensions.mark
      (mem_map_of_mem (mem_of_find?_eq_some behind))).1
  have value := declared.allLie.field "value"
  refine (sound_offsetAt stage _).bind fun start same => ?_
  refine (sound_offsetAt stage _).bind fun stop also => ?_
  subst same also
  refine sound_textOf?.bind fun name _ => ?_
  refine (sound_modifiers flagged).bind fun flags unwritten => ?_
  refine (sound_lower?_over named .plain).bind fun element spanned => ?_
  refine (sound_wrapDimensions (placeOf_nonneg _) spanned named
    (declared.allLie.field "dimensions") dimensioned).bind fun type ⟨wrapped, _⟩ => ?_
  refine (sound_lower? value .plain).bind fun value given => ?_
  have initial : stage.WithinOption (stage.placeOf here.start)
      (stage.placeOf declarator.mark.stop) value :=
    fun t found => (given t found).mono own.lower (.refl _)
  refine (sound_makeAt (placeOf_nonneg _) (own.lower.trans declared.start_le_stop)
    declared.le_length (.cons (.flags unwritten) (.cons (.option wrapped)
      (.cons (.option initial) .nil))) rfl).imp fun t ⟨made, same⟩ => ?_
  exact ⟨made.mono (.refl _) own.upper, (Tree.face_eq_iff.1 same).2⟩

theorem sound_declaredVariables (placed : stage.PlacedPart declaration)
    (plain : declaration.mark.type ≠ "spread_parameter") :
    Sound (fun trees => stage.AllWithin (stage.placeOf declaration.mark.start)
      (stage.placeOf declaration.mark.stop) trees ∧ stage.Rising (trees.map some))
      (declaredVariables stage.source declaration) := by
  have laid := placed.laid
  refine (forall₂_each fun declarator member => sound_variableOf laid plain member).imp
    fun trees pairs => ⟨fun t member => ?_, ?_⟩
  · obtain ⟨declarator, -, made⟩ := exists_of_forall₂ pairs member
    exact made.1
  -- All variables start with the declaration, and their declarators end one after the other.
  · have ordered : (fields declaration.children "declarator").Pairwise
        fun a b => stage.Le a.mark.stop b.mark.stop :=
      (laid.apart.filter _).imp_of_mem fun {a b} _ member before =>
        before.trans (laid.allLie.fields _ b member).placed.laid.bytes_ordered
    refine pairwise_map.2 (pairwise_of_forall₂ pairs ordered ?_)
    rintro first second x y before ⟨-, begins, ends⟩ ⟨-, starts, stops⟩ _ ⟨⟩ _ ⟨⟩
    rw [begins, starts, ends, stops]
    exact ⟨.refl _, placeOf_mono before⟩

/-! ### Bodies -/

theorem sound_member (placed : stage.PlacedPart part) :
    Sound (fun items => stage.AllWithinOptions (stage.placeOf part.mark.start)
      (stage.placeOf part.mark.stop) items ∧ stage.Rising items) (member stage.source part) := by
  -- A part that stands for one member gives a list of one.
  have single : ∀ role, Sound (fun items => stage.AllWithinOptions
      (stage.placeOf part.mark.start) (stage.placeOf part.mark.stop) items ∧ stage.Rising items)
      (do let item ← part.note role; return [item]) := fun role =>
    (placed.note role).bind fun item spanned =>
      .pure ⟨forall_mem_singleton.2 spanned, pairwise_singleton _ _⟩
  unfold member
  split
  next declares =>
    -- Declarations of variables are no spread parameters.
    have plain : part.mark.type ≠ "spread_parameter" := by
      have others : ∀ type ∈ variableDeclarations, type ≠ "spread_parameter" := by decide
      exact others _ (contains_iff_mem.1 declares)
    refine (sound_declaredVariables placed plain).bind fun declared ⟨within, rising⟩ => ?_
    exact .pure ⟨allWithinOptions_map within, rising⟩
  next =>
    split
    · exact single .initializer
    · exact single .statement

theorem sound_statementList (lie : stage.AllLie low high parts) (ordered : stage.Apart parts) :
    Sound (fun items => stage.AllWithinOptions low high items ∧ stage.Rising items)
      (statementList stage.source parts) := by
  induction parts generalizing low with
  | nil => exact .pure ⟨forall_mem_nil _, .nil⟩
  | cons part rest ih =>
    have own := lie part mem_cons_self
    -- Each kind of part gives some statements in its span, and then the rest is lowered.
    have finish : ∀ statements, stage.AllWithinOptions (stage.placeOf part.mark.start)
        (stage.placeOf part.mark.stop) statements ∧ stage.Rising statements →
        Sound (fun items => stage.AllWithinOptions low high items ∧ stage.Rising items) (do
          let others ← statementList stage.source rest
          return statements ++ others) := by
      intro statements ⟨within, rising⟩
      refine (ih (lie.behind ordered) (pairwise_cons.1 ordered).2).bind
        fun others ⟨behind, also⟩ => .pure ⟨?_, rising.append also within behind⟩
      refine forall_mem_append.2 ⟨fun item member t found => ?_, fun item member t found => ?_⟩
      · exact own.within (within item member t found)
      · exact (behind item member t found).mono
          (own.lower.trans own.placed.laid.start_le_stop) (.refl _)
    dsimp only [statementList]
    split
    -- An empty statement stands for itself.
    · refine (own.placed.laid.makeBare rfl).bind fun statement spanned => ?_
      exact finish _ ⟨forall_mem_singleton.2 spanned.some, pairwise_singleton _ _⟩
    · split
      -- A member is lowered as such, and anything else is passed over.
      · exact (sound_member own.placed).bind finish
      · exact finish [] ⟨forall_mem_nil _, .nil⟩

theorem sound_blockAt (laid : stage.Laid here parts) {inner : List Part}
    (lie : stage.AllLie (stage.placeOf here.start) (stage.placeOf here.stop) inner)
    (ordered : stage.Apart inner) (isStatic : Bool) :
    Sound (stage.Over here) (blockAt stage.source here isStatic inner) := by
  refine (sound_statementList lie ordered).bind fun statements ⟨within, _⟩ => ?_
  exact laid.make (.cons (.options within) .nil) rfl

theorem sound_block (laid : stage.Laid here parts) :
    Sound (stage.Over here) (blockAt stage.source here false parts) :=
  sound_blockAt laid laid.allLie laid.apart false

theorem sound_neededBlock {block : Option Part} (lies : stage.LiesOption low high block) :
    Sound (stage.Within low high) (neededBlock stage.source block) := by
  refine (sound_need block).bind fun block found => ?_
  exact (sound_block (lies block found).placed.laid).imp fun _ => (lies block found).within

theorem sound_block? {block : Option Part} (lies : stage.LiesOption low high block) :
    Sound (stage.WithinOption low high) (block? stage.source block) := by
  cases block with
  | none => exact .pure withinOption_none
  | some block =>
    refine (sound_block (lies block rfl).placed.laid).bind fun made spanned => ?_
    exact .pure ((lies block rfl).within spanned).some

theorem sound_staticInitializer : stage.Lowers (staticInitializer stage.source) := fun laid => by
  refine (sound_need _).bind fun block found => ?_
  have own := laid.allLie.ofType _ block found
  exact sound_blockAt laid own.children own.placed.laid.apart true

mutual

theorem allLie_bodyParts (parts : List Part) (lie : stage.AllLie low high parts) :
    stage.AllLie low high (bodyParts parts) := by
  match parts with
  | [] => exact lie
  | part :: rest =>
    obtain ⟨first, later⟩ := forall_mem_cons.1 lie
    intro opened member
    rw [bodyParts, mem_append] at member
    rcases member with here | there
    · split at here
      -- A part of a body is opened in turn if it holds further declarations.
      · exact allLie_openedPart part first opened here
      · cases here
    · exact allLie_bodyParts rest later opened there

theorem allLie_openedPart (part : Part) (lies : stage.Lies low high part) :
    stage.AllLie low high (openedPart part) := by
  match part with
  | .node mark note children =>
    rw [openedPart]
    split
    · exact allLie_bodyParts children lies.children
    · intro other member
      exact mem_singleton.1 member ▸ lies

end

theorem sound_bodyMember (lies : stage.Lies low high part) :
    Sound (stage.AllWithinOptions low high) (bodyMember stage.source part) := by
  unfold bodyMember
  split
  · exact (lies.note .enumConstant).bind fun constant within =>
      .pure (forall_mem_singleton.2 within)
  · exact (sound_member lies.placed).imp fun items ⟨spanned, _⟩ item member t found =>
      lies.within (spanned item member t found)

theorem sound_classBody (lie : stage.AllLie low high parts) :
    Sound (stage.AllWithinOptions low high) (classBody stage.source parts) := by
  have opened := allLie_bodyParts parts lie
  refine (Traced.Ends.each fun part member => sound_bodyMember (opened part member)).bind
    fun members within => .pure (forall_mem_flatten.2 within)

theorem sound_anonymousClass {body : Part} (placed : stage.PlacedPart body) :
    Sound (stage.Over body.mark) (anonymousClass stage.source body) := by
  refine (sound_noModifiers stage).bind fun flags plain => ?_
  refine (sound_classBody placed.laid.allLie).bind fun members within => ?_
  exact placed.laid.make (.cons (.flags (plain _ _)) (.cons (.options within) .nil)) rfl

theorem sound_anonymousClass? {body : Option Part} (lies : stage.LiesOption low high body) :
    Sound (stage.WithinOption low high) (anonymousClass? stage.source body) := by
  cases body with
  | none => exact .pure withinOption_none
  | some body =>
    refine (sound_anonymousClass (lies body rfl).placed).bind fun made spanned => ?_
    exact .pure ((lies body rfl).within spanned).some

theorem sound_arguments {list : Option Part} (lies : stage.LiesOption low high list) :
    Sound (stage.AllWithinOptions low high) (arguments list) :=
  sound_lowerAll lies.parts.contents .plain

/-! ### Declarations -/

theorem sound_enumConstant : stage.Lowers (enumConstant stage.source) := fun laid => by
  have inside := laid.allLie
  refine (sound_arguments (inside.field "arguments")).bind fun arguments given => ?_
  refine (sound_anonymousClass? (inside.field "body")).bind fun body declared => ?_
  refine (laid.make (.cons (.options given) (.cons (.option declared) .nil))
    rfl).bind fun value made => ?_
  refine sound_textOf?.bind fun name _ => ?_
  refine (sound_modifiers (inside.ofType _)).bind fun flags plain => ?_
  exact laid.make (.cons (.flags plain) (.cons (.tree made) .nil)) rfl

theorem sound_interfaceTypes {clause : Option Part} (lies : stage.LiesOption low high clause) :
    Sound (stage.AllWithinOptions low high) (interfaceTypes clause) := by
  cases clause with
  | none => exact .pure (forall_mem_nil _)
  | some clause => exact sound_typeList (lies clause rfl)

theorem Stage.Within.withAttribute {t : Tree} (within : stage.Within low high t) {name : String}
    (other : name ∉ ["name", "value"]) (value : Json) :
    stage.Within low high (t.withAttribute name value) := by
  have lowered := within.plain.withAttribute other value
  obtain ⟨head, shape, entries⟩ := t
  refine ⟨⟨lowered, fun sure => ?_⟩, within.lower, within.ordered, within.upper⟩
  -- Spans and what is held are read from elsewhere in the node.
  obtain ⟨here, below⟩ := forall_mem_cons.1 (within.nests sure)
  refine forall_mem_cons.2 ⟨⟨?_, here.encloses⟩, below⟩
  exact here.span.imp (fun ⟨kind, start, stop, held⟩ => ⟨kind, start, stop, held⟩) id

theorem sound_recordComponents (lie : stage.AllLie low high parts) :
    Sound (stage.AllWithin low high) (recordComponents stage.source parts) := by
  have listed := (lie.field "parameters").parts.contents.filter isParameter
  refine (listed.each fun part _ => sound_parameter).bind fun components within => .pure ?_
  exact forall_mem_map.2 fun t member => (within t member).withAttribute (by decide) _

theorem sound_typeDeclaration {kind : String} (known : kind ∈ classKinds)
    (laid : stage.Laid here parts) :
    Sound (stage.Over here) (typeDeclaration stage.source kind here parts) := by
  have inside := laid.allLie
  -- What follows is the same with and without a superclass.
  have finish : ∀ extended, (∀ t ∈ extended, stage.Over here t) → Sound (stage.Over here) (do
      let implemented ← interfaceTypes (field? parts "interfaces")
      let inherited ← interfaceTypes (ofType? parts "extends_interfaces")
      let components ← if kind = "RECORD" then recordComponents stage.source parts else pure []
      let members ← classBody stage.source (ParseTree.parts (field? parts "body"))
      let name ← textOf? stage.source (field? parts "name")
      let flags ← modifiers stage.source parts
      let parameters ← typeParameters stage.source parts
      make stage.source kind here [("name", .str name)]
        [("getModifiers", .tree flags), ("getTypeParameters", .ofTrees parameters),
          ("getExtendsClause", .ofOption extended),
          ("getImplementsClause", .ofOptions (implemented ++ inherited)),
          ("getMembers", .ofOptions (components.map some ++ members))]) := by
    intro extended upper
    refine (sound_interfaceTypes (inside.field "interfaces")).bind fun implemented lower => ?_
    refine (sound_interfaceTypes (inside.ofType _)).bind fun inherited further => ?_
    refine .ite_bind (sound_recordComponents inside)
      (fun finish => finish [] (forall_mem_nil _)) fun components own => ?_
    refine (sound_classBody (inside.field "body").parts).bind fun members within => ?_
    refine sound_textOf?.bind fun name _ => ?_
    refine (sound_modifiers (inside.ofType _)).bind fun flags plain => ?_
    refine (sound_typeParameters inside).bind fun parameters typed => ?_
    have listed := forall_mem_append.2 ⟨allWithinOptions_map own, within⟩
    exact laid.make (.cons (.flags plain) (.cons (.trees typed) (.cons (.option upper)
      (.cons (.options (forall_mem_append.2 ⟨lower, further⟩))
        (.cons (.options listed) .nil))))) (declares_typeDeclaration kind known)
  dsimp only [typeDeclaration]
  split
  · exact finish none withinOption_none
  next superclass found =>
    have own := (inside.field _ superclass found).children.contents
    exact (sound_lower? own.head .plain).bind finish

theorem sound_parameterList (lie : stage.AllLie low high parts) :
    Sound (fun (receiver, parameters) => stage.WithinOption low high receiver ∧
      stage.AllWithin low high parameters) (parameterList stage.source parts) := by
  induction parts with
  | nil => exact .pure ⟨withinOption_none, forall_mem_nil _⟩
  | cons part rest ih =>
    obtain ⟨first, later⟩ := forall_mem_cons.1 lie
    unfold parameterList
    split
    · refine (sound_receiverParameter first.placed).bind fun receiver spanned => ?_
      refine (ih later).bind fun (others, parameters) ⟨further, listed⟩ => .pure ⟨?_, listed⟩
      intro t found
      -- A receiver that comes later counts.
      rcases Option.or_eq_some_iff.1 found with behind | ⟨-, here⟩
      · exact further t behind
      · exact Option.some.inj here ▸ first.within spanned
    · split
      · refine (sound_parameter first.placed).bind fun parameter spanned => ?_
        refine (ih later).bind fun (receiver, parameters) ⟨further, listed⟩ => .pure ⟨further, ?_⟩
        exact forall_mem_cons.2 ⟨first.within spanned, listed⟩
      · exact ih later

theorem sound_methodDeclaration (form : MethodForm) (laid : stage.Laid here parts)
    (plain : here.type ≠ "spread_parameter") :
    Sound (stage.Over here) (methodDeclaration stage.source form here parts) := by
  have inside := laid.allLie
  -- Constructors have no type to return.
  refine .ite_bind (.pure withinOption_none) (fun finish =>
    (sound_lower?_over (inside.field "type") .plain).bind fun type spanned =>
      (sound_wrapDimensions (placeOf_nonneg _) spanned (inside.field "type")
        (inside.field "dimensions") (laid.type_precedes_dimensions plain)).bind
          fun returned ⟨typed, _⟩ => finish returned typed) fun returned typed => ?_
  refine (sound_parameterList (inside.field "parameters").parts.contents).bind
    fun (receiver, parameters) ⟨own, listed⟩ => ?_
  -- Only elements of annotations have a default value.
  refine .ite_bind (sound_lower? (inside.field "value") .elementValue)
    (fun finish => finish none withinOption_none) fun default given => ?_
  refine .ite_bind (.pure trivial) sound_textOf?.bind fun name _ => ?_
  refine (sound_modifiers (inside.ofType _)).bind fun flags unwritten => ?_
  refine (sound_typeParameters inside).bind fun typeParameters generic => ?_
  refine (sound_lowerAll (inside.ofType "throws").parts.contents .plain).bind
    fun thrown faults => ?_
  refine (sound_block? (inside.field "body")).bind fun body block => ?_
  exact laid.make (.cons (.flags unwritten) (.cons (.trees generic) (.cons (.option typed)
    (.cons (.option own) (.cons (.trees listed) (.cons (.options faults) (.cons (.option block)
      (.cons (.option given) .nil)))))))) declares_method

theorem sound_packageDeclaration (placed : stage.PlacedPart declaration) :
    Sound (stage.Over declaration.mark) (packageDeclaration stage.source declaration) := by
  have named := placed.laid.allLie.contents
  refine (sound_lowerAll (named.filter isAnnotationPart) .plain).bind fun annotations within => ?_
  refine (sound_lower? (named.filter (!isAnnotationPart ·)).head .plain).bind
    fun name qualified => ?_
  exact placed.laid.make (.cons (.options within) (.cons (.option qualified) .nil)) rfl

theorem sound_importDeclaration (placed : stage.PlacedPart declaration)
    (imports : declaration.mark.type = "import_declaration") :
    Sound (stage.Over declaration.mark) (importDeclaration stage.source declaration) := by
  have laid := placed.laid
  have inside := laid.allLie
  -- With or without an asterisk, the import is made over the whole declaration.
  have finish : ∀ imported, (∀ t ∈ imported, stage.Over declaration.mark t) →
      Sound (stage.Over declaration.mark) (make stage.source "IMPORT" declaration.mark
        [("static", .bool (declaration.children.any (·.type = "static")))]
        [("getQualifiedIdentifier", .ofOption imported)]) := fun imported within =>
    laid.make (.cons (.option within) .nil) rfl
  have named := (inside.contents.filter (·.type ≠ "asterisk")).head
  refine (sound_lower?_over named .plain).bind fun qualified spanned => ?_
  split
  next asterisk package behind =>
    obtain ⟨name, found, lies⟩ := spanned package rfl
    have own := named name found
    have after := inside.ofType _ asterisk behind
    have precedes : stage.Le name.mark.stop asterisk.mark.start := fun sure => by
      rw [head?_filter] at found
      exact (laid.arranged sure).imported imports _ (mark_mem_find?_contents found) _
        (mark_mem_ofType? behind)
    refine (sound_offsetAt stage _).bind fun stop same => ?_
    subst same
    -- The name starts the import on demand, whose asterisk follows and ends it.
    have before : stage.Within package.start (stage.placeOf asterisk.mark.stop) package :=
      ⟨lies.toLowered, .refl _, lies.ordered,
        (lies.upper.trans (placeOf_mono precedes)).trans after.placed.laid.start_le_stop⟩
    refine (sound_makeAt ((placeOf_nonneg _).trans lies.lower)
      (before.ordered.trans before.upper) after.placed.laid.le_length
      (.cons (.tree before) .nil) rfl).bind fun all ⟨made, _⟩ => ?_
    exact finish _ (made.mono (own.lower.trans lies.lower) after.upper).some
  next => exact finish _ fun t found =>
    let ⟨name, here, lies⟩ := spanned t found
    (named name here).within lies

end SyntaxGraph.Java
