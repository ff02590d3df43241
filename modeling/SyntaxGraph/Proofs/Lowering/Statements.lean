import SyntaxGraph.Java.Lowering.Statements
import SyntaxGraph.Proofs.Lowering.Expressions

/-!
# Statements are lowered soundly
-/
namespace SyntaxGraph.Java

open List Stage
open ParseTree (contents field? mark_mem_ofType? mark_mem_under? ofType?)

variable {stage : Stage} {low high : Int} {here : Mark} {parts : List Part} {kind : String}
  {part : Part}

/-! ### Simple statements -/

theorem sound_expressionOnly {slot : String} (declared : declares kind [(slot, false)])
    (laid : stage.Laid here parts) :
    Sound (stage.Over here) (expressionOnly stage.source kind slot here parts) := by
  refine (sound_lower? laid.allLie.contents.head .plain).bind fun expression within => ?_
  exact laid.make (.cons (.option within) .nil) declared

theorem sound_wrapped (placed : stage.PlacedPart part) :
    Sound (stage.Over part.mark) (wrapped stage.source part) := by
  refine (placed.note .plain).bind fun expression within => ?_
  exact placed.laid.make (.cons (.option within) .nil) rfl

/-- A call that ends at some offset may hold whatever lies before that offset. -/
theorem sound_callBetween (laid : stage.Laid here parts) {method : Tree} {stop : Int}
    (ordered : stage.Le (stage.placeOf here.start) stop)
    (bounded : stage.Le stop (stage.placeOf here.stop))
    (named : stage.Within (stage.placeOf here.start) stop method)
    (typeListed : stage.LiesOption (stage.placeOf here.start) stop (field? parts "type_arguments"))
    (listed : stage.LiesOption (stage.placeOf here.start) stop (field? parts "arguments")) :
    Sound (stage.Over here)
      (callBetween stage.source here parts method (stage.placeOf here.start) stop) := by
  refine (sound_arguments typeListed).bind fun typeArguments typed => ?_
  refine (sound_arguments listed).bind fun arguments within => ?_
  refine (sound_makeAt (placeOf_nonneg _) ordered
    (bounded.trans laid.le_length) (.cons (.options typed)
      (.cons (.tree named) (.cons (.options within) .nil)))
      rfl).bind fun call ⟨made, _⟩ => ?_
  exact laid.make (.cons (.tree (made.mono (.refl _) bounded)) .nil) rfl

/-- A call that ends with its arguments: what is called ends with the constructor, before them. -/
theorem sound_callWith (laid : stage.Laid here parts) {method : Tree} {constructor list : Part}
    (found : constructor ∈ field? parts "constructor")
    (behind : list ∈ field? parts "arguments") (named : stage.Over here method)
    (stops : stage.Le method.stop (stage.placeOf constructor.mark.stop)) :
    Sound (stage.Over here) (do
      let stop ← stopOf stage.source list.mark
      callBetween stage.source here parts method (stage.placeOf here.start) stop) := by
  have inside := laid.allLie
  have own := inside.field _ list behind
  have ordered := own.placed.laid.bytes_ordered
  have before : stage.Le constructor.mark.stop list.mark.stop :=
    (laid.precedes (by decide) _ found _ behind).trans ordered
  refine (sound_offsetAt stage _).bind fun stop same => ?_
  subst same
  refine sound_callBetween laid (own.lower.trans own.placed.laid.start_le_stop) own.upper
    ⟨named.toLowered, named.lower, named.ordered, stops.trans (placeOf_mono before)⟩ ?_ ?_
  · exact (inside.field "type_arguments").before fun p here =>
      (laid.precedes (by decide) p here _ behind).trans ordered
  · rw [show field? parts "arguments" = some list from behind]
    exact (own.placed.lies.mono own.lower (.refl _)).some

theorem sound_constructorCall : stage.Lowers (constructorCall stage.source) := fun laid => by
  have inside := laid.allLie
  refine (sound_need _).bind fun constructor found => ?_
  have own := inside.field _ constructor found
  refine (sound_identifier own.placed.laid).bind fun plain named => ?_
  split
  -- Without an object the constructor itself is called.
  next =>
    refine (sound_offsetAt stage _).bind fun start same => ?_
    subst same
    split
    next list behind => exact sound_callWith laid found behind (own.within named) named.upper
    next =>
      refine (sound_offsetAt stage _).bind fun stop same => ?_
      subst same
      exact sound_callBetween laid laid.start_le_stop (.refl _) (own.within named)
        (inside.field _) (inside.field _)
  -- An object selects the constructor, which it precedes.
  next target before =>
    refine (sound_selected (inside.field _ target before) own.some fun p same => ?_).bind
      fun method ⟨within, p, same, stops⟩ => ?_
    · exact laid.precedes (by decide) target before p (Option.some.inj same ▸ found)
    · cases same
      refine (sound_offsetAt stage _).bind fun start same => ?_
      subst same
      split
      next list behind => exact sound_callWith laid found behind within (stops ▸ .refl _)
      next =>
        refine (sound_offsetAt stage _).bind fun stop same => ?_
        subst same
        exact sound_callBetween laid laid.start_le_stop (.refl _) within (inside.field _)
          (inside.field _)

/-! ### Conditions and loops -/

theorem sound_ifStatement : stage.Lowers (ifStatement stage.source) := fun laid => by
  refine (laid.lower "condition").bind fun condition test => ?_
  refine (sound_lower? (laid.allLie.field "consequence") .statement).bind fun consequence yes => ?_
  refine (sound_lower? (laid.allLie.field "alternative") .statement).bind fun alternative no => ?_
  exact laid.make (.cons (.option test) (.cons (.option yes) (.cons (.option no) .nil))) rfl

theorem sound_whileStatement : stage.Lowers (whileStatement stage.source) := fun laid => by
  refine (laid.lower "condition").bind fun condition test => ?_
  refine (sound_lower? (laid.allLie.field "body") .statement).bind fun body within => ?_
  exact laid.make (.cons (.option test) (.cons (.option within) .nil)) rfl

theorem sound_doStatement : stage.Lowers (doStatement stage.source) := fun laid => by
  refine (sound_lower? (laid.allLie.field "body") .statement).bind fun body within => ?_
  refine (laid.lower "condition").bind fun condition test => ?_
  exact laid.make (.cons (.option within) (.cons (.option test) .nil)) rfl

theorem sound_loopStart (lies : stage.Lies low high part) :
    Sound (stage.AllWithin low high) (loopStart stage.source part) := by
  unfold loopStart
  split
  next declares =>
    have plain : part.mark.type ≠ "spread_parameter" := by
      rw [show part.mark.type = _ from declares]
      decide
    exact (sound_declaredVariables lies.placed plain).imp fun trees ⟨spanned, _⟩ t member =>
      lies.within (spanned t member)
  -- An expression becomes a statement.
  next =>
    refine (sound_wrapped lies.placed).bind fun statement spanned => .pure ?_
    exact forall_mem_singleton.2 (lies.within spanned)

theorem sound_forStatement : stage.Lowers (forStatement stage.source) := fun laid => by
  have inside := laid.allLie
  refine (Traced.Ends.each fun part member =>
    sound_loopStart (inside.fields "init" part member)).bind fun starts first => ?_
  refine (laid.lower "condition").bind fun condition test => ?_
  refine ((inside.fields "update").each fun part _ => sound_wrapped).bind fun updates changed => ?_
  refine (sound_lower? (inside.field "body") .statement).bind fun body within => ?_
  exact laid.make (.cons (.trees (forall_mem_flatten.2 first)) (.cons (.option test)
    (.cons (.trees changed) (.cons (.option within) .nil)))) rfl

/-- Modifiers, type and name of the variable of a loop follow each other. -/
theorem Stage.Laid.loop_order (laid : stage.Laid here parts)
    (plain : here.type ≠ "spread_parameter") {first name : Part}
    (isFirst : first ∈ (ofType? parts "modifiers").or (field? parts "type"))
    (isName : name ∈ field? parts "name") :
    stage.Le first.mark.stop name.mark.start ∧
      (∀ list ∈ ofType? parts "modifiers",
        stage.Le first.mark.start list.mark.start ∧ stage.Le list.mark.stop name.mark.start) ∧
      ∀ type ∈ field? parts "type",
        stage.Le first.mark.start type.mark.start ∧ stage.Le type.mark.stop name.mark.start := by
  have flags : ∀ list ∈ ofType? parts "modifiers",
      stage.Le list.mark.stop name.mark.start := fun list found sure =>
    (laid.arranged sure).modifiers.2.1 _ (mark_mem_ofType? found) _ (mark_mem_under? isName)
  have typed : ∀ type ∈ field? parts "type",
      stage.Le type.mark.stop name.mark.start := fun type found sure => by
    have precedes := (laid.arranged sure).type.1
    rw [typeMark_eq_under? plain] at precedes
    exact precedes _ (mark_mem_under? found) _ (mark_mem_under? isName)
  rcases Option.or_eq_some_iff.1 isFirst with listed | ⟨missing, found⟩
  · -- The modifiers come first, and the type behind them.
    refine ⟨flags first listed, fun list found => ?_, fun type found => ⟨?_, typed type found⟩⟩
    · cases listed.symm.trans found
      exact ⟨.refl _, flags first found⟩
    · exact (laid.allLie.ofType _ first listed).placed.laid.bytes_ordered.trans fun sure =>
        (laid.arranged sure).modifiers.1 _ (mark_mem_ofType? listed) _ (mark_mem_under? found)
  -- Without modifiers the type is the first.
  · refine ⟨typed first found, fun list listed => ?_, fun type here => ?_⟩
    · cases missing.symm.trans listed
    · cases found.symm.trans here
      exact ⟨.refl _, typed first found⟩

/-- The variable of a loop ends with its name; only its type may reach further, to the end of
dimensions behind the name. -/
theorem sound_loopVariable (laid : stage.Laid here parts)
    (loop : here.type = "enhanced_for_statement") :
    Sound (stage.Over here) (loopVariable stage.source parts) := by
  have plain : here.type ≠ "spread_parameter" := by
    rw [loop]
    decide
  have inside := laid.allLie
  refine (sound_need _).bind fun first isFirst => ?_
  have opening := ((inside.ofType "modifiers").or (inside.field "type")) first isFirst
  refine (sound_offsetAt stage _).bind fun start same => ?_
  refine (sound_need _).bind fun name isName => ?_
  have closing := inside.field _ name isName
  obtain ⟨before, flagged, typed⟩ := laid.loop_order plain isFirst isName
  have ordered := closing.placed.laid.start_le_stop
  refine (sound_offsetAt stage _).bind fun stop also => ?_
  subst same also
  refine sound_textOf?.bind fun text _ => ?_
  have flagged : stage.LiesOption (stage.placeOf first.mark.start)
      (stage.placeOf name.mark.stop) (ofType? parts "modifiers") := fun list found =>
    ⟨(inside.ofType _ list found).placed, placeOf_mono (flagged list found).1,
      (placeOf_mono (flagged list found).2).trans ordered⟩
  refine (sound_modifiers flagged).bind fun flags unwritten => ?_
  have named : stage.LiesOption (stage.placeOf first.mark.start) (stage.placeOf here.stop)
      (field? parts "type") := fun type found =>
    ⟨(inside.field _ type found).placed, placeOf_mono (typed type found).1,
      (inside.field _ type found).upper⟩
  refine (sound_lower?_over named .plain).bind fun element spanned => ?_
  refine (sound_wrapDimensions (placeOf_nonneg _) spanned named (inside.field "dimensions")
    (laid.type_precedes_dimensions plain)).bind fun type ⟨wrapped, ends⟩ => ?_
  -- The type may end behind the name; then it is an array type that ends with the dimensions.
  have seated : ∀ t ∈ type, stage.Seated "VARIABLE" (stage.placeOf first.mark.start)
      (stage.placeOf name.mark.stop) t := by
    intro t found
    refine ⟨(wrapped t found).toLowered, fun sure _ => ⟨(wrapped t found).lower sure, ?_⟩⟩
    rcases ends t found with bare | ⟨kinded, dimensions, behind, stops⟩
    · obtain ⟨part, here, lies⟩ := spanned t bare
      exact .inl ((lies.upper.trans (placeOf_mono (typed part here).2)).trans ordered sure)
    · have reached := ((inside.field _ dimensions behind).placed.laid.arranged sure).bounded
      exact .inr ⟨rfl, kinded, (laid.ordered sure).loops _ _ ⟨loop, name.mark,
        mark_mem_under? isName, dimensions.mark, mark_mem_under? behind,
        placeOf_eq (closing.placed.laid.arranged sure).bounded,
        stops.trans (placeOf_eq reached)⟩⟩
  refine (sound_makeAt (placeOf_nonneg _)
    ((opening.placed.laid.start_le_stop.trans (placeOf_mono before)).trans ordered)
    closing.placed.laid.le_length
    (.cons (.flags unwritten) (.cons (.seated seated) .nil))
    rfl).imp fun t ⟨made, _⟩ => ?_
  exact made.mono opening.lower closing.upper

theorem sound_enhancedFor (laid : stage.Laid here parts)
    (loop : here.type = "enhanced_for_statement") :
    Sound (stage.Over here) (enhancedFor stage.source here parts) := by
  refine (sound_loopVariable laid loop).bind fun loopVariable declared => ?_
  refine (laid.lower "value").bind fun expression value => ?_
  refine (sound_lower? (laid.allLie.field "body") .statement).bind fun body within => ?_
  exact laid.make (.cons (.tree declared) (.cons (.option value) (.cons (.option within) .nil))) rfl

/-! ### Labels, jumps and blocks -/

theorem liesOption_behindColon (lie : stage.AllLie low high parts) :
    stage.LiesOption low high (behindColon parts) := by
  intro part found
  have kept : part ∈ (parts.dropWhile (·.type ≠ ":")).drop 1 := mem_of_find?_eq_some found
  exact lie part (dropWhile_subset _ (drop_subset 1 _ kept))

theorem sound_labeled : stage.Lowers (labeled stage.source) := fun laid => by
  refine sound_textOf?.bind fun label _ => ?_
  refine (sound_lower? (liesOption_behindColon laid.allLie) .statement).bind
    fun statement within => ?_
  exact laid.make (.cons (.option within) .nil) rfl

theorem sound_jump (declared : declaresBare kind) (laid : stage.Laid here parts) :
    Sound (stage.Over here) (jump stage.source kind here parts) := by
  unfold jump
  split
  -- Without a target nothing is read.
  · exact laid.makeBare declared
  · refine sound_textOf.bind fun text _ => ?_
    exact laid.makeBare declared

theorem sound_assertion (laid : stage.Laid here parts) :
    Sound (stage.Over here) (assertion stage.source here parts) := by
  have named := laid.allLie.contents
  refine (sound_lower? named.head .plain).bind fun condition test => ?_
  have others : stage.AllLie _ _ ((contents parts).drop 1) :=
    fun part member => named part (drop_subset 1 _ member)
  refine (sound_lower? others.head .plain).bind fun detail within => ?_
  exact laid.make (.cons (.option test) (.cons (.option within) .nil)) rfl

theorem sound_synchronized : stage.Lowers (synchronized stage.source) := fun laid => by
  refine (sound_lower? (laid.allLie.ofType _) .plain).bind fun expression within => ?_
  refine (sound_neededBlock (laid.allLie.field "body")).bind fun block made => ?_
  exact laid.make (.cons (.option within) (.cons (.tree made) .nil)) rfl

/-! ### Exceptions -/

theorem sound_resource (lies : stage.Lies low high part) :
    Sound (stage.WithinOption low high) (resource stage.source part) := by
  have laid := lies.placed.laid
  have inside := laid.allLie
  dsimp only [resource]
  split
  -- A resource without a type is a value.
  next => exact sound_lower? lies.children.contents.head .plain
  next type found =>
    refine sound_textOf?.bind fun name _ => ?_
    refine (sound_modifiers (inside.ofType _)).bind fun flags plain => ?_
    refine ((inside.field _ type found).note .plain).bind fun type typed => ?_
    refine (laid.lower "value").bind fun value given => ?_
    refine (laid.make (.cons (.flags plain) (.cons (.option typed)
      (.cons (.option given) .nil))) rfl).bind fun declared spanned => ?_
    exact .pure (lies.within spanned).some

theorem sound_caughtType {list : Option Part} (lies : stage.LiesOption low high list) :
    Sound (stage.WithinOption low high) (caughtType stage.source list) := by
  cases list with
  | none =>
    -- Without a list there are no alternatives, and the list is needed.
    exact .fail trivial
  | some list =>
    have own := lies list rfl
    have laid := own.placed.laid
    refine (sound_lowerAll laid.allLie.contents .plain).bind fun alternatives within => ?_
    split
    -- A single type stands for itself; several form a union.
    next type => exact .pure fun t found => own.within (within type mem_cons_self t found)
    next =>
      refine (laid.make (.cons (.options within) .nil) rfl).bind fun type spanned => ?_
      exact .pure (own.within spanned).some

theorem sound_handler (placed : stage.PlacedPart part) :
    Sound (stage.Over part.mark) (handler stage.source part) := by
  have inside := placed.laid.allLie
  -- The type is read before it is known that there is a parameter.
  have typed : Sound (fun type => ∀ declared ∈
        ofType? part.children "catch_formal_parameter",
        ∀ t ∈ type, stage.Over declared.mark t)
      (caughtType stage.source (ofType? (ParseTree.parts
        (ofType? part.children "catch_formal_parameter")) "catch_type")) := by
    cases found : ofType? part.children "catch_formal_parameter" with
    | none => exact .fail trivial
    | some declared =>
      have laid := (inside.ofType _ declared found).placed.laid
      refine (sound_caughtType (laid.allLie.ofType "catch_type")).imp fun type within => ?_
      rintro _ ⟨⟩
      exact within
  refine typed.bind fun type typed => ?_
  refine (sound_need _).bind fun declared found => ?_
  have own := inside.ofType _ declared found
  have laid := own.placed.laid
  refine sound_textOf?.bind fun name _ => ?_
  refine (sound_modifiers (laid.allLie.ofType _)).bind fun flags plain => ?_
  refine (laid.make (.cons (.flags plain) (.cons (.option (typed declared found)) .nil))
    rfl).bind fun caught spanned => ?_
  refine (sound_neededBlock (inside.field "body")).bind fun block made => ?_
  exact placed.laid.make (.cons (.tree (own.within spanned)) (.cons (.tree made) .nil)) rfl

theorem sound_tryStatement (laid : stage.Laid here parts) :
    Sound (stage.Over here) (tryStatement stage.source here parts) := by
  have inside := laid.allLie
  -- The statement is made alike with and without a last block.
  have finish : ∀ resources handlers final, (∀ item ∈ resources, ∀ t ∈ item, stage.Over here t) →
      (∀ t ∈ handlers, stage.Over here t) → (∀ t ∈ final, stage.Over here t) →
      Sound (stage.Over here) (do
        let block ← neededBlock stage.source (field? parts "body")
        make stage.source "TRY" here []
          [("getResources", .ofOptions resources), ("getBlock", .tree block),
            ("getCatches", .ofTrees handlers), ("getFinallyBlock", .ofOption final)]) := by
    intro resources handlers final opened caught last
    refine (sound_neededBlock (inside.field "body")).bind fun block made => ?_
    exact laid.make (.cons (.options opened) (.cons (.tree made) (.cons (.trees caught)
      (.cons (.option last) .nil)))) rfl
  have listed := (inside.field "resources").parts.contents.filter (·.type = "resource")
  have clauses := inside.contents.filter (·.type = "catch_clause")
  refine (Traced.Ends.each fun part member => sound_resource (listed part member)).bind
    fun resources opened => ?_
  refine (clauses.each fun part _ => sound_handler).bind fun handlers caught => ?_
  split
  next => exact finish resources handlers none opened caught withinOption_none
  next clause found =>
    have own := (inside.ofType _ clause found).children
    refine (sound_neededBlock (own.ofType "block")).bind fun block made => ?_
    exact finish resources handlers (some block) opened caught made.some

/-! ### Cases -/

theorem sound_caseLabel {label : Option Part} (lies : stage.LiesOption low high label) :
    Sound (fun (_, values) => stage.AllWithinOptions low high values)
      (caseLabel stage.source label) := by
  refine sound_textOf?.bind fun text _ => ?_
  split
  -- A default has no values.
  · exact .pure (forall_mem_nil _)
  · refine (sound_lowerAll lies.parts.contents .plain).bind fun values within => ?_
    exact .pure within

/-- A case spans from its label to the last of its statements, if it has some. -/
theorem sound_casesOf {statements : List (Option Tree)} {labels : List Part}
    (lie : stage.AllLie low high labels)
    (behind : ∀ label ∈ labels,
      stage.AllWithinOptions (stage.placeOf label.mark.stop) high statements ∧
        stage.Rising statements) :
    Sound (stage.AllWithin low high) (casesOf stage.source statements labels) := by
  induction labels with
  | nil => exact .pure (forall_mem_nil _)
  | cons label rest ih =>
    obtain ⟨own, later⟩ := forall_mem_cons.1 lie
    obtain ⟨⟨within, rising⟩, further⟩ := forall_mem_cons.1 behind
    have laid := own.placed.laid
    refine (sound_caseLabel own.placed.lies.some).bind fun (isDefault, values) listed => ?_
    -- A case that ends at some offset behind its label and its statements.
    have finish : ∀ mine stop, stage.Le (stage.placeOf label.mark.stop) stop →
        stage.Le stop high → stage.Le stop stage.text.length →
        stage.AllWithinOptions (stage.placeOf label.mark.stop) stop mine →
        Sound (stage.AllWithin low high) (do
          let start ← startOf stage.source label.mark
          let first ← makeAt "CASE" start stop [("default", .bool isDefault)]
            [("getExpressions", .ofOptions values), ("getStatements", .ofOptions mine)]
          let others ← casesOf stage.source statements rest
          return first :: others) := by
      intro mine stop ordered upper bounded held
      refine (sound_offsetAt stage _).bind fun start same => ?_
      subst same
      have labelled : stage.AllWithinOptions (stage.placeOf label.mark.start) stop values :=
        fun item member t found => (listed item member t found).mono (.refl _) ordered
      have held : stage.AllWithinOptions (stage.placeOf label.mark.start) stop mine :=
        fun item member t found =>
          (held item member t found).mono laid.start_le_stop (.refl _)
      refine (sound_makeAt (placeOf_nonneg _) (laid.start_le_stop.trans ordered)
        bounded (.cons (.options labelled) (.cons (.options held) .nil)) rfl).bind
          fun case ⟨made, _⟩ => ?_
      refine (ih later further).bind fun others behind => .pure ?_
      exact forall_mem_cons.2 ⟨made.mono own.lower upper, behind⟩
    -- Only the last label of a group has the statements.
    have mine : stage.AllWithinOptions (stage.placeOf label.mark.stop) high
        (if rest.isEmpty then statements else []) ∧
        stage.Rising (if rest.isEmpty then statements else []) := by
      split
      · exact ⟨within, rising⟩
      · exact ⟨forall_mem_nil _, .nil⟩
    obtain ⟨within, rising⟩ := mine
    dsimp only
    split
    -- The last statement ends the case, and the others come before its end.
    next last isLast =>
      refine (sound_need last).bind fun final found => ?_
      cases found
      have closing := within _ (mem_of_getLast? isLast) final rfl
      refine finish _ final.stop (closing.lower.trans closing.ordered) closing.upper
        (closing.le_length (placeOf_nonneg _)) fun item member t found => ?_
      have held := within item member t found
      exact ⟨held.toLowered, held.lower, held.ordered, rising.le_stop isLast item member t found⟩
    -- A case without statements ends with its label.
    next none =>
      refine (sound_offsetAt stage _).bind fun stop same => ?_
      subst same
      rw [getLast?_eq_none_iff.1 none]
      exact finish [] _ (.refl _) own.upper laid.le_length (forall_mem_nil _)

theorem sound_forall {α β : Type} {good : β → α → Prop} {run : Lower α}
    (sound : Sound (fun _ => True) run) (each : ∀ b, Sound (good b) run) :
    Sound (fun a => ∀ b, good b a) run := by
  unfold Sound Traced.Ends at sound each ⊢
  cases ended : run.result with
  | error e => simpa only [ended] using sound
  | ok a => simpa only [ended] using each

theorem statementList_filter (source : Source) (parts : List Part) :
    statementList source (parts.filter fun part => part.type = ";" || part.isContent) =
      statementList source parts := by
  induction parts with
  | nil => rfl
  | cons part rest ih =>
    by_cases counts : (part.type = ";" || part.isContent) = true
    · rw [filter_cons, if_pos counts, statementList, statementList, ih]
    -- A part that does not count adds nothing.
    · rw [filter_cons, if_neg counts, ih, statementList]
      simp only [Bool.or_eq_true, decide_eq_true_eq, not_or] at counts
      rw [if_neg counts.1, if_neg counts.2]
      exact (Traced.bind_pure _).symm

/-- The labels of a group come before its statements. -/
theorem sound_caseGroup {group : Part} (placed : stage.PlacedPart group)
    (grouped : group.mark.type = "switch_block_statement_group") :
    Sound (stage.AllWithin (stage.placeOf group.mark.start) (stage.placeOf group.mark.stop))
      (caseGroup stage.source group) := by
  have laid := placed.laid
  have inside := laid.allLie
  have statements : ∀ label : { label // label ∈ group.children.filter (·.type = "switch_label") },
      Sound (fun items => stage.AllWithinOptions (stage.placeOf label.1.mark.stop)
        (stage.placeOf group.mark.stop) items ∧ stage.Rising items)
        (statementList stage.source (group.children.filter fun part =>
          part.type ≠ "switch_label" && part.type ≠ ":")) := by
    -- Which label it is plays no part: each of them comes before every statement.
    rintro ⟨label, member⟩
    obtain ⟨listed, isLabel⟩ := mem_filter.1 member
    rw [← statementList_filter]
    refine sound_statementList (fun part kept => ?_) ((laid.apart.filter _).filter _)
    obtain ⟨kept, counts⟩ := mem_filter.1 kept
    obtain ⟨found, other⟩ := mem_filter.1 kept
    simp only [Bool.or_eq_true, Bool.and_eq_true, decide_eq_true_eq] at isLabel counts other
    have precedes : stage.Le label.mark.stop part.mark.start := fun sure =>
      (laid.arranged sure).labels grouped label.mark (mem_map_of_mem listed) isLabel
        part.mark (mem_map_of_mem found) other.1 other.2 counts
    exact ⟨(inside part found).placed, placeOf_mono precedes, (inside part found).upper⟩
  have sound := sound_statementList (inside.filter fun part =>
    part.type ≠ "switch_label" && part.type ≠ ":") (laid.apart.filter _)
  refine (sound_forall (sound.imp fun _ _ => trivial) statements).bind fun statements behind => ?_
  exact sound_casesOf (inside.filter _) fun label member => behind ⟨label, member⟩

theorem sound_ruleBody {body : Option Part} (lies : stage.LiesOption low high body) :
    Sound (stage.WithinOption low high) (ruleBody body) := by
  cases body with
  | none => exact .pure withinOption_none
  | some body =>
    rw [ruleBody]
    split
    · exact sound_lower? (lies body rfl).children.contents.head .plain
    · exact (lies body rfl).note .statement

theorem sound_caseRule {rule : Part} (placed : stage.PlacedPart rule) :
    Sound (stage.Over rule.mark) (caseRule stage.source rule) := by
  have inside := placed.laid.allLie
  refine (sound_caseLabel (inside.ofType "switch_label")).bind fun (isDefault, values) listed => ?_
  refine (sound_ruleBody (inside.contents.filter _).head).bind fun body within => ?_
  exact placed.laid.make (.cons (.options listed) (.cons (.option within) .nil)) rfl

theorem sound_casesIn (lies : stage.Lies low high part) :
    Sound (stage.AllWithin low high) (casesIn stage.source part) := by
  unfold casesIn
  split
  next grouped =>
    exact (sound_caseGroup lies.placed grouped).imp fun cases spanned t member =>
      lies.within (spanned t member)
  next =>
    split
    · refine (sound_caseRule lies.placed).bind fun rule spanned => .pure ?_
      exact forall_mem_singleton.2 (lies.within spanned)
    · exact .pure (forall_mem_nil _)

theorem sound_switch (declared : declares kind [("getExpression", false), ("getCases", true)])
    (laid : stage.Laid here parts) :
    Sound (stage.Over here) (switch stage.source kind here parts) := by
  have inside := (laid.allLie.field "body").parts.contents
  refine (Traced.Ends.each fun part member => sound_casesIn (inside part member)).bind
    fun cases within => ?_
  refine (laid.lower "condition").bind fun expression value => ?_
  exact laid.make (.cons (.option value) (.cons (.trees (forall_mem_flatten.2 within)) .nil))
    declared

end SyntaxGraph.Java
