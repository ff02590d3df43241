import SyntaxGraph.Java.Lowering.Unit
import SyntaxGraph.Proofs.Comments.Deletion
import SyntaxGraph.Proofs.Trace

/-!
# Comments do not matter to lowering

Constructs look for their parts under a field, by type, or among the parts that are named and no
comments, so each of them is lowered alike with and without loose comments among its parts. The two
that look at parts by position say which comments they cannot bear.
-/
namespace SyntaxGraph.Java

open List ParseTree
open Mark (isLoose)

/-- Whether a construct is lowered alike with and without loose comments among its parts. -/
abbrev PassesOver {α : Type} (construct : List Part → α) : Prop :=
  ∀ parts, construct (withoutAll isLoose parts) = construct parts

/-- The same of what is lowered from one part. -/
abbrev PassesOverIn {α : Type} (construct : Part → α) : Prop :=
  ∀ part, construct (part.without isLoose) = construct part

/-- The same of what is lowered from a part that need not be there. -/
abbrev PassesOverIn? {α : Type} (construct : Option Part → α) : Prop :=
  ∀ part, construct (part.map (without isLoose)) = construct part

/-! ### What parts are asked for -/

section Access

variable {α : Type} (source : Source) (role : Role) (part : Option Part) (parts : List Part)

theorem each_map {β γ : Type} (step : β → Lower γ) (change : α → β) (items : List α) :
    Traced.each step (items.map change) = Traced.each (fun a => step (change a)) items := by
  induction items with
  | nil => rfl
  | cons a rest ih => simp only [map_cons, Traced.each, ih]

@[simp]
theorem lower?_map_without : PassesOverIn? (lower? role) := fun part => by
  cases part <;> simp [lower?]

@[simp]
theorem lowerAll_map_without :
    lowerAll role (parts.map (without isLoose)) = lowerAll role parts := by
  simp [lowerAll, each_map]

@[simp]
theorem textOf?_map_without : PassesOverIn? (textOf? source) := fun part => by
  cases part <;> simp [textOf?]

@[simp]
theorem need_map_bind (next : Part → Lower α) :
    (need (part.map (without isLoose)) >>= next) =
      need part >>= fun part => next (part.without isLoose) := by
  cases part <;> rfl

@[simp]
theorem needSome_map_bind (next : Part → Lower α) :
    (needSome (part.map (without isLoose)) >>= next) =
      needSome part >>= fun part => next (part.without isLoose) := by
  cases part <;> rfl

@[simp]
theorem isAnnotationPart_without : PassesOverIn isAnnotationPart := fun _ => by
  simp [isAnnotationPart]

@[simp]
theorem isParameter_without : PassesOverIn isParameter := fun _ => by simp [isParameter]

theorem isComment_of_isLoose {mark : Mark} (loose : isLoose mark = true) : mark.isComment = true :=
  (Bool.and_eq_true_iff.1 loose).1

theorem type_ne_of_isLoose {part : Part} (loose : isLoose part.mark = true) {type : String}
    (uncommon : type ∉ commentTypes) : part.type ≠ type := fun same => by
  simp [isLoose_of_type same uncommon] at loose

theorem any_type_without {type : String} (uncommon : type ∉ commentTypes) :
    (withoutAll isLoose parts).any (·.type = type) = parts.any (·.type = type) := by
  have found := ofType?_withoutAll parts uncommon
  rw [ofType?, ofType?] at found
  rw [← isSome_find?, found, Option.isSome_map, isSome_find?]

@[simp]
theorem brackets_withoutAll : PassesOver brackets := fun _ => by
  have kept (part : Part) (fits : decide (part.type = "[") = true) : isLoose part.mark = false :=
    isLoose_of_type (by simpa using fits) (by decide)
  rw [brackets, brackets, countP_eq_length_filter,
    countP_eq_length_filter, filter_withoutAll (by simp) kept, length_map]

@[simp]
theorem wrapDimensions_map_without (element : Option Tree) :
    PassesOverIn? (wrapDimensions source element) := fun part => by
  cases element <;> cases part <;> simp [wrapDimensions]

@[simp]
theorem neededIdentifier_map_without : PassesOverIn? (neededIdentifier source) := fun _ => by
  simp [neededIdentifier]

end Access

/-! ### Types and names -/

variable (source : Source) (here : Mark) (parts : List Part)

@[simp]
theorem scopedType_without : PassesOver (scopedType source here) := fun _ => by
  simp [scopedType, select, lower?, filter_map, Function.comp_def]

/-- No comment is a keyword, so none decides about the kind of a wildcard. -/
@[simp]
theorem wildcardKind_without : PassesOver wildcardKind := fun _ => by
  rw [wildcardKind, withoutAll_eq, foldl_map, foldl_filter]
  congr 1
  funext kind part
  cases loose : isLoose part.mark with
  | false => simp
  | true => simp [type_ne_of_isLoose loose, commentTypes]

@[simp]
theorem typeList_without : PassesOverIn typeList := fun clause => by
  simp [typeList, commentTypes]
  cases ofType? clause.children "type_list" <;> simp

/-! ### Declarations -/

@[simp]
theorem modifiers_without : PassesOver (modifiers source) := fun parts => by
  rw [modifiers, ofType?_withoutAll parts (by decide), modifiers]
  cases ofType? parts "modifiers" with
  | none => rfl
  | some list =>
    have flags : (withoutAll isLoose list.children).filter
        (fun part => !isAnnotationPart part && !part.mark.isComment) =
          (list.children.filter fun part => !isAnnotationPart part && !part.mark.isComment).map
            (without isLoose) :=
      filter_withoutAll (by simp) (by simp +contextual [isLoose])
    simp [flags, each_map, filter_map, Function.comp_def]

@[simp]
theorem annotationArgument_without : PassesOverIn (annotationArgument source) := fun _ => by
  simp [annotationArgument]

@[simp]
theorem elementValueArray_without : PassesOver (elementValueArray source here) := fun _ => by
  simp [elementValueArray]

@[simp]
theorem typeParameter_without : PassesOverIn (typeParameter source) := fun _ => by
  simp [typeParameter, commentTypes, filter_map, find?_map, Function.comp_def]

@[simp]
theorem typeParameters_without : PassesOver (typeParameters source) := fun parts => by
  rw [typeParameters, field?_withoutAll, ofType?_withoutAll parts (by decide),
    ← Option.map_or, typeParameters]
  simp [each_map, filter_map, Function.comp_def]

@[simp]
theorem spreadParameter_without : PassesOverIn (spreadParameter source) := fun parameter => by
  simp only [spreadParameter, children_without]
  rw [ofType?_withoutAll _ (by decide), ofType?_withoutAll _ (by decide)]
  cases ofType? parameter.children "..." <;>
    simp [find?_map, Function.comp_def]

@[simp]
theorem formalParameter_without : PassesOverIn (formalParameter source) := fun _ => by
  simp [formalParameter]

@[simp]
theorem parameter_without : PassesOverIn (parameter source) := fun _ => by
  simp [parameter]

@[simp]
theorem receiverParameter_without : PassesOverIn (receiverParameter source) := fun _ => by
  simp [receiverParameter, find?_map, Function.comp_def]

@[simp]
theorem implicitParameter_without : PassesOverIn (implicitParameter source) := fun _ => by
  simp [implicitParameter]

@[simp]
theorem variableOf_without (declarator : Part) :
    variableOf source here (withoutAll isLoose parts) (declarator.without isLoose) =
      variableOf source here parts declarator := by
  simp [variableOf]

@[simp]
theorem declaredVariables_without : PassesOverIn (declaredVariables source) := fun _ => by
  simp [declaredVariables, each_map]

@[simp]
theorem member_without : PassesOverIn (member source) := fun _ => by simp [member]

/-- Comments are no statements. -/
@[simp]
theorem statementList_without : PassesOver (statementList source) := fun parts => by
  induction parts with
  | nil => simp
  | cons part rest ih =>
    rw [withoutAll]
    split
    next loose =>
      have noStatement : part.type ≠ ";" := type_ne_of_isLoose loose (by decide)
      have noContent : part.isContent = false := by
        simp [ParseTree.isContent, isComment_of_isLoose loose]
      simp [statementList, noStatement, noContent, ih]
    next => simp [statementList, ih]

@[simp]
theorem blockAt_without (isStatic : Bool) : PassesOver (blockAt source here isStatic) := fun _ => by
  simp [blockAt]

@[simp]
theorem neededBlock_map_without : PassesOverIn? (neededBlock source) := fun _ => by
  simp [neededBlock]

@[simp]
theorem block?_map_without : PassesOverIn? (block? source) := fun block => by
  cases block <;> simp [block?]

@[simp]
theorem staticInitializer_without : PassesOver (staticInitializer source here) := fun _ => by
  simp [staticInitializer, commentTypes]

mutual

theorem bodyParts_without (parts : List Part) :
    bodyParts (withoutAll isLoose parts) = (bodyParts parts).map (without isLoose) := by
  match parts with
  | [] => simp [bodyParts]
  | part :: rest =>
    rw [withoutAll, bodyParts, map_append, ← bodyParts_without rest]
    split
    next loose => simp [ParseTree.isContent, isComment_of_isLoose loose]
    next =>
      rw [bodyParts, isContent_without, openedPart_without part]
      split <;> simp

theorem openedPart_without (part : Part) :
    openedPart (part.without isLoose) = (openedPart part).map (without isLoose) := by
  match part with
  | .node mark note children =>
    rw [without, openedPart, openedPart]
    split
    · exact bodyParts_without children
    · simp [without]

end

@[simp]
theorem bodyMember_without : PassesOverIn (bodyMember source) := fun _ => by simp [bodyMember]

@[simp]
theorem classBody_without : PassesOver (classBody source) := fun _ => by
  simp [classBody, bodyParts_without, each_map]

@[simp]
theorem anonymousClass?_map_without : PassesOverIn? (anonymousClass? source) := fun body => by
  cases body <;> simp [anonymousClass?, anonymousClass]

@[simp]
theorem arguments_map_without : PassesOverIn? arguments := fun _ => by simp [arguments]

@[simp]
theorem enumConstant_without : PassesOver (enumConstant source here) := fun _ => by
  simp [enumConstant]

@[simp]
theorem interfaceTypes_map_without : PassesOverIn? interfaceTypes := fun clause => by
  cases clause <;> simp [interfaceTypes]

@[simp]
theorem recordComponents_without : PassesOver (recordComponents source) := fun _ => by
  simp [recordComponents, each_map, filter_map, Function.comp_def]

@[simp]
theorem typeDeclaration_without (kind : String) :
    PassesOver (typeDeclaration source kind here) := fun parts => by
  simp [typeDeclaration, commentTypes]
  cases field? parts "superclass" <;> simp

@[simp]
theorem parameterList_map_without :
    parameterList source (parts.map (without isLoose)) = parameterList source parts := by
  induction parts with
  | nil => rfl
  | cons part rest ih => simp [parameterList, ih]

@[simp]
theorem methodDeclaration_without (form : MethodForm) :
    PassesOver (methodDeclaration source form here) := fun _ => by
  simp [methodDeclaration, commentTypes]

@[simp]
theorem packageDeclaration_without : PassesOverIn (packageDeclaration source) := fun _ => by
  simp [packageDeclaration, filter_map, Function.comp_def]

@[simp]
theorem importDeclaration_without : PassesOverIn (importDeclaration source) := fun declaration => by
  have static := any_type_without declaration.children (show "static" ∉ commentTypes by decide)
  simp only [importDeclaration, children_without, mark_without,
    contents_withoutAll, filter_map, Function.comp_def, type_without,
    head?_map, lower?_map_without, static]
  rw [ofType?_withoutAll _ (by decide)]
  congr 1
  funext qualified
  cases ofType? declaration.children "asterisk" <;> cases qualified <;> simp

/-! ### Expressions -/

@[simp]
theorem typeTest_without : PassesOver (typeTest source) := fun parts => by
  simp only [typeTest, field?_withoutAll]
  cases field? parts "name" <;> cases field? parts "right" <;>
    cases field? parts "pattern" <;> simp [bindingPattern, lower?]

@[simp]
theorem lambdaParameters_map_without : PassesOverIn? (lambdaParameters source) := fun list => by
  cases list <;> simp [lambdaParameters, each_map, filter_map, Function.comp_def]

@[simp]
theorem selected_without (target : Part) (name : Option Part) :
    selected source (target.without isLoose) (name.map (without isLoose)) =
      selected source target name := by
  simp [selected]

@[simp]
theorem invocation_without : PassesOver (invocation source here) := fun parts => by
  simp only [invocation, field?_withoutAll]
  cases field? parts "object" <;> simp

@[simp]
theorem extraDimensions_without : PassesOver extraDimensions := fun _ => by
  simp [extraDimensions, filter_map, foldl_map, Function.comp_def]

@[simp]
theorem arrayCreation_without : PassesOver (arrayCreation source here) := fun _ => by
  simp [arrayCreation, elementType, each_map, filter_map, Function.comp_def]

@[simp]
theorem referenceName_without : PassesOver (referenceName source) := fun parts => by
  rw [referenceName, any_type_without parts (by decide), contents_withoutAll, referenceName]
  match contents parts with
  | [] | [_] => rfl
  | _ :: second :: rest =>
    have last : (((second :: rest).map (without isLoose)).getLastD (second.without isLoose)).mark =
        ((second :: rest).getLastD second).mark := by
      rw [getLastD_eq_getLast?, getLastD_eq_getLast?, getLast?_map, Option.getD_map, mark_without]
    simp only [map_cons] at last ⊢
    rw [last]

/-- The parts at the ends of an increment or decrement stay, since they are no comments. -/
theorem update_without (first : ∀ part ∈ parts.head?, part.mark.isComment = false)
    (last : ∀ part ∈ parts.getLast?, part.mark.isComment = false) :
    update source here (withoutAll isLoose parts) = update source here parts := by
  rw [update, head?_withoutAll fun part there => by simp [isLoose, first part there],
    getLast?_withoutAll fun part there => by simp [isLoose, last part there], update]
  simp

theorem objectCreation_without (first : ∀ part ∈ parts.head?, part.mark.isComment = false) :
    objectCreation source here (withoutAll isLoose parts) = objectCreation source here parts := by
  rw [objectCreation,
    head?_withoutAll fun part there => by simp [isLoose, first part there],
    objectCreation]
  simp [commentTypes]

/-! ### Statements -/

@[simp]
theorem expressionOnly_without (kind slot : String) :
    PassesOver (expressionOnly source kind slot here) := fun _ => by
  simp [expressionOnly]

@[simp]
theorem wrapped_without : PassesOverIn (wrapped source) := fun _ => by simp [wrapped]

@[simp]
theorem callBetween_without (parts : List Part) (method : Tree) (start stop : Int) :
    callBetween source here (withoutAll isLoose parts) method start stop =
      callBetween source here parts method start stop := by
  simp [callBetween]

@[simp]
theorem constructorCall_without : PassesOver (constructorCall source here) := fun parts => by
  simp only [constructorCall, field?_withoutAll, need_map_bind, mark_without]
  congr 1
  funext constructor
  have chosen (target : Part) := selected_without source target (some constructor)
  simp only [Option.map_some] at chosen
  cases field? parts "object" <;> cases field? parts "arguments" <;> simp [chosen]

@[simp]
theorem loopStart_without : PassesOverIn (loopStart source) := fun _ => by simp [loopStart]

@[simp]
theorem loopVariable_without : PassesOver (loopVariable source) := fun parts => by
  rw [loopVariable, ofType?_withoutAll parts (by decide), loopVariable]
  simp [← Option.map_or]

/-- No comment is a colon, and comments behind one are passed over. -/
theorem behindColon_without :
    behindColon (withoutAll isLoose parts) = (behindColon parts).map (without isLoose) := by
  induction parts with
  | nil => rfl
  | cons part rest ih =>
    have behind : (withoutAll isLoose rest).find? (!·.mark.isComment) =
        (rest.find? (!·.mark.isComment)).map (without isLoose) :=
      find?_withoutAll (by simp) (by simp +contextual [isLoose])
    rw [withoutAll]
    split
    next loose =>
      have noColon : part.type ≠ ":" := type_ne_of_isLoose loose (by decide)
      simpa [behindColon, noColon] using ih
    next =>
      by_cases colon : part.type = ":"
      · simpa [behindColon, colon] using behind
      · simpa [behindColon, colon] using ih

@[simp]
theorem jump_without (kind : String) : PassesOver (jump source kind here) := fun parts => by
  rw [jump, ofType?_withoutAll parts (by decide), jump]
  cases ofType? parts "identifier" <;> simp

@[simp]
theorem assertion_without : PassesOver (assertion source here) := fun _ => by
  simp [assertion, ← map_drop]

@[simp]
theorem resource_without : PassesOverIn (resource source) := fun part => by
  simp only [resource, children_without, field?_withoutAll]
  cases field? part.children "type" <;> simp

@[simp]
theorem caughtType_map_without : PassesOverIn? (caughtType source) := fun _ => by simp [caughtType]

@[simp]
theorem handler_without : PassesOverIn (handler source) := fun _ => by
  simp [handler, commentTypes]

@[simp]
theorem tryStatement_without : PassesOver (tryStatement source here) := fun parts => by
  rw [tryStatement, ofType?_withoutAll parts (by decide), tryStatement]
  cases ofType? parts "finally_clause" <;>
    simp [commentTypes, each_map, filter_map, Function.comp_def]

@[simp]
theorem caseLabel_map_without : PassesOverIn? (caseLabel source) := fun _ => by
  simp only [caseLabel, textOf?_map_without, parts_map_without,
    contents_withoutAll, lowerAll_map_without]

theorem casesOf_map_without (statements : List (Option Tree)) (labels : List Part) :
    casesOf source statements (labels.map (without isLoose)) =
      casesOf source statements labels := by
  induction labels with
  | nil => rfl
  | cons label rest ih =>
    have same := caseLabel_map_without source (some label)
    simp only [Option.map_some] at same
    simp [casesOf, same, ih]

@[simp]
theorem caseGroup_without : PassesOverIn (caseGroup source) := fun group => by
  have labels : (withoutAll isLoose group.children).filter (·.type = "switch_label") =
      (group.children.filter (·.type = "switch_label")).map (without isLoose) :=
    filter_withoutAll (by simp) fun _ fits =>
      isLoose_of_type (by simpa using fits) (by decide)
  simp [caseGroup, labels, filter_withoutAll_comm, casesOf_map_without]

@[simp]
theorem ruleBody_map_without : PassesOverIn? ruleBody := fun body => by
  cases body <;> simp [ruleBody]

@[simp]
theorem caseRule_without : PassesOverIn (caseRule source) := fun _ => by
  simp [caseRule, commentTypes, filter_map, Function.comp_def]

@[simp]
theorem casesIn_without : PassesOverIn (casesIn source) := fun _ => by
  simp [casesIn]

@[simp]
theorem switch_without (kind : String) : PassesOver (switch source kind here) := fun _ => by
  simp [switch, each_map]

end SyntaxGraph.Java
