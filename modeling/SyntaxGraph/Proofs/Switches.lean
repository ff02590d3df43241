import SyntaxGraph.Proofs.Slots

/-!
# Cases of a `switch`

The labels and the statements of a `switch` stand mixed in the parts of its body. Each label becomes
a case, and the statements behind a group of labels go to the last of them. So long as no group is
without a label, every statement ends up in one case, in the order of the text.
-/
namespace SyntaxGraph.Java

open List ParseTree

variable {source : Source} {α : Type}

/-! ### Statements -/

/-- What a part of a list of statements stands for. -/
inductive StatementOf (source : Source) (part : Part) : List (Option Tree) → Prop
  | empty (statement : Tree) : part.type = ";" → statement.kind? = some "EMPTY_STATEMENT" →
    Spans source part.mark statement → StatementOf source part [some statement]
  /-- Comments and other punctuation stand for nothing. -/
  | silent : part.type ≠ ";" → part.isContent = false → StatementOf source part []
  /-- A declaration stands for its variables, one for each declarator. -/
  | declaration (declared : List Tree) : part.isContent → part.type ∈ variableDeclarations →
    List.Forall₂ (fun declarator v => v.kind? = some "VARIABLE" ∧
        (variableOf source part.mark part.children declarator).result = .ok v)
      (ParseTree.fields part.children "declarator") declared →
    StatementOf source part (declared.map some)
  | initializer (item : Option Tree) : part.isContent → part.type = "static_initializer" →
    (part.note .initializer).result = .ok item → StatementOf source part [item]
  /-- Everything else stands for one statement. -/
  | single (item : Option Tree) : part.isContent → part.type ≠ ";" →
    part.type ∉ variableDeclarations → part.type ≠ "static_initializer" →
    (part.note .statement).result = .ok item → StatementOf source part [item]

theorem yields_variableOf_kind (source : Source) (here : Mark) (parts : List Part)
    (declarator : Part) :
    Yields (fun v => v.kind? = some "VARIABLE") (variableOf source here parts declarator) := by
  refine .tail fun start => .tail fun stop => .tail fun name => .tail fun flags => ?_
  refine .tail fun element => .tail fun type => .tail fun value => ?_
  exact (yields_makeAt_makes ..).imp fun v ⟨makes, _⟩ => makes.kind

theorem yields_member_statementOf {part : Part} (content : part.isContent)
    (other : part.type ≠ ";") : Yields (StatementOf source part) (member source part) := by
  unfold member
  split
  next declares =>
    have each (declarator : Part) : Yields (fun v => v.kind? = some "VARIABLE" ∧
        (variableOf source part.mark part.children declarator).result = .ok v)
        (variableOf source part.mark part.children declarator) := by
      refine (yields_result _).imp fun v run => ⟨?_, run⟩
      exact (yields_variableOf_kind ..).of_result run
    refine (forall₂_each fun declarator _ => each declarator).bind fun declared pairs => .pure ?_
    exact .declaration declared content (contains_iff_mem.1 declares) pairs
  next plain =>
    have plain : part.type ∉ variableDeclarations := fun inside =>
      plain (contains_iff_mem.2 inside)
    split
    next initial =>
      exact (yields_result _).bind fun item run => .pure (.initializer item content initial run)
    next also =>
      exact (yields_result _).bind fun item run => .pure (.single item content other plain also run)

/-- A list of statements is lowered part by part. -/
theorem yields_statementList_pieces (source : Source) (parts : List Part) :
    Yields (fun items => ∃ pieces, items = pieces.flatten ∧
      List.Forall₂ (StatementOf source) parts pieces) (statementList source parts) := by
  induction parts with
  | nil => exact .pure ⟨[], rfl, .nil⟩
  | cons part rest ih =>
    -- Whatever the first part gives, the others are lowered behind it.
    have finish (first : List (Option Tree)) (told : StatementOf source part first) :
        Yields (fun items => ∃ pieces, items = pieces.flatten ∧
          List.Forall₂ (StatementOf source) (part :: rest) pieces) (do
            let others ← statementList source rest
            return first ++ others) := by
      refine ih.bind fun others ⟨pieces, same, pairs⟩ => .pure ⟨first :: pieces, ?_, ?_⟩
      · rw [same, flatten_cons]
      · exact .cons told pairs
    dsimp only [statementList]
    split
    next empty =>
      refine (yields_make_makes ..).bind fun statement ⟨makes, spans⟩ => finish _ ?_
      exact .empty statement empty makes.kind spans
    next other =>
      split
      next content => exact (yields_member_statementOf content other).bind finish
      next silent => exact finish [] (.silent other (by simpa using silent))

/-! ### Cases -/

def labelsOf (group : ParseTree α) : List (ParseTree α) :=
  group.children.filter (·.type = "switch_label")

/-- The nodes of a group that are neither labels nor colons. -/
def statementNodes (group : ParseTree α) : List (ParseTree α) :=
  group.children.filter fun node => node.type ≠ "switch_label" && node.type ≠ ":"

/-- A case that starts where a label does. -/
structure IsCase (source : Source) (label : Mark) (case : Tree) : Prop where
  kind : case.kind? = some "CASE"
  start : (startOf source label).result = .ok case.start

/-- The statements of some cases, one case after the other. -/
def statementsOf (cases : List Tree) : List Tree :=
  cases.flatMap (Tree.treesIn · "getStatements")

theorem statementsOf_cons (case : Tree) (cases : List Tree) :
    statementsOf (case :: cases) = case.treesIn "getStatements" ++ statementsOf cases := rfl

theorem statementsOf_append (early late : List Tree) :
    statementsOf (early ++ late) = statementsOf early ++ statementsOf late :=
  flatMap_append

/-- The cases of some labels that share their statements. -/
structure SharedCases (source : Source) (statements : List (Option Tree)) (labels : List Part)
    (cases : List Tree) : Prop where
  each : List.Forall₂ (fun label => IsCase source label.mark) labels cases
  /-- All cases but the last are empty. -/
  early : ∀ case ∈ cases.dropLast, case.treesIn "getStatements" = []
  held : labels ≠ [] → (statementsOf cases).map some = statements

/-- A label before others has no statements; one that is the last has them all. -/
theorem SharedCases.cons {statements : List (Option Tree)} {label : Part} {rest : List Part}
    {case : Tree} {cases : List Tree} (shared : SharedCases source statements rest cases)
    (isCase : IsCase source label.mark case)
    (own : (if rest.isEmpty then statements else []) = (case.treesIn "getStatements").map some) :
    SharedCases source statements (label :: rest) (case :: cases) := by
  have labels := shared.each
  cases rest with
  | nil =>
    -- The last label; there are no cases behind it.
    cases labels
    refine ⟨.cons isCase .nil, by simp, fun _ => ?_⟩
    rw [statementsOf_cons, statementsOf, flatMap_nil, append_nil, ← own]
    rfl
  | cons next rest =>
    have bare : case.treesIn "getStatements" = [] := map_eq_nil_iff.1 own.symm
    refine ⟨.cons isCase labels, ?_, fun _ => ?_⟩
    · cases labels with
      | cons first others =>
        rw [dropLast_cons_cons, forall_mem_cons]
        exact ⟨bare, shared.early⟩
    · rw [statementsOf_cons, bare]
      exact shared.held (cons_ne_nil _ _)

theorem yields_casesOf_shared (source : Source) (statements : List (Option Tree))
    (labels : List Part) :
    Yields (SharedCases source statements labels) (casesOf source statements labels) := by
  induction labels with
  | nil => exact .pure ⟨.nil, by simp, fun some => absurd rfl some⟩
  | cons label rest ih =>
    refine .tail fun (isDefault, values) => ?_
    -- Where the case ends depends on its statements, but not what it holds.
    have finish (stop : Int) : Yields (SharedCases source statements (label :: rest)) (do
        let start ← startOf source label.mark
        let first ← makeAt "CASE" start stop [("default", .bool isDefault)]
          [("getExpressions", .ofOptions values),
            ("getStatements", .ofOptions (if rest.isEmpty then statements else []))]
        let others ← casesOf source statements rest
        return first :: others) := by
      refine (yields_result (startOf source label.mark)).bind fun start starts => ?_
      refine (yields_makeAt_makes ..).bind fun case ⟨makes, same, _⟩ => ?_
      refine ih.bind fun others shared => .pure (shared.cons ⟨makes.kind, same ▸ starts⟩ ?_)
      exact makes.holds.full "getStatements" _ rfl
    dsimp only
    split
    next => exact .tail fun last => finish last.stop
    next => exact .tail finish

/-- The statements of a group as they are lowered, node by node. -/
def LowersGroup (source : Source) (group : Part) (statements : List (Option Tree)) : Prop :=
  (statementList source (statementNodes group)).result = .ok statements ∧
    ∃ pieces, statements = pieces.flatten ∧
      List.Forall₂ (StatementOf source) (statementNodes group) pieces

/-- The cases of one part of a body: those of the labels of a group, one for a rule, and none for
anything else. -/
inductive PartCases (source : Source) (part : Part) : List Tree → Prop
  | group (statements : List (Option Tree)) (cases : List Tree) :
    part.type = "switch_block_statement_group" → LowersGroup source part statements →
    SharedCases source statements (labelsOf part) cases → PartCases source part cases
  | rule (case : Tree) : part.type = "switch_rule" → IsCase source part.mark case →
    case.treesIn "getStatements" = [] → PartCases source part [case]
  | other : part.type ≠ "switch_block_statement_group" → part.type ≠ "switch_rule" →
    PartCases source part []

theorem yields_caseRule_case (source : Source) (rule : Part) :
    Yields (fun case => IsCase source rule.mark case ∧ case.treesIn "getStatements" = [])
      (caseRule source rule) := by
  refine .tail fun (isDefault, values) => .tail fun body => ?_
  refine (yields_make_makes ..).imp fun case ⟨makes, spans⟩ => ?_
  exact ⟨⟨makes.kind, spans.start⟩, makes.holds.trees _⟩

theorem yields_casesIn_cases (source : Source) (part : Part) :
    Yields (PartCases source part) (casesIn source part) := by
  unfold casesIn
  split
  next isGroup =>
    refine (yields_result (statementList ..)).bind fun statements run => ?_
    have lowers : LowersGroup source part statements :=
      ⟨run, (yields_statementList_pieces ..).of_result run⟩
    exact (yields_casesOf_shared ..).imp fun cases => .group statements cases isGroup lowers
  next noGroup =>
    split
    next isRule =>
      refine (yields_caseRule_case source part).bind fun case ⟨isCase, bare⟩ => .pure ?_
      exact .rule case isRule isCase bare
    next noRule => exact .pure (.other noGroup noRule)

/-! ### The body -/

/-- The parts of the body of a `switch`. -/
def switchParts (children : List (ParseTree α)) : List (ParseTree α) :=
  ParseTree.contents (ParseTree.parts (ParseTree.field? children "body"))

theorem yields_switch_cases (source : Source) (kind : String) (here : Mark) (parts : List Part) :
    Yields (fun t => t.kind? = some kind ∧ ∃ pieces, t.treesIn "getCases" = pieces.flatten ∧
        List.Forall₂ (PartCases source) (switchParts parts) pieces)
      (switch source kind here parts) := by
  refine (forall₂_each fun part _ => yields_casesIn_cases source part).bind fun pieces pairs => ?_
  refine .tail fun expression => (yields_make_makes ..).imp fun t ⟨makes, _⟩ => ?_
  refine ⟨makes.kind, pieces, ?_, pairs⟩
  rw [makes.holds.trees]
  exact Content.trees_ofTrees _

/-- The nodes of a part of a body that are cases. -/
def caseNodes (part : ParseTree α) : List (ParseTree α) :=
  if part.type = "switch_block_statement_group" then labelsOf part
  else if part.type = "switch_rule" then [part]
  else []

theorem PartCases.isCase {part : Part} {cases : List Tree} (told : PartCases source part cases) :
    List.Forall₂ (fun label => IsCase source label.mark) (caseNodes part) cases := by
  unfold caseNodes
  cases told with
  | group statements _ isGroup lowers shared =>
    rw [if_pos isGroup]
    exact shared.each
  | rule case isRule isCase =>
    rw [isRule]
    exact .cons isCase .nil
  | other noGroup noRule =>
    rw [if_neg noGroup, if_neg noRule]
    exact .nil

/-- The statements in the cases of a part are those of the part, if it is a group. -/
theorem PartCases.statements {part : Part} {cases : List Tree} (told : PartCases source part cases)
    (labelled : part.type = "switch_block_statement_group" → labelsOf part ≠ []) :
    (part.type = "switch_block_statement_group" ∧
      LowersGroup source part ((statementsOf cases).map some)) ∨
    part.type ≠ "switch_block_statement_group" ∧ statementsOf cases = [] := by
  cases told with
  | group statements _ isGroup lowers shared =>
    rw [shared.held (labelled isGroup)]
    exact .inl ⟨isGroup, lowers⟩
  | rule case isRule isCase bare =>
    refine .inr ⟨by rw [isRule]; decide, ?_⟩
    rw [statementsOf_cons, bare]
    rfl
  | other noGroup noRule => exact .inr ⟨noGroup, rfl⟩

def groupsIn (parts : List (ParseTree α)) : List (ParseTree α) :=
  parts.filter (·.type = "switch_block_statement_group")

/-- Group by group, the statements end up in the cases. -/
theorem exists_lowersGroup {parts : List Part} {pieces : List (List Tree)}
    (pairs : List.Forall₂ (PartCases source) parts pieces)
    (labelled : ∀ group ∈ groupsIn parts, labelsOf group ≠ []) :
    ∃ lowered, List.Forall₂ (LowersGroup source) (groupsIn parts) lowered ∧
      lowered.flatten = (statementsOf pieces.flatten).map some := by
  induction pairs with
  | nil => exact ⟨[], .nil, rfl⟩
  | @cons part cases rest pieces told pairs ih =>
    rw [flatten_cons, statementsOf_append, map_append]
    have own (isGroup : part.type = "switch_block_statement_group") : labelsOf part ≠ [] :=
      labelled part (mem_filter.2 ⟨mem_cons_self, by simpa using isGroup⟩)
    obtain ⟨lowered, groups, same⟩ := ih fun group inside => labelled group <| by
      obtain ⟨member, isGroup⟩ := mem_filter.1 inside
      exact mem_filter.2 ⟨mem_cons_of_mem _ member, isGroup⟩
    rcases told.statements own with ⟨isGroup, lowers⟩ | ⟨noGroup, bare⟩
    -- A group adds its statements to the list; any other part adds neither a list nor a statement.
    · refine ⟨_ :: lowered, ?_, by rw [flatten_cons, same]⟩
      rw [groupsIn, filter_cons_of_pos (by simpa using isGroup)]
      exact .cons lowers groups
    · refine ⟨lowered, ?_, by rw [bare, same]; rfl⟩
      rw [groupsIn, filter_cons_of_neg (by simpa using noGroup)]
      exact groups

/-! ### Parse trees -/

theorem labelsOf_lowerable (group : ParseTree α) :
    labelsOf (lowerable source group) = (labelsOf group).map (lowerable source) := by
  rw [labelsOf, lowerable, children_annotate, annotateAll_eq_map, filter_map]
  simp only [Function.comp_def, type_annotate]
  rfl

theorem switchParts_annotateAll (children : List (ParseTree α)) :
    switchParts (ParseTree.annotateAll (lowerNode source) children) =
      (switchParts children).map (lowerable source) := by
  rw [switchParts, switchParts, field?_annotateAll]
  cases ParseTree.field? children "body" with
  | none => rfl
  | some body =>
    show ParseTree.contents (body.annotate _).children = _
    rw [children_annotate, contents_annotateAll]
    rfl

theorem groupsIn_map (parts : List (ParseTree α)) :
    groupsIn (parts.map (lowerable source)) = (groupsIn parts).map (lowerable source) := by
  rw [groupsIn, filter_map]
  simp only [Function.comp_def, lowerable, type_annotate]
  rfl

theorem caseNodes_lowerable (part : ParseTree α) :
    caseNodes (lowerable source part) = (caseNodes part).map (lowerable source) := by
  rw [caseNodes, caseNodes, labelsOf_lowerable, lowerable, type_annotate]
  split
  · rfl
  · split <;> rfl

/-- A `switch` that is a statement has a kind of its own. -/
def switchKind (role : Role) : String :=
  if role = .statement then "SWITCH" else "SWITCH_EXPRESSION"

theorem note_switch {node : ParseTree α} (isSwitch : node.type = "switch_expression")
    {role : Role} (own : role.isOwn) :
    (lowerable source node).note role = some <$> switch source (switchKind role) node.mark
      (ParseTree.annotateAll (lowerNode source) node.children) := by
  have type : node.mark.type = "switch_expression" := isSwitch
  have meaning : Construct.ofType node.mark.type = .switch := by rw [type]; decide
  have plain : lowerConstruct source (.ofType node.mark.type) node.mark
      (ParseTree.annotateAll (lowerNode source) node.children) =
        some <$> switch source "SWITCH_EXPRESSION" node.mark
          (ParseTree.annotateAll (lowerNode source) node.children) := by
    rw [meaning, lowerConstruct]
  rw [note_lowerable]
  cases role with
  | plain => exact plain
  | statement => exact if_pos type
  | elementValue => exact (if_neg (by rw [type]; decide)).trans plain
  | initializer | enumConstant => cases own

/-- Nothing in a `switch` is lost, doubled or moved, if every group of statements has a label. There
is one case for each label of a group and for each rule, in the order of the text. All cases of a
group but the last are empty. One after the other, the cases hold group by group what the nodes
of the groups stand for. -/
theorem lowerable_switch_cases (source : Source) (node : ParseTree α)
    (isSwitch : node.type = "switch_expression")
    (labelled : ∀ group ∈ groupsIn (switchParts node.children), labelsOf group ≠ [])
    {role : Role} (own : role.isOwn) {item : Option Tree}
    (lowered : ((lowerable source node).note role).result = .ok item) :
    ∃ t, item = some t ∧ t.kind? = some (switchKind role) ∧
      List.Forall₂ (fun label => IsCase source label.mark)
        ((switchParts node.children).flatMap caseNodes) (t.treesIn "getCases") ∧
      (∃ pieces, t.treesIn "getCases" = pieces.flatten ∧
        List.Forall₂ (fun part => PartCases source (lowerable source part))
          (switchParts node.children) pieces) ∧
      ∃ statements, (statementsOf (t.treesIn "getCases")).map some = statements.flatten ∧
        List.Forall₂ (fun group => LowersGroup source (lowerable source group))
          (groupsIn (switchParts node.children)) statements := by
  rw [note_switch isSwitch own] at lowered
  obtain ⟨t, rfl, kind, pieces, held, pairs⟩ :=
    Yields.exists_of_some (yields_switch_cases ..) lowered
  rw [switchParts_annotateAll] at pairs
  have noted : ∀ group ∈ groupsIn ((switchParts node.children).map (lowerable source)),
      labelsOf group ≠ [] := by
    intro group inside
    rw [groupsIn_map] at inside
    obtain ⟨own, member, rfl⟩ := mem_map.1 inside
    rw [labelsOf_lowerable]
    exact fun none => labelled own member (map_eq_nil_iff.1 none)
  obtain ⟨statements, groups, same⟩ := exists_lowersGroup pairs noted
  rw [groupsIn_map, List.forall₂_map_left_iff] at groups
  rw [List.forall₂_map_left_iff] at pairs
  refine ⟨t, rfl, kind, ?_, ⟨pieces, held, pairs⟩, statements, held ▸ same.symm, groups⟩
  -- The cases pair up part by part, and so they do when the parts are strung together.
  have each : List.Forall₂ (List.Forall₂ fun label => IsCase source label.mark)
      ((switchParts node.children).map caseNodes) pieces := by
    refine List.forall₂_map_left_iff.2 (pairs.imp fun part cases told => ?_)
    have told := told.isCase
    rw [caseNodes_lowerable, List.forall₂_map_left_iff] at told
    simpa only [lowerable, mark_annotate] using told
  rw [held, flatMap_def]
  exact rel_flatten each

/-- The text of a `switch` with a case that falls through. -/
def fallingText : String := "switch(x)\x7bcase 1:case 2:;int a,b;default:/**/x++;\x7d"

def fallingSwitch : ParseTree Unit :=
  let declarator (start : Nat) : ParseTree Unit :=
    part "variable_declarator" start (start + 1)
      [part "identifier" start (start + 1) [] "name"] "declarator"
  let label (start : Nat) : ParseTree Unit :=
    part "switch_label" start (start + 6)
      [token "case" start, part "decimal_integer_literal" (start + 5) (start + 6)]
  part "switch_expression" 0 50
    [token "switch" 0,
      part "parenthesized_expression" 6 9
        [token "(" 6, part "identifier" 7 8, token ")" 8] "condition",
      part "switch_block" 9 50
        [token "\x7b" 9,
          part "switch_block_statement_group" 10 33
            [label 10, token ":" 16, label 17, token ":" 23, token ";" 24,
              part "local_variable_declaration" 25 33
                [part "integral_type" 25 28 [token "int" 25] "type", declarator 29,
                  token "," 30, declarator 31, token ";" 32]],
          part "switch_block_statement_group" 33 49
            [part "switch_label" 33 40 [token "default" 33], token ":" 40,
              part "block_comment" 41 45,
              part "expression_statement" 45 49
                [part "update_expression" 45 48
                    [part "identifier" 45 46, token "++" 46],
                  token ";" 48]],
          token "\x7d" 49] "body"]

theorem lowerable_switch_cases_fallingSwitch :
    ∃ t, ((lowerable (.ofString fallingText) fallingSwitch).note .statement).result =
        .ok (some t) ∧ t.kind? = some "SWITCH" ∧
      (t.treesIn "getCases").length = 3 ∧
      (statementsOf (t.treesIn "getCases")).map Tree.kind? =
        [some "EMPTY_STATEMENT", some "VARIABLE", some "VARIABLE",
          some "EXPRESSION_STATEMENT"] := by
  have run : ((lowerable (.ofString fallingText) fallingSwitch).note .statement).result.map
      (fun item => item.map fun t => (statementsOf (t.treesIn "getCases")).map Tree.kind?) =
        .ok (some [some "EMPTY_STATEMENT", some "VARIABLE", some "VARIABLE",
          some "EXPRESSION_STATEMENT"]) := by
    decide +kernel
  obtain ⟨item, lowered, found⟩ := exists_of_map_eq_ok run
  obtain ⟨t, rfl, kinds⟩ := Option.map_eq_some_iff.1 found
  obtain ⟨_, same, kind, cases, -⟩ := lowerable_switch_cases (.ofString fallingText) fallingSwitch
    rfl (by decide +kernel) rfl lowered
  cases same
  exact ⟨t, lowered, kind, cases.length_eq.symm, kinds⟩

end SyntaxGraph.Java
