import SyntaxGraph.Proofs.Lowering.Vocabulary
import SyntaxGraph.Proofs.Spans.Basic

/-!
# Sound lowerings

How soundness and spans are carried from the parts of a construct to the node that is built from
them. Whatever the parse tree, each construct is lowered soundly if its parts are. If the parse tree
is in the order of its source, a construct is also lowered to a tree that spans the parse node or
lies inside it, so what is built over a parse node encloses what is lowered from its parts. Where a
node ends elsewhere, the order of the parse tree tells that it still encloses its children.

Both are shown together: what is said of a lowered tree holds of every parse tree, and what is said
of offsets only of one in order.
-/
namespace SyntaxGraph.Java

open List

/-! ### Good trees -/

/-- A frame, and whether the parse tree is in the order of its source. -/
structure Stage extends Frame where
  inOrder : Prop

namespace Stage

variable (stage : Stage)

/-- One number is at most another, if the parse tree is in order. -/
def Le {α : Type} [LE α] (a b : α) : Prop := stage.inOrder → a ≤ b

/-- The offset of a byte, in characters. -/
def placeOf (byte : Nat) : Int :=
  ((stage.source.offset? byte).getD (charIndex stage.source.chars byte) : Nat)

/-- A lowered tree whose nodes nest, if the parse tree is in order. -/
structure Lowered (t : Tree) : Prop where
  plain : IsLowered stage.source t
  nests : stage.inOrder → ∀ u ∈ t.nodes, stage.Nests u

/-- A lowered tree between two offsets. -/
structure Within (low high : Int) (t : Tree) : Prop extends stage.Lowered t where
  lower : stage.Le low t.start
  ordered : stage.Le t.start t.stop
  upper : stage.Le t.stop high

abbrev WithinOption (low high : Int) (item : Option Tree) : Prop :=
  ∀ t ∈ item, stage.Within low high t

abbrev AllWithin (low high : Int) (trees : List Tree) : Prop :=
  ∀ t ∈ trees, stage.Within low high t

abbrev AllWithinOptions (low high : Int) (items : List (Option Tree)) : Prop :=
  ∀ item ∈ items, stage.WithinOption low high item

/-- A lowered tree in the span of a parse node. -/
abbrev Over (mark : Mark) (t : Tree) : Prop :=
  stage.Within (stage.placeOf mark.start) (stage.placeOf mark.stop) t

/-- Modifiers between two offsets, or unwritten ones. -/
structure Flags (low high : Int) (t : Tree) : Prop extends stage.Lowered t where
  span : stage.inOrder → t.start ≠ noPosition → low ≤ t.start ∧ t.stop ≤ high

end Stage

variable {stage : Stage} {low high : Int} {t : Tree}

theorem Stage.Le.refl {α : Type} [LE α] [Std.IsPreorder α] (a : α) : stage.Le a a :=
  fun _ => Std.le_refl a

theorem Stage.Le.trans {α : Type} [LE α] [Std.IsPreorder α] {a b c : α} (first : stage.Le a b)
    (second : stage.Le b c) : stage.Le a c :=
  fun sure => Std.le_trans (first sure) (second sure)

theorem Stage.placeOf_eq {byte : Nat} (bounded : byte ≤ stage.bytes) :
    stage.placeOf byte = place stage.text byte := by
  rw [placeOf, Source.offset?_of_le stage.source bounded]
  rfl

theorem Stage.placeOf_nonneg (byte : Nat) : stage.Le 0 (stage.placeOf byte) :=
  fun _ => Int.natCast_nonneg _

theorem Stage.placeOf_mono {first second : Nat} (ordered : stage.Le first second) :
    stage.Le (stage.placeOf first) (stage.placeOf second) := by
  intro sure
  refine Int.ofNat_le.2 ?_
  have counted := charIndex_mono stage.source.chars (ordered sure)
  have ordered := ordered sure
  simp only [Source.offset?_eq]
  -- In ASCII an offset is the byte itself; otherwise both offsets count characters.
  split
  · exact ordered
  · split <;> split <;> exact counted

theorem Stage.placeOf_le_length {byte : Nat} (bounded : stage.Le byte stage.bytes) :
    stage.Le (stage.placeOf byte) stage.text.length := by
  intro sure
  rw [placeOf_eq (bounded sure)]
  exact place_le_length _ _

theorem Stage.withinOption_none : stage.WithinOption low high none := by
  rintro t ⟨⟩

theorem Stage.Within.some (within : stage.Within low high t) :
    stage.WithinOption low high (some t) := by
  rintro _ ⟨⟩
  exact within

theorem Stage.Within.mono {lower upper : Int} (within : stage.Within low high t)
    (below : stage.Le lower low) (above : stage.Le high upper) : stage.Within lower upper t :=
  ⟨within.toLowered, below.trans within.lower, within.ordered, within.upper.trans above⟩

theorem Stage.allWithinOptions_map {trees : List Tree} (within : stage.AllWithin low high trees) :
    stage.AllWithinOptions low high (trees.map some) :=
  forall_mem_map.2 fun t member => (within t member).some

theorem Stage.Within.le_length (within : stage.Within low high t) (start : stage.Le 0 low) :
    stage.Le t.stop stage.text.length := by
  intro sure
  rcases (within.nests sure t t.mem_nodes_self).span with unwritten | ⟨-, -, bounded⟩
  -- Only unwritten modifiers have no position, and they start before every offset.
  · have := start.trans within.lower sure
    rw [unwritten.start, noPosition] at this
    omega
  · exact bounded

theorem Stage.Within.flags (within : stage.Within low high t) : stage.Flags low high t :=
  ⟨within.toLowered, fun sure _ => ⟨within.lower sure, within.upper sure⟩⟩

/-! ### Building nodes -/

/-- A tree that a node of a kind between two offsets may hold. -/
structure Stage.Seated (stage : Stage) (kind : String) (low high : Int) (t : Tree) : Prop
    extends stage.Lowered t where
  span : stage.inOrder → t.start ≠ noPosition → low ≤ t.start ∧ (t.stop ≤ high ∨
    kind = "VARIABLE" ∧ t.kind? = some "ARRAY_TYPE" ∧ stage.overhangs high t.stop)

/-- A content that a node of a kind between two offsets may hold, and whether it is a list. -/
def Stage.Inside (stage : Stage) (kind : String) (low high : Int) : Content → Bool → Prop :=
  Filling (stage.Seated kind low high)

/-- Contents that a node of a kind between two offsets may be given, with their forms. -/
inductive Stage.Fill (stage : Stage) (kind : String) (low high : Int) :
    Given → List (String × Bool) → Prop
  | nil : Fill stage kind low high [] []
  | cons {name : String} {content : Content} {isList : Bool} {given : Given}
    {forms : List (String × Bool)} (first : stage.Inside kind low high content isList)
    (rest : Fill stage kind low high given forms) :
    Fill stage kind low high ((name, content) :: given) ((name, isList) :: forms)

variable {kind : String}

theorem Stage.Within.seated (within : stage.Within low high t) : stage.Seated kind low high t :=
  ⟨within.toLowered, fun sure _ => ⟨within.lower sure, .inl (within.upper sure)⟩⟩

namespace Stage.Inside

theorem seated {item : Option Tree} (seated : ∀ t ∈ item, stage.Seated kind low high t) :
    stage.Inside kind low high (.ofOption item) false :=
  Filling.option seated

theorem option {item : Option Tree} (within : stage.WithinOption low high item) :
    stage.Inside kind low high (.ofOption item) false :=
  seated fun t found => (within t found).seated

theorem tree (within : stage.Within low high t) : stage.Inside kind low high (.tree t) false :=
  Filling.tree within.seated

theorem options {items : List (Option Tree)} (within : stage.AllWithinOptions low high items) :
    stage.Inside kind low high (.ofOptions items) true :=
  Filling.options fun item member t found => (within item member t found).seated

theorem trees {items : List Tree} (within : stage.AllWithin low high items) :
    stage.Inside kind low high (.ofTrees items) true :=
  Filling.trees fun t member => (within t member).seated

theorem flags (flags : stage.Flags low high t) : stage.Inside kind low high (.tree t) false :=
  Filling.tree ⟨flags.toLowered, fun sure positioned =>
    ⟨(flags.span sure positioned).1, .inl (flags.span sure positioned).2⟩⟩

end Stage.Inside

theorem Stage.Lowered.seated (lowered : stage.Lowered t) :
    stage.Seated kind 0 stage.text.length t := by
  refine ⟨lowered, fun sure positioned => ?_⟩
  rcases (lowered.nests sure t t.mem_nodes_self).span with unwritten | ⟨lower, -, upper⟩
  · exact absurd unwritten.start positioned
  · exact ⟨lower, .inl upper⟩

variable {given : Given} {forms : List (String × Bool)}

theorem Stage.Fill.filled (fill : stage.Fill kind low high given forms) :
    Filled (stage.Seated kind low high) given forms := by
  induction fill with
  | nil => exact .nil
  | cons first _ ih => exact .cons first ih

/-- A node with a span inside the source that is given what it may hold is good. -/
theorem Stage.within_build {head : Head} (built : grammar.build kind head given = .ok t)
    (start : stage.Le 0 head.start) (ordered : stage.Le head.start head.stop)
    (bounded : stage.Le head.stop stage.text.length)
    (filled : Filled (stage.Seated kind head.start head.stop) given forms)
    (spelled : t.IsSpelled stage.source) : stage.Within head.start head.stop t := by
  obtain ⟨kinded, rfl⟩ := kind?_build built
  -- What holds of all nodes of lowered trees holds of those below each given content.
  have below : ∀ {P : Tree → Prop}, (∀ u, stage.Lowered u → ∀ v ∈ u.nodes, P v) →
      ∀ entry ∈ given, ∀ u ∈ entry.2.nodes, P u := by
    intro P all entry member
    obtain ⟨isList, -, fills⟩ := filled.entry entry member
    exact fills.forall_nodes fun u seated => all u seated.toLowered
  -- The node itself nests: it lies in the source and encloses what its slots hold.
  have own (sure : stage.inOrder) : stage.Nests t := by
    refine ⟨.inr ⟨start sure, ordered sure, bounded sure⟩, fun child member positioned => ?_⟩
    obtain ⟨entry, listed, held⟩ := mem_flatMap.1 member
    rcases given_or_empty built entry listed with ⟨name, given⟩ | empty
    · obtain ⟨isList, -, fills⟩ := filled.entry _ given
      obtain ⟨lower, upper⟩ := (fills.forall_trees child held).span sure positioned
      refine ⟨lower, upper.imp id ?_⟩
      rintro ⟨rfl, overhanging⟩
      exact ⟨kinded, overhanging⟩
    -- A slot that was given nothing holds nothing to enclose.
    · have inside := Content.nodes_subset_of_mem_trees held child.mem_nodes_self
      rw [empty] at inside
      cases inside
  exact ⟨⟨⟨Grammar.conforms_build built (below fun u lowered => lowered.plain.java),
    forall_nodes_build built spelled (below fun u lowered => lowered.plain.spelled)⟩,
    fun sure => forall_nodes_build built (own sure) (below fun u lowered => lowered.nests sure)⟩,
    .refl _, ordered, .refl _⟩

/-- Building a node with declared slots is sound, if the node is spelled. -/
theorem Stage.sound_build {head : Head} (start : stage.Le 0 head.start)
    (ordered : stage.Le head.start head.stop) (bounded : stage.Le head.stop stage.text.length)
    (filled : Filled (stage.Seated kind head.start head.stop) given forms)
    (declared : declares kind forms)
    (spelled : ∀ t : Tree, t.kind? = some kind → t.head = head → t.IsSpelled stage.source) :
    Sound (fun t => stage.Within head.start head.stop t ∧
      t.face = (some kind, head.start, head.stop))
      (match grammar.build kind head given with
      | .ok t => pure t
      | .error e => Traced.fail (.shape e)) := by
  split
  next t built =>
    obtain ⟨kinded, headed⟩ := kind?_build built
    refine .pure ⟨within_build built start ordered bounded filled (spelled t kinded headed), ?_⟩
    simp [Tree.face, Tree.start, Tree.stop, kinded, headed]
  next cause failed => exact .fail (expected_of_build filled declared failed)

/-! ### Steps of lowerings -/

variable {attributes : Attributes} {part : Option Part} {here : Mark}

theorem sound_offsetAt (stage : Stage) (byte : Nat) :
    Sound (· = stage.placeOf byte) (offsetAt stage.source byte) :=
  (sound_offsetAt_eq stage.source byte).imp fun offset ⟨n, found, same⟩ => by
    rw [same, Stage.placeOf, found]
    rfl

theorem sound_makeAt {start stop : Int} {form : String × Bool} (nonneg : stage.Le 0 start)
    (ordered : stage.Le start stop) (bounded : stage.Le stop stage.text.length)
    (fill : stage.Fill kind start stop given (form :: forms))
    (declared : declares kind (form :: forms)) :
    Sound (fun t => stage.Within start stop t ∧ t.face = (some kind, start, stop))
      (makeAt kind start stop attributes given) :=
  Stage.sound_build nonneg ordered bounded fill.filled declared fun _ own _ =>
    isSpelled_of_other (isSpelling_of_declares declared) own

theorem sound_noModifiers (stage : Stage) :
    Sound (fun t => ∀ low high, stage.Flags low high t) noModifiers := by
  have declared : declaresBare "MODIFIERS" := by decide +kernel
  simp only [declaresBare, Bool.and_eq_true, Bool.not_eq_true'] at declared
  unfold noModifiers makeAt
  split
  next t built =>
    obtain ⟨kinded, headed⟩ := kind?_build built
    -- Nothing is given, so all slots are empty.
    have empty : ∀ entry ∈ t.entries, entry.2.nodes = [] := fun entry listed =>
      (given_or_empty built entry listed).resolve_left fun ⟨_, given⟩ => by cases given
    have bare : t.held = [] := by
      refine eq_nil_iff_forall_not_mem.2 fun child member => ?_
      obtain ⟨entry, listed, held⟩ := mem_flatMap.1 member
      have below := Content.nodes_subset_of_mem_trees held child.mem_nodes_self
      rw [empty entry listed] at below
      cases below
    have start : t.start = noPosition := by rw [Tree.start, headed]
    have stop : t.stop = noPosition := by rw [Tree.stop, headed]
    -- It nests by being unwritten; it has no span that could enclose something.
    have own : stage.Nests t := ⟨.inl ⟨kinded, start, stop, bare⟩, by simp [bare]⟩
    refine .pure fun _ _ => ⟨⟨⟨Grammar.conforms_build built (forall_mem_nil _), ?_⟩,
      fun _ => ?_⟩, fun _ positioned => absurd start positioned⟩
    · exact forall_nodes_build built (isSpelled_of_other declared.2 kinded) (forall_mem_nil _)
    · exact forall_nodes_build built own (forall_mem_nil _)
  next cause failed =>
    exact .fail (expected_of_build (.nil : Filled stage.Lowered [] []) declared.1 failed)

/-! ### Parts -/

/-- A part that is lowered soundly to trees in its span, as are all parts inside it; these are in
order if the parse tree is. -/
inductive Stage.PlacedPart (stage : Stage) : Part → Prop
  | node {mark : Mark} {note : Role → Lower (Option Tree)} {children : List Part}
    (ordered : stage.inOrder → stage.Ordered mark (children.map ParseTree.mark))
    (notes : ∀ role, Sound (fun item => ∀ t ∈ item, stage.Over mark t) (note role))
    (parts : ∀ part ∈ children, PlacedPart stage part) : PlacedPart stage (.node mark note children)

/-- The parts of a node, in order if the parse tree is. -/
structure Stage.Laid (stage : Stage) (here : Mark) (parts : List Part) : Prop where
  ordered : stage.inOrder → stage.Ordered here (parts.map ParseTree.mark)
  placed : ∀ part ∈ parts, stage.PlacedPart part

/-- Whether a construct is lowered soundly to a tree in its span, whatever its parts. -/
abbrev Stage.Lowers (stage : Stage) (construct : Mark → List Part → Lower Tree) : Prop :=
  ∀ {here : Mark} {parts : List Part}, stage.Laid here parts →
    Sound (stage.Over here) (construct here parts)

/-- A part between two offsets. -/
structure Stage.Lies (stage : Stage) (low high : Int) (part : Part) : Prop where
  placed : stage.PlacedPart part
  lower : stage.Le low (stage.placeOf part.mark.start)
  upper : stage.Le (stage.placeOf part.mark.stop) high

abbrev Stage.AllLie (stage : Stage) (low high : Int) (parts : List Part) : Prop :=
  ∀ part ∈ parts, stage.Lies low high part

abbrev Stage.LiesOption (stage : Stage) (low high : Int) (part : Option Part) : Prop :=
  ∀ p ∈ part, stage.Lies low high p

namespace Stage.PlacedPart

variable {part : Part}

theorem laid (placed : stage.PlacedPart part) : stage.Laid part.mark part.children := by
  cases placed with
  | node ordered notes parts => exact ⟨ordered, parts⟩

theorem note (placed : stage.PlacedPart part) (role : Role) :
    Sound (fun item => ∀ t ∈ item, stage.Over part.mark t) (part.note role) := by
  cases placed with
  | node ordered notes parts => exact notes role

theorem lies (placed : stage.PlacedPart part) :
    stage.Lies (stage.placeOf part.mark.start) (stage.placeOf part.mark.stop) part :=
  ⟨placed, .refl _, .refl _⟩

end Stage.PlacedPart

namespace Stage.Laid

variable {here : Mark} {parts : List Part}

variable (laid : stage.Laid here parts)

include laid

theorem arranged (sure : stage.inOrder) : Arranged stage.bytes here (parts.map ParseTree.mark) :=
  (laid.ordered sure).arranged

theorem bytes_ordered : stage.Le here.start here.stop :=
  fun sure => (laid.arranged sure).ordered

theorem start_le_stop : stage.Le (stage.placeOf here.start) (stage.placeOf here.stop) :=
  placeOf_mono laid.bytes_ordered

theorem le_length : stage.Le (stage.placeOf here.stop) stage.text.length :=
  placeOf_le_length fun sure => (laid.arranged sure).bounded

theorem allLie : stage.AllLie (stage.placeOf here.start) (stage.placeOf here.stop) parts := by
  intro part member
  have inside (sure : stage.inOrder) :=
    (laid.arranged sure).inside part.mark (mem_map_of_mem member)
  exact ⟨laid.placed part member, placeOf_mono fun sure => (inside sure).1,
    placeOf_mono fun sure => (inside sure).2⟩

/-- A node over a parse node may be given whatever lies in its span. -/
theorem make {form : String × Bool}
    (fill : stage.Fill kind (stage.placeOf here.start) (stage.placeOf here.stop) given
      (form :: forms)) (declared : declares kind (form :: forms)) :
    Sound (stage.Over here) (make stage.source kind here attributes given) := by
  -- Both offsets are found at the places of the bytes, so the node spans the parse node.
  refine (sound_offsetAt stage here.start).bind fun start same => ?_
  refine (sound_offsetAt stage here.stop).bind fun stop also => ?_
  subst same also
  exact (sound_makeAt (placeOf_nonneg _) laid.start_le_stop laid.le_length fill declared).imp
    fun t made => made.1

theorem makeBare (declared : declaresBare kind) :
    Sound (stage.Over here) (Java.make stage.source kind here attributes []) := by
  simp only [declaresBare, Bool.and_eq_true, Bool.not_eq_true'] at declared
  refine (sound_offsetAt stage here.start).bind fun start same => ?_
  refine (sound_offsetAt stage here.stop).bind fun stop also => ?_
  subst same also
  exact (sound_build (placeOf_nonneg _) laid.start_le_stop laid.le_length .nil declared.1
    fun _ own _ => isSpelled_of_other declared.2 own).imp fun t made => made.1

/-- A node over a parse node that carries the text of the parse node spells it. -/
theorem makeSpelled {name : String} {part : List Char}
    (cut : sliceBytes stage.source.chars here.start here.stop = some part)
    (declared : declares kind [])
    (spelled : ∀ t : Tree, t.kind? = some kind → t.Spells stage.source name →
      t.IsSpelled stage.source) :
    Sound (stage.Over here)
      (Java.make stage.source kind here [(name, .str (String.ofList part))] []) := by
  refine (sound_offsetAt_eq stage.source here.start).bind fun start ⟨first, starts, isStart⟩ => ?_
  refine (sound_offsetAt_eq stage.source here.stop).bind fun stop ⟨last, stops, isStop⟩ => ?_
  -- The places of the bytes are the very offsets between which the text was cut out.
  have opens : stage.placeOf here.start = start := by
    rw [isStart, placeOf, starts]
    rfl
  have ends : stage.placeOf here.stop = stop := by
    rw [isStop, placeOf, stops]
    rfl
  subst opens ends
  refine (sound_build (placeOf_nonneg _) laid.start_le_stop laid.le_length .nil declared
    fun t own headed => spelled t own ?_).imp fun t made => made.1
  refine ⟨here.start, here.stop, first, last, part, starts, stops, cut, ?_, ?_, ?_⟩
  · rw [Tree.start, headed, isStart]
  · rw [Tree.stop, headed, isStop]
  · simp [Tree.attribute?, headed]

end Stage.Laid

namespace Stage.Lies

variable {part : Part}

variable (lies : stage.Lies low high part)

include lies

theorem mono {lower upper : Int} (below : stage.Le lower low)
    (above : stage.Le high upper) : stage.Lies lower upper part :=
  ⟨lies.placed, below.trans lies.lower, lies.upper.trans above⟩

theorem within (spanned : stage.Over part.mark t) : stage.Within low high t :=
  spanned.mono lies.lower lies.upper

theorem note (role : Role) : Sound (stage.WithinOption low high) (part.note role) :=
  (lies.placed.note role).imp fun _ spanned t found => lies.within (spanned t found)

theorem some : stage.LiesOption low high (some part) := by
  rintro _ ⟨⟩
  exact lies

theorem children : stage.AllLie low high part.children :=
  fun child member => (lies.placed.laid.allLie child member).mono lies.lower lies.upper

end Stage.Lies

theorem Stage.LiesOption.parts (lies : stage.LiesOption low high part) :
    stage.AllLie low high (ParseTree.parts part) := by
  cases part with
  | none => exact forall_mem_nil _
  | some part => exact (lies part rfl).children

theorem Stage.LiesOption.or {first second : Option Part} (lies : stage.LiesOption low high first)
    (also : stage.LiesOption low high second) : stage.LiesOption low high (first.or second) := by
  intro part found
  rcases Option.or_eq_some_iff.1 found with here | ⟨-, there⟩
  · exact lies part here
  · exact also part there

theorem Stage.LiesOption.before {upper : Nat} (lies : stage.LiesOption low high part)
    (precedes : ∀ p ∈ part, stage.Le p.mark.stop upper) :
    stage.LiesOption low (stage.placeOf upper) part :=
  fun p found => ⟨(lies p found).placed, (lies p found).lower, placeOf_mono (precedes p found)⟩

namespace Stage.AllLie

variable {parts : List Part}

variable (lie : stage.AllLie low high parts)

include lie

theorem filter (wanted : Part → Bool) : stage.AllLie low high (parts.filter wanted) :=
  fun part member => lie part (mem_filter.1 member).1

theorem contents : stage.AllLie low high (ParseTree.contents parts) :=
  lie.filter _

theorem fields (name : String) : stage.AllLie low high (ParseTree.fields parts name) :=
  lie.filter _

theorem find (wanted : Part → Bool) : stage.LiesOption low high (parts.find? wanted) :=
  fun part found => lie part (mem_of_find?_eq_some found)

theorem field (name : String) : stage.LiesOption low high (ParseTree.field? parts name) :=
  lie.find _

theorem ofType (type : String) : stage.LiesOption low high (ParseTree.ofType? parts type) :=
  lie.find _

theorem head : stage.LiesOption low high parts.head? :=
  fun part found => lie part (mem_of_head? found)

theorem last : stage.LiesOption low high parts.getLast? :=
  fun part found => lie part (mem_of_getLast? found)

theorem each {step : Part → Lower Tree}
    (steps : ∀ part ∈ parts, stage.PlacedPart part → Sound (stage.Over part.mark) (step part)) :
    Sound (stage.AllWithin low high) (Traced.each step parts) :=
  .each fun part member =>
    (steps part member (lie part member).placed).imp fun _ => (lie part member).within

end Stage.AllLie

/-! ### Parts that several constructs share -/

theorem sound_lower? (lies : stage.LiesOption low high part) (role : Role) :
    Sound (stage.WithinOption low high) (lower? role part) := by
  cases part with
  | none => exact .pure Stage.withinOption_none
  | some part => exact (lies part rfl).note role

theorem Stage.Laid.lower {parts : List Part} (laid : stage.Laid here parts) (name : String) :
    Sound (fun item => ∀ t ∈ item, stage.Over here t)
      (lower? .plain (ParseTree.field? parts name)) :=
  sound_lower? (laid.allLie.field name) .plain

theorem sound_lowerAll {parts : List Part} (lie : stage.AllLie low high parts) (role : Role) :
    Sound (stage.AllWithinOptions low high) (lowerAll role parts) :=
  .each fun part member => (lie part member).note role

theorem sound_lower?_over (lies : stage.LiesOption low high part) (role : Role) :
    Sound (fun item => ∀ t ∈ item, ∃ p ∈ part, stage.Over p.mark t) (lower? role part) := by
  cases part with
  | none => exact .pure (by rintro t ⟨⟩)
  | some part => exact ((lies part rfl).placed.note role).imp fun _ spanned t found =>
      ⟨part, rfl, spanned t found⟩

variable {stop : Int}

/-- An array type that ends behind its element encloses it. -/
theorem sound_arrayAround {element : Tree} (start : stage.Le 0 low)
    (within : stage.Within low stop element) (bounded : stage.Le stop stage.text.length) :
    Sound (fun t => stage.Within low stop t ∧ t.kind? = some "ARRAY_TYPE" ∧ t.stop = stop)
      (makeAt "ARRAY_TYPE" element.start stop [] [("getType", .tree element)]) := by
  -- The array type starts where its element does, so the element lies in it from there on.
  have own : stage.Within element.start stop element :=
    ⟨within.toLowered, .refl _, within.ordered, within.upper⟩
  refine (sound_makeAt (start.trans within.lower) (within.ordered.trans within.upper) bounded
    (.cons (.tree own) .nil) rfl).imp ?_
  rintro t ⟨made, same⟩
  obtain ⟨kinded, -, stops⟩ := Tree.face_eq_iff.1 same
  exact ⟨made.mono within.lower (.refl _), kinded, stops⟩

theorem sound_arrayOf (count : Nat) {element : Tree} (start : stage.Le 0 low)
    (within : stage.Within low stop element) (bounded : stage.Le stop stage.text.length) :
    Sound (fun t => stage.Within low stop t ∧
      (t = element ∨ t.kind? = some "ARRAY_TYPE" ∧ t.stop = stop))
      (arrayOf stop count element) := by
  induction count generalizing element with
  | zero => exact .pure ⟨within, .inl rfl⟩
  | succ count ih =>
    refine (sound_arrayAround start within bounded).bind fun array ⟨around, made⟩ => ?_
    -- The first array type ends at the offset already, and so do those around it.
    refine (ih around).imp fun t ⟨again, same⟩ => ⟨again, .inr ?_⟩
    rcases same with rfl | wrapped
    · exact made
    · exact wrapped

/-- Dimensions behind a type make it end where they do. -/
theorem sound_wrapDimensions {type dimensions : Option Part} {element : Option Tree} {below : Int}
    (start : stage.Le 0 low) (spanned : ∀ t ∈ element, ∃ p ∈ type, stage.Over p.mark t)
    (typed : stage.LiesOption low high type)
    (dimensioned : stage.LiesOption below high dimensions)
    (precedes : ∀ p ∈ type, ∀ d ∈ dimensions, stage.Le p.mark.stop d.mark.start) :
    Sound (fun item => stage.WithinOption low high item ∧ ∀ t ∈ item, t ∈ element ∨
      t.kind? = some "ARRAY_TYPE" ∧ ∃ d ∈ dimensions, t.stop = stage.placeOf d.mark.stop)
      (wrapDimensions stage.source element dimensions) := by
  have plain : stage.WithinOption low high element := by
    intro t found
    obtain ⟨p, here, lies⟩ := spanned t found
    exact (typed p here).within lies
  -- Without an element or without dimensions there is nothing to wrap.
  cases element with
  | none => exact .pure ⟨plain, fun t found => .inl found⟩
  | some element =>
    cases dimensions with
    | none => exact .pure ⟨plain, fun t found => .inl found⟩
    | some dimensions =>
      have laid := (dimensioned dimensions rfl).placed.laid
      obtain ⟨p, here, lies⟩ := spanned element rfl
      -- The element ends before the dimensions start.
      have before : stage.Within low (stage.placeOf dimensions.mark.stop) element :=
        lies.mono (typed p here).lower
          ((Stage.placeOf_mono (precedes p here _ rfl)).trans laid.start_le_stop)
      refine (sound_offsetAt stage dimensions.mark.stop).bind fun stop same => ?_
      subst same
      refine (sound_arrayOf _ start before laid.le_length).bind
        fun array ⟨around, made⟩ => .pure ⟨?_, ?_⟩
      · exact (around.mono (.refl _) (dimensioned dimensions rfl).upper).some
      · rintro _ ⟨⟩
        exact made.imp (fun same => congrArg some same.symm)
          fun ⟨kinded, stops⟩ => ⟨kinded, dimensions, rfl, stops⟩

theorem sound_identifier {parts : List Part} (laid : stage.Laid here parts) :
    Sound (stage.Over here) (identifier stage.source here) := by
  refine (sound_textOf_eq stage.source here).bind fun name ⟨part, cut, isName⟩ => ?_
  subst isName
  refine laid.makeSpelled cut rfl fun t own spells => ⟨fun _ => spells, ?_⟩
  intro kind known literal
  cases own.symm.trans literal
  exact absurd known (by decide)

theorem sound_neededIdentifier (lies : stage.LiesOption low high part) :
    Sound (stage.Within low high) (neededIdentifier stage.source part) := by
  refine (sound_need part).bind fun part found => ?_
  exact (sound_identifier (lies part found).placed.laid).imp fun _ => (lies part found).within

/-! ### Order among trees -/

/-- Trees, with gaps, of which none starts or ends before an earlier one does. -/
def Stage.Rising (stage : Stage) (items : List (Option Tree)) : Prop :=
  items.Pairwise fun a b => ∀ x ∈ a, ∀ y ∈ b, stage.Le x.start y.start ∧ stage.Le x.stop y.stop

/-- Parts of which each ends before the later ones start. -/
def Stage.Apart (stage : Stage) (parts : List Part) : Prop :=
  parts.Pairwise fun a b => stage.Le a.mark.stop b.mark.start

theorem Stage.Laid.apart {parts : List Part} (laid : stage.Laid here parts) :
    stage.Apart parts := by
  -- A parse tree that is out of order promises nothing about its siblings.
  by_cases sure : stage.inOrder
  · exact (pairwise_map.1 (laid.arranged sure).siblings).imp fun before _ => before
  · exact pairwise_of_forall fun _ _ inOrder => absurd inOrder sure

theorem Stage.Apart.filter {parts : List Part} (apart : stage.Apart parts)
    (wanted : Part → Bool) : stage.Apart (parts.filter wanted) :=
  List.Pairwise.filter wanted apart

variable {α β : Type} {related : α → β → Prop}

theorem forall₂_each {bad : LoweringError → Prop} {step : α → Lower β} {items : List α}
    (steps : ∀ a ∈ items, (step a).Ends (related a) bad) :
    (Traced.each step items).Ends (List.Forall₂ related items) bad := by
  induction items with
  | nil => exact .pure .nil
  | cons a rest ih =>
    obtain ⟨here, later⟩ := forall_mem_cons.1 steps
    refine here.bind fun b first => ?_
    refine (ih later).bind fun others behind => ?_
    exact .pure (.cons first behind)

theorem exists_of_forall₂ {items : List α} {made : List β}
    (pairs : List.Forall₂ related items made) {b : β} (member : b ∈ made) :
    ∃ a ∈ items, related a b := by
  induction pairs with
  | nil => cases member
  | @cons a x rest others here later ih =>
    rcases mem_cons.1 member with rfl | behind
    · exact ⟨a, mem_cons_self, here⟩
    · obtain ⟨a, listed, tied⟩ := ih behind
      exact ⟨a, mem_cons_of_mem _ listed, tied⟩

/-- An order among parts carries over to what is made of them. -/
theorem pairwise_of_forall₂ {before : α → α → Prop}
    {below : β → β → Prop} {items : List α} {made : List β}
    (pairs : List.Forall₂ related items made) (ordered : items.Pairwise before)
    (carries : ∀ a b x y, before a b → related a x → related b y → below x y) :
    made.Pairwise below := by
  induction pairs with
  | nil => exact .nil
  | @cons a x rest others here later ih =>
    obtain ⟨first, ordered⟩ := pairwise_cons.1 ordered
    refine pairwise_cons.2 ⟨fun y member => ?_, ih ordered⟩
    -- A later value was made of a later part.
    obtain ⟨b, listed, tied⟩ := exists_of_forall₂ later member
    exact carries a b x y (first b listed) here tied

theorem Stage.Within.rises {middle : Int} {x y : Tree} (left : stage.Within low middle x)
    (right : stage.Within middle high y) : stage.Le x.start y.start ∧ stage.Le x.stop y.stop :=
  ⟨(left.ordered.trans left.upper).trans right.lower,
    (left.upper.trans right.lower).trans right.ordered⟩

namespace Stage.Rising

variable {items : List (Option Tree)}

theorem append {middle : Int} {first second : List (Option Tree)}
    (rising : stage.Rising first) (also : stage.Rising second)
    (before : stage.AllWithinOptions low middle first)
    (behind : stage.AllWithinOptions middle high second) : stage.Rising (first ++ second) :=
  pairwise_append.2 ⟨rising, also, fun a one b other x here y there =>
    (before a one x here).rises (behind b other y there)⟩

theorem start_le (rising : stage.Rising items) {first : Tree}
    (isFirst : items.head? = some (some first)) :
    ∀ item ∈ items, ∀ t ∈ item, stage.Le first.start t.start := by
  obtain ⟨rest, rfl⟩ := head?_eq_some_iff.1 isFirst
  refine forall_mem_cons.2 ⟨?_, fun item member t found => ?_⟩
  · rintro _ ⟨⟩
    exact .refl _
  · exact ((pairwise_cons.1 rising).1 item member first rfl t found).1

theorem le_stop (rising : stage.Rising items) {last : Tree}
    (isLast : items.getLast? = some (some last)) :
    ∀ item ∈ items, ∀ t ∈ item, stage.Le t.stop last.stop := by
  obtain ⟨others, rfl⟩ := getLast?_eq_some_iff.1 isLast
  refine forall_mem_append.2 ⟨fun item member t found => ?_, forall_mem_singleton.2 ?_⟩
  · exact ((pairwise_append.1 rising).2.2 item member _ mem_cons_self t found last rfl).2
  · rintro _ ⟨⟩
    exact .refl _

end Stage.Rising

theorem Stage.AllLie.behind {part : Part} {rest : List Part}
    (lie : stage.AllLie low high (part :: rest)) (apart : stage.Apart (part :: rest)) :
    stage.AllLie (stage.placeOf part.mark.stop) high rest := by
  intro other member
  have lies := lie other (mem_cons_of_mem _ member)
  exact ⟨lies.placed, placeOf_mono ((pairwise_cons.1 apart).1 other member), lies.upper⟩

end SyntaxGraph.Java
