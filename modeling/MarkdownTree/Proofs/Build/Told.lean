import MarkdownTree.Proofs.Build.Order
import MarkdownTree.Proofs.Tree.Sketch

/-! Told trees: the events that tell a tree in document order, and the builder that makes the same
tree of them again. -/

namespace MarkdownTree

/-- The kind of the node that an event makes on its own; a text may also continue another. -/
def Event.leafKind? : Event → Option Kind
  | .code literal => some (.code literal)
  | .html literal => some (.inlineHtml literal)
  | .softBreak => some .softBreak
  | .hardBreak => some .hardBreak
  | .rule => some .thematicBreak
  | _ => none

namespace Kind

/-- Whether a node of this kind collects what is told below it in a literal of its own. -/
def isBlockLiteral : Kind → Bool
  | codeBlock _ _ | htmlBlock _ => true
  | _ => false

/-- Whether nothing goes below a node of this kind. -/
def isLeaf : Kind → Bool
  | text _ | code _ | inlineHtml _ | softBreak | hardBreak | thematicBreak => true
  | kind => kind.isBlockLiteral

/-- Whether events can tell of a node of this kind. -/
def isTold : Kind → Bool
  | document | alert _ => false
  | heading level => 1 ≤ level ∧ level ≤ 6
  | _ => true

end Kind

/-- A row of trees that events can tell, with nothing below a leaf. -/
inductive Modelled : List Sketch → Prop
  | intro {row : List Sketch}
      (here : ∀ sketch ∈ row, sketch.kind.isTold ∧ (sketch.kind.isLeaf → sketch.row = []))
      (below : ∀ sketch ∈ row, Modelled sketch.row) : Modelled row

/-- A text and a text that starts where the first one ends: events cannot tell them from one. -/
def Touch (left right : Sketch) : Prop :=
  ∃ first second, left.kind = .text first ∧ right.kind = .text second ∧
    left.span.stop = right.span.start

/-- In no row of these trees do two neighbours touch. -/
inductive Apart : List Sketch → Prop
  | intro {row : List Sketch} (here : row.IsChain fun left right => ¬ Touch left right)
      (below : ∀ sketch ∈ row, Apart sketch.row) : Apart row

/-- Texts with touching ranges that tell one text together. -/
inductive TellsText : (literal : String) → Span → List SpannedEvent → Prop
  | last {literal : String} {span : Span} : TellsText literal span [⟨.text literal, span⟩]
  | more {first rest : String} {start middle stop : Nat} {events : List SpannedEvent}
      (others : TellsText rest ⟨middle, stop⟩ events) :
      TellsText (first ++ rest) ⟨start, stop⟩ (⟨.text first, ⟨start, middle⟩⟩ :: events)

/-- Events, made of payloads whatever their ranges, that tell a literal piece by piece. -/
inductive TellsLiteral (make : String → Event) : (literal : String) → List SpannedEvent → Prop
  | done : TellsLiteral make "" []
  | more {first rest : String} {span : Span} {events : List SpannedEvent}
      (others : TellsLiteral make rest events) :
      TellsLiteral make (first ++ rest) (⟨make first, span⟩ :: events)

/-- The events that tell a row of trees in document order. -/
inductive Tells : List Sketch → List SpannedEvent → Prop
  | done : Tells [] []
  /-- A container is told from its start to its end. -/
  | container (container : Container) {kind : Kind} {span : Span} (ended : Span)
      {below row : List Sketch} {inner events : List SpannedEvent}
      (models : container.kind? = some kind) (plain : kind.isBlockLiteral = false)
      (inside : Tells below inner) (after : Tells row events) :
      Tells (.node kind span below :: row)
        (⟨.start container, span⟩ :: inner ++ ⟨.stop, ended⟩ :: events)
  /-- Inside a code block its literal is told as text. -/
  | codeBlock (container : Container) {info literal : String} {span : Span} (ended : Span)
      {row : List Sketch} {inner events : List SpannedEvent}
      (models : container.kind? = some (.codeBlock info ""))
      (inside : TellsLiteral .text literal inner) (after : Tells row events) :
      Tells (.node (.codeBlock info literal) span [] :: row)
        (⟨.start container, span⟩ :: inner ++ ⟨.stop, ended⟩ :: events)
  /-- Inside an HTML block its literal is told as raw HTML. -/
  | htmlBlock {literal : String} {span : Span} (ended : Span) {row : List Sketch}
      {inner events : List SpannedEvent}
      (inside : TellsLiteral .html literal inner) (after : Tells row events) :
      Tells (.node (.htmlBlock literal) span [] :: row)
        (⟨.start .htmlBlock, span⟩ :: inner ++ ⟨.stop, ended⟩ :: events)
  | text {literal : String} {span : Span} {row : List Sketch} {inner events : List SpannedEvent}
      (inside : TellsText literal span inner) (after : Tells row events) :
      Tells (.node (.text literal) span [] :: row) (inner ++ events)
  | leaf (event : Event) {kind : Kind} {span : Span} {row : List Sketch}
      {events : List SpannedEvent} (makes : event.leafKind? = some kind)
      (after : Tells row events) : Tells (.node kind span [] :: row) (⟨event, span⟩ :: events)

/-- Every kind that is told and is no leaf is that of some container. -/
theorem Kind.exists_container {kind : Kind} (told : kind.isTold) (inner : kind.isLeaf = false) :
    ∃ container : Container, container.kind? = some kind := by
  cases kind with
  | paragraph => exact ⟨.paragraph, rfl⟩
  | heading level => exact ⟨.heading level, rfl⟩
  | blockQuote => exact ⟨.blockQuote, rfl⟩
  | list start => exact ⟨.list start, rfl⟩
  | item => exact ⟨.item, rfl⟩
  | emphasis => exact ⟨.emphasis, rfl⟩
  | strong => exact ⟨.strong, rfl⟩
  | strikethrough => exact ⟨.strikethrough, rfl⟩
  | link target => exact ⟨.link .inline target "", rfl⟩
  | linkRef target label => exact ⟨.link .reference target label, rfl⟩
  | image target => exact ⟨.image .inline target "", rfl⟩
  | imageRef target label => exact ⟨.image .reference target label, rfl⟩
  -- Of the root and of alerts nothing tells, and all others are leaves.
  | document | alert _ => cases told
  | _ => cases inner

/-- A literal may be told in one piece. -/
theorem TellsLiteral.single (make : String → Event) (literal : String) (span : Span) :
    TellsLiteral make literal [⟨make literal, span⟩] := by
  have piece : TellsLiteral make (literal ++ "") [⟨make literal, span⟩] := .more .done
  rwa [String.append_empty] at piece

/-- A node can be told before a row that is told, if what is below it can. -/
theorem Tells.exists_cons {kind : Kind} {below row : List Sketch}
    {inner events : List SpannedEvent} (told : kind.isTold) (leaf : kind.isLeaf → below = [])
    (inside : Tells below inner) (after : Tells row events) (span : Span) :
    ∃ events, Tells (.node kind span below :: row) events := by
  -- A leaf is told by an event of its own or by its literal, all else by what is below it.
  cases isLeaf : kind.isLeaf with
  | false =>
    obtain ⟨container, models⟩ := kind.exists_container told isLeaf
    -- A block with a literal of its own is a leaf.
    have plain : kind.isBlockLiteral = false := by
      cases kind <;> first | rfl | cases isLeaf
    exact ⟨_, .container container span models plain inside after⟩
  | true =>
    rw [leaf isLeaf]
    cases kind with
    | text literal => exact ⟨_, .text .last after⟩
    | codeBlock info literal =>
      exact ⟨_, .codeBlock (.codeBlock (some info)) span rfl (.single _ literal span) after⟩
    | htmlBlock literal => exact ⟨_, .htmlBlock span (.single _ literal span) after⟩
    | code literal => exact ⟨_, .leaf (.code literal) rfl after⟩
    | inlineHtml literal => exact ⟨_, .leaf (.html literal) rfl after⟩
    | softBreak => exact ⟨_, .leaf .softBreak rfl after⟩
    | hardBreak => exact ⟨_, .leaf .hardBreak rfl after⟩
    | thematicBreak => exact ⟨_, .leaf .rule rfl after⟩
    | _ => cases isLeaf

/-- Every modelled row can be told. -/
theorem Modelled.exists_tells {row : List Sketch} (modelled : Modelled row) :
    ∃ events, Tells row events := by
  induction modelled with
  | @intro row here lower below =>
    -- The rows below are told by induction; this row is told from its end.
    induction row with
    | nil => exact ⟨[], .done⟩
    | cons sketch row ih =>
      obtain ⟨kind, span, inner⟩ := sketch
      rw [List.forall_mem_cons] at here lower below
      obtain ⟨_, inside⟩ := below.1
      obtain ⟨_, after⟩ := ih here.2 lower.2 below.2
      exact inside.exists_cons here.1.1 here.1.2 after span

namespace Builder

variable {builder after : Builder} {kind : Kind} {span : Span}

/-- The sketches of what is below the innermost open node. -/
def row (builder : Builder) : List Sketch :=
  (builder.doc.children builder.parent).map builder.doc.sketch

/-- Between two builders the row of the innermost open node went on, and nothing else changed. -/
structure Grown (builder after : Builder) (row : List Sketch) : Prop where
  wellFormed : after.WellFormed
  spine : after.spine = builder.spine
  doc : Document.Extends builder.doc after.doc builder.parent
  row : after.row = builder.row ++ row

/-- Builders with the same open nodes have the same innermost one. -/
theorem parent_congr (spine : after.spine = builder.spine) : after.parent = builder.parent := by
  rw [parent, parent, spine]

/-- A row that went on twice went on. -/
theorem Grown.trans {middle : Builder} {first second : List Sketch}
    (grown : Grown builder middle first) (more : Grown middle after second) :
    Grown builder after (first ++ second) where
  wellFormed := more.wellFormed
  spine := more.spine.trans grown.spine
  doc := grown.doc.trans (parent_congr grown.spine ▸ more.doc)
  row := by rw [more.row, grown.row, List.append_assoc]

/-- The innermost open node stays what it is. -/
theorem Grown.kind_parent {row : List Sketch} (wf : builder.WellFormed)
    (grown : Grown builder after row) :
    after.doc.kind after.parent = builder.doc.kind builder.parent := by
  rw [parent_congr grown.spine, grown.doc.nodes.kind _ wf.parent_stored]

namespace WellFormed

variable (wf : builder.WellFormed)
include wf

/-- A leaf makes the row of the innermost open node longer by its sketch. -/
theorem grown_addLeaf (kind : Kind) (span : Span) :
    Grown builder (builder.addLeaf kind span) [.node kind span []] := by
  have added := wf.added kind span
  have wf' := wf.addLeaf kind span
  refine ⟨wf', rfl, added.extends_parent, ?_⟩
  -- The row is the old one and the new node, which has nothing below it.
  show ((builder.addLeaf kind span).doc.children builder.parent).map _ = _
  rw [added.children, if_pos rfl, List.map_append, List.map_singleton, wf'.doc.sketch_eq,
    added.kind, if_pos rfl, added.span, if_pos rfl, added.children_new wf.doc wf.parent_stored]
  refine congrArg (· ++ _) (List.map_congr_left fun child member => ?_)
  exact wf.doc.sketch_child wf'.doc added.extends_parent member

/-- What is told between the start and the end of a container goes below its node. -/
theorem grown_enter {inner : Builder} {below : List Sketch} (kind : Kind) (span : Span)
    (grown : Grown (builder.enter kind span) inner below) :
    Grown builder { inner with spine := inner.spine.tail } [.node kind span below] := by
  have added : Document.Added builder.doc (builder.enter kind span).doc builder.parent kind span :=
    wf.added kind span
  have spine : inner.spine.tail = builder.spine := congrArg List.tail grown.spine
  have inside : inner.parent = builder.doc.size := parent_congr grown.spine
  have fresh : builder.doc.size < (builder.enter kind span).doc.size :=
    added.size ▸ Nat.lt_succ_self _
  -- The new node shows the container with what was told inside.
  have node : inner.doc.sketch builder.doc.size = .node kind span below := by
    have told := grown.row
    rw [show (builder.enter kind span).row = [] from
      List.map_eq_nil_iff.mpr (added.children_new wf.doc wf.parent_stored), List.nil_append] at told
    rw [grown.wellFormed.doc.sketch_eq, grown.doc.nodes.kind _ fresh, added.kind, if_pos rfl,
      grown.doc.nodes.span _ fresh, added.span, if_pos rfl, ← inside]
    exact congrArg _ told
  -- Of the rows there were, only that of the parent changes, by the new node.
  have rows : ∀ id < builder.doc.size,
      inner.doc.children id = (builder.enter kind span).doc.children id := fun id stored =>
    grown.doc.rows id (Nat.lt_trans stored fresh) (Nat.ne_of_lt stored)
  have extended : Document.Extends builder.doc inner.doc builder.parent :=
    ⟨added.keepsNodes.trans grown.doc.nodes, fun id stored elsewhere =>
      (rows id stored).trans (added.extends_parent.rows id stored elsewhere)⟩
  refine ⟨grown.wellFormed.leave, spine, extended, ?_⟩
  show (inner.doc.children (parent { inner with spine := inner.spine.tail })).map _ = _
  rw [show parent { inner with spine := inner.spine.tail } = builder.parent from
      parent_congr spine, rows _ wf.parent_stored, added.children, if_pos rfl, List.map_append,
    List.map_singleton, node]
  refine congrArg (· ++ _) (List.map_congr_left fun child member => ?_)
  exact wf.doc.sketch_child grown.wellFormed.doc extended member

/-- A text that goes on where a new one ends makes it longer. -/
theorem push_text_addLeaf (noCode : ∀ info sofar, ¬ builder.InCode info sofar)
    (first rest : String) (start middle stop : Nat) :
    (builder.addLeaf (.text first) ⟨start, middle⟩).push ⟨.text rest, ⟨middle, stop⟩⟩ =
      builder.addLeaf (.text (first ++ rest)) ⟨start, stop⟩ := by
  have added := wf.added (.text first) ⟨start, middle⟩
  have continues : (builder.addLeaf (.text first) ⟨start, middle⟩).Continues middle
      builder.doc.size first := by
    refine ⟨added.lastChild_parent, ?_, ?_⟩
    · rw [added.kind, if_pos rfl]
    · rw [added.span, if_pos rfl]
  -- The leaf does not change what is open.
  have noCode' : ∀ info sofar,
      ¬ (builder.addLeaf (.text first) ⟨start, middle⟩).InCode info sofar := fun info sofar block =>
    noCode info sofar ((added.keepsNodes.kind _ wf.parent_stored).symm.trans block)
  rw [push_text_of_continues noCode' continues]
  -- The leaf with a longer text and another end is the one with these from the start.
  refine congrArg (fun doc => Builder.mk doc builder.spine) ?_
  exact ((added.setKind _).setStop stop).unique (wf.added _ _)

omit wf in
/-- A text that continues no other makes a leaf. -/
theorem push_text_apart (noCode : ∀ info sofar, ¬ builder.InCode info sofar) {span : Span}
    (apart : ∀ last sofar, ¬ builder.Continues span.start last sofar) (literal : String) :
    builder.push ⟨.text literal, span⟩ = builder.addLeaf (.text literal) span := by
  rcases text_cases builder literal span with ⟨info, sofar, block, _⟩ |
    ⟨last, sofar, _, continues, _⟩ | ⟨_, _, made⟩
  · exact absurd block (noCode info sofar)
  · exact absurd continues (apart last sofar)
  · exact made

/-- Texts with touching ranges make one leaf, unless the first one continues another. -/
theorem push_texts {literal : String} {span : Span} {events : List SpannedEvent}
    (told : TellsText literal span events) (noCode : ∀ info sofar, ¬ builder.InCode info sofar)
    (apart : ∀ last sofar, ¬ builder.Continues span.start last sofar) :
    events.foldl Builder.push builder = builder.addLeaf (.text literal) span := by
  -- Once the first text has made a leaf, each of the others makes it longer.
  have others : ∀ {first : String} {start : Nat} {rest : String} {span : Span}
      {events : List SpannedEvent}, TellsText rest span events →
      events.foldl Builder.push (builder.addLeaf (.text first) ⟨start, span.start⟩) =
        builder.addLeaf (.text (first ++ rest)) ⟨start, span.stop⟩ := by
    intro first start rest span events told
    induction told generalizing first with
    | last =>
      rw [List.foldl_cons, List.foldl_nil]
      exact wf.push_text_addLeaf noCode _ _ _ _ _
    | more _ ih =>
      rw [List.foldl_cons, wf.push_text_addLeaf noCode, ih, String.append_assoc]
  cases told with
  | last => rw [List.foldl_cons, List.foldl_nil, push_text_apart noCode apart]
  | @more first _ start middle _ _ told =>
    -- The leaf of the first text starts where the whole text starts.
    have leaf := @push_text_apart builder noCode ⟨start, middle⟩ apart first
    have longer := @others first start _ _ _ told
    rw [List.foldl_cons, leaf]
    exact longer

/-- A node that is entered and gets another kind was entered with that kind. -/
theorem enter_setKind (kind later : Kind) (span : Span) :
    let entered := builder.enter kind span
    { entered with doc := entered.doc.setKind entered.parent later } =
      builder.enter later span := by
  have same := ((wf.added kind span).setKind later).unique (wf.added later span)
  exact congrArg (fun doc => Builder.mk doc (some builder.doc.size :: builder.spine)) same

/-- A node is open with its kind once it is entered. -/
theorem kind_enter (kind : Kind) (span : Span) :
    (builder.enter kind span).doc.kind (builder.enter kind span).parent = kind :=
  ((wf.added kind span).kind _).trans (if_pos rfl)

/-- Inside a new block that collects the payloads of some events these make up its literal. -/
theorem push_literal {make : String → Event} (block : String → Kind)
    (collects : ∀ {builder : Builder} {sofar : String},
      builder.doc.kind builder.parent = block sofar → ∀ payload span,
      builder.push ⟨make payload, span⟩ =
        { builder with doc := builder.doc.setKind builder.parent (block (sofar ++ payload)) })
    {literal : String} {events : List SpannedEvent} (told : TellsLiteral make literal events)
    (span : Span) (sofar : String) : events.foldl Builder.push (builder.enter (block sofar) span) =
      builder.enter (block (sofar ++ literal)) span := by
  induction told generalizing sofar with
  | done => rw [String.append_empty, List.foldl_nil]
  | more _ ih =>
    -- The block with the payload in its literal is the one that was entered with it.
    rw [List.foldl_cons, collects (wf.kind_enter _ _), ← String.append_assoc, ← ih]
    exact congrArg (fun builder => List.foldl Builder.push builder _) (wf.enter_setKind _ _ _)

end WellFormed

/-- A builder that may be told a row: the innermost open node has no literal of its own, and nowhere
does a text of the row touch the text before it, be that new or there already. -/
structure Ready (builder : Builder) (row : List Sketch) : Prop where
  wellFormed : builder.WellFormed
  plain : (builder.doc.kind builder.parent).isBlockLiteral = false
  here : (builder.row ++ row).IsChain fun left right => ¬ Touch left right
  below : ∀ sketch ∈ row, Apart sketch.row

namespace Ready

variable {row below : List Sketch} {sketch : Sketch}

/-- No block with a literal of its own is open. -/
theorem kind_ne (ready : Ready builder row) {block : Kind} (isBlock : block.isBlockLiteral) :
    builder.doc.kind builder.parent ≠ block := by
  rintro rfl
  rw [ready.plain] at isBlock
  cases isBlock

/-- A text at the start of the row continues no other. -/
theorem apart {literal : String} (ready : Ready builder (.node (.text literal) span below :: row))
    (last : NodeId) (sofar : String) : ¬ builder.Continues span.start last sofar := by
  intro continues
  have wf := ready.wellFormed.doc
  -- The text that it would continue ends the row that there is.
  have ending : builder.row.getLast? = some (builder.doc.sketch last) := by
    rw [Builder.row, List.getLast?_map, ← wf.linked.last, continues.row, Option.map_some]
  refine (List.isChain_append.mp ready.here).2.2 _ ending _ rfl ⟨sofar, literal, ?_, rfl, ?_⟩
  · rw [wf.sketch_eq]
    exact continues.kind
  · rw [wf.sketch_eq]
    exact continues.stop

/-- Once the first of the row is told, the builder may be told the others. -/
theorem rest (ready : Ready builder (sketch :: row)) (grown : Grown builder after [sketch]) :
    Ready after row where
  wellFormed := grown.wellFormed
  plain := by rw [grown.kind_parent ready.wellFormed, ready.plain]
  -- What is told already and what is still to be told are the same row as before.
  here := by
    rw [grown.row, List.append_assoc]
    exact ready.here
  below other member := ready.below other (List.mem_cons_of_mem _ member)

/-- A new container may be told what is below it. -/
theorem enter (ready : Ready builder (.node kind span below :: row))
    (plain : kind.isBlockLiteral = false) : Ready (builder.enter kind span) below := by
  have wf := ready.wellFormed
  -- Nothing stands in the new container yet, so its row is just what it is told.
  have empty : (builder.enter kind span).row = [] :=
    List.map_eq_nil_iff.mpr ((wf.added kind span).children_new wf.doc wf.parent_stored)
  obtain ⟨here, lower⟩ := ready.below _ List.mem_cons_self
  exact ⟨wf.enter kind span, (wf.kind_enter kind span).symm ▸ plain, empty.symm ▸ here, lower⟩

/-- A leaf at the start of the row makes the row of the innermost open node longer. -/
theorem leaf (ready : Ready builder (.node kind span [] :: row)) :
    Grown builder (builder.addLeaf kind span) [.node kind span []] :=
  ready.wellFormed.grown_addLeaf kind span

/-- An event that tells a leaf adds it. -/
theorem push_leaf (ready : Ready builder row) {event : Event}
    (makes : event.leafKind? = some kind) (span : Span) :
    builder.push ⟨event, span⟩ = builder.addLeaf kind span := by
  cases event with
  | html literal =>
    obtain rfl : Kind.inlineHtml literal = kind := Option.some.inj makes
    rcases builder.html_cases literal span with ⟨sofar, block, _⟩ | ⟨_, made⟩
    · exact absurd block (ready.kind_ne rfl)
    · exact made
  | code | softBreak | hardBreak | rule =>
    obtain rfl := Option.some.inj makes
    rfl
  | start | stop | text | unmodelled => cases makes

end Ready

/-- Events that tell a row make the row of the innermost open node go on with it. -/
theorem grown_of_tells {row : List Sketch} {events : List SpannedEvent} (told : Tells row events)
    (ready : Ready builder row) : Grown builder (events.foldl push builder) row := by
  -- In each case the first of the row is told, and the induction tells the others after it.
  induction told generalizing builder with
  | done =>
    exact ⟨ready.wellFormed, rfl, ⟨⟨rfl, Nat.le_refl _, fun _ _ => rfl, fun _ _ => rfl⟩,
      fun _ _ _ => rfl⟩, (List.append_nil _).symm⟩
  | container container ended models plain inside rest ihInside ihRest =>
    have first := ready.wellFormed.grown_enter _ _ (ihInside (ready.enter plain))
    rw [List.cons_append, List.foldl_cons, push_start models, List.foldl_append, List.foldl_cons]
    -- The end of the container makes the node around it the innermost open one again.
    exact first.trans (ihRest (ready.rest first))
  | codeBlock container ended models inside rest ihRest =>
    rw [List.cons_append, List.foldl_cons, push_start models, List.foldl_append, List.foldl_cons,
      ready.wellFormed.push_literal (.codeBlock _) push_text_of_inCode inside, String.empty_append]
    -- A block that is entered and left again is a leaf.
    exact ready.leaf.trans (ihRest (ready.rest ready.leaf))
  | htmlBlock ended inside rest ihRest =>
    rw [List.cons_append, List.foldl_cons, push_start rfl, List.foldl_append, List.foldl_cons,
      ready.wellFormed.push_literal .htmlBlock push_html_of_inHtml inside, String.empty_append]
    exact ready.leaf.trans (ihRest (ready.rest ready.leaf))
  | text inside rest ihRest =>
    have noCode : ∀ info sofar, ¬ builder.InCode info sofar := fun _ _ => ready.kind_ne rfl
    rw [List.foldl_append, ready.wellFormed.push_texts inside noCode ready.apart]
    exact ready.leaf.trans (ihRest (ready.rest ready.leaf))
  | leaf event makes rest ihRest =>
    rw [List.foldl_cons, ready.push_leaf makes]
    exact ready.leaf.trans (ihRest (ready.rest ready.leaf))

end Builder

/--
Building undoes telling: whatever events tell a row of trees, they make a document that shows just
this row below its root.

Every modelled row can be told, its literals and its texts in many ways. If no text in it touches
the text before it, all these ways make the same row of kinds and spans, in a document whose links
agree and whose nodes were created in document order.
-/
theorem building_undoes_telling (source : String) {row : List Sketch} (modelled : Modelled row)
    (apart : Apart row) :
    (∃ events, Tells row events) ∧
    ∀ events, Tells row events →
      let doc := Document.ofEvents source events
      doc.WellFormed ∧ doc.source = source ∧
      doc.sketch Document.root = .node .document ⟨0, source.utf8ByteSize⟩ row ∧
      doc.descendants Document.root = List.range doc.size := by
  refine ⟨modelled.exists_tells, fun events told => ?_⟩
  have start := Builder.wellFormed_ofSource source
  obtain ⟨here, lower⟩ := apart
  -- Nothing is open at first, and nothing stands below the root.
  have grown := Builder.grown_of_tells told ⟨start, rfl, here, lower⟩
  have below := grown.row
  rw [Builder.row, Builder.parent_congr grown.spine] at below
  have shown : (events.foldl Builder.push (.ofSource source)).doc.sketch Document.root =
      .node .document ⟨0, source.utf8ByteSize⟩ row := by
    rw [grown.wellFormed.doc.sketch_eq, grown.doc.nodes.kind _ start.doc.root_stored,
      grown.doc.nodes.span _ start.doc.root_stored]
    exact congrArg (Sketch.node _ _) below
  exact ⟨grown.wellFormed.doc, grown.doc.nodes.source, shown, grown.wellFormed.order⟩

/-- A text around an entity is told in three pieces, and the literal of the code block after it in
two. -/
theorem entity_in_text_rejoined :
    let row : List Sketch :=
      [.node .paragraph ⟨0, 7⟩ [.node (.text "a&b") ⟨0, 7⟩ []],
        .node (.codeBlock "" "c\nd") ⟨13, 21⟩ []]
    let events : List SpannedEvent :=
      [⟨.start .paragraph, ⟨0, 7⟩⟩, ⟨.text "a", ⟨0, 1⟩⟩, ⟨.text "&", ⟨1, 6⟩⟩, ⟨.text "b", ⟨6, 7⟩⟩,
        ⟨.stop, ⟨0, 7⟩⟩, ⟨.start (.codeBlock none), ⟨13, 21⟩⟩, ⟨.text "c\n", ⟨13, 15⟩⟩,
        ⟨.text "d", ⟨19, 20⟩⟩, ⟨.stop, ⟨13, 21⟩⟩]
    Modelled row ∧ Apart row ∧ Tells row events ∧
      (Document.ofEvents "a&amp;b\n\n    c\n    d\n" events).sketch Document.root =
        .node .document ⟨0, 21⟩ row := by
  intro row events
  have empty : Modelled [] ∧ Apart [] := ⟨⟨by simp, by simp⟩, ⟨.nil, by simp⟩⟩
  have text : Modelled [.node (.text "a&b") ⟨0, 7⟩ []] ∧ Apart [.node (.text "a&b") ⟨0, 7⟩ []] :=
    ⟨⟨by simp [Sketch.kind, Sketch.row, Kind.isTold], by simpa [Sketch.row] using empty.1⟩,
      ⟨.singleton _, by simpa [Sketch.row] using empty.2⟩⟩
  have modelled : Modelled row :=
    ⟨by simp [row, Sketch.kind, Sketch.row, Kind.isTold, Kind.isLeaf, Kind.isBlockLiteral],
      by simpa [row, Sketch.row] using ⟨text.1, empty.1⟩⟩
  have apart : Apart row :=
    ⟨by simp [row, Touch, Sketch.kind], by simpa [row, Sketch.row] using ⟨text.2, empty.2⟩⟩
  have joined : "a" ++ ("&" ++ "b") = "a&b" ∧ "c\n" ++ ("d" ++ "") = "c\nd" := ⟨rfl, rfl⟩
  have text : TellsText ("a" ++ ("&" ++ "b")) ⟨0, 7⟩ ((events.drop 1).take 3) :=
    .more (.more .last)
  have code : TellsLiteral .text ("c\n" ++ ("d" ++ "")) ((events.drop 6).take 2) :=
    .more (.more .done)
  rw [joined.1] at text
  rw [joined.2] at code
  have told : Tells row events :=
    .container .paragraph ⟨0, 7⟩ rfl rfl (.text text .done)
      (.codeBlock (.codeBlock none) ⟨13, 21⟩ rfl code .done)
  have size : "a&amp;b\n\n    c\n    d\n".utf8ByteSize = 21 := by decide
  obtain ⟨_, _, shown, _⟩ :=
    (building_undoes_telling "a&amp;b\n\n    c\n    d\n" modelled apart).2 events told
  rw [size] at shown
  exact ⟨modelled, apart, told, shown⟩

end MarkdownTree
