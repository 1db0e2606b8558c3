import MarkdownTree.Proofs.Build.Order
import MarkdownTree.Proofs.Html.Markup
import MarkdownTree.Proofs.Tree.Content

/-! Unjoined texts: that a builder joins texts shows in the nodes of the document, but neither in
its HTML nor in its plain text. -/

namespace MarkdownTree

namespace Document

/-- One document is another with some texts joined: each node that is no text has its own place
there, with its kind and with the same pieces below it. -/
structure Joins (place : NodeId → NodeId) (split joined : Document) : Prop where
  root : place root = root
  innerRoot : split.Inner Document.root
  -- Of the places of texts nothing is said: there may be fewer texts than before.
  kind : ∀ id, split.Inner id → joined.kind (place id) = split.kind id
  stored : ∀ id, split.Inner id → place id < joined.size
  distinct : ∀ id other, split.Inner id → split.Inner other → place id = place other → id = other
  content : ∀ id, split.Inner id →
    joined.content (place id) = (split.content id).map (Part.rename place)
  splitEmpty : split.TextsEmpty
  joinedEmpty : joined.TextsEmpty

namespace Joins

/-- A document is itself with no texts joined. -/
theorem refl {doc : Document} (inner : doc.Inner Document.root) (empty : doc.TextsEmpty) :
    Joins id doc doc where
  root := rfl
  innerRoot := inner
  kind _ _ := rfl
  stored _ inner := inner.stored
  distinct _ _ _ _ same := same
  content id _ := by
    have same : ∀ part : Part, part.rename (fun id => id) = part := fun part => by
      cases part <;> rfl
    exact (List.map_congr_left fun part _ => same part).trans (List.map_id _) |>.symm
  splitEmpty := empty
  joinedEmpty := empty

variable {place : NodeId → NodeId} {split joined split' joined' : Document}
  (joins : Joins place split joined)
include joins

/-- In its place a node is no text either. -/
theorem inner {id : NodeId} (inner : split.Inner id) : joined.Inner (place id) :=
  ⟨joins.stored id inner, joins.kind id inner ▸ inner.other⟩

/-- A node in the place of another one is that node. -/
theorem place_eq_iff {id other : NodeId} (inner : split.Inner id) (inner' : split.Inner other) :
    place id = place other ↔ id = other :=
  ⟨joins.distinct id other inner inner', congrArg place⟩

/-- The same characters may be added below a node and in its place, however many texts it takes. -/
theorem gain {parent : NodeId} (wf : split.WellFormed) (wf' : joined.WellFormed)
    (inner : split.Inner parent) {literal : List Char}
    (gains : Gains split split' parent (literal.map .char))
    (gains' : Gains joined joined' (place parent) (literal.map .char))
    (old : ∀ id, split'.Inner id → split.Inner id) : Joins place split' joined' where
  root := joins.root
  innerRoot := gains.inner joins.innerRoot
  kind id new := by
    rw [gains'.kind _ (joins.inner (old id new)), gains.kind id (old id new),
      joins.kind id (old id new)]
  stored id new := Nat.lt_of_lt_of_le (joins.stored id (old id new)) gains'.size
  distinct id other new new' := joins.distinct id other (old id new) (old other new')
  content id new := by
    -- Characters have no names.
    have chars : (literal.map Part.char).map (Part.rename place) = literal.map .char := by
      simp [Part.rename]
    rw [gains'.content, gains.content, joins.content id (old id new)]
    by_cases same : id = parent
    · rw [if_pos (congrArg place same), if_pos same, List.map_append, chars]
    · rw [if_neg (mt (joins.distinct id parent (old id new) inner) same), if_neg same]
  splitEmpty := gains.textsEmpty wf joins.splitEmpty inner
  joinedEmpty := gains'.textsEmpty wf' joins.joinedEmpty (joins.inner inner)

/-- A node that is no text may be added below another one and in its place. -/
theorem node {parent : NodeId} {kind : Kind} {span : Span} (wf : split.WellFormed)
    (wf' : joined.WellFormed) (inner : split.Inner parent) (other : kind.tag ≠ .text)
    (added : Added split split' parent kind span)
    (added' : Added joined joined' (place parent) kind span) :
    Joins (Function.update place split.size joined.size) split' joined' := by
  have gains := added.gains wf
  have gains' := added'.gains wf'
  rw [Kind.parts_of_ne_text other] at gains gains'
  -- The new node goes to the new place, and all others stay where they are.
  have new : Function.update place split.size joined.size split.size = joined.size :=
    Function.update_self _ _ _
  have old : ∀ id < split.size, Function.update place split.size joined.size id = place id :=
    fun id stored => Function.update_of_ne (Nat.ne_of_lt stored) _ _
  have apart : ∀ id, split.Inner id → place id ≠ joined.size := fun id inner =>
    Nat.ne_of_lt (joins.stored id inner)
  refine
    { root := (old _ wf.root_stored).trans joins.root
      innerRoot := gains.inner joins.innerRoot
      kind := ?kind
      stored := ?stored
      distinct := ?distinct
      content := ?content
      splitEmpty := gains.textsEmpty wf joins.splitEmpty inner
      joinedEmpty := gains'.textsEmpty wf' joins.joinedEmpty (joins.inner inner) }
  case kind =>
    intro id inner'
    rcases added.inner_cases inner' with before | rfl
    · rw [old id before.stored, gains'.kind _ (joins.inner before), gains.kind id before,
        joins.kind id before]
    · rw [new, added'.kind, added.kind, if_pos rfl, if_pos rfl]
  case stored =>
    intro id inner'
    rcases added.inner_cases inner' with before | rfl
    · rw [old id before.stored, added'.size]
      exact Nat.lt_succ_of_lt (joins.stored id before)
    · rw [new, added'.size]
      exact Nat.lt_succ_self _
  case distinct =>
    intro id id' inner' inner'' same
    rcases added.inner_cases inner' with before | rfl <;>
      rcases added.inner_cases inner'' with before' | rfl
    · rw [old id before.stored, old id' before'.stored] at same
      exact joins.distinct id id' before before' same
    · -- No old node goes to the new place.
      rw [old id before.stored, new] at same
      exact absurd same (apart id before)
    · rw [old id' before'.stored, new] at same
      exact absurd same.symm (apart id' before')
    · rfl
  case content =>
    intro id inner'
    rcases added.inner_cases inner' with before | rfl
    · -- What stood below a node before has not moved.
      rw [old id before.stored, gains'.content, gains.content, joins.content id before]
      by_cases same : id = parent
      · rw [if_pos (congrArg place same), if_pos same, List.map_append, wf.rename_content old,
          List.map_singleton, Part.rename, new]
      · rw [if_neg (mt (joins.distinct id parent before inner) same), if_neg same,
          wf.rename_content old]
    · -- Nothing is below the new node.
      rw [new, Document.content, Document.content, added.children_new wf inner.stored,
        added'.children_new wf' (joins.inner inner).stored]
      rfl

/-- A node that is no text may get other fields together with that in its place. -/
theorem setKind {id : NodeId} {kind : Kind} (wf : split.WellFormed) (wf' : joined.WellFormed)
    (inner : split.Inner id) (other : kind.tag ≠ .text) :
    Joins place (split.setKind id kind) (joined.setKind (place id) kind) := by
  have inner' := joins.inner inner
  -- What is no text is none before either.
  have before : ∀ {node}, (split.setKind id kind).Inner node → split.Inner node :=
    (inner_setKind_iff inner other).mp
  refine
    { root := joins.root
      innerRoot := (inner_setKind_iff inner other).mpr joins.innerRoot
      kind := fun node changed => ?_
      stored := fun node changed => (size_update _ _ _).symm ▸ joins.stored node (before changed)
      distinct := fun node node' changed changed' =>
        joins.distinct node node' (before changed) (before changed')
      content := fun node changed => ?_
      splitEmpty := joins.splitEmpty.setKind inner other wf
      joinedEmpty := joins.joinedEmpty.setKind inner' other wf' }
  · rw [kind_setKind inner'.stored, kind_setKind inner.stored, joins.kind node (before changed)]
    exact if_congr (joins.place_eq_iff (before changed) inner) rfl rfl
  · rw [wf'.content_setKind inner' other, wf.content_setKind inner other,
      joins.content node (before changed)]

/-- Joined texts do not show in plain text. -/
theorem plainText_eq (wf : split.WellFormed) (wf' : joined.WellFormed) {id : NodeId}
    (inner : split.Inner id) : joined.plainText (place id) = split.plainText id := by
  -- The texts are read off the contents, so the induction only goes through nodes with a place.
  induction id using wf.child_induction with
  | step id ih =>
    rw [wf'.plainText_content joins.joinedEmpty, wf.plainText_content joins.splitEmpty,
      joins.kind id inner, joins.content id inner, List.map_map]
    refine congrArg (_ ++ String.join ·) (List.map_congr_left fun part member => ?_)
    cases part with
    | char => rfl
    | node child =>
      obtain ⟨here, inner⟩ := wf.inner_of_mem_content member
      exact ih child here inner

end Joins

/-- A text is written character by character. -/
theorem escapeHtml_eq_join (literal : String) : escapeHtml literal =
    String.join (literal.toList.map fun c => String.ofList (escapedChar c)) := by
  refine String.toList_inj.mp ?_
  simp [escapeHtml, String.toList_join, List.flatMap_map]

/-- The HTML of a subtree is the markup of its top around what its contents come to. -/
theorem WellFormed.renderNode_content {doc : Document} (wf : doc.WellFormed) (id : NodeId) :
    HandlerTable.standard.renderNode doc id = (doc.kind id).markup (doc.plainText id)
      (String.join ((doc.content id).map (Part.value (fun c => String.ofList (escapedChar c))
        (HandlerTable.standard.renderNode doc)))) := by
  rw [wf.renderNode_eq, join_content fun child _ literal kind => ?_]
  rw [wf.renderNode_eq, kind, ← escapeHtml_eq_join]
  rfl

/-- Joined texts do not show in HTML. -/
theorem Joins.renderNode_eq {place : NodeId → NodeId} {split joined : Document}
    (joins : Joins place split joined) (wf : split.WellFormed) (wf' : joined.WellFormed)
    {id : NodeId} (inner : split.Inner id) : HandlerTable.standard.renderNode joined (place id) =
      HandlerTable.standard.renderNode split id := by
  induction id using wf.child_induction with
  | step id ih =>
    rw [wf'.renderNode_content, wf.renderNode_content, joins.kind id inner,
      joins.plainText_eq wf wf' inner, joins.content id inner, List.map_map]
    refine congrArg (Kind.markup _ _ <| String.join ·) (List.map_congr_left fun part member => ?_)
    cases part with
    | char => rfl
    | node child =>
      obtain ⟨here, inner⟩ := wf.inner_of_mem_content member
      exact ih child here inner

end Document

namespace Builder

/-- Text goes to the literal of an open code block, else it is a node of its own. -/
def textUnjoined (builder : Builder) (literal : String) (span : Span) : Builder :=
  let parent := builder.parent
  match builder.doc.kind parent with
  | .codeBlock info sofar =>
    { builder with doc := builder.doc.setKind parent (.codeBlock info (sofar ++ literal)) }
  | _ => builder.addLeaf (.text literal) span

/-- Takes in one event and joins no texts. -/
def pushUnjoined (builder : Builder) (spanned : SpannedEvent) : Builder :=
  match spanned.event with
  | .text literal => builder.textUnjoined literal spanned.span
  | _ => builder.push spanned

/-- Text goes to a code block or is a node of its own. -/
theorem textUnjoined_cases (builder : Builder) (literal : String) (span : Span) :
    (∃ info sofar, builder.InCode info sofar ∧ builder.textUnjoined literal span =
      { builder with
        doc := builder.doc.setKind builder.parent (.codeBlock info (sofar ++ literal)) }) ∨
    ((∀ info sofar, ¬ builder.InCode info sofar) ∧
      builder.textUnjoined literal span = builder.addLeaf (.text literal) span) := by
  unfold textUnjoined InCode
  dsimp only
  split
  · next info sofar block => exact Or.inl ⟨info, sofar, block, rfl⟩
  · next noCode => exact Or.inr ⟨noCode, rfl⟩

/-- However a text is taken in outside code blocks, its characters are added below the innermost
open node. -/
theorem WellFormed.gains_text {builder : Builder} (wf : builder.WellFormed)
    (noCode : ∀ info sofar, ¬ builder.InCode info sofar) (literal : String) (span : Span) :
    (builder.text literal span).spine = builder.spine ∧
      Document.Gains builder.doc (builder.text literal span).doc builder.parent
        (literal.toList.map .char) := by
  rcases builder.text_cases literal span with ⟨info, sofar, block, _⟩ |
    ⟨last, sofar, _, continues, made⟩ | ⟨_, _, made⟩
  · exact absurd block (noCode info sofar)
  · rw [made]
    exact ⟨rfl, wf.doc.gains_longer continues.row continues.kind literal span.stop⟩
  · rw [made]
    exact ⟨rfl, (wf.added (.text literal) span).gains wf.doc⟩

/-- One builder has built what another has with some texts joined, and has the same nodes open, of
which none is a text. -/
structure Joins (place : NodeId → NodeId) (split joined : Builder) : Prop where
  splitWf : split.WellFormed
  joinedWf : joined.WellFormed
  doc : Document.Joins place split.doc joined.doc
  spine : joined.spine = split.spine.map (Option.map place)
  opened : ∀ id, some id ∈ split.spine → split.doc.Inner id

namespace Joins

variable {place : NodeId → NodeId} {split joined : Builder} (joins : Joins place split joined)
include joins

/-- The innermost open node is no text, and is in the place of the other one. -/
theorem parent : split.doc.Inner split.parent ∧ joined.parent = place split.parent := by
  have same : joined.spine.findSome? id = (split.spine.findSome? id).map place := by
    rw [joins.spine, List.findSome?_map, List.map_findSome?]
    rfl
  unfold Builder.parent
  rw [same]
  cases found : split.spine.findSome? id with
  | none =>
    -- Nothing is open but the root.
    exact ⟨joins.doc.innerRoot, joins.doc.root.symm⟩
  | some opened =>
    obtain ⟨entry, here, rfl⟩ := List.exists_of_findSome?_eq_some found
    exact ⟨joins.opened opened here, rfl⟩

/-- The innermost open nodes are of one kind. -/
theorem kind_parent : joined.doc.kind joined.parent = split.doc.kind split.parent := by
  obtain ⟨inner, parent⟩ := joins.parent
  rw [parent, joins.doc.kind _ inner]

/-- Leaves that are no texts are added to both. -/
theorem addLeaf {kind : Kind} (other : kind.tag ≠ .text) (span : Span) :
    Joins (Function.update place split.doc.size joined.doc.size) (split.addLeaf kind span)
      (joined.addLeaf kind span) := by
  obtain ⟨inner, parent⟩ := joins.parent
  have added := joins.splitWf.added kind span
  have added' := parent ▸ joins.joinedWf.added kind span
  refine
    { splitWf := joins.splitWf.addLeaf kind span
      joinedWf := joins.joinedWf.addLeaf kind span
      doc := joins.doc.node joins.splitWf.doc joins.joinedWf.doc inner other added added'
      spine := ?_
      opened := fun id here => (added.gains joins.splitWf.doc).inner (joins.opened id here) }
  -- The new node is not open.
  refine joins.spine.trans (List.map_congr_left fun entry here => ?_)
  cases entry with
  | none => rfl
  | some id =>
    have different := Nat.ne_of_lt (joins.opened id here).stored
    exact congrArg some (Function.update_of_ne different _ _).symm

/-- Nodes that are no texts are entered in both. -/
theorem enter {kind : Kind} (other : kind.tag ≠ .text) (span : Span) :
    Joins (Function.update place split.doc.size joined.doc.size) (split.enter kind span)
      (joined.enter kind span) := by
  have leaf := joins.addLeaf other span
  have added := joins.splitWf.added kind span
  refine
    { splitWf := joins.splitWf.enter kind span
      joinedWf := joins.joinedWf.enter kind span
      doc := leaf.doc
      spine := ?_
      opened := ?_ }
  · have new : Function.update place split.doc.size joined.doc.size split.doc.size =
        joined.doc.size := Function.update_self _ _ _
    exact congrArg₂ List.cons (congrArg some new.symm) leaf.spine
  · intro id here
    rcases List.mem_cons.mp here with same | below
    · obtain rfl := Option.some.inj same
      refine ⟨added.size ▸ Nat.lt_succ_self _, ?_⟩
      show ((split.addLeaf kind span).doc.kind split.doc.size).tag ≠ .text
      rwa [added.kind, if_pos rfl]
    · exact leaf.opened id below

/-- The innermost open node gets other fields in both. -/
theorem setKind {kind : Kind} (other : kind.tag ≠ .text) :
    Joins place { split with doc := split.doc.setKind split.parent kind }
      { joined with doc := joined.doc.setKind joined.parent kind } := by
  obtain ⟨inner, parent⟩ := joins.parent
  refine
    { splitWf := joins.splitWf.relabelled (Document.sameLinks_setKind _ _ _)
        (Document.size_update _ _ _)
      joinedWf := joins.joinedWf.relabelled (Document.sameLinks_setKind _ _ _)
        (Document.size_update _ _ _)
      doc := parent ▸ joins.doc.setKind joins.splitWf.doc joins.joinedWf.doc inner other
      spine := joins.spine
      opened := fun id here => (Document.inner_setKind_iff inner other).mpr (joins.opened id here) }

/-- A text is a node of its own in the one and may continue another text in the other. -/
theorem text (literal : String) (span : Span) :
    Joins place (split.textUnjoined literal span) (joined.text literal span) := by
  obtain ⟨inner, parent⟩ := joins.parent
  have kind := joins.kind_parent
  have wf := joins.splitWf.doc
  have wf' := joins.joinedWf.doc
  rcases split.textUnjoined_cases literal span with ⟨info, sofar, block, made⟩ | ⟨noCode, made⟩
  · -- Both have the same code block open.
    have block' : joined.InCode info sofar := kind.trans block
    have made' : joined.text literal span = _ := push_text_of_inCode block' literal span
    rw [made, made']
    exact joins.setKind (by simp [Kind.tag])
  · have noCode' : ∀ info sofar, ¬ joined.InCode info sofar := fun info sofar block =>
      noCode info sofar (kind.symm.trans block)
    have added := joins.splitWf.added (.text literal) span
    have gains := added.gains wf
    obtain ⟨spine, gains'⟩ := joins.joinedWf.gains_text noCode' literal span
    rw [parent] at gains'
    rw [made]
    refine
      { splitWf := joins.splitWf.addLeaf _ span
        joinedWf := joins.joinedWf.text literal span
        doc := joins.doc.gain wf wf' inner gains gains' fun id new => ?_
        spine := spine.trans joins.spine
        opened := fun id here => gains.inner (joins.opened id here) }
    -- The new node is a text.
    exact (added.inner_cases new).resolve_right fun same =>
      new.other (by rw [added.kind, if_pos same]; rfl)

/-- Whatever is told, one builder goes on to build what the other does with some texts joined. -/
theorem push (spanned : SpannedEvent) :
    ∃ place', Joins place' (split.pushUnjoined spanned) (joined.push spanned) := by
  obtain ⟨event, span⟩ := spanned
  -- Only a text is taken in differently; a new node gets the next place in each document.
  cases event with
  | start container =>
    show ∃ place', Joins place' (split.push ⟨.start container, span⟩) _
    cases models : container.kind? with
    | none =>
      rw [push_start_none models, push_start_none models]
      refine ⟨place, ⟨joins.splitWf.doc, joins.splitWf.order, joins.splitWf.line⟩,
        ⟨joins.joinedWf.doc, joins.joinedWf.order, joins.joinedWf.line⟩, joins.doc,
        congrArg (none :: ·) joins.spine, fun id here => joins.opened id ?_⟩
      simpa using here
    | some kind =>
      rw [push_start models, push_start models]
      exact ⟨_, joins.enter (tag_ne_text_of_models models) span⟩
  | stop =>
    -- What is closed in the one is closed in the other, be it with a node or without one.
    refine ⟨place, joins.splitWf.leave, joins.joinedWf.leave, joins.doc, ?_, fun id here =>
      joins.opened id (List.mem_of_mem_tail here)⟩
    show joined.spine.tail = _
    rw [joins.spine, ← List.map_tail]
    rfl
  | text literal => exact ⟨place, joins.text literal span⟩
  | html literal =>
    have kind := joins.kind_parent
    show ∃ place', Joins place' (split.html literal span) (joined.html literal span)
    rcases split.html_cases literal span with ⟨sofar, block, made⟩ | ⟨noHtml, made⟩ <;>
      rcases joined.html_cases literal span with ⟨sofar', block', made'⟩ | ⟨noHtml', made'⟩ <;>
        rw [made, made']
    · -- Both have the same HTML block open.
      obtain rfl := Kind.htmlBlock.inj (block.symm.trans (kind.symm.trans block'))
      exact ⟨place, joins.setKind (by simp [Kind.tag])⟩
    · exact absurd (kind.trans block) (noHtml' sofar)
    · exact absurd (kind.symm.trans block') (noHtml sofar')
    · exact ⟨_, joins.addLeaf (by simp [Kind.tag]) span⟩
  | code literal => exact ⟨_, joins.addLeaf (by simp [Kind.tag]) span⟩
  | softBreak => exact ⟨_, joins.addLeaf (by simp [Kind.tag]) span⟩
  | hardBreak => exact ⟨_, joins.addLeaf (by simp [Kind.tag]) span⟩
  | rule => exact ⟨_, joins.addLeaf (by simp [Kind.tag]) span⟩
  | unmodelled => exact ⟨place, joins⟩

/-- After any events, one builder has built what the other has with some texts joined. -/
theorem push_all (events : List SpannedEvent) :
    ∃ place', Joins place' (events.foldl pushUnjoined split)
      (events.foldl Builder.push joined) := by
  -- The places go on from event to event, so the induction is over all of them.
  induction events generalizing place split joined with
  | nil => exact ⟨place, joins⟩
  | cons spanned rest ih =>
    obtain ⟨place', next⟩ := joins.push spanned
    exact ih next

end Joins

/-- With nothing told yet, there is nothing to join. -/
theorem joins_ofSource (source : String) : Joins id (ofSource source) (ofSource source) where
  splitWf := wellFormed_ofSource source
  joinedWf := wellFormed_ofSource source
  doc := .refl ⟨Nat.one_pos, fun isText => nomatch isText⟩ fun id isText => by
    cases id <;> cases isText
  spine := rfl
  opened id here := nomatch here

end Builder

/-- The document that events tell if no texts are joined. -/
def Document.ofEventsUnjoined (source : String) (events : List SpannedEvent) : Document :=
  (events.foldl Builder.pushUnjoined (.ofSource source)).doc

/--
Joining texts does not show downstream: whatever is told, the document has the same HTML and the
same plain text as it would have with a node for every text outside code blocks.
-/
theorem joined_texts_unseen (source : String) (events : List SpannedEvent) :
    let joined := Document.ofEvents source events
    let split := Document.ofEventsUnjoined source events
    HandlerTable.standard.render joined = HandlerTable.standard.render split ∧
      joined.plainText Document.root = split.plainText Document.root := by
  obtain ⟨place, joins⟩ := (Builder.joins_ofSource source).push_all events
  have wf := joins.splitWf.doc
  have wf' := joins.joinedWf.doc
  intro joined split
  -- The root is in its own place.
  have html := joins.doc.renderNode_eq wf wf' joins.doc.innerRoot
  have text := joins.doc.plainText_eq wf wf' joins.doc.innerRoot
  rw [joins.doc.root] at html text
  exact ⟨html, text⟩

-- The documents themselves differ: here one has a node less.
example :
    let events : List SpannedEvent := [⟨.text "a", ⟨0, 1⟩⟩, ⟨.text "b", ⟨1, 2⟩⟩]
    (Document.ofEvents "ab" events).size = 2 ∧
      (Document.ofEventsUnjoined "ab" events).size = 3 := by
  decide

end MarkdownTree
