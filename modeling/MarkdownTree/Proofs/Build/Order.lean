import MarkdownTree.Build.Builder
import MarkdownTree.Proofs.Tree.Added
import Mathlib.Data.List.Chain

/-! Documents under construction: every new node is the last one in document order, and the open
nodes are the first ones on the line of last children that starts at the root. -/

namespace MarkdownTree

namespace Document

variable {doc : Document}

/-- The line of last children from the root: the root, its last child, that one's last child, and so
on. -/
def lastLine (doc : Document) : List NodeId :=
  follow doc.lastChild doc.size (some root)

/-- A last child is in the row that it ends. -/
theorem WellFormed.mem_of_lastChild (wf : doc.WellFormed) {outer inner : NodeId}
    (last : doc.lastChild outer = some inner) : inner ∈ doc.children outer :=
  List.mem_of_getLast? ((wf.linked.last outer).symm.trans last)

/-- Nodes linked by `step` one after another are the first ones that following it meets. -/
theorem prefix_follow {step : NodeId → Option NodeId} {first : NodeId} {rest : List NodeId}
    (linked : (first :: rest).IsChain fun here there => step here = some there) {limit : Nat}
    (fits : (first :: rest).length ≤ limit) :
    first :: rest <+: follow step limit (some first) := by
  induction rest generalizing first limit with
  | nil =>
    obtain ⟨limit, rfl⟩ := Nat.exists_eq_add_of_lt fits
    exact ⟨_, rfl⟩
  | cons second rest ih =>
    obtain ⟨limit, rfl⟩ := Nat.exists_eq_add_of_lt (Nat.lt_of_lt_of_le (Nat.succ_pos _) fits)
    obtain ⟨link, linked⟩ := List.isChain_cons_cons.mp linked
    -- The walk goes on at the second node, with one step less.
    rw [follow, link]
    exact List.cons_prefix_cons.mpr ⟨rfl, ih linked (by simpa using fits)⟩

end Document

namespace Builder

variable {builder : Builder}

/-- The innermost open node is a code block. -/
def InCode (builder : Builder) (info sofar : String) : Prop :=
  builder.doc.kind builder.parent = .codeBlock info sofar

/-- The innermost open node is an HTML block. -/
def InHtml (builder : Builder) (sofar : String) : Prop :=
  builder.doc.kind builder.parent = .htmlBlock sofar

/-- The innermost open node ends with a text that ends at `start`. -/
structure Continues (builder : Builder) (start : Nat) (last : NodeId) (sofar : String) : Prop where
  row : builder.doc.lastChild builder.parent = some last
  kind : builder.doc.kind last = .text sofar
  stop : (builder.doc.span last).stop = start

/-- Text goes to a code block, continues a text, or is a node of its own. -/
theorem text_cases (builder : Builder) (literal : String) (span : Span) :
    (∃ info sofar, builder.InCode info sofar ∧ builder.text literal span =
      { builder with
        doc := builder.doc.setKind builder.parent (.codeBlock info (sofar ++ literal)) }) ∨
    (∃ last sofar, (∀ info sofar, ¬ builder.InCode info sofar) ∧
      builder.Continues span.start last sofar ∧ builder.text literal span =
        { builder with
          doc := (builder.doc.setKind last (.text (sofar ++ literal))).setStop last span.stop }) ∨
    ((∀ info sofar, ¬ builder.InCode info sofar) ∧
      (∀ last sofar, ¬ builder.Continues span.start last sofar) ∧
      builder.text literal span = builder.addLeaf (.text literal) span) := by
  unfold Builder.text InCode
  dsimp only
  split
  · next info sofar block => exact Or.inl ⟨info, sofar, block, rfl⟩
  · next noCode =>
    refine Or.inr ?_
    -- A text can only continue the last child, so each way that is taken rules out all others.
    split
    · next last row =>
      split
      · next sofar kind =>
        split
        · next stop => exact Or.inl ⟨last, sofar, noCode, ⟨row, kind, stop⟩, rfl⟩
        · next stop =>
          refine Or.inr ⟨noCode, fun last' sofar' continues => ?_, rfl⟩
          obtain rfl : last = last' := Option.some.inj (row.symm.trans continues.row)
          exact stop continues.stop
      · next noText =>
        refine Or.inr ⟨noCode, fun last' sofar' continues => ?_, rfl⟩
        obtain rfl : last = last' := Option.some.inj (row.symm.trans continues.row)
        exact noText sofar' continues.kind
    · next row =>
      refine Or.inr ⟨noCode, fun last' sofar' continues => ?_, rfl⟩
      rw [continues.row] at row
      cases row

/-- Raw HTML goes to an HTML block, or is a node of its own. -/
theorem html_cases (builder : Builder) (literal : String) (span : Span) :
    (∃ sofar, builder.InHtml sofar ∧ builder.html literal span =
      { builder with doc := builder.doc.setKind builder.parent (.htmlBlock (sofar ++ literal)) }) ∨
    ((∀ sofar, ¬ builder.InHtml sofar) ∧
      builder.html literal span = builder.addLeaf (.inlineHtml literal) span) := by
  unfold Builder.html InHtml
  dsimp only
  split
  · next sofar block => exact Or.inl ⟨sofar, block, rfl⟩
  · next noHtml => exact Or.inr ⟨noHtml, rfl⟩

/-- In a code block a text goes to the literal and makes no node. -/
theorem push_text_of_inCode {info sofar : String} (block : builder.InCode info sofar)
    (payload : String) (span : Span) : builder.push ⟨.text payload, span⟩ =
      { builder with
        doc := builder.doc.setKind builder.parent (.codeBlock info (sofar ++ payload)) } := by
  have kind : builder.doc.kind builder.parent = .codeBlock info sofar := block
  show builder.text payload span = _
  simp only [Builder.text, kind]

/-- In an HTML block raw HTML goes to the literal and makes no node. -/
theorem push_html_of_inHtml {sofar : String} (block : builder.InHtml sofar) (payload : String)
    (span : Span) : builder.push ⟨.html payload, span⟩ =
      { builder with
        doc := builder.doc.setKind builder.parent (.htmlBlock (sofar ++ payload)) } := by
  have kind : builder.doc.kind builder.parent = .htmlBlock sofar := block
  show builder.html payload span = _
  simp only [Builder.html, kind]

/-- A text that goes on where the last child ends makes that longer. -/
theorem push_text_of_continues (noCode : ∀ info sofar, ¬ builder.InCode info sofar) {start : Nat}
    {last : NodeId} {sofar : String} (continues : builder.Continues start last sofar)
    (literal : String) (stop : Nat) : builder.push ⟨.text literal, ⟨start, stop⟩⟩ =
      { builder with
        doc := (builder.doc.setKind last (.text (sofar ++ literal))).setStop last stop } := by
  rcases text_cases builder literal ⟨start, stop⟩ with ⟨info, code, block, _⟩ |
    ⟨last', sofar', _, continues', made⟩ | ⟨_, none, _⟩
  · exact absurd block (noCode info code)
  · -- Only the last child can be continued.
    obtain rfl := Option.some.inj (continues.row.symm.trans continues'.row)
    obtain rfl := Kind.text.inj (continues.kind.symm.trans continues'.kind)
    exact made
  · exact absurd continues (none last sofar)

/-- The open nodes, innermost first, and the root around them all. -/
def openNodes (builder : Builder) : List NodeId :=
  builder.spine.filterMap id ++ [Document.root]

/-- What is built is a tree in document order, and each open node is the last child of the one
around it. -/
structure WellFormed (builder : Builder) : Prop where
  /-- The links agree. -/
  doc : builder.doc.WellFormed
  /-- Every node is in the tree, in order of creation. -/
  order : builder.doc.descendants Document.root = List.range builder.doc.size
  /-- From the innermost open node to the root, each is the last child of the next. -/
  line : builder.openNodes.IsChain fun inner outer => builder.doc.lastChild outer = some inner

/-- The innermost open node comes first. -/
theorem head_openNodes (builder : Builder) :
    builder.openNodes.head? = some builder.parent := by
  unfold openNodes parent
  rw [List.head?_append, List.head?_filterMap]
  -- If no container with a node is open, both are the root.
  cases builder.spine.findSome? id <;> rfl

namespace WellFormed

variable (wf : builder.WellFormed)
include wf

/-- The open nodes are the innermost one and all that is around it. -/
theorem lineage_parent : builder.doc.lineage builder.parent = builder.openNodes := by
  -- The parents lead from one open node to the next, up to the root.
  have up : ∀ nodes : List NodeId, nodes.getLast? = some Document.root →
      nodes.IsChain (fun inner outer => builder.doc.lastChild outer = some inner) →
      Follows builder.doc.parent nodes.head? nodes := by
    intro nodes last line
    induction line with
    | nil => cases last
    | singleton node =>
      obtain rfl : node = Document.root := Option.some.inj last
      exact ⟨rfl, wf.doc.root_parent⟩
    | cons_cons link line ih =>
      refine ⟨rfl, ?_⟩
      rw [wf.doc.linked.parent.mpr (wf.doc.mem_of_lastChild link)]
      exact ih (by simpa using last)
  have walk := up builder.openNodes (by simp [openNodes]) wf.line
  rw [head_openNodes] at walk
  exact (wf.doc.lineage_follows builder.parent).unique walk

/-- Every open node is in the tree. -/
theorem isAttached_parent : builder.doc.isAttached builder.parent := by
  have last : Document.root ∈ builder.openNodes := by simp [openNodes]
  rw [← wf.lineage_parent] at last
  exact List.contains_iff_mem.mpr last

/-- The innermost open node is stored. -/
theorem parent_stored : builder.parent < builder.doc.size :=
  wf.doc.lt_size_of_isAttached wf.isAttached_parent

/-- The innermost open node is not around itself. -/
theorem ne_parent {outer : NodeId} (around : outer ∈ builder.openNodes.tail) :
    outer ≠ builder.parent := by
  have distinct := (wf.doc.lineage_follows builder.parent).nodup
  rw [wf.lineage_parent] at distinct
  obtain ⟨rest, split⟩ := List.head?_eq_some_iff.mp builder.head_openNodes
  rw [split] at distinct around
  -- The way up from the innermost open node would meet it again.
  exact fun same => (List.nodup_cons.mp distinct).1 (same ▸ around)

/-- What is built stays well formed while links stay as they are. -/
theorem relabelled {doc : Document} (same : Document.SameLinks builder.doc doc)
    (size : doc.size = builder.doc.size) : WellFormed { builder with doc } := by
  obtain ⟨wf', rows⟩ := same.wellFormed wf.doc (size ▸ wf.doc.root_stored)
  -- Document order and last children are read off the links alone.
  refine ⟨wf', ?_, ?_⟩
  · rw [wf.doc.descendants_congr wf' fun id _ => congrFun rows id, wf.order, size]
  · show builder.openNodes.IsChain fun inner outer => doc.lastChild outer = some inner
    rw [same.lastChild]
    exact wf.line

/-- A new node is the last child of the innermost open one. -/
theorem added (kind : Kind) (span : Span) :
    Document.Added builder.doc (builder.addLeaf kind span).doc builder.parent kind span :=
  (wf.doc.added wf.parent_stored kind span).2

/-- A new node is the last one in document order. -/
theorem descendants_added (kind : Kind) (span : Span) :
    (builder.addLeaf kind span).doc.descendants Document.root =
      builder.doc.descendants Document.root ++ [builder.doc.size] := by
  have added := wf.added kind span
  -- This goes up from the innermost open node to the root, as each is the last child of the next.
  have all := wf.line.induction (fun id => builder.doc.isWithin id builder.parent ∧
    (builder.addLeaf kind span).doc.descendants id =
      builder.doc.descendants id ++ [builder.doc.size]) _ ?_ ?_
  · exact (all Document.root (by simp [openNodes])).2
  · -- The outer node ends with the subtree of the inner one, and so with the new node.
    rintro inner outer last ⟨within, inside⟩
    have member := wf.doc.mem_of_lastChild last
    have inner' := wf.doc.isWithin_child member (wf.doc.isWithin_self outer)
    exact ⟨wf.doc.isWithin_trans inner' within, added.descendants_above wf.doc last within inside⟩
  · -- The innermost open node is the parent of the new one.
    intro some
    have head : builder.openNodes.head some = builder.parent :=
      Option.some.inj ((List.head?_eq_some_head some).symm.trans builder.head_openNodes)
    rw [head]
    exact ⟨wf.doc.isWithin_self _, added.descendants_parent wf.doc wf.parent_stored⟩

/-- With a new node, what was open still is a line of last children. -/
theorem line_added (kind : Kind) (span : Span) : builder.openNodes.IsChain fun inner outer =>
    (builder.addLeaf kind span).doc.lastChild outer = some inner := by
  refine wf.line.imp_of_mem_tail_imp fun inner outer _ around last => ?_
  -- Only the innermost open node gets another last child.
  rwa [(wf.added kind span).lastChild_of_ne wf.doc (wf.ne_parent around)]

/-- What is built stays well formed with a new leaf. -/
theorem addLeaf (kind : Kind) (span : Span) : (builder.addLeaf kind span).WellFormed where
  doc := (wf.added kind span).wellFormed
  order := by
    rw [wf.descendants_added, wf.order, (wf.added kind span).size, List.range_succ]
  line := wf.line_added kind span

end WellFormed

/-- Adds a node and leaves it open. -/
def enter (builder : Builder) (kind : Kind) (span : Span) : Builder :=
  { builder.addLeaf kind span with spine := some builder.doc.size :: builder.spine }

/-- No container is a text. -/
theorem tag_ne_text_of_models {container : Container} {kind : Kind}
    (models : container.kind? = some kind) : kind.tag ≠ .text := by
  intro isText
  cases container <;> cases models <;> first | cases isText | (split at isText <;> cases isText)

/-- A container that the tree models is entered. -/
theorem push_start {container : Container} {kind : Kind} (models : container.kind? = some kind)
    (span : Span) : builder.push ⟨.start container, span⟩ = builder.enter kind span := by
  simp only [push, models]
  rfl

/-- A container that the tree does not model is open without a node. -/
theorem push_start_none {container : Container} (models : container.kind? = none) (span : Span) :
    builder.push ⟨.start container, span⟩ = { builder with spine := none :: builder.spine } := by
  simp only [push, models]

namespace WellFormed

variable (wf : builder.WellFormed)
include wf

/-- What is built stays well formed when a node is entered. -/
theorem enter (kind : Kind) (span : Span) : (builder.enter kind span).WellFormed where
  doc := (wf.added kind span).wellFormed
  order := (wf.addLeaf kind span).order
  line := by
    obtain ⟨outer, split⟩ := List.head?_eq_some_iff.mp builder.head_openNodes
    have line := wf.line_added kind span
    have opened : (builder.enter kind span).openNodes = builder.doc.size :: builder.openNodes := rfl
    rw [split] at line
    rw [opened, split]
    -- The new node is the last child of the node that was the innermost one.
    exact .cons_cons (wf.added kind span).lastChild_parent line

/-- What is built stays well formed when the innermost container is closed. -/
theorem leave : WellFormed { builder with spine := builder.spine.tail } where
  doc := wf.doc
  order := wf.order
  line := by
    have line := wf.line
    unfold openNodes at line ⊢
    -- Only a container with a node takes a node off the line.
    cases open' : builder.spine with
    | nil => rwa [open'] at line
    | cons entry rest =>
      rw [open'] at line
      cases entry with
      | none => exact line
      | some id => exact line.tail

/-- Text keeps what is built well formed, wherever it goes. -/
theorem text (literal : String) (span : Span) : (builder.text literal span).WellFormed := by
  -- Either a node gets another kind or another end, which links nothing, or there is a new leaf.
  rcases builder.text_cases literal span with ⟨info, sofar, _, made⟩ | ⟨last, sofar, _, _, made⟩ |
    ⟨_, _, made⟩ <;> rw [made]
  · exact wf.relabelled (Document.sameLinks_setKind _ _ _) (Document.size_update _ _ _)
  · refine wf.relabelled ((Document.sameLinks_setKind _ _ _).trans
      (Document.sameLinks_setStop _ _ _)) ?_
    simp [Document.setKind, Document.setStop]
  · exact wf.addLeaf _ _

/-- Raw HTML keeps what is built well formed, wherever it goes. -/
theorem html (literal : String) (span : Span) : (builder.html literal span).WellFormed := by
  rcases builder.html_cases literal span with ⟨sofar, _, made⟩ | ⟨_, made⟩ <;> rw [made]
  · exact wf.relabelled (Document.sameLinks_setKind _ _ _) (Document.size_update _ _ _)
  · exact wf.addLeaf _ _

/-- Every event keeps what is built well formed. -/
theorem push (spanned : SpannedEvent) : (builder.push spanned).WellFormed := by
  obtain ⟨event, span⟩ := spanned
  cases event with
  | start container =>
    cases models : container.kind? with
    | none =>
      rw [push_start_none models]
      exact ⟨wf.doc, wf.order, wf.line⟩
    | some kind =>
      rw [push_start models]
      exact wf.enter kind span
  | stop => exact wf.leave
  | text literal => exact wf.text literal span
  | html literal => exact wf.html literal span
  | code literal => exact wf.addLeaf _ _
  | softBreak => exact wf.addLeaf _ _
  | hardBreak => exact wf.addLeaf _ _
  | rule => exact wf.addLeaf _ _
  | unmodelled => exact wf

/-- Any events keep what is built well formed. -/
theorem push_all (events : List SpannedEvent) : (events.foldl Builder.push builder).WellFormed := by
  induction events generalizing builder with
  | nil => exact wf
  | cons spanned rest ih => exact ih (wf.push spanned)

end WellFormed

/-- With nothing told yet, what is built is well formed. -/
theorem wellFormed_ofSource (source : String) : (ofSource source).WellFormed where
  doc := Document.wellFormed_ofSource source
  order := rfl
  line := .singleton Document.root

/-- Adds a node as the move of a document that checks whether it may. The ids taken are not counted
here, but bounded by `WellFormed.size_push_all_le`. -/
def addChecked (builder : Builder) (kind : Kind) (span : Span) : Except Refusal Builder := do
  let (doc, id) := builder.doc.create kind span
  return { builder with doc := ← doc.append builder.parent id }

/-- Takes in text as `text` does, with all checks of the tree: each node looked at has to be stored.
-/
def textChecked (builder : Builder) (literal : String) (span : Span) :
    Except Refusal Builder := do
  let parent ← builder.doc.known builder.parent
  match builder.doc.kind parent with
  | .codeBlock info sofar =>
    return { builder with doc := builder.doc.setKind parent (.codeBlock info (sofar ++ literal)) }
  | _ =>
    match builder.doc.lastChild parent with
    | some last =>
      let last ← builder.doc.known last
      match builder.doc.kind last with
      | .text sofar =>
        if (builder.doc.span last).stop = span.start then
          return { builder with
            doc := (builder.doc.setKind last (.text (sofar ++ literal))).setStop last span.stop }
        else
          builder.addChecked (.text literal) span
      | _ => builder.addChecked (.text literal) span
    | none => builder.addChecked (.text literal) span

/-- Takes in raw HTML as `html` does, with all checks of the tree. -/
def htmlChecked (builder : Builder) (literal : String) (span : Span) :
    Except Refusal Builder := do
  let parent ← builder.doc.known builder.parent
  match builder.doc.kind parent with
  | .htmlBlock sofar =>
    return { builder with doc := builder.doc.setKind parent (.htmlBlock (sofar ++ literal)) }
  | _ => builder.addChecked (.inlineHtml literal) span

/-- Takes in one event as `push` does, with all checks of the tree. -/
def pushChecked (builder : Builder) (spanned : SpannedEvent) : Except Refusal Builder :=
  match spanned.event with
  | .start container =>
    match container.kind? with
    | some kind => do
      let added ← builder.addChecked kind spanned.span
      return { added with spine := some builder.doc.size :: builder.spine }
    | none => return { builder with spine := none :: builder.spine }
  | .stop => return { builder with spine := builder.spine.tail }
  | .text literal => builder.textChecked literal spanned.span
  | .code literal => builder.addChecked (.code literal) spanned.span
  | .html literal => builder.htmlChecked literal spanned.span
  | .softBreak => builder.addChecked .softBreak spanned.span
  | .hardBreak => builder.addChecked .hardBreak spanned.span
  | .rule => builder.addChecked .thematicBreak spanned.span
  | .unmodelled => return builder

namespace WellFormed

variable (wf : builder.WellFormed)
include wf

/-- The check of a new node never fails. -/
theorem addChecked_eq (kind : Kind) (span : Span) :
    builder.addChecked kind span = .ok (builder.addLeaf kind span) := by
  have appended := (wf.doc.added wf.parent_stored kind span).1
  show (do return { builder with
    doc := ← (builder.doc.create kind span).1.append builder.parent builder.doc.size }) = _
  rw [appended]
  rfl

/-- The last child of the innermost open node is stored. -/
theorem lastChild_stored {last : NodeId}
    (row : builder.doc.lastChild builder.parent = some last) : last < builder.doc.size :=
  wf.doc.linked.lt_size (wf.doc.mem_of_lastChild row)

/-- No check fails when text is taken in. -/
theorem textChecked_eq (literal : String) (span : Span) :
    builder.textChecked literal span = .ok (builder.text literal span) := by
  unfold textChecked Builder.text
  rw [Document.known_ok_iff.mpr ⟨wf.parent_stored, rfl⟩]
  simp only [bind, Except.bind, wf.addChecked_eq]
  -- Both take the same way, and each node on it is known.
  cases row : builder.doc.lastChild builder.parent with
  | none => split <;> simp_all [pure, Except.pure]
  | some last =>
    have known := Document.known_ok_iff.mpr ⟨wf.lastChild_stored row, rfl⟩
    split
    · simp_all [pure, Except.pure]
    · simp only [known]
      split
      · split <;> simp_all [pure, Except.pure]
      · simp_all

/-- No check fails when raw HTML is taken in. -/
theorem htmlChecked_eq (literal : String) (span : Span) :
    builder.htmlChecked literal span = .ok (builder.html literal span) := by
  unfold htmlChecked Builder.html
  rw [Document.known_ok_iff.mpr ⟨wf.parent_stored, rfl⟩]
  simp only [bind, Except.bind, wf.addChecked_eq]
  -- Only the innermost open node is looked at.
  split <;> simp_all [pure, Except.pure]

/-- No check fails when an event is taken in. -/
theorem pushChecked_eq (spanned : SpannedEvent) :
    builder.pushChecked spanned = .ok (builder.push spanned) := by
  obtain ⟨event, span⟩ := spanned
  cases event with
  | start container =>
    simp only [pushChecked, Builder.push, wf.addChecked_eq]
    cases container.kind? <;> rfl
  | text literal => exact wf.textChecked_eq literal span
  | html literal => exact wf.htmlChecked_eq literal span
  | code literal => exact wf.addChecked_eq _ _
  | softBreak => exact wf.addChecked_eq _ _
  | hardBreak => exact wf.addChecked_eq _ _
  | rule => exact wf.addChecked_eq _ _
  | stop => rfl
  | unmodelled => rfl

/-- No check fails while any events are taken in. -/
theorem pushChecked_all (events : List SpannedEvent) :
    events.foldlM pushChecked builder = .ok (events.foldl Builder.push builder) := by
  induction events generalizing builder with
  | nil => rfl
  | cons spanned rest ih =>
    -- After an event without a failed check the others start from what it made.
    rw [List.foldlM_cons, wf.pushChecked_eq]
    exact ih (wf.push spanned)

/-- An event makes one node at most. -/
theorem size_push_le (spanned : SpannedEvent) :
    (builder.push spanned).doc.size ≤ builder.doc.size + 1 := by
  -- What is not a new leaf or a new container only changes nodes that there are.
  have leaf : ∀ kind span, (builder.addLeaf kind span).doc.size = builder.doc.size + 1 :=
    fun kind span => (wf.added kind span).size
  obtain ⟨event, span⟩ := spanned
  cases event with
  | start container =>
    cases models : container.kind? with
    | none =>
      rw [push_start_none models]
      exact Nat.le_succ _
    | some kind =>
      rw [push_start models]
      exact Nat.le_of_eq (leaf kind span)
  | text literal =>
    show (builder.text literal span).doc.size ≤ _
    rcases builder.text_cases literal span with ⟨_, _, _, made⟩ | ⟨_, _, _, _, made⟩ |
      ⟨_, _, made⟩ <;> rw [made]
    · simp [Document.setKind]
    · simp [Document.setKind, Document.setStop]
    · exact Nat.le_of_eq (leaf _ _)
  | html literal =>
    show (builder.html literal span).doc.size ≤ _
    rcases builder.html_cases literal span with ⟨_, _, made⟩ | ⟨_, made⟩ <;> rw [made]
    · simp [Document.setKind]
    · exact Nat.le_of_eq (leaf _ _)
  | code literal => exact Nat.le_of_eq (leaf _ _)
  | softBreak => exact Nat.le_of_eq (leaf _ _)
  | hardBreak => exact Nat.le_of_eq (leaf _ _)
  | rule => exact Nat.le_of_eq (leaf _ _)
  | stop => exact Nat.le_succ _
  | unmodelled => exact Nat.le_succ _

/-- Events make one node each at most. -/
theorem size_push_all_le (events : List SpannedEvent) :
    (events.foldl Builder.push builder).doc.size ≤ builder.doc.size + events.length := by
  induction events generalizing builder with
  | nil => exact Nat.le_refl _
  | cons spanned rest ih =>
    have first := wf.size_push_le spanned
    have others := ih (wf.push spanned)
    rw [List.length_cons]
    exact Nat.le_trans others (by omega)

/-- Every node is in the tree. -/
theorem isAttached {id : NodeId} (stored : id < builder.doc.size) : builder.doc.isAttached id := by
  rw [← wf.doc.mem_descendants_root, wf.order]
  exact List.mem_range.mpr stored

/-- The root and the open nodes are the first ones on the line of last children. -/
theorem openNodes_prefix : builder.openNodes.reverse <+: builder.doc.lastLine := by
  have line := List.isChain_reverse.mpr wf.line
  -- The open nodes are a line of parents, so following the last children has room for them.
  have fits : builder.openNodes.length ≤ builder.doc.size := by
    rw [← wf.lineage_parent]
    exact wf.doc.linked.line_length_le wf.doc.root_stored (wf.doc.lineage_follows _)
  have split : builder.openNodes.reverse =
      Document.root :: (builder.spine.filterMap id).reverse := by
    simp [openNodes]
  rw [← List.length_reverse, split] at fits
  rw [split] at line ⊢
  exact Document.prefix_follow line fits

/-- Each open node is within the one around it, and is another one. -/
theorem openNodes_within : builder.openNodes.IsChain fun inner outer =>
    inner ≠ outer ∧ builder.doc.isWithin outer inner := by
  refine wf.line.imp fun inner outer last => ?_
  have member := wf.doc.mem_of_lastChild last
  exact ⟨(wf.doc.ne_of_mem member).2, wf.doc.isWithin_child member (wf.doc.isWithin_self outer)⟩

end WellFormed

end Builder

/--
Whatever events are told, balanced or not and with whatever spans, building never breaks the tree.

No check of the tree refuses anything on the way, and no event makes more than one node: that the
ids of 32 bits last, which is not among these checks, follows from the bound on the size for all
documents of fewer than `2 ^ 32` events. After all events, and so after each, every node hangs from
the root, and document order is the order of creation. The open nodes, from the root inwards, are
the first ones on the line of last children, each properly around the next.
-/
theorem building_keeps_order (source : String) (events : List SpannedEvent) :
    let builder := events.foldl Builder.push (.ofSource source)
    events.foldlM Builder.pushChecked (.ofSource source) = .ok builder ∧
    builder.doc.size ≤ events.length + 1 ∧
    (∀ id < builder.doc.size, builder.doc.isAttached id) ∧
    builder.doc.descendants Document.root = List.range builder.doc.size ∧
    builder.openNodes.reverse <+: builder.doc.lastLine ∧
    builder.openNodes.IsChain fun inner outer =>
      inner ≠ outer ∧ builder.doc.isWithin outer inner := by
  intro builder
  have start := Builder.wellFormed_ofSource source
  have wf : builder.WellFormed := start.push_all events
  refine ⟨start.pushChecked_all events, ?_, fun id stored => wf.isAttached stored, wf.order,
    wf.openNodes_prefix, wf.openNodes_within⟩
  -- The root is there before the first event.
  have bound := start.size_push_all_le events
  rwa [Nat.add_comm] at bound

end MarkdownTree
