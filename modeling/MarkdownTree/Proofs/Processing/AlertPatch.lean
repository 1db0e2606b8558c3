import MarkdownTree.Proofs.Processing.MarkedQuote
import MarkdownTree.Proofs.Processing.Turn

/-! The patch of a marked quote: what follows the marker goes to a new alert, and the alert takes
the place of the quote. -/

namespace MarkdownTree.Alert

variable {doc other : Document} {quote paragraph : NodeId} {blocks : List NodeId}
  {alert : AlertKind}

/-- The blocks that go to the alert: all, if there is more than line breaks among them. -/
def movedBlocks (doc : Document) (blocks : List NodeId) : List NodeId :=
  if hasContent doc blocks then blocks else []

/-- The children of the alert: the paragraph if it holds more than the marker, then the blocks if
there is more than line breaks among them. -/
def moved (doc : Document) (paragraph : NodeId) (blocks : List NodeId) : List NodeId :=
  (if hasContent doc (doc.children paragraph).tail then [paragraph] else []) ++
    if hasContent doc blocks then blocks else []

/-- The children that stay with the quote. -/
def kept (doc : Document) (paragraph : NodeId) (blocks : List NodeId) : List NodeId :=
  (if hasContent doc (doc.children paragraph).tail then [] else [paragraph]) ++
    if hasContent doc blocks then [] else blocks

/-- The children of the paragraph: if it goes to the alert, it goes without the marker line. -/
def inlines (doc : Document) (paragraph : NodeId) : List NodeId :=
  if hasContent doc (doc.children paragraph).tail then afterBreak doc (doc.children paragraph)
  else doc.children paragraph

/-- What an alert gets and what stays depends on the kinds and on the row of the paragraph alone. -/
theorem content_congr (wf : doc.WellFormed) (children : doc.children quote = paragraph :: blocks)
    (kind : ∀ id < doc.size, other.kind id = doc.kind id)
    (inner : other.children paragraph = doc.children paragraph) :
    moved other paragraph blocks = moved doc paragraph blocks ∧
      kept other paragraph blocks = kept doc paragraph blocks ∧
      inlines other paragraph = inlines doc paragraph := by
  have links := wf.linked
  have kinds : ∀ parent, ∀ id ∈ doc.children parent, other.kind id = doc.kind id :=
    fun _ id member => kind id (links.lt_size member)
  have tail : hasContent other (doc.children paragraph).tail =
      hasContent doc (doc.children paragraph).tail :=
    hasContent_congr fun id member => kinds paragraph id (List.mem_of_mem_tail member)
  have after : hasContent other blocks = hasContent doc blocks :=
    hasContent_congr fun id member => kinds quote id (by simp [children, member])
  have rest : afterBreak other (doc.children paragraph) = afterBreak doc (doc.children paragraph) :=
    afterBreak_congr (kinds paragraph)
  unfold moved kept inlines
  rw [inner, tail, after, rest]
  exact ⟨rfl, rfl, rfl⟩

/-- The rows in which the next new node has the blocks of the quote, if they have content. -/
def takeBlocks (doc : Document) (quote paragraph : NodeId) (blocks : List NodeId) : Forest :=
  fun node =>
    if node = doc.size then movedBlocks doc blocks
    else if node = quote then paragraph :: if hasContent doc blocks then [] else blocks
    else doc.children node

/-- The rows in which the next new node has all that it gets of the quote, in no row itself. -/
def distribute (doc : Document) (quote paragraph : NodeId) (blocks : List NodeId) : Forest :=
  fun node =>
    if node = doc.size then moved doc paragraph blocks
    else if node = quote then kept doc paragraph blocks
    else if node = paragraph then inlines doc paragraph
    else doc.children node

/-- The rows in which the next new node is the alert that stands for the quote. -/
def replace (doc : Document) (quote paragraph : NodeId) (blocks : List NodeId) : Forest :=
  fun node =>
    if node = Document.root then
      (doc.children node).map fun id => if id = quote then doc.size else id
    else distribute doc quote paragraph blocks node

/-- A document in which a new alert stands for the quote, and every old node is as it was. -/
structure Replaced (doc other : Document) (quote paragraph : NodeId) (blocks : List NodeId)
    (alert : AlertKind) : Prop where
  wellFormed : other.WellFormed
  source : other.source = doc.source
  size : other.size = doc.size + 1
  kind : ∀ id, other.kind id = if id = doc.size then .alert alert else doc.kind id
  span : ∀ id, other.span id = if id = doc.size then doc.span quote else doc.span id
  children : other.children = replace doc quote paragraph blocks

/-- The content of the quote is what the alert gets and what the quote keeps. -/
theorem mem_moved_or_kept (marked : Marked doc quote paragraph blocks alert) {id : NodeId} :
    id ∈ moved doc paragraph blocks ∨ id ∈ kept doc paragraph blocks ↔ id ∈ doc.children quote := by
  rw [marked.children]
  unfold moved kept
  cases hasContent doc (doc.children paragraph).tail <;> cases hasContent doc blocks <;>
    simp [or_comm]

/-- The inlines of the paragraph are in its row. -/
theorem mem_of_mem_inlines {id : NodeId} (member : id ∈ inlines doc paragraph) :
    id ∈ doc.children paragraph := by
  unfold inlines at member
  split at member
  · rw [← markerLine_append_afterBreak doc (doc.children paragraph)]
    exact List.mem_append_right _ member
  · exact member

/-- Whatever is in one of the rows was there before, or came from the quote to the new node. -/
theorem mem_distribute (marked : Marked doc quote paragraph blocks alert) {node id : NodeId}
    (member : id ∈ distribute doc quote paragraph blocks node) :
    id ∈ doc.children node ∨ node = doc.size ∧ id ∈ doc.children quote := by
  unfold distribute at member
  -- The cases are the rows that change, and then all others.
  split at member
  · next new => exact Or.inr ⟨new, (mem_moved_or_kept marked).mp (Or.inl member)⟩
  · left
    split at member
    · next same => exact same ▸ (mem_moved_or_kept marked).mp (Or.inr member)
    · split at member
      · next same => exact same ▸ mem_of_mem_inlines member
      · exact member

section rows

variable (wf : doc.WellFormed) (marked : Marked doc quote paragraph blocks alert)
include wf marked

/-- The blocks are stored, and in no other row than that of the quote. -/
theorem Marked.block {id : NodeId} (member : id ∈ movedBlocks doc blocks) :
    id ∈ blocks ∧ id < doc.size ∧ ∀ node, id ∈ doc.children node → node = quote := by
  have inside : id ∈ blocks := by
    unfold movedBlocks at member
    split at member
    · exact member
    · cases member
  have here := marked.block_mem inside
  exact ⟨inside, wf.linked.lt_size here, fun node there => wf.linked.same_row there here⟩

omit wf in
/-- What is left of the row of the quote when the blocks are moved was in that row. -/
theorem Marked.left_mem {id : NodeId}
    (member : id ∈ paragraph :: if hasContent doc blocks then [] else blocks) :
    id ∈ doc.children quote := by
  rcases List.mem_cons.mp member with first | block
  · exact first ▸ marked.first_mem
  · split at block
    · cases block
    · exact marked.block_mem block

/-- The next new node is in none of the rows. -/
theorem not_mem_takeBlocks (node : NodeId) :
    doc.size ∉ takeBlocks doc quote paragraph blocks node := by
  intro member
  -- Whatever is in one of the rows is stored already.
  suffices stored : doc.size < doc.size from Nat.lt_irrefl _ stored
  unfold takeBlocks at member
  split at member
  · exact (marked.block wf member).2.1
  · split at member
    · exact wf.linked.lt_size (marked.left_mem member)
    · exact wf.linked.lt_size member

/-- The blocks with content are moved from the row of the quote. -/
theorem appendAll_blocks : Forest.appendAll doc.children doc.size (movedBlocks doc blocks) =
    takeBlocks doc quote paragraph blocks := by
  have distinct := marked.children ▸ wf.row_nodup quote
  funext node
  unfold Forest.appendAll Forest.eraseAll takeBlocks
  by_cases new : node = doc.size
  · -- No row belongs to a node that is not stored yet.
    have empty : doc.children node = [] := List.eq_nil_iff_forall_not_mem.mpr fun id member =>
      Nat.lt_irrefl _ (new ▸ wf.linked.owner_lt_size member)
    rw [if_pos new, if_pos new, empty]
    rfl
  · rw [if_neg new, if_neg new]
    by_cases same : node = quote
    · rw [if_pos same, same, marked.children]
      -- The blocks go, and the paragraph is none of them.
      have apart := (List.nodup_cons.mp distinct).1
      unfold movedBlocks
      split
      · simp [apart]
      · simp
    · rw [if_neg same]
      -- The blocks are in no other row.
      refine List.filter_eq_self.mpr fun id member => ?_
      exact decide_eq_true fun here => same ((marked.block wf here).2.2 node member)

/-- A paragraph without more than the marker stays as it is. -/
theorem takeBlocks_eq (empty : ¬ hasContent doc (doc.children paragraph).tail) :
    takeBlocks doc quote paragraph blocks = distribute doc quote paragraph blocks := by
  funext node
  unfold takeBlocks distribute moved kept inlines movedBlocks
  rw [if_neg empty, if_neg empty, if_neg empty]
  by_cases same : node = paragraph
  · -- The paragraph is not the quote, and keeps all its children.
    have other := (wf.ne_of_mem marked.first_mem).2
    subst same
    rw [if_pos rfl, if_neg other, if_neg other]
    rfl
  · rw [if_neg same]
    rfl

/-- A paragraph with more than the marker loses the marker line and is moved from the quote. -/
theorem prepend_paragraph (content : hasContent doc (doc.children paragraph).tail) :
    Forest.prepend (Forest.eraseAll (takeBlocks doc quote paragraph blocks)
      (markerLine doc (doc.children paragraph))) doc.size paragraph =
        distribute doc quote paragraph blocks := by
  have links := wf.linked
  have distinct := marked.children ▸ wf.row_nodup quote
  have here := marked.first_mem
  have different := (wf.ne_of_mem here).2
  -- The marker line is in the row of the paragraph only, and the paragraph in that of the quote.
  have apart : ∀ {node} {row : List NodeId}, node ≠ paragraph →
      (∀ id ∈ row, id ∈ doc.children node) →
        row.filter (fun id => id ∉ markerLine doc (doc.children paragraph)) = row := by
    intro node row different within
    refine List.filter_eq_self.mpr fun id member => decide_eq_true fun line => ?_
    exact different (links.same_row (within id member) (mem_of_mem_markerLine line))
  have elsewhere : ∀ {node}, node ≠ quote → paragraph ∉ doc.children node :=
    fun different member => different (links.same_row member here)
  funext node
  unfold Forest.prepend Forest.eraseAll Forest.erase takeBlocks distribute moved kept inlines
  beta_reduce
  rw [if_pos content, if_pos content, if_pos content]
  by_cases new : node = doc.size
  · -- The new node has the blocks already, and gets the paragraph before them.
    rw [if_pos new, if_pos new, if_pos new,
      apart different.symm fun id member => marked.block_mem (marked.block wf member).1]
    rw [List.erase_of_not_mem fun member =>
      (List.nodup_cons.mp distinct).1 (marked.block wf member).1]
    rfl
  · rw [if_neg new, if_neg new, if_neg new]
    by_cases same : node = quote
    · -- The quote loses the paragraph, with which its row starts.
      rw [if_pos same, if_pos same, apart different.symm fun id member => marked.left_mem member]
      rw [List.erase_cons_head]
      rfl
    · rw [if_neg same, if_neg same]
      by_cases inner : node = paragraph
      · -- The paragraph loses the marker line, and is not in its own row.
        rw [if_pos inner, inner, filter_markerLine (wf.row_nodup paragraph)]
        refine List.erase_of_not_mem fun member => elsewhere different ?_
        rw [← markerLine_append_afterBreak doc (doc.children paragraph)]
        exact List.mem_append_right _ member
      · rw [if_neg inner, apart inner fun id member => member]
        exact List.erase_of_not_mem (elsewhere same)

/-- The row of the root is not touched while the content of the quote is distributed. -/
theorem distribute_root :
    distribute doc quote paragraph blocks Document.root = doc.children Document.root := by
  -- The root is neither the new node nor the quote nor the paragraph.
  have first := wf.ne_of_mem marked.first_mem
  unfold distribute
  rw [if_neg (Nat.ne_of_lt wf.root_stored), if_neg (marked.ne_root wf).symm, if_neg first.1.symm]

/-- The quote is in no row but that of the root. -/
theorem not_mem_distribute {node : NodeId} (different : node ≠ Document.root) :
    quote ∉ distribute doc quote paragraph blocks node := by
  have links := wf.linked
  have top := links.parent.mp marked.parent
  intro member
  rcases mem_distribute marked member with here | ⟨_, here⟩
  · exact different (links.same_row here top)
  · exact marked.ne_root wf (links.same_row here top)

end rows

/-- The edits that distribute the content of the quote. -/
def contentEdits (doc : Document) (paragraph : NodeId) (blocks : List NodeId) : List Edit :=
  (movedBlocks doc blocks).map (fun id => .append (.created 0) (.existing id)) ++
    if hasContent doc (doc.children paragraph).tail then
      (markerLine doc (doc.children paragraph)).map (fun id => .detach (.existing id)) ++
        [.prepend (.created 0) (.existing paragraph)]
    else []

/-- The edits of the patch distribute the content, then put the alert in the place of the quote. -/
theorem edits_patch (wf : doc.WellFormed) (marked : Marked doc quote paragraph blocks alert) :
    (patch doc quote paragraph alert).edits = contentEdits doc paragraph blocks ++
      [.insertBefore (.existing quote) (.created 0), .detach (.existing quote)] := by
  have split : doc.children quote = [] ++ paragraph :: blocks := marked.children
  simp only [patch, contentEdits, movedBlocks, hasContentAfter_eq wf marked.children,
    hasInlineContent_eq wf, wf.linked.following_eq split]
  congr 2
  cases hasContent doc blocks <;> rfl

section edits

variable (wf : doc.WellFormed) (marked : Marked doc quote paragraph blocks alert)
include wf marked

/-- The blocks may be moved one after another to a new node in no tree. -/
theorem editAll_blocks {start : Document} (wf' : start.WellFormed)
    (size : start.size = doc.size + 1) (children : start.children = doc.children) :
    ∃ middle, Patch.editAll [doc.size] start
        ((movedBlocks doc blocks).map fun id => .append (.created 0) (.existing id)) =
          (middle, none) ∧
      Document.Reshaped start middle (takeBlocks doc quote paragraph blocks) := by
  -- The new node is not stored in the old document, so it is in none of these rows.
  have loose : start.parent doc.size = none := by
    rw [wf'.parent_eq_none_iff, children]
    exact fun node member => Nat.lt_irrefl _ (wf.linked.lt_size member)
  have distinct : (movedBlocks doc blocks).Nodup := by
    unfold movedBlocks
    split
    · exact (List.nodup_cons.mp (marked.children ▸ wf.row_nodup quote)).2
    · exact List.nodup_nil
  have each : ∀ id ∈ movedBlocks doc blocks,
      id < start.size ∧ id ≠ Document.root ∧ id ≠ doc.size := by
    intro id member
    obtain ⟨inside, stored, _⟩ := marked.block wf member
    have notRoot := (wf.ne_of_mem (marked.block_mem inside)).1
    exact ⟨size ▸ Nat.lt_succ_of_lt stored, notRoot, Nat.ne_of_lt stored⟩
  rw [← appendAll_blocks wf marked, ← children]
  exact Patch.editAll_append_created wf' loose (size ▸ Nat.lt_succ_self _) distinct each

/-- A new node in no tree and with no children may get the whole content of the quote. -/
theorem editAll_content {start : Document} (wf' : start.WellFormed)
    (size : start.size = doc.size + 1) (children : start.children = doc.children) :
    ∃ other, Patch.editAll [doc.size] start (contentEdits doc paragraph blocks) = (other, none) ∧
      Document.Reshaped start other (distribute doc quote paragraph blocks) := by
  have links := wf.linked
  have stored := links.lt_size marked.first_mem
  obtain ⟨middle, edited, reshaped⟩ := editAll_blocks wf marked wf' size children
  rw [contentEdits, Patch.editAll_append edited]
  split
  · next content =>
    -- The paragraph loses its marker line, then goes before the blocks that are there already.
    have size' := reshaped.nodes.size.trans size
    have loose : middle.parent doc.size = none := by
      rw [reshaped.wellFormed.parent_eq_none_iff, reshaped.children]
      exact not_mem_takeBlocks wf marked
    have line : ∀ id ∈ markerLine doc (doc.children paragraph), id < middle.size := fun _ member =>
      size' ▸ Nat.lt_succ_of_lt (links.lt_size (mem_of_mem_markerLine member))
    obtain ⟨other, edited', reshaped'⟩ := Patch.editAll_prepend_created reshaped.wellFormed loose
      (Nat.ne_of_lt stored) (wf.ne_of_mem marked.first_mem).1 (size' ▸ Nat.lt_succ_self _)
      (size' ▸ Nat.lt_succ_of_lt stored) line
    refine ⟨other, edited', reshaped.trans ⟨reshaped'.wellFormed, reshaped'.nodes, ?_⟩⟩
    rw [reshaped'.children, reshaped.children, prepend_paragraph wf marked content]
  · next empty =>
    refine ⟨middle, rfl, reshaped.wellFormed, reshaped.nodes, ?_⟩
    rw [reshaped.children, takeBlocks_eq wf marked empty]

/-- A new node in no tree that has its content may take the place of the quote. -/
theorem editAll_place {start : Document} (wf' : start.WellFormed)
    (size : start.size = doc.size + 1)
    (children : start.children = distribute doc quote paragraph blocks) :
    ∃ other, Patch.editAll [doc.size] start
        [.insertBefore (.existing quote) (.created 0), .detach (.existing quote)] =
          (other, none) ∧
      Document.Reshaped start other (replace doc quote paragraph blocks) := by
  have links := wf.linked
  have loose : start.parent doc.size = none := by
    rw [wf'.parent_eq_none_iff, children]
    intro node member
    rcases mem_distribute marked member with here | ⟨_, here⟩
    · exact Nat.lt_irrefl _ (links.lt_size here)
    · exact Nat.lt_irrefl _ (links.lt_size here)
  -- The quote is still below the root.
  have top : start.parent quote = some Document.root := by
    rw [wf'.linked.parent, children, distribute_root wf marked]
    exact links.parent.mp marked.parent
  have below : start.MayGoBelow Document.root doc.size :=
    wf'.mayGoBelow_loose wf'.root_parent (Nat.ne_of_gt wf.root_stored)
      (Nat.ne_of_gt wf.root_stored) wf'.root_stored (size ▸ Nat.lt_succ_self _)
  obtain ⟨other, placed, reshaped⟩ :=
    Patch.editAll_replace wf' ⟨Nat.ne_of_lt marked.stored, Document.root, top, below⟩ loose
  refine ⟨other, placed, reshaped.wellFormed, reshaped.nodes, ?_⟩
  rw [reshaped.children, children]
  funext node
  unfold replace
  by_cases same : node = Document.root
  · rw [if_pos same, same, distribute_root wf marked]
  · rw [if_neg same]
    -- Where the quote is not, nothing stands for it.
    exact map_replace_of_not_mem (not_mem_distribute wf marked same)

end edits

/-- The patch of a marked quote is never refused, and puts the alert in the place of the quote. -/
theorem Marked.apply (wf : doc.WellFormed) (marked : Marked doc quote paragraph blocks alert) :
    ∃ other, Replaced doc other quote paragraph blocks alert ∧ ∀ journal,
      (patch doc quote paragraph alert).apply doc journal =
        { doc := other
          journal := journal ++ [⟨.removedWithChildren, quote⟩, ⟨.addedWithChildren, doc.size⟩]
          created := [doc.size] } := by
  -- The alert is created first, then gets the content, then takes the place of the quote.
  obtain ⟨wf', rows⟩ := wf.create (.alert alert) (doc.span quote)
  have size := Document.size_create doc (.alert alert) (doc.span quote)
  obtain ⟨middle, edited, reshaped⟩ := editAll_content wf marked wf' size rows
  obtain ⟨other, placed, reshaped'⟩ := editAll_place wf marked reshaped.wellFormed
    (reshaped.nodes.size.trans size) reshaped.children
  have nodes := reshaped.nodes.trans reshaped'.nodes
  have replaced : Replaced doc other quote paragraph blocks alert :=
    { wellFormed := reshaped'.wellFormed
      source := nodes.source
      size := nodes.size.trans size
      kind := fun id => by rw [nodes.kind, Document.kind_create]
      span := fun id => by rw [nodes.span, Document.span_create]
      children := reshaped'.children }
  refine ⟨other, replaced, fun journal => ?_⟩
  have created : Patch.createAll doc (patch doc quote paragraph alert).created =
      ((doc.create (.alert alert) (doc.span quote)).1, [doc.size]) := rfl
  refine Patch.apply_of_parts created ?_ ?_
  · rw [edits_patch wf marked, Patch.editAll_append edited]
    exact placed
  · simp only [patch, Patch.noteAll, PatchNode.resolve, List.append_assoc]
    rfl

/-- A turn at a marked quote replaces it. -/
theorem Marked.turn (wf : doc.WellFormed) (marked : Marked doc quote paragraph blocks alert) :
    ∃ other, Replaced doc other quote paragraph blocks alert ∧
      ∀ count, processor.turn (doc, count) quote = (other, count + 1) := by
  obtain ⟨other, replaced, applied⟩ := marked.apply wf
  have answer := (process_eq_some_iff wf).mpr ⟨_, _, _, marked, rfl⟩
  refine ⟨other, replaced, fun count => ?_⟩
  have attached := wf.isAttached_of_parent marked.parent
  rw [Processor.turn_of_some attached answer, applied]

/-- A turn at any other node does nothing. -/
theorem turn_of_not_marked (wf : doc.WellFormed) {node : NodeId}
    (idle : ¬ ∃ paragraph blocks alert, Marked doc node paragraph blocks alert) (count : Nat) :
    processor.turn (doc, count) node = (doc, count) := by
  refine Processor.turn_of_idle (fun patch _ answer => idle ?_) count
  obtain ⟨paragraph, blocks, alert, marked, _⟩ := (process_eq_some_iff wf).mp answer
  exact ⟨paragraph, blocks, alert, marked⟩

/-- No patch for an alert is refused. -/
theorem accepted : processor.Accepted := by
  intro doc node made wf answer journal
  obtain ⟨paragraph, blocks, alert, marked, rfl⟩ := (process_eq_some_iff wf).mp answer
  obtain ⟨other, _, applied⟩ := marked.apply wf
  rw [applied]

namespace Replaced

variable (replaced : Replaced doc other quote paragraph blocks alert)
include replaced

/-- Old nodes are kept. -/
theorem keepsNodes : Document.KeepsNodes doc other where
  source := replaced.source
  size := replaced.size ▸ Nat.le_succ _
  kind id stored := (replaced.kind id).trans (if_neg (Nat.ne_of_lt stored))
  span id stored := (replaced.span id).trans (if_neg (Nat.ne_of_lt stored))

/-- The alert stands where the quote stood. -/
theorem children_root : other.children Document.root =
    (doc.children Document.root).map fun id => if id = quote then doc.size else id := by
  rw [replaced.children]
  exact if_pos rfl

/-- The alert gets the content. -/
theorem children_alert (wf : doc.WellFormed) :
    other.children doc.size = moved doc paragraph blocks := by
  rw [replaced.children]
  exact (if_neg (Nat.ne_of_gt wf.root_stored)).trans (if_pos rfl)

/-- The rest stays with the quote. -/
theorem children_quote (wf : doc.WellFormed) (marked : Marked doc quote paragraph blocks alert) :
    other.children quote = kept doc paragraph blocks := by
  rw [replaced.children]
  refine (if_neg (marked.ne_root wf)).trans ?_
  exact (if_neg (Nat.ne_of_lt marked.stored)).trans (if_pos rfl)

/-- The paragraph may lose its marker line. -/
theorem children_paragraph (wf : doc.WellFormed)
    (marked : Marked doc quote paragraph blocks alert) :
    other.children paragraph = inlines doc paragraph := by
  have stored := wf.linked.lt_size marked.first_mem
  -- The paragraph is none of the nodes whose rows change before its own.
  obtain ⟨notRoot, different⟩ := wf.ne_of_mem marked.first_mem
  rw [replaced.children]
  refine (if_neg notRoot).trans ((if_neg (Nat.ne_of_lt stored)).trans ?_)
  exact (if_neg different).trans (if_pos rfl)

/-- No other row is touched. -/
theorem children_of_ne {node : NodeId} (notRoot : node ≠ Document.root) (old : node ≠ doc.size)
    (notQuote : node ≠ quote) (notParagraph : node ≠ paragraph) :
    other.children node = doc.children node := by
  rw [replaced.children]
  refine (if_neg notRoot).trans ((if_neg old).trans ?_)
  exact (if_neg notQuote).trans (if_neg notParagraph)

/-- All rows but those of the quote and its paragraph have the alert where the quote was. -/
theorem children_map (wf : doc.WellFormed) (marked : Marked doc quote paragraph blocks alert)
    {node : NodeId} (old : node ≠ doc.size) (notQuote : node ≠ quote)
    (notParagraph : node ≠ paragraph) : other.children node =
      (doc.children node).map fun id => if id = quote then doc.size else id := by
  by_cases top : node = Document.root
  · rw [top, replaced.children_root]
  · -- The quote is in the row of the root only.
    rw [replaced.children_of_ne top old notQuote notParagraph]
    refine (map_replace_of_not_mem fun member => ?_).symm
    exact top (wf.linked.same_row member (wf.linked.parent.mp marked.parent))

end Replaced

end MarkdownTree.Alert
