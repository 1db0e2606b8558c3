import MarkdownTree.Processing.Processor
import MarkdownTree.Proofs.Tree.Create
import MarkdownTree.Proofs.Tree.Frame

/-! Patches and walks: what every new node and every move keeps, a patch keeps, and what every patch
keeps, a walk keeps, also where a refusal ends it early. -/

namespace MarkdownTree

/-- A move of a patch is a move of the nodes it names. -/
theorem Edit.move_of_apply {ids : List NodeId} {doc other : Document} {edit : Edit}
    (made : edit.apply ids doc = .ok other) : ∃ move, doc.move move = .ok other := by
  cases renamed : edit.rename fun node => node.resolve ids with
  | error refusal =>
    -- A node that the patch does not create has no id to move.
    rw [Edit.apply, renamed] at made
    cases made
  | ok move =>
    rw [Edit.apply, renamed] at made
    exact ⟨move, made⟩

namespace Patch

variable {Holds : Document → Prop}

/-- What every new node keeps, creating nodes in order keeps. -/
theorem createAll_keeps
    (create : ∀ doc kind span, Holds doc → Holds (Document.create doc kind span).1) {doc : Document}
    (holds : Holds doc) (created : List (Kind × Span)) : Holds (createAll doc created).1 := by
  -- The nodes are created one after another.
  induction created generalizing doc with
  | nil => exact holds
  | cons node rest ih => exact ih (create doc node.1 node.2 holds)

/-- What every move keeps, moves in order keep, up to the first that is refused. -/
theorem editAll_keeps
    (move : ∀ doc move other, Holds doc → Document.move doc move = .ok other → Holds other)
    (ids : List NodeId) {doc : Document} (holds : Holds doc) (edits : List Edit) :
    Holds (editAll ids doc edits).1 := by
  induction edits generalizing doc with
  | nil => exact holds
  | cons edit rest ih =>
    unfold editAll
    split
    · next other made =>
      -- The move is made, and the others go on from there.
      obtain ⟨_, moved⟩ := Edit.move_of_apply made
      exact ih (move doc _ other holds moved)
    · exact holds

/-- What every new node and every move keep, a patch keeps. -/
theorem apply_keeps
    (create : ∀ doc kind span, Holds doc → Holds (Document.create doc kind span).1)
    (move : ∀ doc move other, Holds doc → Document.move doc move = .ok other → Holds other)
    {doc : Document} (holds : Holds doc) (patch : Patch) (journal : Journal) :
    Holds (patch.apply doc journal).doc := by
  have made := editAll_keeps move (createAll doc patch.created).2
    (createAll_keeps create holds patch.created) patch.edits
  unfold apply
  -- Reporting changes does not touch the document.
  dsimp only
  split
  · next edited =>
    rw [edited] at made
    exact made
  · next edited =>
    rw [edited] at made
    exact made

variable {ids : List NodeId} {doc middle other : Document} {journal journal' : Journal}

/-- After a move that is not refused, the other moves go on from what it leaves. -/
theorem editAll_cons {edit : Edit} (made : edit.apply ids doc = .ok middle) (rest : List Edit) :
    editAll ids doc (edit :: rest) = editAll ids middle rest := by
  simp only [editAll, made]

/-- After moves of which none is refused, the other moves go on from what they leave. -/
theorem editAll_append {edits : List Edit} (made : editAll ids doc edits = (middle, none))
    (rest : List Edit) : editAll ids doc (edits ++ rest) = editAll ids middle rest := by
  induction edits generalizing doc with
  | nil => rw [← (Prod.mk.inj made).1, List.nil_append]
  | cons edit more ih =>
    -- The first move is not refused, or the refusal would be that of all of them.
    cases moved : edit.apply ids doc with
    | error refusal => simp [editAll, moved] at made
    | ok next =>
      rw [editAll_cons moved] at made
      rw [List.cons_append, editAll_cons moved]
      exact ih made

/-- A stored node that is to be taken out is taken out. -/
theorem apply_detach {id : NodeId} (stored : id < doc.size) :
    Edit.apply ids doc (.detach (.existing id)) = .ok (doc.detach id) := by
  show (do return doc.detach (← doc.known id)) = Except.ok (doc.detach id)
  rw [Document.known_ok_iff.mpr ⟨stored, rfl⟩]
  rfl

/-- A stored node that is to lose its children loses them. -/
theorem apply_removeChildren {id : NodeId} (stored : id < doc.size) :
    Edit.apply ids doc (.removeChildren (.existing id)) = .ok (doc.removeChildren id) := by
  show (do return doc.removeChildren (← doc.known id)) = Except.ok (doc.removeChildren id)
  rw [Document.known_ok_iff.mpr ⟨stored, rfl⟩]
  rfl

/-- Stored nodes that are to be taken out are all taken out. -/
theorem editAll_detach {nodes : List NodeId} (stored : ∀ id ∈ nodes, id < doc.size) :
    editAll ids doc (nodes.map fun id => .detach (.existing id)) =
      (nodes.foldl Document.detach doc, none) := by
  induction nodes generalizing doc with
  | nil => rfl
  | cons id rest ih =>
    rw [List.map_cons, editAll_cons (apply_detach (stored id List.mem_cons_self)), List.foldl_cons]
    -- Taking out a node takes none from the store.
    refine ih fun other member => ?_
    rw [(Document.sameNodes_detach doc id).size]
    exact stored other (List.mem_cons_of_mem id member)

/-- Stored nodes may all be moved below a created node that is in no tree. -/
theorem editAll_append_created (wf : doc.WellFormed) {parent : NodeId} {nodes : List NodeId}
    (loose : doc.parent parent = none) (stored : parent < doc.size) (distinct : nodes.Nodup)
    (each : ∀ id ∈ nodes, id < doc.size ∧ id ≠ Document.root ∧ id ≠ parent) :
    ∃ other, editAll [parent] doc (nodes.map fun id => .append (.created 0) (.existing id)) =
      (other, none) ∧ Document.Reshaped doc other (Forest.appendAll doc.children parent nodes) := by
  induction nodes generalizing doc with
  | nil =>
    refine ⟨doc, rfl, wf, .refl doc, ?_⟩
    funext node
    simp [Forest.appendAll, Forest.eraseAll]
  | cons id rest ih =>
    obtain ⟨fresh, distinct⟩ := List.nodup_cons.mp distinct
    obtain ⟨here, notRoot, different⟩ := each id List.mem_cons_self
    have free := wf.mayGoBelow_loose loose different notRoot stored here
    obtain ⟨next, moved, reshaped⟩ := wf.append free
    have size := reshaped.nodes.size
    have moved' : doc.move (.append parent id) = .ok next := moved
    -- The created node itself is not moved, so it is still in no tree.
    have loose' : next.parent parent = none :=
      (wf.parent_move_of_not_moved moved' (by simpa [Document.movedBy] using different.symm)).trans
        loose
    obtain ⟨other, edited, all⟩ := ih reshaped.wellFormed loose' (size ▸ stored) distinct
      fun id' member => size ▸ each id' (List.mem_cons_of_mem id member)
    have made : Edit.apply [parent] doc (.append (.created 0) (.existing id)) = .ok next := moved
    refine ⟨other, (editAll_cons made _).trans edited,
      reshaped.trans ⟨all.wellFormed, all.nodes, ?_⟩⟩
    rw [all.children, reshaped.children]
    funext node
    -- Taking out all nodes one by one is taking them out at once.
    have both := congrFun (Forest.eraseAll_erase wf.row_nodup id rest) node
    unfold Forest.eraseAll Forest.erase at both
    unfold Forest.appendAll Forest.eraseAll Forest.append Forest.erase
    split
    · rw [List.filter_append, both, List.filter_singleton]
      simp [fresh]
    · exact both

/-- Stored nodes may be taken out, and another moved to the start of a created node in no tree. -/
theorem editAll_prepend_created (wf : doc.WellFormed) {parent id : NodeId} {nodes : List NodeId}
    (loose : doc.parent parent = none) (different : id ≠ parent) (notRoot : id ≠ Document.root)
    (stored : parent < doc.size) (here : id < doc.size) (all : ∀ node ∈ nodes, node < doc.size) :
    ∃ other, editAll [parent] doc ((nodes.map fun node => .detach (.existing node)) ++
        [.prepend (.created 0) (.existing id)]) = (other, none) ∧
      Document.Reshaped doc other
        (Forest.prepend (Forest.eraseAll doc.children nodes) parent id) := by
  have out := wf.detach_all nodes
  have size := out.nodes.size
  -- Nodes that are taken out do not get into any row.
  have loose' : (nodes.foldl Document.detach doc).parent parent = none := by
    rw [out.wellFormed.parent_eq_none_iff, out.children]
    exact fun above member => wf.parent_eq_none_iff.mp loose above (List.mem_filter.mp member).1
  have free :=
    out.wellFormed.mayGoBelow_loose loose' different notRoot (size ▸ stored) (size ▸ here)
  obtain ⟨other, moved, reshaped⟩ := out.wellFormed.prepend free
  have made : Edit.apply [parent] _ (.prepend (.created 0) (.existing id)) = .ok other := moved
  refine ⟨other, ?_, out.trans ⟨reshaped.wellFormed, reshaped.nodes, ?_⟩⟩
  · rw [editAll_append (editAll_detach all), editAll_cons made]
    rfl
  · rw [reshaped.children, out.children]

/-- A created node that is in no row may take the place of another. -/
theorem editAll_replace (wf : doc.WellFormed) {anchor id : NodeId}
    (free : doc.MayGoBefore anchor id) (loose : doc.parent id = none) :
    ∃ other, editAll [id] doc [.insertBefore (.existing anchor) (.created 0),
        .detach (.existing anchor)] = (other, none) ∧
      Document.Reshaped doc other fun node =>
        (doc.children node).map fun child => if child = anchor then id else child := by
  obtain ⟨middle, moved, reshaped⟩ := wf.insertBefore free
  have out := reshaped.wellFormed.detach anchor
  obtain ⟨above, link, _⟩ := free.below
  have stored : anchor < middle.size := reshaped.nodes.size ▸ Document.lt_size_of_parent link
  -- The anchor stays where it is until the node stands before it.
  have made : Edit.apply [id] doc (.insertBefore (.existing anchor) (.created 0)) = .ok middle :=
    moved
  refine ⟨middle.detach anchor, ?_, reshaped.trans ⟨out.wellFormed, out.nodes, ?_⟩⟩
  · rw [editAll_cons made, editAll_cons (apply_detach stored)]
    rfl
  · rw [out.children, reshaped.children]
    funext node
    have absent := wf.parent_eq_none_iff.mp loose node
    -- Nothing of the row is lost, since the new node was in no row.
    show (putBefore anchor id ((doc.children node).erase id)).erase anchor = _
    rw [List.erase_of_not_mem absent, erase_putBefore (wf.row_nodup node) free.different]

/-- A patch of which nothing is refused leaves what its three parts leave. -/
theorem apply_of_parts {patch : Patch} (created : createAll doc patch.created = (middle, ids))
    (edited : editAll ids middle patch.edits = (other, none))
    (noted : noteAll ids journal patch.notices = (journal', none)) :
    patch.apply doc journal = { doc := other, journal := journal', created := ids } := by
  simp only [apply, created, edited, noted]

end Patch

/-- What every patch keeps, asking a processor keeps. -/
theorem Progress.offer_keeps {Holds : Document → Prop}
    (patch : ∀ patch doc journal, Holds doc → Holds (Patch.apply patch doc journal).doc)
    {progress : Progress} (holds : Holds progress.doc) (processor : Processor) (node : NodeId) :
    Holds (progress.offer processor node).doc := by
  unfold offer
  dsimp only
  -- Without an answer the document stays.
  split
  · exact holds
  · exact patch _ _ _ holds

namespace ProcessorSet

variable {Holds : Document → Prop}

/-- What every patch keeps, offering a node to processors keeps. -/
theorem offerAll_keeps
    (patch : ∀ patch doc journal, Holds doc → Holds (Patch.apply patch doc journal).doc)
    (tag : Tag) (node : NodeId) {progress : Progress} (holds : Holds progress.doc)
    (processors : List Processor) : Holds (offerAll tag node progress processors).doc := by
  unfold offerAll
  induction processors generalizing progress with
  | nil => exact holds
  | cons processor rest ih =>
    rw [List.foldl_cons]
    refine ih ?_
    -- A processor is only asked while the node is in the tree.
    split
    · exact progress.offer_keeps patch holds processor node
    · exact holds

/-- What every patch keeps, visiting nodes one after another keeps. -/
theorem visits_keep
    (patch : ∀ patch doc journal, Holds doc → Holds (Patch.apply patch doc journal).doc)
    (set : ProcessorSet) {progress : Progress} (holds : Holds progress.doc)
    (nodes : List NodeId) : Holds (nodes.foldl set.visit progress).doc := by
  induction nodes generalizing progress with
  | nil => exact holds
  | cons node rest ih => exact ih (offerAll_keeps patch _ node holds _)

/-- What every patch keeps, a walk keeps. -/
theorem run_keeps
    (patch : ∀ patch doc journal, Holds doc → Holds (Patch.apply patch doc journal).doc)
    {doc : Document} (holds : Holds doc) (set : ProcessorSet) (journal : Journal) :
    Holds (set.run doc journal).doc :=
  set.visits_keep patch holds _

end ProcessorSet

namespace Document.WellFormed

/-- A patch leaves a well-formed document, also where it is refused. -/
theorem apply {doc : Document} (wf : doc.WellFormed) (patch : Patch) (journal : Journal) :
    (patch.apply doc journal).doc.WellFormed :=
  Patch.apply_keeps (fun _ kind span wf => (wf.create kind span).1)
    (fun _ _ _ wf moved => (wf.move moved).wellFormed) wf patch journal

/-- A walk leaves a well-formed document, also where it ends early. -/
theorem run {doc : Document} (wf : doc.WellFormed) (set : ProcessorSet) (journal : Journal) :
    (set.run doc journal).doc.WellFormed :=
  ProcessorSet.run_keeps (fun patch _ journal wf => wf.apply patch journal) wf set journal

end Document.WellFormed

end MarkdownTree
