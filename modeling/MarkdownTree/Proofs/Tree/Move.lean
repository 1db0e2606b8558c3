import MarkdownTree.Proofs.Tree.Links
import MarkdownTree.Proofs.Tree.Forest

/-! Moves on well-formed documents: each leaves a well-formed document, in which the rows of
children are those it should leave. -/

namespace MarkdownTree.Document

variable {doc : Document}

/-- A well-formed document with the same nodes as another, in the rows of a forest. -/
structure Reshaped (doc other : Document) (forest : Forest) : Prop where
  wellFormed : other.WellFormed
  nodes : SameNodes doc other
  children : other.children = forest

/-- Reshaping goes on from what was reshaped before. -/
theorem Reshaped.trans {middle other : Document} {forest forest' : Forest}
    (first : Reshaped doc middle forest) (second : Reshaped middle other forest') :
    Reshaped doc other forest' :=
  ⟨second.wellFormed, first.nodes.trans second.nodes, second.children⟩

/-- When one node gets another parent, or none, every line of parents ends if its own does. -/
theorem WellFormed.lines_end (wf : doc.WellFormed) {above : NodeId → Option NodeId}
    {moved : NodeId} {rest : List NodeId} (others : ∀ id, id ≠ moved → above id = doc.parent id)
    (own : Follows above (above moved) rest) (id : NodeId) :
    ∃ line, Follows above (some id) line := by
  -- Only the links of the moved node differ, so only lines that pass it do.
  by_cases passes : moved ∈ doc.lineage id
  · -- The line reaches the moved node as before, and then goes its new way.
    obtain ⟨before, after, split⟩ := List.append_of_mem passes
    have walk := split ▸ wf.lineage_follows id
    refine ⟨before ++ moved :: rest, walk.reroute (fun node member => others node ?_) own⟩
    intro same
    refine (List.nodup_cons.mp (List.nodup_middle.mp walk.nodup)).1 ?_
    exact List.mem_append_left _ (same ▸ member)
  · -- A line that does not pass the moved node stays.
    refine ⟨doc.lineage id, (wf.lineage_follows id).congr fun node member => others node ?_⟩
    intro same
    exact passes (same ▸ member)

/-- A node put below another, outside whose lineage it is, gets a line of parents that ends. -/
theorem WellFormed.lines_end_below (wf : doc.WellFormed) {above : NodeId → Option NodeId}
    {moved parent : NodeId} (others : ∀ id, id ≠ moved → above id = doc.parent id)
    (placed : above moved = some parent) (outside : ¬ doc.isWithin moved parent) (id : NodeId) :
    ∃ line, Follows above (some id) line := by
  -- The line of the new parent does not pass the moved node.
  have own : Follows above (above moved) (doc.lineage parent) := by
    rw [placed]
    refine (wf.lineage_follows parent).congr fun node member => others node ?_
    intro same
    exact outside (by simpa [isWithin, same] using member)
  exact wf.lines_end others own id

/-- Taking out a node changes the forest by taking it out of its list. -/
theorem WellFormed.detach (wf : doc.WellFormed) (id : NodeId) :
    Reshaped doc (doc.detach id) (Forest.erase doc.children id) := by
  have links := wf.linked_detach id
  have same := sameNodes_detach doc id
  refine ⟨links.wellFormed ?_ ?_ ?_, same, links.children_eq⟩
  · rw [same.size]
    exact wf.root_stored
  · rw [wf.parent_detach, wf.root_parent, ite_self]
  · -- The line of the node that is taken out ends with it.
    have own : Follows (doc.detach id).parent ((doc.detach id).parent id) [] :=
      (wf.parent_detach id id).trans (if_pos rfl)
    exact wf.lines_end (fun other different => (wf.parent_detach id other).trans
      (if_neg different)) own

/-- A node may be put below another: both are stored, it is not the root, and the other is outside.
-/
structure MayGoBelow (doc : Document) (parent id : NodeId) : Prop where
  notRoot : id ≠ root
  outside : ¬ doc.isWithin id parent
  parentStored : parent < doc.size
  stored : id < doc.size

/-- Anything but the root may go below another node that has no parent. -/
theorem WellFormed.mayGoBelow_loose (wf : doc.WellFormed) {parent id : NodeId}
    (loose : doc.parent parent = none) (different : id ≠ parent) (notRoot : id ≠ root)
    (parentStored : parent < doc.size) (stored : id < doc.size) : doc.MayGoBelow parent id := by
  refine ⟨notRoot, fun within => ?_, parentStored, stored⟩
  -- A node without a parent is within itself alone.
  rcases wf.isWithin_iff.mp within with same | ⟨above, link, _⟩
  · exact different same
  · rw [loose] at link
    cases link

/-- A node is released exactly when it may go below the other, and is then taken out. -/
theorem release_ok_iff {parent id : NodeId} {other : Document} :
    doc.release parent id = .ok other ↔ doc.MayGoBelow parent id ∧ other = doc.detach id := by
  unfold release known
  constructor
  · intro released
    -- Each check that fails refuses the release.
    split at released
    · cases released
    · split at released
      · cases released
      · next notRoot outside =>
        split at released
        · split at released
          · next parentStored stored =>
            exact ⟨⟨notRoot, outside, parentStored, stored⟩, (Except.ok.inj released).symm⟩
          · cases released
        · cases released
  · intro both
    obtain ⟨free, rfl⟩ := both
    rw [if_neg free.notRoot, if_neg free.outside, if_pos free.parentStored, if_pos free.stored]
    rfl

/-- A row that a node was taken out of no longer holds it. -/
theorem WellFormed.loose_detach (wf : doc.WellFormed) (id : NodeId) :
    (doc.detach id).parent id = none := by
  rw [wf.parent_detach, if_pos rfl]

/-- Taking a node out of its place does not put it above another. -/
theorem WellFormed.outside_detach (wf : doc.WellFormed) {id parent : NodeId}
    (outside : ¬ doc.isWithin id parent) : ¬ (doc.detach id).isWithin id parent := by
  -- The line of the parent does not pass the node, so it is still the same.
  have same : (doc.detach id).lineage parent = doc.lineage parent := by
    refine ((wf.detach id).wellFormed.lineage_follows parent).unique ?_
    refine (wf.lineage_follows parent).congr fun node member => ?_
    rw [wf.parent_detach, if_neg]
    intro same
    exact outside (by simpa [isWithin, same] using member)
  simpa only [isWithin, same] using outside

/-- A node that was taken out and is linked in below another leaves a well-formed document. -/
theorem WellFormed.linked_in (wf : doc.WellFormed) {parent id : NodeId}
    (free : doc.MayGoBelow parent id) {other : Document} {rows : Forest} (links : other.Linked rows)
    (nodes : SameNodes (doc.detach id) other)
    (above : ∀ node, other.parent node =
      if node = id then some parent else (doc.detach id).parent node) :
    Reshaped doc other rows := by
  have out := wf.detach id
  refine out.trans ⟨links.wellFormed ?_ ?_ ?_, nodes, links.children_eq⟩
  · rw [nodes.size]
    exact out.wellFormed.root_stored
  · rw [above, if_neg (Ne.symm free.notRoot)]
    exact out.wellFormed.root_parent
  · -- Only the line of the node itself is another one now, and it goes on above the parent.
    refine out.wellFormed.lines_end_below (fun node different => ?_) ?_
      (wf.outside_detach free.outside)
    · rw [above, if_neg different]
    · rw [above, if_pos rfl]

/-- Moving a node to the end of a row moves it there in the forest. -/
theorem WellFormed.append (wf : doc.WellFormed) {parent id : NodeId}
    (free : doc.MayGoBelow parent id) : ∃ other, doc.append parent id = .ok other ∧
      Reshaped doc other (Forest.append doc.children parent id) := by
  have out := wf.detach id
  have parentStored : parent < (doc.detach id).size := out.nodes.size ▸ free.parentStored
  have stored : id < (doc.detach id).size := out.nodes.size ▸ free.stored
  have links := out.wellFormed.linked_linkLast parentStored stored (wf.loose_detach id)
  rw [out.children] at links
  -- The parent links of the other nodes are as they were when the node was taken out.
  refine ⟨(doc.detach id).linkLast parent id, ?_, wf.linked_in free links ?_ fun node => ?_⟩
  · simp only [Document.append, release_ok_iff.mpr ⟨free, rfl⟩]
    rfl
  · exact sameNodes_linkLast (doc.detach id) parent id
  · exact (out.wellFormed.links_linkLast parentStored stored node).1

/-- Only a node that may go below the other is moved to the end of its row. -/
theorem mayGoBelow_of_append {parent id : NodeId} {other : Document}
    (moved : doc.append parent id = .ok other) : doc.MayGoBelow parent id := by
  cases released : doc.release parent id with
  | error refusal =>
    -- What is not released is not moved.
    rw [Document.append, released] at moved
    cases moved
  | ok middle => exact (release_ok_iff.mp released).1

/-- A node may be put before another: they differ, and it may go below the other's parent. -/
structure MayGoBefore (doc : Document) (anchor id : NodeId) : Prop where
  different : anchor ≠ id
  below : ∃ parent, doc.parent anchor = some parent ∧ doc.MayGoBelow parent id

/-- A node that goes before another is taken out first, then linked in below the other's parent. -/
theorem insertBefore_of_parent {anchor id parent : NodeId} (different : anchor ≠ id)
    (above : doc.parent anchor = some parent) : doc.insertBefore anchor id =
      (doc.release parent id).map fun middle => middle.linkBefore parent anchor id := by
  rw [insertBefore, if_neg different, known, if_pos (lt_size_of_parent above)]
  simp only [bind, Except.bind, above]
  cases doc.release parent id <;> rfl

/-- Moving a node to before another moves it there in the forest. -/
theorem WellFormed.insertBefore (wf : doc.WellFormed) {anchor id : NodeId}
    (free : doc.MayGoBefore anchor id) : ∃ other, doc.insertBefore anchor id = .ok other ∧
      Reshaped doc other (Forest.insertBefore doc.children anchor id) := by
  obtain ⟨different, parent, above, below⟩ := free
  have out := wf.detach id
  -- The anchor is not taken out, so it still has its parent.
  have above' : (doc.detach id).parent anchor = some parent := by
    rw [wf.parent_detach, if_neg different, above]
  have stored : id < (doc.detach id).size := out.nodes.size ▸ below.stored
  have links := out.wellFormed.linked_linkBefore above' stored (wf.loose_detach id)
  rw [out.children] at links
  refine ⟨(doc.detach id).linkBefore parent anchor id, ?_,
    wf.linked_in below links ?_ fun node => ?_⟩
  · rw [insertBefore_of_parent different above, release_ok_iff.mpr ⟨below, rfl⟩]
    rfl
  · exact sameNodes_linkBefore (doc.detach id) parent anchor id
  · exact (out.wellFormed.links_linkBefore above' stored node).1

/-- Only a node that may go before the other is moved there. -/
theorem mayGoBefore_of_insertBefore {anchor id : NodeId} {other : Document}
    (moved : doc.insertBefore anchor id = .ok other) : doc.MayGoBefore anchor id := by
  have different : anchor ≠ id := by
    intro same
    rw [Document.insertBefore, if_pos same] at moved
    cases moved
  cases above : doc.parent anchor with
  | none =>
    -- Whether the other node is unknown or just has no parent, the move is refused.
    rw [Document.insertBefore, if_neg different, known] at moved
    split at moved
    · simp only [bind, Except.bind, above] at moved
      cases moved
    · cases moved
  | some parent =>
    rw [insertBefore_of_parent different above] at moved
    cases released : doc.release parent id with
    | error refusal =>
      rw [released] at moved
      cases moved
    | ok middle => exact ⟨different, parent, above, (release_ok_iff.mp released).1⟩

/-- Moving a node to the start of a row depends on what the row starts with. -/
theorem prepend_of_stored {parent id : NodeId} (stored : parent < doc.size) :
    doc.prepend parent id = match doc.firstChild parent with
      | none => doc.append parent id
      | some first => if first = id then .ok doc else doc.insertBefore first id := by
  unfold Document.prepend known
  rw [if_pos stored]
  rfl

/-- A child may go below its parent once more. -/
theorem WellFormed.mayGoBelow_parent (wf : doc.WellFormed) {parent id : NodeId}
    (member : id ∈ doc.children parent) : doc.MayGoBelow parent id where
  notRoot := wf.ne_root (wf.linked.parent.mpr member)
  outside := wf.not_isWithin_parent member
  parentStored := wf.linked.owner_lt_size member
  stored := wf.linked.lt_size member

section start

variable (wf : doc.WellFormed) {parent id first : NodeId} {rest : List NodeId}

/-- The end of an empty row is its start. -/
theorem append_eq_prepend (empty : doc.children parent = []) :
    Forest.append doc.children parent id = Forest.prepend doc.children parent id := by
  funext other
  unfold Forest.append Forest.prepend Forest.erase
  split
  · next found => simp [found, empty]
  · rfl

include wf

/-- Moving a node to the start of a row that starts with it changes nothing. -/
theorem WellFormed.prepend_first (row : doc.children parent = id :: rest) :
    doc.children = Forest.prepend doc.children parent id := by
  funext other
  unfold Forest.prepend Forest.erase
  by_cases same : other = parent
  · rw [if_pos same, same, row, List.erase_cons_head]
  · -- The node is in no other row.
    have absent : id ∉ doc.children other := fun member =>
      same (wf.linked.same_row member (by simp [row]))
    rw [if_neg same, List.erase_of_not_mem absent]

/-- Before the first node of a row is the start of that row. -/
theorem WellFormed.insertBefore_first (row : doc.children parent = first :: rest)
    (different : first ≠ id) : Forest.insertBefore doc.children first id =
      Forest.prepend doc.children parent id := by
  have distinct := row ▸ wf.row_nodup parent
  funext other
  unfold Forest.insertBefore Forest.prepend Forest.erase
  by_cases same : other = parent
  · have fresh : first ∉ rest.erase id := fun member =>
      (List.nodup_cons.mp distinct).1 (List.mem_of_mem_erase member)
    rw [if_pos same, same, row, List.erase_cons_tail (by simpa using different), putBefore_cons,
      if_pos rfl, putBefore_of_not_mem fresh]
  · -- The anchor is in no other row, so nothing is put there.
    have absent : first ∉ (doc.children other).erase id := fun member =>
      same (wf.linked.same_row (List.mem_of_mem_erase member) (by simp [row]))
    rw [if_neg same, putBefore_of_not_mem absent]

end start

/-- Moving a node to the start of a row moves it there in the forest. -/
theorem WellFormed.prepend (wf : doc.WellFormed) {parent id : NodeId}
    (free : doc.MayGoBelow parent id) : ∃ other, doc.prepend parent id = .ok other ∧
      Reshaped doc other (Forest.prepend doc.children parent id) := by
  have links := wf.linked
  rw [prepend_of_stored free.parentStored]
  cases head : doc.firstChild parent with
  | none =>
    -- The row is empty, so its end is its start.
    have empty : doc.children parent = [] := by
      rw [links.first, List.head?_eq_none_iff] at head
      exact head
    obtain ⟨other, moved, reshaped⟩ := wf.append free
    exact ⟨other, moved, append_eq_prepend empty ▸ reshaped⟩
  | some first =>
    obtain ⟨rest, row⟩ := List.head?_eq_some_iff.mp ((links.first parent).symm.trans head)
    by_cases already : first = id
    · -- The node stays where it is.
      subst already
      exact ⟨doc, if_pos rfl, wf, .refl doc, wf.prepend_first row⟩
    · -- Before the first node of the row is its start.
      have anchored : doc.MayGoBefore first id :=
        ⟨already, parent, links.parent.mpr (by simp [row]), free⟩
      obtain ⟨other, moved, reshaped⟩ := wf.insertBefore anchored
      exact ⟨other, (if_neg already).trans moved, wf.insertBefore_first row already ▸ reshaped⟩

/-- Only a node that may go below the other is moved to the start of its row. -/
theorem WellFormed.mayGoBelow_of_prepend (wf : doc.WellFormed) {parent id : NodeId}
    {other : Document} (moved : doc.prepend parent id = .ok other) : doc.MayGoBelow parent id := by
  have links := wf.linked
  by_cases stored : parent < doc.size
  · rw [prepend_of_stored stored] at moved
    cases head : doc.firstChild parent with
    | none =>
      rw [head] at moved
      exact mayGoBelow_of_append moved
    | some first =>
      -- Only a node that may go before the first one, or is the first one, comes to the start.
      have member := links.mem_of_firstChild head
      by_cases already : first = id
      · exact wf.mayGoBelow_parent (already ▸ member)
      · simp only [head, if_neg already] at moved
        obtain ⟨_, parent', above, below⟩ := mayGoBefore_of_insertBefore moved
        have same : parent' = parent := links.same_row (links.parent.mp above) member
        exact same ▸ below
  · unfold Document.prepend known at moved
    -- A parent that is not stored is not known.
    rw [if_neg stored] at moved
    cases moved

/-- Taking nodes out one after another takes them all out of their lists. -/
theorem WellFormed.detach_all (wf : doc.WellFormed) (ids : List NodeId) :
    Reshaped doc (ids.foldl Document.detach doc) (Forest.eraseAll doc.children ids) := by
  induction ids generalizing doc with
  | nil =>
    refine ⟨wf, .refl doc, ?_⟩
    funext parent
    simp [Forest.eraseAll]
  | cons id rest ih =>
    -- The first node is taken out, then the others from what that leaves.
    have out := wf.detach id
    have all := ih out.wellFormed
    refine out.trans ⟨all.wellFormed, all.nodes, ?_⟩
    rw [List.foldl_cons, all.children, out.children]
    exact Forest.eraseAll_erase wf.row_nodup id rest

/-- Taking all children from a node empties its list and no other. -/
theorem WellFormed.removeChildren (wf : doc.WellFormed) (id : NodeId) :
    Reshaped doc (doc.removeChildren id) (Forest.clear doc.children id) := by
  have all := wf.detach_all (doc.children id)
  refine ⟨all.wellFormed, all.nodes, all.children.trans ?_⟩
  -- Only the row of the node itself holds its children.
  funext parent
  unfold Forest.clear Forest.eraseAll
  split
  · next same => simp [same]
  · next different =>
    -- No node of another row is in this one.
    refine List.filter_eq_self.mpr fun child member => ?_
    simpa using fun here => different (wf.linked.same_row member here)

/-- Only a stored node passes as known. -/
theorem known_ok_iff {id known : NodeId} :
    doc.known id = .ok known ↔ id < doc.size ∧ known = id := by
  unfold Document.known
  split
  · next stored => simp [stored, eq_comm]
  · next outside => simp [outside]

/-- A move that is not refused makes in the tree what it makes in the forest. -/
theorem WellFormed.move (wf : doc.WellFormed) {move : Move NodeId} {other : Document}
    (moved : doc.move move = .ok other) :
    Reshaped doc other (Forest.move doc.children move) := by
  -- What was made is what may be made, since a move has one outcome.
  cases move with
  | append parent child =>
    obtain ⟨same, moved', reshaped⟩ := wf.append (mayGoBelow_of_append moved)
    exact Except.ok.inj (moved'.symm.trans moved) ▸ reshaped
  | prepend parent child =>
    obtain ⟨same, moved', reshaped⟩ := wf.prepend (wf.mayGoBelow_of_prepend moved)
    exact Except.ok.inj (moved'.symm.trans moved) ▸ reshaped
  | insertBefore anchor node =>
    obtain ⟨same, moved', reshaped⟩ := wf.insertBefore (mayGoBefore_of_insertBefore moved)
    exact Except.ok.inj (moved'.symm.trans moved) ▸ reshaped
  | detach node =>
    cases known : doc.known node with
    | error refusal =>
      rw [Document.move, known] at moved
      cases moved
    | ok id =>
      rw [Document.move, known, (known_ok_iff.mp known).2] at moved
      exact Except.ok.inj moved ▸ wf.detach node
  | removeChildren node =>
    cases known : doc.known node with
    | error refusal =>
      rw [Document.move, known] at moved
      cases moved
    | ok id =>
      rw [Document.move, known, (known_ok_iff.mp known).2] at moved
      exact Except.ok.inj moved ▸ wf.removeChildren node

end MarkdownTree.Document
