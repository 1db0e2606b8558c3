import MarkdownTree.Tree.Move
import MarkdownTree.Proofs.Tree.WellFormed

/-! What every link of every node is after one node was taken out of a row or put into one, and
which rows these links then make. -/

namespace MarkdownTree.Document

/-- Two documents hold the same nodes, however these are linked. -/
structure SameNodes (doc other : Document) : Prop where
  source : other.source = doc.source
  size : other.size = doc.size
  kind : other.kind = doc.kind
  span : other.span = doc.span

namespace SameNodes

/-- Every document holds its own nodes. -/
theorem refl (doc : Document) : SameNodes doc doc := ⟨rfl, rfl, rfl, rfl⟩

/-- Documents with the same nodes as a third have the same nodes. -/
theorem trans {doc middle other : Document} (first : SameNodes doc middle)
    (second : SameNodes middle other) : SameNodes doc other :=
  ⟨second.source.trans first.source, second.size.trans first.size, second.kind.trans first.kind,
    second.span.trans first.span⟩

end SameNodes

variable {doc : Document}

/-- A change of one node shows at that node alone, and only if it is stored. -/
theorem node_update (doc : Document) (id other : NodeId) (change : Node → Node) :
    (doc.update id change).node other =
      if other = id ∧ id < doc.size then change (doc.node id) else doc.node other := by
  simp only [update, node, size, Array.getD_eq_getD_getElem?, Array.getElem?_modify]
  -- Reading the changed store looks at the changed place only for the node itself.
  by_cases same : id = other
  · subst same
    by_cases stored : id < doc.nodes.size <;> simp [stored]
  · simp [same, Ne.symm same]

/-- A change of a node stores no other. -/
@[simp] theorem size_update (doc : Document) (id : NodeId) (change : Node → Node) :
    (doc.update id change).size = doc.size := by
  simp [update, size]

/-- A change of a node that is not stored does nothing. -/
theorem update_of_not_stored {id : NodeId} (outside : ¬ id < doc.size) (change : Node → Node) :
    doc.update id change = doc := by
  refine Document.ext rfl (Array.ext (size_update doc id change) fun other _ stored => ?_)
  -- No place of the store is that of the node.
  have different : id ≠ other := fun same => outside (same ▸ stored)
  simp [update, Array.getElem_modify, different]

/-- A change of links alone leaves the same nodes. -/
theorem sameNodes_update {id : NodeId} {change : Node → Node}
    (keeps : ∀ node, (change node).kind = node.kind ∧ (change node).span = node.span) :
    SameNodes doc (doc.update id change) where
  source := rfl
  size := size_update doc id change
  kind := by
    funext other
    simp only [kind, node_update]
    split
    · next found => rw [found.1]; exact (keeps _).1
    · rfl
  span := by
    funext other
    simp only [span, node_update]
    split
    · next found => rw [found.1]; exact (keeps _).2
    · rfl

/-- Leading on changes links alone. -/
theorem sameNodes_leadOn (doc : Document) (parent prev next : Option NodeId) :
    SameNodes doc (doc.leadOn parent prev next) := by
  unfold leadOn
  split
  · exact sameNodes_update fun _ => ⟨rfl, rfl⟩
  · exact sameNodes_update fun _ => ⟨rfl, rfl⟩
  · exact .refl doc

/-- Leading back changes links alone. -/
theorem sameNodes_leadBack (doc : Document) (parent prev next : Option NodeId) :
    SameNodes doc (doc.leadBack parent prev next) := by
  unfold leadBack
  split
  · exact sameNodes_update fun _ => ⟨rfl, rfl⟩
  · exact sameNodes_update fun _ => ⟨rfl, rfl⟩
  · exact .refl doc

/-- Taking a node out changes links alone. -/
theorem sameNodes_detach (doc : Document) (id : NodeId) : SameNodes doc (doc.detach id) :=
  ((sameNodes_leadOn _ _ _ _).trans (sameNodes_leadBack _ _ _ _)).trans
    (sameNodes_update fun _ => ⟨rfl, rfl⟩)

/-- Linking a node in at the end of a row changes links alone. -/
theorem sameNodes_linkLast (doc : Document) (parent id : NodeId) :
    SameNodes doc (doc.linkLast parent id) := by
  unfold linkLast
  refine .trans (.trans ?_ (sameNodes_leadOn _ _ _ _)) (sameNodes_leadBack _ _ _ _)
  exact sameNodes_update fun _ => ⟨rfl, rfl⟩

/-- Linking a node in before another changes links alone. -/
theorem sameNodes_linkBefore (doc : Document) (parent anchor id : NodeId) :
    SameNodes doc (doc.linkBefore parent anchor id) := by
  unfold linkBefore
  refine .trans (.trans ?_ (sameNodes_leadBack _ _ _ _)) (sameNodes_leadOn _ _ _ _)
  exact sameNodes_update fun _ => ⟨rfl, rfl⟩

/-- Leading on changes one link to the next sibling or one link to the first child. -/
theorem links_leadOn (doc : Document) (parent prev next : Option NodeId)
    (parentStored : ∀ id ∈ parent, id < doc.size) (prevStored : ∀ id ∈ prev, id < doc.size)
    (id : NodeId) :
    (doc.leadOn parent prev next).parent id = doc.parent id ∧
    (doc.leadOn parent prev next).next id = (if prev = some id then next else doc.next id) ∧
    (doc.leadOn parent prev next).prev id = doc.prev id ∧
    (doc.leadOn parent prev next).firstChild id =
      (if prev = none ∧ parent = some id then next else doc.firstChild id) ∧
    (doc.leadOn parent prev next).lastChild id = doc.lastChild id := by
  unfold leadOn Document.parent Document.next Document.prev firstChild lastChild
  -- Exactly one of the two nodes is changed, if any.
  rcases prev with _ | prev <;> rcases parent with _ | parent <;> simp [node_update] <;> grind

/-- Leading back changes one link to the previous sibling or one link to the last child. -/
theorem links_leadBack (doc : Document) (parent prev next : Option NodeId)
    (parentStored : ∀ id ∈ parent, id < doc.size) (nextStored : ∀ id ∈ next, id < doc.size)
    (id : NodeId) :
    (doc.leadBack parent prev next).parent id = doc.parent id ∧
    (doc.leadBack parent prev next).next id = doc.next id ∧
    (doc.leadBack parent prev next).prev id = (if next = some id then prev else doc.prev id) ∧
    (doc.leadBack parent prev next).firstChild id = doc.firstChild id ∧
    (doc.leadBack parent prev next).lastChild id =
      (if next = none ∧ parent = some id then prev else doc.lastChild id) := by
  unfold leadBack Document.parent Document.next Document.prev firstChild lastChild
  -- Again exactly one of the two nodes is changed, if any.
  rcases next with _ | next <;> rcases parent with _ | parent <;> simp [node_update] <;> grind

/-- The links after a stored node of a well-formed document was taken out. -/
theorem WellFormed.links_detach (wf : doc.WellFormed) {id : NodeId} (stored : id < doc.size)
    (other : NodeId) :
    (doc.detach id).parent other = (if other = id then none else doc.parent other) ∧
    (doc.detach id).next other = (if other = id then none
      else if doc.prev id = some other then doc.next id else doc.next other) ∧
    (doc.detach id).prev other = (if other = id then none
      else if doc.next id = some other then doc.prev id else doc.prev other) ∧
    (doc.detach id).firstChild other = (if doc.prev id = none ∧ doc.parent id = some other
      then doc.next id else doc.firstChild other) ∧
    (doc.detach id).lastChild other = (if doc.next id = none ∧ doc.parent id = some other
      then doc.prev id else doc.lastChild other) := by
  have links := wf.linked
  -- The node's neighbours and its parent are in the store.
  have parentStored : ∀ parent ∈ doc.parent id, parent < doc.size := fun _ => links.parent_lt_size
  have prevStored : ∀ prev ∈ doc.prev id, prev < doc.size := fun _ => links.prev_lt_size
  have nextStored : ∀ next ∈ doc.next id, next < doc.size := fun _ => links.next_lt_size
  -- The neighbours are linked to each other first, and the node loses its links at the end.
  let led := doc.leadOn (doc.parent id) (doc.prev id) (doc.next id)
  have size := (sameNodes_leadOn doc (doc.parent id) (doc.prev id) (doc.next id)).size
  have size' := (sameNodes_leadBack led (doc.parent id) (doc.prev id) (doc.next id)).size
  have on := links_leadOn doc _ _ (doc.next id) parentStored prevStored other
  have back := links_leadBack led _ (doc.prev id) _ (size.symm ▸ parentStored)
    (size.symm ▸ nextStored) other
  unfold detach
  simp only [Document.parent, Document.next, Document.prev, firstChild, lastChild, node_update,
    led] at on back size size' ⊢
  grind

/-- The links after a stored node was linked in at the end of a row. -/
theorem WellFormed.links_linkLast (wf : doc.WellFormed) {parent id : NodeId}
    (parentStored : parent < doc.size) (stored : id < doc.size) (other : NodeId) :
    (doc.linkLast parent id).parent other =
      (if other = id then some parent else doc.parent other) ∧
    (doc.linkLast parent id).next other =
      (if doc.lastChild parent = some other then some id else doc.next other) ∧
    (doc.linkLast parent id).prev other =
      (if other = id then doc.lastChild parent else doc.prev other) ∧
    (doc.linkLast parent id).firstChild other =
      (if doc.lastChild parent = none ∧ other = parent then some id else doc.firstChild other) ∧
    (doc.linkLast parent id).lastChild other =
      (if other = parent then some id else doc.lastChild other) := by
  have links := wf.linked
  have lastStored : ∀ last ∈ doc.lastChild parent, last < doc.size := fun _ =>
    links.lastChild_lt_size
  -- The node is linked up and back first, and its parent and neighbour to it after that.
  let placed := doc.update id fun node =>
    { node with parent := some parent, prev := doc.lastChild parent }
  have size : placed.size = doc.size := size_update doc id _
  let led := placed.leadOn (some parent) (doc.lastChild parent) (some id)
  have size' := (sameNodes_leadOn placed (some parent) (doc.lastChild parent) (some id)).size
  have on := links_leadOn placed (some parent) (doc.lastChild parent) (some id)
    (by grind) (by grind) other
  have back := links_leadBack led (some parent) (some id) none (by grind) (by grind) other
  unfold linkLast
  simp only [Document.parent, Document.next, Document.prev, firstChild, lastChild, node_update,
    led, placed] at on back size size' ⊢
  grind

/-- The links after a stored node was linked in directly before another. -/
theorem WellFormed.links_linkBefore (wf : doc.WellFormed) {parent anchor id : NodeId}
    (above : doc.parent anchor = some parent) (stored : id < doc.size) (other : NodeId) :
    (doc.linkBefore parent anchor id).parent other =
      (if other = id then some parent else doc.parent other) ∧
    (doc.linkBefore parent anchor id).next other =
      (if doc.prev anchor = some other then some id
        else if other = id then some anchor else doc.next other) ∧
    (doc.linkBefore parent anchor id).prev other =
      (if other = anchor then some id
        else if other = id then doc.prev anchor else doc.prev other) ∧
    (doc.linkBefore parent anchor id).firstChild other =
      (if doc.prev anchor = none ∧ other = parent then some id else doc.firstChild other) ∧
    (doc.linkBefore parent anchor id).lastChild other = doc.lastChild other := by
  have links := wf.linked
  have anchorStored := lt_size_of_parent above
  have parentStored := links.parent_lt_size above
  have prevStored : ∀ prev ∈ doc.prev anchor, prev < doc.size := fun _ => links.prev_lt_size
  -- The node gets its own links first, and the others lead to it after that.
  let placed := doc.update id fun node =>
    { node with parent := some parent, prev := doc.prev anchor, next := some anchor }
  have size : placed.size = doc.size := size_update doc id _
  let led := placed.leadBack (some parent) (some id) (some anchor)
  have size' := (sameNodes_leadBack placed (some parent) (some id) (some anchor)).size
  have back := links_leadBack placed (some parent) (some id) (some anchor)
    (by grind) (by grind) other
  have on := links_leadOn led (some parent) (doc.prev anchor) (some id) (by grind) (by grind) other
  unfold linkBefore
  simp only [Document.parent, Document.next, Document.prev, firstChild, lastChild, node_update,
    led, placed] at on back size size' ⊢
  grind

/-- Taking out a node that is not stored does nothing. -/
theorem detach_of_not_stored {id : NodeId} (outside : ¬ id < doc.size) : doc.detach id = doc := by
  have unlinked := node_of_not_stored outside
  -- Without links there is nothing to lead on or back.
  have alone : doc.detach id = doc.update id fun node =>
      { node with parent := none, prev := none, next := none } := by
    simp [detach, leadOn, leadBack, Document.parent, Document.prev, Document.next, unlinked]
  rw [alone]
  exact update_of_not_stored outside _

/-- Who stands side by side when a node is taken out of its row, told by the links before that. -/
theorem WellFormed.adjacent_detach (wf : doc.WellFormed) (id left right : NodeId) :
    (∃ parent, Adjacent left right ((doc.children parent).erase id)) ↔
      left ≠ id ∧ right ≠ id ∧ (doc.next left = some right ∨
        doc.next left = some id ∧ doc.next id = some right) := by
  have links := wf.linked
  simp only [adjacent_erase (wf.row_nodup _), links.next]
  constructor
  · intro found
    obtain ⟨parent, first, second, pair⟩ := found
    rcases pair with pair | ⟨before, after⟩
    · exact ⟨first, second, Or.inl ⟨parent, pair⟩⟩
    · exact ⟨first, second, Or.inr ⟨⟨parent, before⟩, ⟨parent, after⟩⟩⟩
  · intro found
    obtain ⟨first, second, pair⟩ := found
    rcases pair with ⟨parent, pair⟩ | ⟨⟨parent, before⟩, ⟨parent', after⟩⟩
    · exact ⟨parent, first, second, Or.inl pair⟩
    · -- Both neighbours are in the row of the node itself.
      have same := links.same_row before.right_mem after.left_mem
      exact ⟨parent, first, second, Or.inr ⟨before, same ▸ after⟩⟩

/-- The ends of a row when a node is taken out of it, told by the links before that. -/
theorem WellFormed.ends_detach (wf : doc.WellFormed) (id parent : NodeId) :
    ((doc.children parent).erase id).head? =
        (if doc.prev id = none ∧ doc.parent id = some parent then doc.next id
          else (doc.children parent).head?) ∧
      ((doc.children parent).erase id).getLast? =
        (if doc.next id = none ∧ doc.parent id = some parent then doc.prev id
          else (doc.children parent).getLast?) := by
  have links := wf.linked
  by_cases member : id ∈ doc.children parent
  · obtain ⟨before, after, split⟩ := List.append_of_mem member
    obtain ⟨above, prev, next⟩ := links.of_split split
    rw [above, prev, next, split, erase_split (split ▸ wf.row_nodup parent)]
    -- The node was first if nothing stood before it, and last if nothing stood after it.
    constructor
    · cases before <;> simp
    · cases after <;> simp
  · -- Nothing is taken out of a row that does not hold the node.
    have elsewhere : doc.parent id ≠ some parent := fun above => member (links.parent.mp above)
    rw [List.erase_of_not_mem member, if_neg (fun both => elsewhere both.2),
      if_neg (fun both => elsewhere both.2)]
    exact ⟨rfl, rfl⟩

/-- After a node was taken out, every row is what it was less that node. -/
theorem WellFormed.linked_detach (wf : doc.WellFormed) (id : NodeId) :
    (doc.detach id).Linked fun parent => (doc.children parent).erase id := by
  have links := wf.linked
  by_cases stored : id < doc.size
  · have changed := wf.links_detach stored
    -- A node that were its own neighbour would be left over.
    have self := wf.next_ne_self id
    refine ⟨fun parent => (wf.row_nodup parent).erase id, ?_, ?_, ?_, ?_, ?_⟩
    · intro parent child
      rw [(changed child).1, (wf.row_nodup parent).mem_erase_iff, ← links.parent]
      split <;> simp_all
    · intro left right
      rw [(changed left).2.1, wf.adjacent_detach]
      have before := wf.mirror left id
      grind
    · -- The links back mirror those forward, before and after.
      intro left right
      rw [(changed right).2.2.1, wf.adjacent_detach]
      have mirror := wf.mirror left right
      have before := wf.mirror left id
      have after := wf.mirror id right
      grind
    · intro parent
      rw [(changed parent).2.2.2.1, links.first, (wf.ends_detach id parent).1]
    · intro parent
      rw [(changed parent).2.2.2.2, links.last, (wf.ends_detach id parent).2]
  · -- A node that is not stored is in no row.
    have absent : ∀ parent, id ∉ doc.children parent := fun parent member =>
      stored (links.lt_size member)
    simp only [detach_of_not_stored stored, List.erase_of_not_mem (absent _)]
    exact links

/-- The parents after a node was taken out. -/
theorem WellFormed.parent_detach (wf : doc.WellFormed) (id other : NodeId) :
    (doc.detach id).parent other = if other = id then none else doc.parent other := by
  by_cases stored : id < doc.size
  · exact (wf.links_detach stored other).1
  · rw [detach_of_not_stored stored]
    split
    · next same =>
      -- A node that is not stored has no parent to lose.
      rw [same, Option.eq_none_iff_forall_ne_some]
      exact fun parent above => stored (lt_size_of_parent above)
    · rfl

/-- Who stands side by side when a node is put at the end of a row, told by the links before that.
-/
theorem WellFormed.adjacent_linkLast (wf : doc.WellFormed) (parent id left right : NodeId) :
    (∃ other, Adjacent left right
        (if other = parent then doc.children other ++ [id] else doc.children other)) ↔
      doc.next left = some right ∨ doc.lastChild parent = some left ∧ right = id := by
  rw [wf.linked.next, wf.linked.last]
  constructor
  · intro found
    obtain ⟨other, pair⟩ := found
    split at pair
    · next same =>
      -- The longer row has its old pairs, and one more.
      subst same
      rcases adjacent_concat.mp pair with old | new
      · exact Or.inl ⟨other, old⟩
      · exact Or.inr new
    · exact Or.inl ⟨other, pair⟩
  · intro found
    rcases found with ⟨other, pair⟩ | new
    · -- Who stood side by side before still does, also in the longer row.
      refine ⟨other, ?_⟩
      split
      · exact adjacent_concat.mpr (Or.inl pair)
      · exact pair
    · refine ⟨parent, ?_⟩
      rw [if_pos rfl]
      exact adjacent_concat.mpr (Or.inr new)

/-- After a node without a place was linked in last, it ends the row of its parent. -/
theorem WellFormed.linked_linkLast (wf : doc.WellFormed) {parent id : NodeId}
    (parentStored : parent < doc.size) (stored : id < doc.size) (loose : doc.parent id = none) :
    (doc.linkLast parent id).Linked fun other =>
      if other = parent then doc.children other ++ [id] else doc.children other := by
  have links := wf.linked
  have changed := wf.links_linkLast parentStored stored
  have absent := wf.parent_eq_none_iff.mp loose
  -- Nothing stands after the last node of a row.
  have noNext : ∀ left, doc.lastChild parent = some left → doc.next left = none := by
    intro left last
    obtain ⟨before, split⟩ := List.getLast?_eq_some_iff.mp ((links.last parent).symm.trans last)
    exact (links.of_split split).2.2
  refine ⟨?_, ?_, ?_, ?_, ?_, ?_⟩
  · intro other
    split
    · -- The new node may as well stand first.
      refine List.nodup_middle.mpr (List.nodup_cons.mpr ⟨?_, ?_⟩) <;> rw [List.append_nil]
      · exact absent other
      · exact wf.row_nodup other
    · exact wf.row_nodup other
  · intro other child
    rw [(changed child).1]
    have parents : doc.parent child = some other ↔ child ∈ doc.children other := links.parent
    have here := absent other
    grind
  · -- What was last had no next sibling, so no link is lost.
    intro left right
    rw [(changed left).2.1, wf.adjacent_linkLast]
    have none := noNext left
    grind
  · -- The new node had no previous sibling.
    intro left right
    rw [(changed right).2.2.1, wf.adjacent_linkLast, wf.mirror]
    have none := (wf.loose id loose).1
    grind
  · intro other
    rw [(changed other).2.2.2.1, links.first, links.last]
    by_cases same : other = parent
    · subst same
      cases doc.children other <;> simp
    · simp [same]
  · intro other
    rw [(changed other).2.2.2.2, links.last]
    split <;> simp

/-- Who stands side by side when a new node is put before another, told by the links before that. -/
theorem WellFormed.adjacent_linkBefore (wf : doc.WellFormed) {parent anchor id : NodeId}
    (above : doc.parent anchor = some parent) (loose : doc.parent id = none)
    (left right : NodeId) :
    (∃ other, Adjacent left right (putBefore anchor id (doc.children other))) ↔
      left = id ∧ right = anchor ∨ doc.next left = some anchor ∧ right = id ∨
        doc.next left = some right ∧ right ≠ anchor := by
  have links := wf.linked
  have absent := wf.parent_eq_none_iff.mp loose
  simp only [adjacent_putBefore (wf.row_nodup _) (absent _), links.next]
  constructor
  · intro found
    obtain ⟨other, pair⟩ := found
    rcases pair with ⟨first, second, _⟩ | ⟨pair, second⟩ | ⟨pair, second⟩
    · exact Or.inl ⟨first, second⟩
    · exact Or.inr (Or.inl ⟨⟨other, pair⟩, second⟩)
    · exact Or.inr (Or.inr ⟨⟨other, pair⟩, second⟩)
  · intro found
    rcases found with ⟨first, second⟩ | ⟨⟨other, pair⟩, second⟩ | ⟨⟨other, pair⟩, second⟩
    · -- The anchor stands in the row of its parent.
      exact ⟨parent, Or.inl ⟨first, second, links.parent.mp above⟩⟩
    · exact ⟨other, Or.inr (Or.inl ⟨pair, second⟩)⟩
    · exact ⟨other, Or.inr (Or.inr ⟨pair, second⟩)⟩

/-- Which node a row starts with when one is put before another, told by the links before that. -/
theorem WellFormed.first_linkBefore (wf : doc.WellFormed) {parent anchor id : NodeId}
    (above : doc.parent anchor = some parent) (other : NodeId) :
    (if doc.prev anchor = none ∧ other = parent then some id else (doc.children other).head?) =
      if (doc.children other).head? = some anchor then some id
      else (doc.children other).head? := by
  have links := wf.linked
  have member := links.parent.mp above
  by_cases same : other = parent
  · -- The anchor is first in its row exactly when nothing stands before it.
    subst same
    obtain ⟨before, after, split⟩ := List.append_of_mem member
    have distinct := split ▸ wf.row_nodup other
    rw [(links.of_split split).2.1, split]
    cases before with
    | nil => simp
    | cons first rest =>
      have fresh : first ≠ anchor := by
        intro same
        subst same
        exact (List.nodup_cons.mp distinct).1 (by simp)
      simp [fresh]
  · -- The anchor is in no other row.
    have elsewhere : (doc.children other).head? ≠ some anchor := fun head =>
      same (links.same_row (List.mem_of_head? head) member)
    rw [if_neg (fun both => same both.2), if_neg elsewhere]

/-- After a node without a place was linked in before another, it stands there in that row. -/
theorem WellFormed.linked_linkBefore (wf : doc.WellFormed) {parent anchor id : NodeId}
    (above : doc.parent anchor = some parent) (stored : id < doc.size)
    (loose : doc.parent id = none) :
    (doc.linkBefore parent anchor id).Linked fun other =>
      putBefore anchor id (doc.children other) := by
  have links := wf.linked
  have changed := wf.links_linkBefore above stored
  have absent := wf.parent_eq_none_iff.mp loose
  have pairs := wf.adjacent_linkBefore above loose
  obtain ⟨noPrev, noNext⟩ := wf.loose id loose
  -- The anchor has a parent, and the new node has none.
  have different : id ≠ anchor := by
    intro same
    rw [same, above] at loose
    cases loose
  refine ⟨fun other => nodup_putBefore (wf.row_nodup other) (absent other), ?_, ?_, ?_, ?_, ?_⟩
  · intro other child
    rw [(changed child).1, mem_putBefore]
    have parents : doc.parent child = some other ↔ child ∈ doc.children other := links.parent
    have anchored : doc.parent anchor = some other ↔ anchor ∈ doc.children other := links.parent
    have here := absent other
    grind
  · -- The link to the anchor, if there was one, now leads to the new node.
    intro left right
    rw [(changed left).2.1, pairs]
    have before := wf.mirror left anchor
    grind
  · intro left right
    rw [(changed right).2.2.1, pairs]
    have before := wf.mirror left anchor
    have mirror := wf.mirror left right
    grind
  · intro other
    rw [(changed other).2.2.2.1, links.first, head?_putBefore, wf.first_linkBefore above]
  · intro other
    rw [(changed other).2.2.2.2, links.last, getLast?_putBefore]

end MarkdownTree.Document
