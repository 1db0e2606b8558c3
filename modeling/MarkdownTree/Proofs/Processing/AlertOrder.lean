import MarkdownTree.Proofs.Processing.Rewritten

/-! Document order after a quote is replaced: what is still in the tree is met in the old order. -/

namespace MarkdownTree.Alert

variable {doc other : Document} {quote paragraph : NodeId} {blocks : List NodeId}
  {alert : AlertKind}

/-- Lists that are put together are shortened by shortening the parts or leaving some out. -/
theorem flatMap_sublist {short long : NodeId → List NodeId} {few many : List NodeId}
    (fewer : few.Sublist many) (shorter : ∀ id ∈ few, (short id).Sublist (long id)) :
    (few.flatMap short).Sublist (many.flatMap long) := by
  induction fewer with
  | slnil => exact List.Sublist.refl []
  | cons first _ ih =>
    -- The part of a node that is left out is left out as well.
    rw [List.flatMap_cons]
    exact (ih shorter).trans (List.sublist_append_right _ _)
  | cons_cons first _ ih =>
    rw [List.flatMap_cons, List.flatMap_cons]
    exact (shorter first List.mem_cons_self).append
      (ih fun id member => shorter id (List.mem_cons_of_mem first member))

/-- What the alert gets is in the order in which the quote held it. -/
theorem moved_sublist : (moved doc paragraph blocks).Sublist (paragraph :: blocks) := by
  unfold moved
  cases hasContent doc (doc.children paragraph).tail <;> cases hasContent doc blocks <;> simp

/-- What the paragraph keeps is in the order in which it held it. -/
theorem inlines_sublist : (inlines doc paragraph).Sublist (doc.children paragraph) := by
  unfold inlines
  split
  · exact (List.tail_sublist _).trans (List.dropWhile_sublist _)
  · exact List.Sublist.refl _

/-- Nothing within a child of the paragraph is the root, the quote or the paragraph. -/
theorem Marked.ne_of_inline (wf : doc.WellFormed) (marked : Marked doc quote paragraph blocks alert)
    {inline id : NodeId} (inside : inline ∈ doc.children paragraph)
    (within : doc.isWithin inline id) :
    id ≠ Document.root ∧ id ≠ quote ∧ id ≠ paragraph := by
  have outer := marked.isWithin wf (Or.inr inside)
  refine ⟨fun isRoot => ?_, fun isQuote => ?_, fun isParagraph => ?_⟩
  · exact wf.not_isWithin_parent (wf.linked.parent.mp marked.parent)
      (wf.isWithin_trans outer (isRoot ▸ within))
  · -- The quote would be below its paragraph, which is below the quote.
    exact wf.not_isWithin_parent inside (wf.isWithin_child marked.first_mem (isQuote ▸ within))
  · exact wf.not_isWithin_parent inside (isParagraph ▸ within)

section replaced

variable (wf : doc.WellFormed) (replaced : Replaced doc other quote paragraph blocks alert)
include wf replaced

/-- A subtree that holds neither the root nor the quote nor its paragraph is met as before. -/
theorem descendants_apart {top : NodeId} (stored : top < doc.size)
    (apart : ∀ id, doc.isWithin top id → id ≠ Document.root ∧ id ≠ quote ∧ id ≠ paragraph) :
    other.descendants top = doc.descendants top := by
  -- Only the rows of these three nodes change.
  refine wf.descendants_congr replaced.wellFormed fun id within => ?_
  obtain ⟨notRoot, notQuote, notParagraph⟩ := apart id within
  refine replaced.children_of_ne notRoot ?_ notQuote notParagraph
  -- Below a stored node there are stored nodes only.
  rcases wf.isWithin_iff.mp within with same | ⟨_, above, _⟩
  · exact same ▸ Nat.ne_of_lt stored
  · exact Nat.ne_of_lt (Document.lt_size_of_parent above)

variable (marked : Marked doc quote paragraph blocks alert)
include marked

/-- Of the content of the quote, what goes to the alert is met in the old order. -/
theorem descendants_content {id : NodeId} (member : id ∈ doc.children quote) :
    (other.descendants id).Sublist (doc.descendants id) := by
  have links := wf.linked
  have first := marked.first_mem
  by_cases same : id = paragraph
  · rw [same, replaced.wellFormed.descendants_eq, wf.descendants_eq,
      replaced.children_paragraph wf marked]
    -- The paragraph comes first, then what it keeps of its inlines.
    refine List.Sublist.cons_cons _ (flatMap_sublist inlines_sublist fun inline here => ?_)
    have inside := mem_of_mem_inlines here
    rw [descendants_apart wf replaced (links.lt_size inside) fun _ within =>
      marked.ne_of_inline wf inside within]
  · have within := marked.isWithin wf (Or.inl member)
    rw [descendants_apart wf replaced (links.lt_size member) fun inner deep => ?_]
    refine ⟨fun isRoot => ?_, fun isQuote => ?_, fun isParagraph => ?_⟩
    · -- The root is above the quote, and not below it.
      exact wf.not_isWithin_parent (links.parent.mp marked.parent)
        (wf.isWithin_trans within (isRoot ▸ deep))
    · exact wf.not_isWithin_parent member (isQuote ▸ deep)
    · exact wf.not_isWithin_sibling member first same (isParagraph ▸ deep) (wf.isWithin_self _)

/-- The old nodes that are still in the tree are met in the old order. -/
theorem descendants_root :
    ((other.descendants Document.root).filter fun id => id ≠ doc.size).Sublist
      (doc.descendants Document.root) := by
  have links := wf.linked
  have wf' := replaced.wellFormed
  have top := links.parent.mp marked.parent
  have first := marked.first_mem
  rw [wf'.descendants_eq, wf.descendants_eq, replaced.children_root, List.flatMap_map,
    List.filter_cons_of_pos (by simpa using Nat.ne_of_lt wf.root_stored), List.filter_flatMap]
  refine List.Sublist.cons_cons _ (flatMap_sublist (List.Sublist.refl _) fun child member => ?_)
  by_cases same : child = quote
  · -- The alert itself is new, and what it has of the quote is met in the old order.
    rw [if_pos same, same, wf'.descendants_eq, wf.descendants_eq quote, replaced.children_alert wf,
      List.filter_cons_of_neg (by simp), marked.children]
    refine (List.filter_sublist.trans ?_).trans (List.sublist_cons_self _ _)
    refine flatMap_sublist moved_sublist fun id inside => ?_
    refine descendants_content wf replaced marked ?_
    exact (mem_moved_or_kept marked).mp (Or.inl inside)
  · -- The root and the quote are not below another child of the root, nor is the paragraph.
    rw [if_neg same, descendants_apart wf replaced (links.lt_size member) fun id within => ?_]
    · exact List.filter_sublist
    refine ⟨fun isRoot => ?_, fun isQuote => ?_, fun isParagraph => ?_⟩
    · exact wf.not_isWithin_parent member (isRoot ▸ within)
    · exact wf.not_isWithin_sibling member top same (isQuote ▸ within) (wf.isWithin_self quote)
    · exact wf.not_isWithin_sibling member top same (isParagraph ▸ within)
        (wf.isWithin_child first (wf.isWithin_self quote))

end replaced

end MarkdownTree.Alert
