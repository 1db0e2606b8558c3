import MarkdownTree.Proofs.Processing.BracketedImage
import MarkdownTree.Proofs.Processing.Rewritten

/-! Alerts and images: a quote and an image outside it may be rewritten in either order. -/

namespace MarkdownTree

open Alert (Marked Replaced Rewritten)
open ImageLink (Bracketed nest)

variable {doc alerted nested : Document} {quote paragraph image left right link parent : NodeId}
  {blocks before after : List NodeId} {alert : AlertKind}

section imageFirst

variable (wf : doc.WellFormed)
  (bracketed : Bracketed doc image left right link parent before after)
  (reshaped : Document.Reshaped doc nested (nest doc image link parent before after))
include wf bracketed reshaped

/-- An image that goes into its link leaves all rows within a quote around neither of them. -/
theorem ImageLink.children_within (outside : ¬ doc.isWithin quote image)
    (kind : doc.kind quote = .blockQuote) {node : NodeId} (within : doc.isWithin quote node) :
    nested.children node = doc.children node := by
  obtain ⟨_, imageIn, _, linkIn⟩ := bracketed.mem_row
  have notParent : node ≠ parent := by
    intro same
    exact outside (wf.isWithin_child imageIn (same ▸ within))
  have notLink : node ≠ link := by
    intro same
    -- The quote is not the link itself, so it would be around their common parent.
    rcases wf.isWithin_iff.mp within with here | ⟨above, up, within⟩
    · have apart : link ≠ quote := (bracketed.ne_of_tag quote (by simp [kind, Kind.tag])).2.2.2
      exact apart (here.trans same).symm
    · have common := wf.linked.same_row (wf.linked.parent.mp up) (same ▸ linkIn)
      exact outside (wf.isWithin_child imageIn (common ▸ within))
  rw [reshaped.children]
  exact (if_neg notParent).trans (if_neg notLink)

/-- A block quote hangs from the root exactly if it did before an image went into its link. -/
theorem ImageLink.parent_root_iff (kind : doc.kind quote = .blockQuote) :
    nested.parent quote = some Document.root ↔ doc.parent quote = some Document.root := by
  have links := wf.linked
  rw [reshaped.wellFormed.linked.parent, links.parent, reshaped.children]
  unfold nest
  by_cases top : Document.root = parent
  · -- Of the four, only the link stays in the row, and none of them is the quote.
    obtain ⟨notLeft, notImage, notRight, _⟩ := bracketed.ne_of_tag quote (by simp [kind, Kind.tag])
    rw [if_pos top, top, bracketed.row]
    simp [notLeft.symm, notImage.symm, notRight.symm]
  · have notLink := wf.ne_root (links.parent.mpr bracketed.mem_row.2.2.2)
    rw [if_neg top, if_neg notLink.symm]

/-- What an alert would get and what would stay is the same once an image outside the quote went
into its link. -/
theorem ImageLink.content_eq (outside : ¬ doc.isWithin quote image)
    (marked : Marked doc quote paragraph blocks alert) :
    Alert.moved nested paragraph blocks = Alert.moved doc paragraph blocks ∧
      Alert.kept nested paragraph blocks = Alert.kept doc paragraph blocks ∧
      Alert.inlines nested paragraph = Alert.inlines doc paragraph := by
  have within := wf.isWithin_child marked.first_mem (wf.isWithin_self quote)
  exact Alert.content_congr wf marked.children (fun id _ => congrFun reshaped.nodes.kind id)
    (ImageLink.children_within wf bracketed reshaped outside marked.kind within)

/-- A quote is marked exactly if it was before an image outside it went into its link. -/
theorem ImageLink.marked_iff (outside : ¬ doc.isWithin quote image) :
    Marked nested quote paragraph blocks alert ↔ Marked doc quote paragraph blocks alert := by
  have kinds : nested.kind quote = doc.kind quote := congrFun reshaped.nodes.kind quote
  by_cases kind : doc.kind quote = .blockQuote
  · have stays : ∀ {node}, doc.isWithin quote node → nested.children node = doc.children node :=
      ImageLink.children_within wf bracketed reshaped outside kind
    exact Alert.marked_iff wf reshaped.wellFormed reshaped.nodes.keepsNodes
      (ImageLink.parent_root_iff wf bracketed reshaped kind) (stays (wf.isWithin_self quote))
      fun id member => stays (wf.isWithin_child member (wf.isWithin_self quote))
  · exact iff_of_false (fun marked => kind (kinds.symm.trans marked.kind))
      fun marked => kind marked.kind

end imageFirst

section alertFirst

variable (wf : doc.WellFormed) (marked : Marked doc quote paragraph blocks alert)
  (replaced : Replaced doc alerted quote paragraph blocks alert)
include wf marked replaced

/-- A replaced quote makes a rewritten document. -/
theorem Alert.Replaced.rewritten : Rewritten doc [quote] alerted :=
  (Rewritten.refl wf).replaced wf marked List.not_mem_nil replaced

/-- Of what hangs in the tree once the quote is replaced, only the alert did not before. -/
theorem Alert.Replaced.isAttached_before {id : NodeId} (attached : alerted.isAttached id) :
    doc.isAttached id ∨ id = doc.size := by
  have stored := replaced.wellFormed.lt_size_of_isAttached attached
  rw [replaced.size] at stored
  rcases Nat.lt_succ_iff_lt_or_eq.mp stored with old | new
  · have rewritten := replaced.rewritten wf marked
    exact Or.inl (rewritten.isWithin_of_isWithin wf wf.root_stored old attached)
  · exact Or.inr new

/-- A bracketed image outside a quote stays one when the quote is replaced. -/
theorem Alert.bracketed (outside : ¬ doc.isWithin quote image)
    (bracketed : Bracketed doc image left right link parent before after) :
    Bracketed alerted image left right link parent
      (before.map fun id => if id = quote then doc.size else id)
      (after.map fun id => if id = quote then doc.size else id) := by
  have links := wf.linked
  obtain ⟨leftIn, imageIn, rightIn, linkIn⟩ := bracketed.mem_row
  have kind : ∀ {id}, id ∈ doc.children parent → alerted.kind id = doc.kind id := fun member =>
    replaced.keepsNodes.kind _ (links.lt_size member)
  have owner := marked.ne_of_outside wf imageIn outside
  refine ⟨by rw [kind imageIn, bracketed.kind], ?_, by rw [kind leftIn, bracketed.left],
    by rw [kind rightIn, bracketed.right], by rw [kind linkIn, bracketed.link]⟩
  obtain ⟨notLeft, notImage, notRight, notLink⟩ :=
    bracketed.ne_of_tag quote (by simp [marked.kind, Kind.tag])
  rw [replaced.children_map wf marked (Nat.ne_of_lt (links.owner_lt_size imageIn)) owner.1 owner.2,
    bracketed.row]
  simp [notLeft, notImage, notRight, notLink]

/-- A bracketed image outside a quote was one before the quote was replaced. -/
theorem Alert.bracketed_of_replaced (stored : image < doc.size)
    (outside : ¬ doc.isWithin quote image)
    (bracketed : Bracketed alerted image left right link parent before after) :
    ∃ before after, Bracketed doc image left right link parent before after := by
  have links := wf.linked
  have rewritten := replaced.rewritten wf marked
  obtain ⟨leftIn, imageIn, rightIn, linkIn⟩ := bracketed.mem_row
  -- The image was in the same row, since no alert has it.
  have here : image ∈ doc.children parent := by
    rcases rewritten.mem_children wf stored imageIn with
      before | ⟨_, quote', _, _, _, found, marked', _, content⟩
    · exact before
    · have same : quote' = quote := List.mem_singleton.mp (List.mem_of_getElem? found)
      exact absurd (marked'.isWithin wf (Or.inl ((mem_moved_or_kept marked').mp (Or.inl content))))
        (same ▸ outside)
  have owner := marked.ne_of_outside wf here outside
  have row := bracketed.row
  rw [replaced.children_map wf marked (Nat.ne_of_lt (links.owner_lt_size here)) owner.1 owner.2]
    at row
  -- The alert is none of the four, so each of them stands for itself.
  have alertKind : (alerted.kind doc.size).tag ∉ [Tag.text, Tag.imageRef, Tag.linkRef] := by
    simp [replaced.kind, Kind.tag]
  obtain ⟨leftNot, imageNot, rightNot, linkNot⟩ := bracketed.ne_of_tag _ alertKind
  have itself : ∀ {old new : NodeId}, new ≠ doc.size →
      (if old = quote then doc.size else old) = new → old = new := by
    intro old new different same
    split at same
    · exact absurd same.symm different
    · exact same
  obtain ⟨before', rest, split, _, fromLeft⟩ := List.map_eq_append_iff.mp row
  obtain ⟨_, _, isLeft, sameLeft, fromImage⟩ := List.map_eq_cons_iff.mp fromLeft
  obtain ⟨_, _, isImage, sameImage, fromRight⟩ := List.map_eq_cons_iff.mp fromImage
  obtain ⟨_, _, isRight, sameRight, fromLink⟩ := List.map_eq_cons_iff.mp fromRight
  obtain ⟨_, after', isLink, sameLink, _⟩ := List.map_eq_cons_iff.mp fromLink
  rw [isLeft, isImage, isRight, isLink, itself leftNot sameLeft, itself imageNot sameImage,
    itself rightNot sameRight, itself linkNot sameLink] at split
  have kind : ∀ {id}, id ∈ doc.children parent → doc.kind id = alerted.kind id := fun member =>
    (replaced.keepsNodes.kind _ (links.lt_size member)).symm
  exact ⟨before', after', by rw [kind here, bracketed.kind], split,
    by rw [kind (by simp [split]), bracketed.left], by rw [kind (by simp [split]), bracketed.right],
    by rw [kind (by simp [split]), bracketed.link]⟩

end alertFirst

/-- Both orders make the same rows. -/
theorem replace_nest (wf : doc.WellFormed) (marked : Marked doc quote paragraph blocks alert)
    (bracketed : Bracketed doc image left right link parent before after)
    (replaced : Replaced doc alerted quote paragraph blocks alert)
    (reshaped : Document.Reshaped doc nested (nest doc image link parent before after))
    (outside : ¬ doc.isWithin quote image) :
    Alert.replace nested quote paragraph blocks = nest alerted image link parent
      (before.map fun id => if id = quote then doc.size else id)
      (after.map fun id => if id = quote then doc.size else id) := by
  have links := wf.linked
  obtain ⟨_, imageIn, _, linkIn⟩ := bracketed.mem_row
  have linkStored := links.lt_size linkIn
  have parentStored := links.owner_lt_size imageIn
  obtain ⟨notQuote, notParagraph⟩ := marked.ne_of_outside wf imageIn outside
  have linkNotQuote : link ≠ quote :=
    (bracketed.ne_of_tag quote (by simp [marked.kind, Kind.tag])).2.2.2
  have linkNotParagraph : link ≠ paragraph :=
    (bracketed.ne_of_tag paragraph (by simp [marked.text, Kind.tag])).2.2.2
  obtain ⟨sameMoved, sameKept, sameInlines⟩ :=
    ImageLink.content_eq wf bracketed reshaped outside marked
  have rows := congrFun reshaped.children
  funext node
  unfold Alert.replace Alert.distribute nest
  rw [reshaped.nodes.size]
  -- First the row of the root, in which the alert may be next to the link.
  by_cases top : node = Document.root
  · rw [if_pos top, rows, nest]
    by_cases here : node = parent
    · rw [if_pos here, if_pos here, List.map_append, List.map_cons, if_neg linkNotQuote]
    · have notLink : node ≠ link := top ▸ (wf.ne_root (links.parent.mpr linkIn)).symm
      rw [if_neg here, if_neg here, if_neg notLink, if_neg notLink, top, replaced.children_root]
  rw [if_neg top]
  -- Then the rows that only the alert changes, which are neither of those the image changes.
  by_cases new : node = doc.size
  · subst new
    rw [if_pos rfl, if_neg (Nat.ne_of_gt parentStored), if_neg (Nat.ne_of_gt linkStored),
      replaced.children_alert wf, sameMoved]
  rw [if_neg new]
  by_cases isQuote : node = quote
  · subst isQuote
    rw [if_pos rfl, if_neg notQuote.symm, if_neg linkNotQuote.symm,
      replaced.children_quote wf marked, sameKept]
  rw [if_neg isQuote]
  by_cases isParagraph : node = paragraph
  · subst isParagraph
    rw [if_pos rfl, if_neg notParagraph.symm, if_neg linkNotParagraph.symm,
      replaced.children_paragraph wf marked, sameInlines]
  rw [if_neg isParagraph, rows, nest]
  by_cases here : node = parent
  · -- The quote is in the row of the root, which is another one.
    have absent : quote ∉ before ++ left :: image :: right :: link :: after := by
      rw [← bracketed.row, ← here]
      exact fun member => top (links.same_row member (links.parent.mp marked.parent))
    simp only [List.mem_append, List.mem_cons, not_or] at absent
    rw [if_pos here, if_pos here, map_replace_of_not_mem absent.1,
      map_replace_of_not_mem absent.2.2.2.2.2]
  · rw [if_neg here, if_neg here, replaced.children_of_ne top new isQuote isParagraph]

/-- Both orders make the same document. -/
theorem alerted_eq_nested {alerted' nested' : Document} (wf : doc.WellFormed)
    (marked : Marked doc quote paragraph blocks alert)
    (bracketed : Bracketed doc image left right link parent before after)
    (replaced : Replaced doc alerted quote paragraph blocks alert)
    (reshaped : Document.Reshaped doc nested (nest doc image link parent before after))
    (outside : ¬ doc.isWithin quote image)
    (replaced' : Replaced nested alerted' quote paragraph blocks alert)
    (reshaped' : Document.Reshaped alerted nested' (nest alerted image link parent
      (before.map fun id => if id = quote then doc.size else id)
      (after.map fun id => if id = quote then doc.size else id))) : alerted' = nested' := by
  have nodes := reshaped.nodes
  -- A well-formed document is determined by its nodes and rows.
  refine replaced'.wellFormed.ext reshaped'.wellFormed ?_ ?_ ?_ ?_ ?_
  · rw [replaced'.source, nodes.source, reshaped'.nodes.source, replaced.source]
  · rw [replaced'.size, nodes.size, reshaped'.nodes.size, replaced.size]
  · funext id
    rw [replaced'.kind, nodes.size, nodes.kind, reshaped'.nodes.kind, replaced.kind]
  · funext id
    rw [replaced'.span, nodes.size, nodes.span, reshaped'.nodes.span, replaced.span]
  · rw [replaced'.children, reshaped'.children,
      replace_nest wf marked bracketed replaced reshaped outside]

/-- A quote and an image outside it are rewritten to the same in either order, and count alike. -/
theorem turns_commute (wf : doc.WellFormed) (stored : image < doc.size)
    (outside : ¬ doc.isWithin quote image) (count : Nat) :
    Alert.processor.turn (ImageLink.processor.turn (doc, count) image) quote =
      ImageLink.processor.turn (Alert.processor.turn (doc, count) quote) image := by
  by_cases isMarked : ∃ paragraph blocks alert, Marked doc quote paragraph blocks alert
  · obtain ⟨paragraph, blocks, alert, marked⟩ := isMarked
    obtain ⟨alerted, replaced, turned⟩ := marked.turn wf
    have rewritten := replaced.rewritten wf marked
    have attached : alerted.isAttached image ↔ doc.isAttached image :=
      rewritten.isWithin_outside wf stored fun other member => by
        rw [List.mem_singleton.mp member]
        exact outside
    rw [turned]
    by_cases active : doc.isAttached image ∧ ∃ left right link parent before after,
        Bracketed doc image left right link parent before after
    · obtain ⟨hangs, left, right, link, parent, before, after, bracketed⟩ := active
      obtain ⟨nested, reshaped, moved⟩ := bracketed.turn wf hangs
      -- Each of the two is still there after the other.
      have marked' := (ImageLink.marked_iff wf bracketed reshaped outside).mpr marked
      obtain ⟨alerted', replaced', turned'⟩ := marked'.turn reshaped.wellFormed
      have bracketed' := Alert.bracketed wf marked replaced outside bracketed
      obtain ⟨nested', reshaped', moved'⟩ :=
        bracketed'.turn replaced.wellFormed (attached.mpr hangs)
      rw [moved, turned', moved', alerted_eq_nested wf marked bracketed replaced reshaped outside
        replaced' reshaped']
    · -- No image comes to stand in brackets when the quote is replaced.
      rw [ImageLink.turn_of_not_bracketed wf active, turned,
        ImageLink.turn_of_not_bracketed replaced.wellFormed]
      intro active'
      obtain ⟨hangs, left, right, link, parent, before, after, bracketed⟩ := active'
      exact active ⟨attached.mp hangs, left, right, link, parent,
        Alert.bracketed_of_replaced wf marked replaced stored outside bracketed⟩
  · rw [Alert.turn_of_not_marked wf isMarked]
    by_cases active : doc.isAttached image ∧ ∃ left right link parent before after,
        Bracketed doc image left right link parent before after
    · obtain ⟨hangs, left, right, link, parent, before, after, bracketed⟩ := active
      obtain ⟨nested, reshaped, moved⟩ := bracketed.turn wf hangs
      rw [moved, Alert.turn_of_not_marked reshaped.wellFormed]
      -- Nor does a quote come to be marked when the image goes into its link.
      intro isMarked'
      obtain ⟨paragraph, blocks, alert, marked⟩ := isMarked'
      exact isMarked ⟨paragraph, blocks, alert,
        (ImageLink.marked_iff wf bracketed reshaped outside).mp marked⟩
    · rw [ImageLink.turn_of_not_bracketed wf active, Alert.turn_of_not_marked wf isMarked]

end MarkdownTree
