import MarkdownTree.Processing.ImageLink
import MarkdownTree.Proofs.Processing.Turn
import Mathlib.Data.Option.Basic

/-! Bracketed images: an image in brackets before a link is read off its row, and its patch puts it
into the link. -/

namespace MarkdownTree.ImageLink

variable {doc other : Document} {image left right link parent : NodeId}
  {before after : List NodeId}

/-- An image between brackets and before a link, in the row of their parent. -/
structure Bracketed (doc : Document) (image left right link parent : NodeId)
    (before after : List NodeId) : Prop where
  kind : (doc.kind image).tag = .imageRef
  row : doc.children parent = before ++ left :: image :: right :: link :: after
  left : doc.kind left = .text "["
  right : doc.kind right = .text "]"
  link : (doc.kind link).tag = .linkRef

/-- A text of a literal is a text node that holds it. -/
theorem isText_iff {literal : String} {id : NodeId} :
    isText doc literal id ↔ doc.kind id = .text literal := by
  unfold isText
  cases doc.kind id <;> simp [Kind.text?]

/-- A node gets a patch exactly when it is a bracketed image. -/
theorem process_eq_some_iff (wf : doc.WellFormed) {made : Patch} :
    process doc image = some made ↔ ∃ left right link parent before after,
      Bracketed doc image left right link parent before after ∧
        made = patch image left right link := by
  have links := wf.linked
  simp only [process, around?, Option.bind_eq_bind, Option.bind_eq_some_iff, Option.guard_eq_some',
    Option.filter_eq_some_iff, isText_iff, Option.pure_def, Option.some.injEq]
  constructor
  · intro answer
    obtain ⟨_, kind, _, ⟨left, ⟨prev, opens⟩, right, ⟨next, closes⟩, link, ⟨next', linked⟩, rfl⟩,
      rfl⟩ := answer
    obtain ⟨parent, before, rest, row⟩ := links.prev.mp prev
    rw [List.append_cons] at row
    -- The links after the image lead on through its row.
    obtain ⟨rest, rfl⟩ := List.head?_eq_some_iff.mp ((links.of_split row).2.2.symm.trans next)
    rw [List.append_cons] at row
    obtain ⟨after, rfl⟩ := List.head?_eq_some_iff.mp ((links.of_split row).2.2.symm.trans next')
    exact ⟨left, right, link, parent, before, after,
      ⟨by simpa using kind, by simpa using row, opens, closes, by simpa using linked⟩, rfl⟩
  · intro found
    obtain ⟨left, right, link, parent, before, after, bracketed, rfl⟩ := found
    -- The four stand side by side, so the links of each lead to the next.
    have row := bracketed.row
    rw [List.append_cons] at row
    have around := links.of_split row
    rw [List.append_cons] at row
    have beyond := links.of_split row
    rw [List.getLast?_concat] at around
    exact ⟨(), by simp [bracketed.kind], _, ⟨left, ⟨around.2.1, bracketed.left⟩, right,
      ⟨around.2.2, bracketed.right⟩, link, ⟨beyond.2.2, by simp [bracketed.link]⟩, rfl⟩, rfl⟩

/-- The rows in which the link stands for all four and has the image for its only child. -/
def nest (doc : Document) (image link parent : NodeId) (before after : List NodeId) : Forest :=
  fun node =>
    if node = parent then before ++ link :: after
    else if node = link then [image]
    else doc.children node

namespace Bracketed

variable (wf : doc.WellFormed)
  (bracketed : Bracketed doc image left right link parent before after)
include bracketed

/-- The four are in the row of their parent. -/
theorem mem_row : left ∈ doc.children parent ∧ image ∈ doc.children parent ∧
    right ∈ doc.children parent ∧ link ∈ doc.children parent := by
  simp [bracketed.row]

/-- A node that is no text, image or link is none of the four. -/
theorem ne_of_tag (id : NodeId)
    (other : (doc.kind id).tag ∉ [Tag.text, Tag.imageRef, Tag.linkRef]) :
    left ≠ id ∧ image ≠ id ∧ right ≠ id ∧ link ≠ id := by
  -- Each of the four has one of the three tags.
  refine ⟨?_, ?_, ?_, ?_⟩ <;> intro same <;> subst same <;> apply other
  · simp [bracketed.left, Kind.tag]
  · simp [bracketed.kind]
  · simp [bracketed.right, Kind.tag]
  · simp [bracketed.link]

include wf

/-- The link is not the parent, nor the image. -/
theorem link_ne : link ≠ parent ∧ link ≠ image := by
  have links := wf.linked
  constructor
  · intro same
    exact (wf.ne_of_mem bracketed.mem_row.2.2.2).2 same
  · intro same
    subst same
    have kind := bracketed.kind
    rw [bracketed.link] at kind
    cases kind

/-- Without the image and the brackets, the row of the parent holds the link in their place. -/
theorem erase_row : (((doc.children parent).erase image).erase right).erase left =
    before ++ link :: after := by
  have distinct := bracketed.row ▸ wf.row_nodup parent
  rw [bracketed.row]
  rw [List.append_cons] at distinct ⊢
  rw [erase_split distinct]
  -- The right bracket now stands after the left one.
  have distinct' : ((before ++ [left]) ++ right :: link :: after).Nodup := by
    rw [← erase_split distinct]
    exact distinct.erase image
  rw [erase_split distinct']
  have distinct'' : (before ++ left :: (link :: after)).Nodup := by
    rw [List.append_cons, ← erase_split distinct']
    exact distinct'.erase right
  rw [← List.append_cons, erase_split distinct'']

/-- Once the link has no children, the image may go below it. -/
theorem mayGoBelow : (doc.removeChildren link).MayGoBelow link image := by
  have links := wf.linked
  obtain ⟨_, imageIn, _, linkIn⟩ := bracketed.mem_row
  obtain ⟨notParent, notImage⟩ := bracketed.link_ne wf
  obtain ⟨wf', nodes, children⟩ := wf.removeChildren link
  have row : (doc.removeChildren link).children parent = doc.children parent := by
    rw [children]
    exact if_neg notParent.symm
  have inRow := row.symm ▸ imageIn
  refine ⟨(wf'.mayGoBelow_parent inRow).notRoot, fun within => ?_,
    nodes.size ▸ links.lt_size linkIn, nodes.size ▸ links.lt_size imageIn⟩
  -- Above the link there is the parent, which is not within anything in its row.
  rcases wf'.isWithin_iff.mp within with same | ⟨above, up, within⟩
  · exact notImage same.symm
  · have same := wf'.linked.same_row (wf'.linked.parent.mp up) (row.symm ▸ linkIn)
    exact wf'.not_isWithin_parent inRow (same ▸ within)

/-- The moves of the patch leave the link in the place of all four, with the image below it. -/
theorem erase_append_clear : Forest.erase (Forest.erase (Forest.append
    (Forest.clear doc.children link) link image) right) left =
      nest doc image link parent before after := by
  have links := wf.linked
  obtain ⟨leftIn, imageIn, rightIn, _⟩ := bracketed.mem_row
  have notParent := (bracketed.link_ne wf).1
  have distinct := bracketed.row ▸ wf.row_nodup parent
  funext node
  unfold nest Forest.append Forest.erase Forest.clear
  beta_reduce
  by_cases here : node = parent
  · -- The link is another node, so the row of the parent only loses the image and the brackets.
    subst here
    rw [if_neg notParent.symm, if_neg notParent.symm, if_pos rfl, bracketed.erase_row wf]
  · rw [if_neg here]
    have elsewhere : ∀ {id}, id ∈ doc.children parent → id ∉ doc.children node :=
      fun member member' => here (links.same_row member' member)
    by_cases inner : node = link
    · -- The link has the image alone, and the brackets are other nodes.
      have apart : image ≠ right ∧ image ≠ left := by
        simp only [List.nodup_append, List.nodup_cons, List.mem_cons] at distinct
        tauto
      rw [if_pos inner, if_pos inner, if_pos inner]
      simp [apart.1, apart.2]
    · rw [if_neg inner, if_neg inner, if_neg inner, List.erase_of_not_mem (elsewhere imageIn),
        List.erase_of_not_mem (elsewhere rightIn), List.erase_of_not_mem (elsewhere leftIn)]

/-- The patch of a bracketed image is never refused, and puts the image into the link. -/
theorem apply : ∃ other,
    Document.Reshaped doc other (nest doc image link parent before after) ∧ ∀ journal,
      (patch image left right link).apply doc journal =
        { doc := other
          journal := journal ++ [⟨.added, image⟩, ⟨.removed, right⟩, ⟨.removed, left⟩]
          created := [] } := by
  have links := wf.linked
  obtain ⟨leftIn, _, rightIn, linkIn⟩ := bracketed.mem_row
  have cleared := wf.removeChildren link
  obtain ⟨middle, moved, reshaped⟩ := cleared.wellFormed.append (bracketed.mayGoBelow wf)
  have nodes := cleared.nodes.trans reshaped.nodes
  have out := reshaped.wellFormed.detach right
  have out' := out.wellFormed.detach left
  -- The moves are those of the patch, each on what the one before leaves.
  have append : Edit.apply [] _ (.append (.existing link) (.existing image)) = .ok middle := moved
  have rightStored : right < middle.size := nodes.size ▸ links.lt_size rightIn
  have leftStored : left < (middle.detach right).size :=
    (nodes.trans out.nodes).size ▸ links.lt_size leftIn
  refine ⟨(middle.detach right).detach left,
    ⟨out'.wellFormed, (nodes.trans out.nodes).trans out'.nodes, ?_⟩, fun journal => ?_⟩
  · rw [out'.children, out.children, reshaped.children, cleared.children,
      bracketed.erase_append_clear wf]
  · have created : Patch.createAll doc (patch image left right link).created = (doc, []) := rfl
    refine Patch.apply_of_parts created ?_ ?_
    · show Patch.editAll [] doc [.removeChildren (.existing link),
        .append (.existing link) (.existing image), .detach (.existing right),
        .detach (.existing left)] = _
      rw [Patch.editAll_cons (Patch.apply_removeChildren (links.lt_size linkIn)),
        Patch.editAll_cons append, Patch.editAll_cons (Patch.apply_detach rightStored),
        Patch.editAll_cons (Patch.apply_detach leftStored)]
      rfl
    · simp only [patch, Patch.noteAll, PatchNode.resolve, List.append_assoc]
      rfl

omit wf in
/-- Whatever is in one of the rows was there before, or is the image in the link. -/
theorem mem_nest {node id : NodeId} (member : id ∈ nest doc image link parent before after node) :
    id ∈ doc.children node ∨ node = link ∧ id = image := by
  unfold nest at member
  split at member
  · next same =>
    left
    rw [same, bracketed.row]
    rcases List.mem_append.mp member with early | late
    · exact List.mem_append_left _ early
    · rw [List.append_cons, List.append_cons, List.append_cons]
      exact List.mem_append_right _ late
  · split at member
    · next same => exact Or.inr ⟨same, List.mem_singleton.mp member⟩
    · exact Or.inl member

/-- Nodes are within no node but the link within which they were not before. -/
theorem isWithin_of_isWithin
    (reshaped : Document.Reshaped doc other (nest doc image link parent before after))
    {top id : NodeId} (notLink : top ≠ link) (within : other.isWithin top id) :
    doc.isWithin top id := by
  have wf' := reshaped.wellFormed
  have links := wf.linked
  obtain ⟨_, imageIn, _, linkIn⟩ := bracketed.mem_row
  induction id using wf'.parent_induction with
  | step id ih =>
    rcases wf'.isWithin_iff.mp within with same | ⟨node, above, within⟩
    · exact same ▸ wf.isWithin_self top
    have member := wf'.linked.parent.mp above
    have inside := ih node above within
    rw [reshaped.children] at member
    rcases bracketed.mem_nest member with before | ⟨here, same⟩
    · exact wf.isWithin_child before inside
    · -- The image was next to the link, so it was within the same nodes but the link itself.
      rcases wf.isWithin_iff.mp inside with same' | ⟨up, above', outer⟩
      · exact absurd (same'.trans here) notLink
      · have same' : up = parent := links.same_row (links.parent.mp above') (here ▸ linkIn)
        exact same ▸ wf.isWithin_child imageIn (same' ▸ outer)

/-- A turn at a bracketed image in the tree puts it into the link. -/
theorem turn (attached : doc.isAttached image) : ∃ other,
    Document.Reshaped doc other (nest doc image link parent before after) ∧
      ∀ count, processor.turn (doc, count) image = (other, count + 1) := by
  obtain ⟨other, reshaped, applied⟩ := bracketed.apply wf
  have answer := (process_eq_some_iff wf).mpr ⟨_, _, _, _, _, _, bracketed, rfl⟩
  refine ⟨other, reshaped, fun count => ?_⟩
  rw [Processor.turn_of_some attached answer, applied]

end Bracketed

/-- A turn at any other node does nothing. -/
theorem turn_of_not_bracketed (wf : doc.WellFormed) {node : NodeId}
    (idle : ¬ (doc.isAttached node ∧ ∃ left right link parent before after,
      Bracketed doc node left right link parent before after)) (count : Nat) :
    processor.turn (doc, count) node = (doc, count) := by
  -- A processor with nothing to answer does nothing.
  refine Processor.turn_of_idle (fun patch attached answer => idle ⟨attached, ?_⟩) count
  obtain ⟨left, right, link, parent, before, after, bracketed, _⟩ :=
    (process_eq_some_iff wf).mp answer
  exact ⟨left, right, link, parent, before, after, bracketed⟩

/-- No patch for an image is refused. -/
theorem accepted : processor.Accepted := by
  intro doc node made wf answer journal
  obtain ⟨left, right, link, parent, before, after, bracketed, rfl⟩ :=
    (process_eq_some_iff wf).mp answer
  obtain ⟨other, _, applied⟩ := bracketed.apply wf
  rw [applied]

end MarkdownTree.ImageLink
