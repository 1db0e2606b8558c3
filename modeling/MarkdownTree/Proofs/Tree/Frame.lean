import MarkdownTree.Proofs.Tree.Move
import MarkdownTree.Proofs.Tree.Order

/-! What a move leaves alone: the rows it does not touch, and all that is below the nodes it moves.
-/

namespace MarkdownTree.Document

/-- The nodes that a move moves. -/
def movedBy (doc : Document) : Move NodeId → List NodeId
  | .append _ child | .prepend _ child => [child]
  | .insertBefore _ node | .detach node => [node]
  | .removeChildren node => doc.children node

/-- The node that a move puts nodes under, if it puts them anywhere. -/
def destination? (doc : Document) : Move NodeId → Option NodeId
  | .append parent _ | .prepend parent _ => some parent
  | .insertBefore anchor _ => doc.parent anchor
  | .detach _ | .removeChildren _ => none

variable {doc other : Document} {move : Move NodeId}

namespace WellFormed

/-- A row that a node neither leaves nor enters stays as it was. -/
theorem children_move (wf : doc.WellFormed) (moved : doc.move move = .ok other) {node : NodeId}
    (left : ∀ id ∈ doc.movedBy move, doc.parent id ≠ some node)
    (entered : doc.destination? move ≠ some node) : other.children node = doc.children node := by
  have links := wf.linked
  -- A row that a node is not in is the same without it.
  have kept : ∀ id ∈ doc.movedBy move, (doc.children node).erase id = doc.children node :=
    fun id member => List.erase_of_not_mem fun here => left id member (links.parent.mpr here)
  rw [(wf.move moved).children]
  cases move with
  | append parent child =>
    have different : node ≠ parent := fun same => entered (congrArg some same.symm)
    exact (if_neg different).trans (kept child List.mem_cons_self)
  | prepend parent child =>
    have different : node ≠ parent := fun same => entered (congrArg some same.symm)
    exact (if_neg different).trans (kept child List.mem_cons_self)
  | insertBefore anchor id =>
    -- The anchor is not in a row that is not entered, so nothing is put there.
    have absent : anchor ∉ doc.children node := fun here => entered (links.parent.mpr here)
    show putBefore anchor id ((doc.children node).erase id) = doc.children node
    rw [kept id List.mem_cons_self, putBefore_of_not_mem absent]
  | detach id => exact kept id List.mem_cons_self
  | removeChildren id =>
    show (if node = id then [] else doc.children node) = doc.children node
    split
    · next same =>
      -- An emptied row that no child leaves was empty.
      subst same
      rcases List.eq_nil_or_concat (doc.children node) with empty | ⟨front, last, split⟩
      · exact empty.symm
      · have member : last ∈ doc.children node := by simp [split]
        exact absurd (links.parent.mpr member) (left last member)
    · rfl

/-- No move puts a node somewhere below itself. -/
theorem outside_destination (wf : doc.WellFormed) (moved : doc.move move = .ok other)
    {id parent : NodeId} (member : id ∈ doc.movedBy move)
    (goal : doc.destination? move = some parent) : ¬ doc.isWithin id parent := by
  cases move with
  | append parent' child =>
    -- Only the child is moved, and what would be put below itself is refused.
    rw [List.mem_singleton.mp member, ← Option.some.inj goal]
    exact (mayGoBelow_of_append moved).outside
  | prepend parent' child =>
    rw [List.mem_singleton.mp member, ← Option.some.inj goal]
    exact (wf.mayGoBelow_of_prepend moved).outside
  | insertBefore anchor node =>
    obtain ⟨_, above, link, below⟩ := mayGoBefore_of_insertBefore moved
    rw [List.mem_singleton.mp member, ← Option.some.inj (link.symm.trans goal)]
    exact below.outside
  | detach node => cases goal
  | removeChildren node => cases goal

/-- The rows below a moved node stay as they were. -/
theorem children_move_within (wf : doc.WellFormed) (moved : doc.move move = .ok other)
    {id node : NodeId} (member : id ∈ doc.movedBy move) (within : doc.isWithin id node) :
    other.children node = doc.children node := by
  refine wf.children_move moved (fun sibling member' above => ?_) fun goal =>
    wf.outside_destination moved member goal within
  -- All moved nodes leave the same row, and its owner is not below any of them.
  suffices together : doc.parent id = doc.parent sibling by
    exact wf.not_isWithin_parent ((wf.mem_row _ _).mpr (together.trans above)) within
  cases move with
  | removeChildren parent =>
    exact ((wf.mem_row _ _).mp member).trans ((wf.mem_row _ _).mp member').symm
  | _ => rw [List.mem_singleton.mp member, List.mem_singleton.mp member']

/-- A moved node ends up under the destination of the move, or without a parent. -/
theorem parent_move (wf : doc.WellFormed) (moved : doc.move move = .ok other) {id : NodeId}
    (member : id ∈ doc.movedBy move) : other.parent id = doc.destination? move := by
  have reshaped := wf.move moved
  -- A node is in the row of its parent.
  have parents : ∀ {parent}, other.parent id = some parent ↔
      id ∈ Forest.move doc.children move parent := by
    intro parent
    rw [← reshaped.children, reshaped.wellFormed.mem_row]
  cases move with
  | append parent child =>
    rw [List.mem_singleton.mp member] at parents ⊢
    refine parents.mpr ?_
    simp [Forest.move, Forest.append]
  | prepend parent child =>
    rw [List.mem_singleton.mp member] at parents ⊢
    refine parents.mpr ?_
    simp [Forest.move, Forest.prepend]
  | insertBefore anchor node =>
    obtain ⟨different, above, link, below⟩ := mayGoBefore_of_insertBefore moved
    rw [List.mem_singleton.mp member] at parents ⊢
    refine (parents.mpr ?_).trans link.symm
    -- The anchor stays in its row, and the node comes to stand there.
    have here : anchor ∈ doc.children above := (wf.mem_row _ _).mpr link
    refine mem_putBefore.mpr (Or.inr ⟨rfl, ?_⟩)
    exact (List.mem_erase_of_ne different).mpr here
  | detach node =>
    rw [List.mem_singleton.mp member] at parents ⊢
    refine Option.eq_none_iff_forall_ne_some.mpr fun parent above => ?_
    -- The node was in a row only once.
    exact (wf.row_nodup parent).not_mem_erase (parents.mp above)
  | removeChildren node =>
    refine Option.eq_none_iff_forall_ne_some.mpr fun parent above => ?_
    -- The emptied row was the only one that held the child.
    have here : id ∈ if parent = node then [] else doc.children parent := parents.mp above
    split at here
    · cases here
    · next different => exact different (wf.linked.same_row here member)

/-- A node that is not moved keeps its parent. -/
theorem parent_move_of_not_moved (wf : doc.WellFormed) (moved : doc.move move = .ok other)
    {id : NodeId} (stays : id ∉ doc.movedBy move) : other.parent id = doc.parent id := by
  have reshaped := wf.move moved
  -- The node is in a row exactly if it was there before.
  suffices same : ∀ parent, id ∈ Forest.move doc.children move parent ↔ id ∈ doc.children parent by
    refine Option.ext fun parent => ?_
    rw [reshaped.wellFormed.linked.parent, wf.linked.parent, reshaped.children]
    exact same parent
  intro parent
  cases move with
  | append parent' child =>
    have different : id ≠ child := by simpa [movedBy] using stays
    show id ∈ (if parent = parent' then _ ++ [child] else _) ↔ _
    split <;> simp [Forest.erase, List.mem_erase_of_ne different, different]
  | prepend parent' child =>
    have different : id ≠ child := by simpa [movedBy] using stays
    show id ∈ (if parent = parent' then child :: _ else _) ↔ _
    split <;> simp [Forest.erase, List.mem_erase_of_ne different, different]
  | insertBefore anchor node =>
    have different : id ≠ node := by simpa [movedBy] using stays
    show id ∈ putBefore anchor node _ ↔ _
    simp [mem_putBefore, Forest.erase, List.mem_erase_of_ne different, different]
  | detach node =>
    have different : id ≠ node := by simpa [movedBy] using stays
    exact List.mem_erase_of_ne different
  | removeChildren node =>
    show id ∈ (if parent = node then [] else doc.children parent) ↔ _
    split
    · next same =>
      subst same
      exact iff_of_false List.not_mem_nil stays
    · rfl

end WellFormed

end MarkdownTree.Document
