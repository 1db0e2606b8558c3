import MarkdownTree.Proofs.Tree.Create
import MarkdownTree.Proofs.Tree.Move
import MarkdownTree.Proofs.Tree.Order

/-! One node more: what a document is after a new node became the last child of another. -/

namespace MarkdownTree.Document

variable {doc other : Document} {parent : NodeId} {kind : Kind} {span : Span}

/-- A document has one node more than another, the last child of `parent`. -/
structure Added (doc other : Document) (parent : NodeId) (kind : Kind) (span : Span) : Prop where
  wellFormed : other.WellFormed
  source : other.source = doc.source
  size : other.size = doc.size + 1
  kind : ∀ id, other.kind id = if id = doc.size then kind else doc.kind id
  span : ∀ id, other.span id = if id = doc.size then span else doc.span id
  children : ∀ id, other.children id =
    if id = parent then doc.children id ++ [doc.size] else doc.children id

/-- A document has all nodes of another and keeps all its rows but that of `parent`. -/
structure Extends (doc other : Document) (parent : NodeId) : Prop where
  nodes : KeepsNodes doc other
  rows : ∀ id < doc.size, id ≠ parent → other.children id = doc.children id

/-- What extends an extension extends. -/
theorem Extends.trans {middle : Document} (first : Extends doc middle parent)
    (second : Extends middle other parent) : Extends doc other parent where
  nodes := first.nodes.trans second.nodes
  rows id stored elsewhere :=
    (second.rows id (Nat.lt_of_lt_of_le stored first.nodes.size) elsewhere).trans
      (first.rows id stored elsewhere)

/-- Nothing is below an id that was not handed out yet. -/
theorem WellFormed.children_of_not_stored (wf : doc.WellFormed) {id : NodeId}
    (outside : ¬ id < doc.size) : doc.children id = [] :=
  List.eq_nil_iff_forall_not_mem.mpr fun _ member => outside (wf.linked.owner_lt_size member)

/-- A new node has no place that it could be taken out of. -/
theorem WellFormed.detach_created (wf : doc.WellFormed) (kind : Kind) (span : Span) :
    (doc.create kind span).1.detach doc.size = (doc.create kind span).1 := by
  obtain ⟨wf', rows⟩ := wf.create kind span
  have out := wf'.detach doc.size
  refine out.wellFormed.ext wf' out.nodes.source out.nodes.size out.nodes.kind out.nodes.span ?_
  rw [out.children, rows]
  -- The new node is in no row.
  funext id
  exact List.erase_of_not_mem fun member => Nat.lt_irrefl _ (wf.linked.lt_size member)

/-- A new node may go below any stored one. -/
theorem WellFormed.mayGoBelow_created (wf : doc.WellFormed) (stored : parent < doc.size)
    (kind : Kind) (span : Span) : (doc.create kind span).1.MayGoBelow parent doc.size := by
  obtain ⟨wf', rows⟩ := wf.create kind span
  have leaf : (doc.create kind span).1.children doc.size = [] := by
    rw [rows]
    exact wf.children_of_not_stored (Nat.lt_irrefl _)
  exact
    { notRoot := Nat.ne_of_gt wf.root_stored
      outside := fun within => Nat.ne_of_lt stored (wf'.eq_of_isWithin_leaf leaf within)
      parentStored := by rw [size_create]; exact Nat.lt_succ_of_lt stored
      stored := by rw [size_create]; exact Nat.lt_succ_self _ }

/-- A new node is appended to any stored one, and is then linked in just as without a check. -/
theorem WellFormed.added (wf : doc.WellFormed) (stored : parent < doc.size) (kind : Kind)
    (span : Span) :
    (doc.create kind span).1.append parent doc.size =
        .ok ((doc.create kind span).1.linkLast parent doc.size) ∧
      Added doc ((doc.create kind span).1.linkLast parent doc.size) parent kind span := by
  obtain ⟨wf', rows⟩ := wf.create kind span
  have free := wf.mayGoBelow_created stored kind span
  obtain ⟨other, moved, reshaped⟩ := wf'.append free
  have same : (doc.create kind span).1.linkLast parent doc.size = other := by
    have made : (doc.create kind span).1.append parent doc.size = .ok
        (((doc.create kind span).1.detach doc.size).linkLast parent doc.size) := by
      simp only [Document.append, release_ok_iff.mpr ⟨free, rfl⟩]
      rfl
    rw [wf.detach_created] at made
    exact Except.ok.inj (made.symm.trans moved)
  subst same
  refine ⟨moved, reshaped.wellFormed, reshaped.nodes.source, ?_, ?_, ?_, ?_⟩
  · rw [reshaped.nodes.size, size_create]
  · intro id
    rw [reshaped.nodes.kind, kind_create]
  · intro id
    rw [reshaped.nodes.span, span_create]
  · intro id
    -- The new node leaves no row.
    have fresh : doc.size ∉ doc.children id := fun member =>
      Nat.lt_irrefl _ (wf.linked.lt_size member)
    rw [reshaped.children]
    unfold Forest.append Forest.erase
    rw [rows, List.erase_of_not_mem fresh]

namespace Added

variable (added : Added doc other parent kind span)
include added

/-- All nodes there were are there. -/
theorem keepsNodes : KeepsNodes doc other where
  source := added.source
  size := added.size ▸ Nat.le_succ _
  kind id stored := (added.kind id).trans (if_neg (Nat.ne_of_lt stored))
  span id stored := (added.span id).trans (if_neg (Nat.ne_of_lt stored))

/-- All rows are there but that of the parent. -/
theorem extends_parent : Extends doc other parent where
  nodes := added.keepsNodes
  rows id _ elsewhere := (added.children id).trans (if_neg elsewhere)

/-- What has one and the same node more is the same. -/
theorem unique {other' : Document} (again : Added doc other' parent kind span) : other = other' := by
  -- Well-formed documents are determined by their nodes and rows, and the new node by its fields.
  refine added.wellFormed.ext again.wellFormed (added.source.trans again.source.symm)
    (added.size.trans again.size.symm) ?_ ?_ ?_ <;> funext id
  · rw [added.kind, again.kind]
  · rw [added.span, again.span]
  · rw [added.children, again.children]

/-- The new node may get another kind afterwards. -/
theorem setKind (later : Kind) :
    Added doc (other.setKind doc.size later) parent later span := by
  have stored : doc.size < other.size := by simp [added.size]
  obtain ⟨wellFormed, rows⟩ := added.wellFormed.setKind doc.size later
  refine ⟨wellFormed, added.source, (size_update _ _ _).trans added.size, fun id => ?_,
    fun id => ?_, fun id => ?_⟩
  · rw [kind_setKind stored, added.kind]
    split <;> rfl
  · rw [span_setKind, added.span]
  · rw [rows, added.children]

/-- The span of the new node may get another end afterwards. -/
theorem setStop (stop : Nat) :
    Added doc (other.setStop doc.size stop) parent kind { span with stop } := by
  have stored : doc.size < other.size := by simp [added.size]
  obtain ⟨wellFormed, rows⟩ := (sameLinks_setStop other doc.size stop).wellFormed added.wellFormed
    (by simp [Document.setStop, added.size, root])
  refine ⟨wellFormed, added.source, (size_update _ _ _).trans added.size, fun id => ?_,
    fun id => ?_, fun id => ?_⟩
  · rw [kind_setStop, added.kind]
  · rw [span_setStop stored, added.span, added.span, if_pos rfl]
    split <;> rfl
  · rw [rows, added.children]

/-- The new node has no children. -/
theorem children_new (wf : doc.WellFormed) (stored : parent < doc.size) :
    other.children doc.size = [] := by
  rw [added.children, if_neg (Nat.ne_of_gt stored)]
  exact wf.children_of_not_stored (Nat.lt_irrefl _)

/-- The new node ends the row it is in. -/
theorem lastChild_parent : other.lastChild parent = some doc.size := by
  rw [added.wellFormed.linked.last, added.children, if_pos rfl, List.getLast?_concat]

/-- What ends the other rows still does. -/
theorem lastChild_of_ne (wf : doc.WellFormed) {id : NodeId} (different : id ≠ parent) :
    other.lastChild id = doc.lastChild id := by
  rw [added.wellFormed.linked.last, added.children, if_neg different, wf.linked.last]

/-- A subtree that the parent is not in stays as it was. -/
theorem descendants_apart (wf : doc.WellFormed) {top : NodeId}
    (apart : ¬ doc.isWithin top parent) : other.descendants top = doc.descendants top := by
  refine wf.descendants_congr added.wellFormed fun id within => ?_
  rw [added.children, if_neg]
  intro same
  exact apart (same ▸ within)

/-- In the subtree of its parent, the new node is the last one. -/
theorem descendants_parent (wf : doc.WellFormed) (stored : parent < doc.size) :
    other.descendants parent = doc.descendants parent ++ [doc.size] := by
  have single : other.descendants doc.size = [doc.size] := by
    rw [added.wellFormed.descendants_eq, added.children_new wf stored]
    rfl
  rw [added.wellFormed.descendants_eq, wf.descendants_eq, added.children, if_pos rfl,
    List.flatMap_append, List.flatMap_singleton, single, List.cons_append]
  -- Below the children that were there before nothing changes.
  refine congrArg (fun below => parent :: (below ++ [doc.size])) (List.flatMap_congr ?_)
  exact fun child member => added.descendants_apart wf (wf.not_isWithin_parent member)

/-- Where the new node is last in the subtree of a last child, it is last in that of its parent. -/
theorem descendants_above (wf : doc.WellFormed) {outer inner : NodeId}
    (last : doc.lastChild outer = some inner) (within : doc.isWithin inner parent)
    (inside : other.descendants inner = doc.descendants inner ++ [doc.size]) :
    other.descendants outer = doc.descendants outer ++ [doc.size] := by
  obtain ⟨front, row⟩ := List.getLast?_eq_some_iff.mp ((wf.linked.last outer).symm.trans last)
  have member : inner ∈ doc.children outer := by simp [row]
  have different : outer ≠ parent := fun same => wf.not_isWithin_parent member (same ▸ within)
  have distinct := row ▸ wf.row_nodup outer
  have others : ∀ child ∈ front, other.descendants child = doc.descendants child := by
    intro child here
    refine added.descendants_apart wf (wf.not_isWithin_sibling member (by simp [row, here]) ?_ within)
    -- A row names no node twice.
    intro same
    exact (List.nodup_append.mp distinct).2.2 child here inner (by simp) same.symm
  rw [added.wellFormed.descendants_eq, wf.descendants_eq, added.children, if_neg different, row,
    List.flatMap_append, List.flatMap_append, List.flatMap_singleton, List.flatMap_singleton,
    inside, List.flatMap_congr others]
  simp

end Added

end MarkdownTree.Document
