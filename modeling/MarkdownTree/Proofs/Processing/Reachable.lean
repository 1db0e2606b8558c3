import MarkdownTree.Proofs.Processing.Patch
import MarkdownTree.Proofs.Tree.Frame
import MarkdownTree.Proofs.Tree.InPlace

/-! Reachable documents: whatever is called on a new document, in whatever order, its links agree,
its moves are moves of a forest without links or change nothing, and its walks are exact. -/

namespace MarkdownTree

/-- A call that may change a document. -/
inductive Call where
  | create (kind : Kind) (span : Span)
  | move (move : Move NodeId)
  | setKind (id : NodeId) (kind : Kind)
  | patch (patch : Patch) (journal : Journal)
  | run (set : ProcessorSet) (journal : Journal)

namespace Document

/-- The document that a call leaves behind, also when it is refused on the way. -/
def after (doc : Document) : Call → Document
  | .create kind span => (doc.create kind span).1
  -- A refused move does nothing at all.
  | .move move => (doc.move move).toOption.getD doc
  | .setKind id kind => doc.setKind id kind
  | .patch patch journal => (patch.apply doc journal).doc
  | .run set journal => (set.run doc journal).doc

/-- A document that some calls make of a new one. -/
def Reachable (doc : Document) : Prop :=
  ∃ source calls, List.foldl after (ofSource source) calls = doc

/-- Every call leaves a well-formed document. -/
theorem WellFormed.after {doc : Document} (wf : doc.WellFormed) (call : Call) :
    (doc.after call).WellFormed := by
  cases call with
  | create kind span => exact (wf.create kind span).1
  | move move =>
    show ((doc.move move).toOption.getD doc).WellFormed
    cases moved : doc.move move with
    | error refusal => exact wf
    | ok other => exact (wf.move moved).wellFormed
  | setKind id kind => exact (wf.setKind id kind).1
  | patch patch journal => exact wf.apply patch journal
  | run set journal => exact wf.run set journal

/-- Any calls one after another leave a well-formed document. -/
theorem WellFormed.after_all {doc : Document} (wf : doc.WellFormed) (calls : List Call) :
    (calls.foldl Document.after doc).WellFormed := by
  induction calls generalizing doc with
  | nil => exact wf
  | cons call rest ih => exact ih (wf.after call)

/-- Reachable documents are well formed. -/
theorem Reachable.wellFormed {doc : Document} (reachable : doc.Reachable) : doc.WellFormed := by
  obtain ⟨source, calls, rfl⟩ := reachable
  exact (wellFormed_ofSource source).after_all calls

/--
Whatever calls are made on a new document, its links agree afterwards.

From the first child of a node the links lead through exactly its children, each once, and end at
its last child. The links between siblings mirror each other, and a node without a parent has no
siblings. The root is one of these, and every line of parents ends at one of them.
-/
theorem links_agree_after_calls (source : String) (calls : List Call) :
    let doc := List.foldl after (ofSource source) calls
    (∀ id, Follows doc.next (doc.firstChild id) (doc.children id) ∧ (doc.children id).Nodup ∧
      (∀ child, child ∈ doc.children id ↔ doc.parent child = some id) ∧
      (doc.children id).getLast? = doc.lastChild id) ∧
    (∀ left right, doc.next left = some right ↔ doc.prev right = some left) ∧
    (∀ id, doc.parent id = none → doc.prev id = none ∧ doc.next id = none) ∧
    doc.parent root = none ∧
    (∀ id, ∃ line top, Follows doc.parent (some id) (line ++ [top]) ∧ doc.parent top = none) := by
  intro doc
  have wf : doc.WellFormed := (wellFormed_ofSource source).after_all calls
  refine ⟨fun id => ⟨wf.row_follows id, wf.row_nodup id, wf.mem_row id, (wf.row_last id).symm⟩,
    wf.mirror, wf.loose, wf.root_parent, fun id => ?_⟩
  -- The lineage of a node is not empty, and its last node has no parent to go on to.
  have walk := wf.lineage_follows id
  rcases List.eq_nil_or_concat (doc.lineage id) with empty | ⟨line, top, split⟩
  · rw [wf.lineage_eq id] at empty
    cases empty
  · rw [List.concat_eq_append] at split
    rw [split] at walk
    exact ⟨line, top, walk, walk.suffix.2⟩

/--
A move that is not refused does to the rows of children what it does in a forest without links.

The moved nodes end up under the destination and keep everything below them. A row that no moved
node leaves or enters stays, and so do the kind and span of every node. A node that is first in a
row already is not moved there.
-/
theorem move_refines_forest {doc other : Document} (reachable : doc.Reachable)
    {move : Move NodeId} (moved : doc.move move = .ok other) :
    other.children = Forest.move doc.children move ∧
    (∀ id ∈ doc.movedBy move, other.parent id = doc.destination? move ∧
      other.descendants id = doc.descendants id ∧
      ∀ node ∈ doc.descendants id, other.children node = doc.children node) ∧
    (∀ node, (∀ id ∈ doc.movedBy move, doc.parent id ≠ some node) →
      doc.destination? move ≠ some node → other.children node = doc.children node) ∧
    (∀ parent id, move = .prepend parent id → doc.firstChild parent = some id → other = doc) ∧
    SameNodes doc other := by
  have wf := reachable.wellFormed
  have reshaped := wf.move moved
  have below : ∀ id ∈ doc.movedBy move, ∀ node, doc.isWithin id node →
      other.children node = doc.children node := fun _ member _ within =>
    wf.children_move_within moved member within
  refine ⟨reshaped.children, fun id member => ⟨wf.parent_move moved member, ?_, ?_⟩,
    fun node left entered => wf.children_move moved left entered, ?_, reshaped.nodes⟩
  · exact wf.descendants_congr reshaped.wellFormed (below id member)
  · exact fun node met => below id member node (wf.mem_descendants.mp met)
  · intro parent id isPrepend first
    subst isPrepend
    -- The move is not refused, and leaves the document as it is.
    have stays : doc.prepend parent id = .ok doc := by
      rw [prepend_of_stored (lt_size_of_firstChild first), first]
      exact if_pos rfl
    exact Except.ok.inj (moved.symm.trans stays)

/-- A text of a paragraph, put before the paragraph, becomes the first child of the root. -/
theorem text_put_before_paragraph :
    let doc := List.foldl after (ofSource "a") [.create .paragraph {}, .create (.text "a") {},
      .move (.append root 1), .move (.append 1 2)]
    ∃ other, doc.move (.insertBefore 1 2) = .ok other ∧
      other.children = Forest.move doc.children (.insertBefore 1 2) ∧
      other.children root = [2, 1] ∧ other.children 1 = [] :=
  ⟨_, rfl, (move_refines_forest ⟨_, _, rfl⟩ rfl).1, rfl, rfl⟩

/--
A move of stored nodes that is made in place, one link after another, is refused exactly where there
is a reason, for the first reason there is, and leaves the document exactly as it was.

There is none to take nodes out. What goes to the end or to the start of a row must not be the root
nor be around the parent. What goes before another node must differ from it, that must have a
parent, and then the same holds for this parent. A move that is not refused leaves what the move of
the document as a value gives.
-/
theorem refused_move_changes_nothing {doc : Document} (reachable : doc.Reachable)
    {move : Move NodeId} (stored : ∀ id ∈ move.names, id < doc.size) :
    (∀ refusal left, (InPlace.move move).run doc = .error refusal left ↔
      Refused doc move refusal ∧ left = doc) ∧
    (∀ left, (InPlace.move move).run doc = .ok () left ↔
      doc.move move = .ok left ∧ ∀ refusal, ¬ Refused doc move refusal) := by
  have wf := reachable.wellFormed
  have refused : ∀ refusal, doc.move move = .error refusal ↔ Refused doc move refusal :=
    fun refusal => wf.move_error_iff stored
  have made : (InPlace.move move).run doc = _ := InPlace.makes_move wf stored
  simp only [made, ← refused]
  cases doc.move move with
  | error refusal =>
    -- The reason is the one that is given, and nothing was written.
    refine ⟨fun other left => ?_, fun left => by simp⟩
    simp only [EStateM.Result.error.injEq, Except.error.injEq]
    exact and_congr_right fun _ => eq_comm
  | ok other => simp

/-- A paragraph is not put before its own text, nor the root below it, and the document stays; a
loose text is put there. -/
theorem paragraph_not_put_into_itself :
    let doc := List.foldl after (ofSource "a") [.create .paragraph {}, .create (.text "a") {},
      .create .softBreak {}, .move (.append root 1), .move (.append 1 2)]
    (∀ id ∈ (Move.insertBefore 2 1).names, id < doc.size) ∧
      (InPlace.move (.insertBefore 2 1)).run doc = .error (.wouldCycle 1 1) doc ∧
      (InPlace.move (.prepend 1 root)).run doc = .error .rootMoved doc ∧
      (InPlace.move (.insertBefore 3 3)).run doc = .error (.beforeItself 3) doc ∧
      ∃ left, (InPlace.move (.prepend 1 3)).run doc = .ok () left ∧ left.children 1 = [3, 2] := by
  intro doc
  have reachable : doc.Reachable := ⟨_, _, rfl⟩
  have stored : ∀ id ∈ (Move.insertBefore 2 1).names, id < doc.size := by decide +kernel
  have cycle : doc.NotBelow 1 1 (.wouldCycle 1 1) := .cycle (by decide) .refl
  refine ⟨stored, ((refused_move_changes_nothing reachable stored).1 _ _).mpr
    ⟨.insertBefore (by decide) (by decide +kernel) cycle, rfl⟩, ?_, ?_, ?_⟩
  · exact ((refused_move_changes_nothing reachable (by decide +kernel)).1 _ _).mpr
      ⟨.prepend (.root rfl), rfl⟩
  · exact ((refused_move_changes_nothing reachable (by decide +kernel)).1 _ _).mpr ⟨.itself, rfl⟩
  · exact ⟨_, rfl, by decide +kernel⟩

/--
The walk over a subtree and the way up from a node are exact.

From any node, whether it hangs from the root or not, the walk ends without leaving the subtree, and
it meets the nodes of the tree there in preorder, none twice. It meets a node exactly if the way up
from that one comes to the top, and the walk from the root those that are in the document. The walks
from all nodes without a parent meet every stored node exactly once.
-/
theorem walks_meet_what_is_within {doc : Document} (reachable : doc.Reachable) :
    (∀ top nodes, Walks doc top (some top) nodes ↔ nodes = doc.descendants top) ∧
    (∀ top, doc.descendants top = (doc.tree top).preorder ∧
      doc.tree top = .node top ((doc.children top).map doc.tree) ∧ (doc.descendants top).Nodup) ∧
    (∀ top id, (id ∈ doc.descendants top ↔ doc.isWithin top id) ∧
      (doc.isWithin top id ↔ doc.Around top id)) ∧
    (∀ id, doc.isAttached id ↔ id ∈ doc.descendants root) ∧
    (((List.range doc.size).filter fun id => doc.parent id = none).flatMap doc.descendants).Perm
      (List.range doc.size) := by
  have wf := reachable.wellFormed
  refine ⟨fun top nodes => ?_, fun top => ?_, fun top id => ?_, fun id => ?_, ?_⟩
  · have walks := wf.walks_of_follows (wf.follows_descendants top)
    constructor
    · exact fun again => again.unique walks
    · exact fun same => same ▸ walks
  · exact ⟨(wf.preorder_tree top).symm, wf.tree_eq top, wf.descendants_nodup top⟩
  · exact ⟨wf.mem_descendants, wf.isWithin_iff_around⟩
  · exact wf.mem_descendants_root.symm
  · exact wf.descendants_partition

/-- The walk over a paragraph stays before its sibling, that over a loose one does not come to the
document, and the walks over both trees meet all seven nodes. -/
theorem paragraphs_walked :
    let doc := List.foldl after (ofSource "ab") [.create .paragraph ⟨0, 1⟩,
      .create (.text "a") ⟨0, 1⟩, .create .paragraph ⟨1, 2⟩, .create (.text "b") ⟨1, 2⟩,
      .create .paragraph ⟨2, 2⟩, .create .softBreak ⟨2, 2⟩, .move (.append root 3),
      .move (.prepend root 1), .move (.append 1 2), .move (.append 3 4), .move (.append 5 6)]
    Walks doc 1 (some 1) [1, 2] ∧ Walks doc 5 (some 5) [5, 6] ∧ doc.Around 5 6 ∧
      doc.isAttached 6 = false ∧
      ([0, 5].flatMap doc.descendants).Perm [0, 1, 2, 3, 4, 5, 6] := by
  intro doc
  obtain ⟨walk, _, within, _, all⟩ := @walks_meet_what_is_within doc ⟨_, _, rfl⟩
  have loose : (List.range doc.size).filter (fun id => doc.parent id = none) = [0, 5] := by
    decide +kernel
  have size : doc.size = 7 := by decide +kernel
  rw [loose, size] at all
  exact ⟨(walk 1 _).mpr (by decide +kernel), (walk 5 _).mpr (by decide +kernel),
    (within 5 6).2.mp (by decide +kernel), by decide +kernel, all⟩

end Document

end MarkdownTree
