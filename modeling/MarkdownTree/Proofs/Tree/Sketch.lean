import MarkdownTree.Proofs.Tree.Added
import MarkdownTree.Proofs.Tree.Shape

/-! Sketches: what a tree shows without the ids of its nodes. -/

namespace MarkdownTree

/-- The kind and the span of a node, with the sketches of its children in order. -/
inductive Sketch where
  | node (kind : Kind) (span : Span) (row : List Sketch)
  deriving Repr

namespace Sketch

def kind : Sketch → Kind
  | node kind _ _ => kind

def span : Sketch → Span
  | node _ span _ => span

def row : Sketch → List Sketch
  | node _ _ row => row

end Sketch

namespace Document

/-- The sketch of the tree at a node. -/
def sketch (doc : Document) (id : NodeId) : Sketch :=
  doc.fold (fun id row => .node (doc.kind id) (doc.span id) row) id

variable {doc other : Document}

namespace WellFormed

/-- The sketch at a node is its kind and its span with the sketches at its children. -/
theorem sketch_eq (wf : doc.WellFormed) (id : NodeId) :
    doc.sketch id = .node (doc.kind id) (doc.span id) ((doc.children id).map doc.sketch) :=
  wf.fold_eq _ id

/-- Documents with the same nodes in the same rows from a node downwards have the same sketch there.
-/
theorem sketch_congr (wf : doc.WellFormed) (wf' : other.WellFormed) {top : NodeId}
    (same : ∀ id, doc.isWithin top id → other.kind id = doc.kind id ∧
      other.span id = doc.span id ∧ other.children id = doc.children id) :
    other.sketch top = doc.sketch top := by
  induction top using wf.child_induction with
  | step top ih =>
    obtain ⟨kind, span, row⟩ := same top (wf.isWithin_self top)
    rw [wf.sketch_eq, wf'.sketch_eq, kind, span, row]
    -- What is within a child is within the node as well.
    refine congrArg (Sketch.node _ _) (List.map_congr_left fun child member => ?_)
    refine ih child member fun id within => same id ?_
    exact wf.isWithin_iff_child.mpr (Or.inr ⟨child, member, within⟩)

/-- An extension shows the same below the children that there were. -/
theorem sketch_child (wf : doc.WellFormed) (wf' : other.WellFormed) {parent child : NodeId}
    (extended : Extends doc other parent) (member : child ∈ doc.children parent) :
    other.sketch child = doc.sketch child := by
  refine wf.sketch_congr wf' fun id within => ?_
  have stored : id < doc.size := by
    rcases wf.isWithin_iff.mp within with same | ⟨_, above, _⟩
    · exact same ▸ wf.linked.lt_size member
    · exact lt_size_of_parent above
  -- The parent, the one place where a row is longer, is not within its child.
  have elsewhere : id ≠ parent := fun same => wf.not_isWithin_parent member (same ▸ within)
  exact ⟨extended.nodes.kind id stored, extended.nodes.span id stored,
    extended.rows id stored elsewhere⟩

end WellFormed

end Document

end MarkdownTree
