import MarkdownTree.Proofs.Tree.Order

/-! Trees as values: a node with all that hangs below it, read off the links once. -/

namespace MarkdownTree

/-- A node with the trees of its children, in order. -/
inductive Tree where
  | node (id : NodeId) (below : List Tree)
  deriving Repr

namespace Tree

variable {α : Type}

mutual

/-- What a tree comes to if every node is made of its id and of what its children come to. -/
def fold (make : NodeId → List α → α) : Tree → α
  | .node id below => make id (foldRow make below)
termination_by structural tree => tree

/-- What the trees of a row come to. -/
def foldRow (make : NodeId → List α → α) : List Tree → List α
  | [] => []
  | tree :: row => fold make tree :: foldRow make row
termination_by structural row => row

end

/-- A row comes to what its trees come to. -/
theorem foldRow_eq (make : NodeId → List α → α) (row : List Tree) :
    foldRow make row = row.map (fold make) := by
  induction row with
  | nil => rfl
  | cons tree row ih => rw [foldRow, ih, List.map_cons]

end Tree

namespace Document

/-- The tree at a node, as far as `depth` levels down. -/
def treeTo (doc : Document) : (depth : Nat) → NodeId → Tree
  | 0, id => .node id []
  | depth + 1, id => .node id ((doc.children id).map (doc.treeTo depth))

/-- The tree at a node. -/
def tree (doc : Document) (id : NodeId) : Tree :=
  -- Every line of parents ends, so the store's size bounds the depth.
  doc.treeTo doc.size id

/-- What the tree at a node comes to. -/
def fold {α : Type} (doc : Document) (make : NodeId → List α → α) (id : NodeId) : α :=
  (doc.tree id).fold make

variable {doc : Document}

/-- Reading a tree ends as soon as the depth covers the lines of parents that lead to its top. -/
theorem WellFormed.treeTo_depth (wf : doc.WellFormed) (id : NodeId) {depth depth' : Nat}
    (fits : doc.size ≤ (doc.lineage id).length + depth)
    (fits' : doc.size ≤ (doc.lineage id).length + depth') :
    doc.treeTo depth id = doc.treeTo depth' id := by
  induction id using wf.child_induction generalizing depth depth' with
  | step id ih =>
    -- The line of a child is longer by one, and no longer than the store.
    have longer : ∀ child ∈ doc.children id,
        (doc.lineage child).length = (doc.lineage id).length + 1 := by
      intro child member
      rw [wf.lineage_eq child, wf.linked.parent.mpr member]
      rfl
    have room : ∀ child ∈ doc.children id, (doc.lineage id).length < doc.size := by
      intro child member
      have bound := wf.linked.line_length_le wf.root_stored (wf.lineage_follows child)
      rw [longer child member] at bound
      omega
    have leaf : ∀ depth, doc.size ≤ (doc.lineage id).length →
        doc.treeTo depth id = .node id [] := by
      intro depth full
      have empty : doc.children id = [] :=
        List.eq_nil_iff_forall_not_mem.mpr fun child member => by
          have := room child member
          omega
      cases depth <;> simp [treeTo, empty]
    rcases Nat.lt_or_ge (doc.lineage id).length doc.size with below | full
    · obtain ⟨depth, rfl⟩ : ∃ less, depth = less + 1 := ⟨depth - 1, by omega⟩
      obtain ⟨depth', rfl⟩ : ∃ less, depth' = less + 1 := ⟨depth' - 1, by omega⟩
      rw [treeTo, treeTo]
      refine congrArg (Tree.node id) (List.map_congr_left fun child member => ?_)
      have := longer child member
      exact ih child member (by omega) (by omega)
    · -- At the end of the longest lines there is nothing below.
      rw [leaf depth full, leaf depth' full]

/-- The tree at a node is the node with the trees at its children. -/
theorem WellFormed.tree_eq (wf : doc.WellFormed) (id : NodeId) :
    doc.tree id = .node id ((doc.children id).map doc.tree) := by
  -- One level more than the bound changes nothing, and that level reads the row of the node.
  rw [tree, wf.treeTo_depth id (Nat.le_add_left _ _)
    (Nat.le_trans (Nat.le_succ _) (Nat.le_add_left (doc.size + 1) _)), treeTo]
  rfl

/-- What a node comes to is made of it and of what its children come to. -/
theorem WellFormed.fold_eq {α : Type} (wf : doc.WellFormed) (make : NodeId → List α → α)
    (id : NodeId) : doc.fold make id = make id ((doc.children id).map (doc.fold make)) := by
  rw [fold, wf.tree_eq, Tree.fold, Tree.foldRow_eq, List.map_map]
  rfl

end Document

end MarkdownTree
