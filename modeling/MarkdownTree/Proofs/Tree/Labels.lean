import MarkdownTree.Proofs.Tree.Shape

/-! Labelled trees: what is told of every node, in the shape of the tree. The labels in document
order, each with its depth, tell the whole tree. -/

namespace MarkdownTree

/-- A tree that holds a label at every node. -/
inductive Labelled (α : Type) where
  | node (label : α) (row : List (Labelled α))
  deriving Repr

/-- Where what is told of the members of two rows agrees as another thing does, the rows agree. -/
theorem map_eq_map_of_agree {α β γ δ : Type} {told : α → γ} {told' : β → γ} {value : α → δ}
    {value' : β → δ} {row : List α} {row' : List β}
    (agree : ∀ x ∈ row, ∀ y, told x = told' y → value x = value' y)
    (same : row.map told = row'.map told') : row.map value = row'.map value' := by
  induction row generalizing row' with
  | nil => rw [List.map_eq_nil_iff.mp same.symm]; rfl
  | cons x row ih =>
    cases row' with
    | nil => cases same
    | cons y row' =>
      obtain ⟨first, others⟩ := List.cons.inj same
      rw [List.forall_mem_cons] at agree
      rw [List.map_cons, List.map_cons, agree.1 y first, ih agree.2 others]

namespace Labelled

variable {α : Type}

mutual

/-- The labels of a tree whose top stands at `depth`, each with its own depth. -/
def entries (depth : Nat) : Labelled α → List (Nat × α)
  | .node label row => (depth, label) :: rowEntries (depth + 1) row
termination_by structural tree => tree

/-- The labels of the trees of a row. -/
def rowEntries (depth : Nat) : List (Labelled α) → List (Nat × α)
  | [] => []
  | tree :: row => entries depth tree ++ rowEntries depth row
termination_by structural row => row

end

/-- A row has the labels of its trees. -/
theorem rowEntries_eq (depth : Nat) (row : List (Labelled α)) :
    rowEntries depth row = row.flatMap (entries depth) := by
  induction row with
  | nil => rfl
  | cons tree row ih => rw [rowEntries, ih, List.flatMap_cons]

/-- After a row come only labels that stand less deep. -/
def Above (depth : Nat) (rest : List (Nat × α)) : Prop :=
  ∀ entry ∈ rest.head?, entry.1 < depth

/-- What comes below the first tree of a row ends where its next tree begins. -/
theorem Above.rowEntries {depth : Nat} {rest : List (Nat × α)} (above : Above depth rest)
    (row : List (Labelled α)) : Above (depth + 1) (rowEntries depth row ++ rest) := by
  cases row with
  | nil => exact fun entry first => Nat.lt_succ_of_lt (above entry first)
  | cons tree row =>
    -- The next tree starts with its top, which stands at the depth of the row.
    obtain ⟨label, below⟩ := tree
    rintro entry ⟨⟩
    exact Nat.lt_succ_self depth

/-- The labels of a row tell the row and where it ends. -/
theorem rowEntries_inj {depth : Nat} {rest rest' : List (Nat × α)} (above : Above depth rest)
    (above' : Above depth rest') (row row' : List (Labelled α))
    (same : rowEntries depth row ++ rest = rowEntries depth row' ++ rest') :
    row = row' ∧ rest = rest' :=
  match row, row' with
  | [], [] => ⟨rfl, same⟩
  -- A further tree would have its top where only labels that stand less deep come.
  | [], .node label below :: more =>
    absurd (above (depth, label) (by rw [show rest = _ from same]; rfl)) (Nat.lt_irrefl depth)
  | .node label below :: more, [] =>
    absurd (above' (depth, label) (by rw [show rest' = _ from same.symm]; rfl))
      (Nat.lt_irrefl depth)
  | .node label below :: more, .node label' below' :: more' => by
    rw [rowEntries, rowEntries, entries, entries, List.cons_append, List.cons_append,
      List.cons_append, List.cons_append, List.append_assoc, List.append_assoc] at same
    obtain ⟨first, others⟩ := List.cons.inj same
    -- The row below the first tree ends at its next tree, which is one level up.
    obtain ⟨rfl, later⟩ := rowEntries_inj (above.rowEntries more) (above'.rowEntries more')
      below below' others
    obtain ⟨rfl, after⟩ := rowEntries_inj above above' more more' later
    exact ⟨by rw [(Prod.mk.inj first).2], after⟩
termination_by row

/-- A tree is known from its labels with their depths. -/
theorem entries_inj {depth : Nat} {tree tree' : Labelled α}
    (same : tree.entries depth = tree'.entries depth) : tree = tree' := by
  -- A tree is a row of one, with nothing after it.
  have none : Above depth ([] : List (Nat × α)) := nofun
  obtain ⟨rows, _⟩ := rowEntries_inj none none [tree] [tree'] (by simp [rowEntries, same])
  exact (List.cons.inj rows).1

end Labelled

namespace Document

variable {α : Type} {doc : Document} (label : Kind → α)

/-- The tree at a node, with what is told of every node by its kind. -/
def labelled (doc : Document) (label : Kind → α) (id : NodeId) : Labelled α :=
  doc.fold (fun id row => .node (label (doc.kind id)) row) id

/-- The kinds of a node and of all that hangs below it, in the shape of the tree. -/
def kinds (doc : Document) (id : NodeId) : Labelled Kind :=
  doc.labelled (fun kind => kind) id

/-- The labelled tree at a node is its label over the labelled trees at its children. -/
theorem WellFormed.labelled_eq (wf : doc.WellFormed) (id : NodeId) :
    doc.labelled label id =
      .node (label (doc.kind id)) ((doc.children id).map (doc.labelled label)) :=
  wf.fold_eq _ id

/-- The labels of the tree at a node are those of the nodes within it, in document order. -/
theorem WellFormed.map_entries (wf : doc.WellFormed) (id : NodeId) (depth : Nat) :
    ((doc.labelled label id).entries depth).map Prod.snd =
      (doc.descendants id).map fun node => label (doc.kind node) := by
  induction id using wf.child_induction generalizing depth with
  | step id ih =>
    -- Both start with the node and go on with the children, one after the other.
    rw [wf.labelled_eq, Labelled.entries, Labelled.rowEntries_eq, wf.descendants_eq,
      List.map_cons, List.map_cons, List.flatMap_map, List.map_flatMap, List.map_flatMap]
    exact congrArg _ (List.flatMap_congr fun child member => ih child member (depth + 1))

end Document

end MarkdownTree
