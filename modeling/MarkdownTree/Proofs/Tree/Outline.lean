import MarkdownTree.Proofs.Tree.Labels
import MarkdownTree.Tree.Outline
import Mathlib.Algebra.Order.Ring.Nat

/-! Outlines of trees: what is printed at a node from what is printed at its children, which is a line
for every node of the tree in order, and how many lines that takes. -/

namespace MarkdownTree

namespace Kind

/-- How many lines a node of this kind takes: one, and one more for each line break of a label. -/
def lineCount (kind : Kind) : Nat :=
  kind.shownFields.toList.count '\n' + 1

/-- The line of a node ends as many lines as its kind takes, however far it is indented. -/
theorem count_outlineLine (kind : Kind) (depth : Nat) :
    (kind.outlineLine depth).toList.count '\n' = kind.lineCount := by
  -- Neither the indentation nor the name of a tag breaks a line.
  have name : kind.tag.name.toList.count '\n' = 0 := by
    cases kind.tag <;> decide
  simp [outlineLine, lineCount, List.count_replicate, name]

/-- An alert takes one line. -/
theorem lineCount_alert (alert : AlertKind) : (Kind.alert alert).lineCount = 1 := by
  cases alert <;> decide

end Kind

/-- What is printed for some kinds, each at its depth. -/
def printed (entries : List (Nat × Kind)) : String :=
  String.join (entries.map fun entry => entry.2.outlineLine entry.1)

/-- Kinds one after the other are printed so. -/
theorem printed_append (entries more : List (Nat × Kind)) :
    printed (entries ++ more) = printed entries ++ printed more := by
  rw [printed, List.map_append, String.join_append]
  rfl

/-- What is printed has the lines of all kinds. -/
theorem count_printed (entries : List (Nat × Kind)) : (printed entries).toList.count '\n' =
    (entries.map fun entry => entry.2.lineCount).sum := by
  induction entries with
  | nil => rfl
  | cons entry more ih =>
    -- The first kind takes its own lines.
    have first : printed [entry] = entry.2.outlineLine entry.1 := by simp [printed]
    rw [← List.singleton_append, printed_append, String.toList_append, List.count_append, ih, first,
      Kind.count_outlineLine]
    rfl

namespace Document

/-- What is printed at a node, from what is printed at its children, each at any depth. -/
def outlineNode (doc : Document) (id : NodeId) (below : List (Nat → String)) (depth : Nat) :
    String :=
  (doc.kind id).outlineLine depth ++ String.join (below.map fun outline => outline (depth + 1))

/-- What is printed at a node that stands at a depth. -/
def outlineAt (doc : Document) (id : NodeId) (depth : Nat) : String :=
  doc.fold doc.outlineNode id depth

/-- Printing down to a level prints the tree down to that level. -/
theorem outlineFrom_succ (doc : Document) (limit depth : Nat) (id : NodeId) :
    doc.outlineFrom (limit + 1) depth id = (doc.treeTo limit id).fold doc.outlineNode depth := by
  induction limit generalizing depth id with
  | zero =>
    -- Of the children nothing is printed any more.
    have none : ∀ row : List NodeId,
        String.join (row.map (doc.outlineFrom 0 (depth + 1))) = "" := by
      intro row
      induction row with
      | nil => rfl
      | cons child rest ih => simpa [outlineFrom] using ih
    rw [outlineFrom, none]
    rfl
  | succ limit ih =>
    rw [outlineFrom, treeTo, Tree.fold, Tree.foldRow_eq, outlineNode, List.map_map, List.map_map]
    exact congrArg (_ ++ String.join ·) (List.map_congr_left fun child _ => ih (depth + 1) child)

variable {doc : Document}

/-- An outline prints the whole tree. -/
theorem WellFormed.outline_eq (wf : doc.WellFormed) (id : NodeId) :
    doc.outline id = doc.outlineAt id 0 := by
  obtain ⟨limit, size⟩ := Nat.exists_eq_add_one.mpr wf.root_stored
  have line : 0 < (doc.lineage id).length := by simp [wf.lineage_eq id]
  have fits : doc.size ≤ (doc.lineage id).length + limit := by omega
  rw [outline, size, outlineFrom_succ, outlineAt, fold, tree,
    wf.treeTo_depth id fits (Nat.le_add_left doc.size _)]

/-- What is printed at a node is its line, and then what is printed at its children. -/
theorem WellFormed.outlineAt_eq (wf : doc.WellFormed) (id : NodeId) (depth : Nat) :
    doc.outlineAt id depth = (doc.kind id).outlineLine depth ++
      String.join ((doc.children id).map fun child => doc.outlineAt child (depth + 1)) := by
  rw [outlineAt, wf.fold_eq, outlineNode, List.map_map]
  rfl

/-- How many lines some nodes take together. -/
def linesOf (doc : Document) (nodes : List NodeId) : Nat :=
  (nodes.map fun id => (doc.kind id).lineCount).sum

/-- How many lines the outline of a document has. -/
def outlineLines (doc : Document) : Nat :=
  (doc.outline root).toList.count '\n'

/-- An outline is what is printed for the nodes of the tree, in document order, with any labels that
have the lines of the kinds. -/
theorem WellFormed.outlineAt_eq_printed (wf : doc.WellFormed) {label : Kind → Kind}
    (lines : ∀ kind depth, (label kind).outlineLine depth = kind.outlineLine depth) (id : NodeId)
    (depth : Nat) : doc.outlineAt id depth = printed ((doc.labelled label id).entries depth) := by
  -- The depth grows on the way down, so this is about an outline at any depth.
  induction id using wf.child_induction generalizing depth with
  | step id ih =>
    have below : ∀ row : List NodeId, (∀ child ∈ row, ∀ depth,
        doc.outlineAt child depth = printed ((doc.labelled label child).entries depth)) →
        String.join (row.map fun child => doc.outlineAt child (depth + 1)) =
          printed (Labelled.rowEntries (depth + 1) (row.map (doc.labelled label))) := by
      intro row outlines
      induction row with
      | nil => rfl
      | cons child rest ih =>
        rw [List.forall_mem_cons] at outlines
        rw [List.map_cons, List.map_cons, String.join_cons, outlines.1, ih outlines.2,
          Labelled.rowEntries, printed_append]
    -- The line of the node is that of its label, and the rows below are printed after it.
    rw [wf.outlineAt_eq, wf.labelled_eq, Labelled.entries, below _ ih, ← lines]
    exact String.join_cons.symm

/-- An outline has the lines of all nodes of the tree. -/
theorem WellFormed.count_outline (wf : doc.WellFormed) (id : NodeId) :
    (doc.outline id).toList.count '\n' = doc.linesOf (doc.descendants id) := by
  -- Its entries are the nodes of the tree, each with its kind.
  have kinds := congrArg (List.map Kind.lineCount) (wf.map_entries (fun kind => kind) id 0)
  rw [List.map_map, List.map_map] at kinds
  rw [wf.outline_eq, wf.outlineAt_eq_printed (fun _ _ => rfl), count_printed]
  exact congrArg List.sum kinds

/-- The outline of a document has the lines of all nodes that hang in its tree. -/
theorem WellFormed.outlineLines_eq (wf : doc.WellFormed) :
    doc.outlineLines = doc.linesOf (doc.descendants root) :=
  wf.count_outline root

end Document

end MarkdownTree
