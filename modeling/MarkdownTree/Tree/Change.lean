import MarkdownTree.Tree.Document

/-! Journals: what was added to a tree and removed from it, in order. -/

namespace MarkdownTree

/-- How a node came into a tree or left it, alone or with everything below it. -/
inductive ChangeKind where
  | added
  | addedWithChildren
  | removed
  | removedWithChildren
  deriving DecidableEq, Repr

/-- The mark before a changed node, and what is said of the nodes below it. -/
def ChangeKind.marks : ChangeKind → String × String
  | added => ("+", "")
  | addedWithChildren => ("+", " (subtree)")
  | removed => ("-", "")
  | removedWithChildren => ("-", " (subtree)")

/-- One change of one node. -/
structure Change where
  kind : ChangeKind
  node : NodeId
  deriving DecidableEq, Repr

/-- Changes in the order in which they were made. -/
abbrev Journal := List Change

/-- A journal as text, one change a line, with the tags that the nodes have now. -/
def Journal.listing (journal : Journal) (doc : Document) : String :=
  String.join (journal.map fun change =>
    let (sign, below) := change.kind.marks
    s!"{sign} {(doc.kind change.node).tag.name} #{change.node}{below}\n")

end MarkdownTree
