import MarkdownTree.Tree.Document

/-! Reading a tree through its links: siblings, ancestors, and subtrees in document order. -/

namespace MarkdownTree.Document

/-- The nodes met by taking `step` again and again from `start`, at most `limit` nodes. -/
def follow (step : NodeId → Option NodeId) : (limit : Nat) → (start : Option NodeId) → List NodeId
  | 0, _ | _, none => []
  | limit + 1, some id => id :: follow step limit (step id)

/-- The children of a node in order. -/
def children (doc : Document) (id : NodeId) : List NodeId :=
  -- No node is its own sibling, so the store's size bounds every row.
  follow doc.next doc.size (doc.firstChild id)

/-- The siblings after a node in order. -/
def following (doc : Document) (id : NodeId) : List NodeId :=
  follow doc.next doc.size (doc.next id)

/-- A node and its ancestors, innermost first. -/
def lineage (doc : Document) (id : NodeId) : List NodeId :=
  follow doc.parent doc.size (some id)

/-- Whether `ancestor` is the node itself or one of its ancestors. -/
def isWithin (doc : Document) (ancestor id : NodeId) : Bool :=
  (doc.lineage id).contains ancestor

/-- Whether a node hangs from the root. -/
def isAttached (doc : Document) (id : NodeId) : Bool :=
  doc.isWithin root id

/-- The node after the whole subtree of `id`, looked for no higher than `top`. -/
def afterSubtree (doc : Document) (top : NodeId) : (limit : Nat) → NodeId → Option NodeId
  | 0, _ => none
  | limit + 1, id =>
    if id = top then none
    else match doc.next id with
      | some sibling => some sibling
      | none => match doc.parent id with
        | some parent => doc.afterSubtree top limit parent
        | none => none

/-- The node after `id` in document order within the subtree of `top`. -/
def successor (doc : Document) (top id : NodeId) : Option NodeId :=
  match doc.firstChild id with
  | some child => some child
  | none => doc.afterSubtree top doc.size id

/-- A node and everything below it, in document order. -/
def descendants (doc : Document) (id : NodeId) : List NodeId :=
  follow (doc.successor id) doc.size (some id)

/-- The plain text of a subtree. -/
def plainText (doc : Document) (id : NodeId) : String :=
  String.join ((doc.descendants id).map fun node => (doc.kind node).plainText)

end MarkdownTree.Document
