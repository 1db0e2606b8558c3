import MarkdownTree.Tree.Move
import MarkdownTree.Proofs.Tree.Row

/-! Forests without links: every node has a list of children, and a move changes these lists. -/

namespace MarkdownTree

/-- The children of every node, in order. -/
abbrev Forest := NodeId → List NodeId

namespace Forest

/-- Takes a node out of the list it is in. -/
def erase (forest : Forest) (id : NodeId) : Forest :=
  fun parent => (forest parent).erase id

/-- Takes nodes out of the lists they are in. -/
def eraseAll (forest : Forest) (ids : List NodeId) : Forest :=
  fun parent => (forest parent).filter fun child => child ∉ ids

/-- Taking out a node and then others takes them all out. -/
theorem eraseAll_erase {forest : Forest} (distinct : ∀ parent, (forest parent).Nodup) (id : NodeId)
    (ids : List NodeId) : (forest.erase id).eraseAll ids = forest.eraseAll (id :: ids) := by
  funext parent
  unfold eraseAll erase
  rw [(distinct parent).erase_eq_filter, List.filter_filter]
  refine List.filter_congr fun child _ => ?_
  by_cases same : child = id <;> simp [same]

/-- Moves a node to the end of the children of `parent`. -/
def append (forest : Forest) (parent id : NodeId) : Forest :=
  fun other => if other = parent then forest.erase id other ++ [id] else forest.erase id other

/-- Moves nodes one after another to the end of the children of `parent`. -/
def appendAll (forest : Forest) (parent : NodeId) (ids : List NodeId) : Forest :=
  fun other =>
    if other = parent then forest.eraseAll ids other ++ ids else forest.eraseAll ids other

/-- Moves a node to the start of the children of `parent`. -/
def prepend (forest : Forest) (parent id : NodeId) : Forest :=
  fun other => if other = parent then id :: forest.erase id other else forest.erase id other

/-- Moves a node to directly before `anchor`, wherever that stands. -/
def insertBefore (forest : Forest) (anchor id : NodeId) : Forest :=
  fun parent => putBefore anchor id (forest.erase id parent)

/-- Takes all children from a node. -/
def clear (forest : Forest) (id : NodeId) : Forest :=
  fun parent => if parent = id then [] else forest parent

/-- Makes a move. -/
def move (forest : Forest) : Move NodeId → Forest
  | .append parent child => forest.append parent child
  | .prepend parent child => forest.prepend parent child
  | .insertBefore anchor node => forest.insertBefore anchor node
  | .detach node => forest.erase node
  | .removeChildren node => forest.clear node

end Forest

end MarkdownTree
