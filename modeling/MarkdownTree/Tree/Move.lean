import MarkdownTree.Tree.Walk

/-! Moving nodes: every operation keeps the five links of all nodes in agreement, or is refused and
does nothing. -/

namespace MarkdownTree

/-- Why a change to a tree is refused. -/
inductive Refusal where
  /-- The root would get a place under another node. -/
  | rootMoved
  /-- A node would be put before itself. -/
  | beforeItself (node : NodeId)
  /-- A node would be put below itself. -/
  | wouldCycle (node parent : NodeId)
  /-- A node would be put before one that has no parent. -/
  | anchorDetached
  /-- An id that was never handed out is to be moved or looked at. -/
  | unknownNode (size : Nat) (node : NodeId)
  /-- A patch names a node of its own that it does not create. -/
  | notCreated (created index : Nat)
  deriving DecidableEq, Repr

/-- The text shown for a refusal. -/
def Refusal.message : Refusal → String
  | .rootMoved => unequal "the root cannot be moved" 0
  | .beforeItself node => unequal "a node cannot be inserted before itself" node
  | .wouldCycle node parent =>
    s!"moving NodeId({node}) under NodeId({parent}) would create a cycle"
  | .anchorDetached => "insert_before anchor must have a parent"
  | .unknownNode size node => outOfBounds size node
  | .notCreated created index => outOfBounds created index
where
  /-- The text for two nodes that had to differ and are both `node`. -/
  unequal (reason : String) (node : NodeId) : String :=
    s!"assertion `left != right` failed: {reason}\n  left: NodeId({node})\n right: NodeId({node})"
  /-- The text for an index at which nothing stands. -/
  outOfBounds (size index : Nat) : String :=
    s!"index out of bounds: the len is {size} but the index is {index}"

/-- A move of nodes, which are named in some way. -/
inductive Move (Name : Type) where
  | append (parent child : Name)
  | prepend (parent child : Name)
  | insertBefore (anchor node : Name)
  | detach (node : Name)
  | removeChildren (node : Name)
  deriving DecidableEq, Repr

/-- The same move with the nodes named otherwise, if there are other names for all of them. -/
def Move.rename {Name Other : Type} (name : Name → Except Refusal Other) :
    Move Name → Except Refusal (Move Other)
  | append parent child => return append (← name parent) (← name child)
  | prepend parent child => return prepend (← name parent) (← name child)
  | insertBefore anchor node => return insertBefore (← name anchor) (← name node)
  | detach node => return detach (← name node)
  | removeChildren node => return removeChildren (← name node)

namespace Document

/-- Lets what stands before a place in a row, a sibling or else the parent, lead to `next`. -/
def leadOn (doc : Document) (parent prev next : Option NodeId) : Document :=
  match prev, parent with
  | some prev, _ => doc.update prev fun node => { node with next }
  | none, some parent => doc.update parent fun node => { node with firstChild := next }
  | none, none => doc

/-- Lets what stands after a place in a row, a sibling or else the parent, lead back to `prev`. -/
def leadBack (doc : Document) (parent prev next : Option NodeId) : Document :=
  match next, parent with
  | some next, _ => doc.update next fun node => { node with prev }
  | none, some parent => doc.update parent fun node => { node with lastChild := prev }
  | none, none => doc

/-- Takes a node out of its parent; what is below it stays below it. -/
def detach (doc : Document) (id : NodeId) : Document :=
  let (parent, prev, next) := (doc.parent id, doc.prev id, doc.next id)
  ((doc.leadOn parent prev next).leadBack parent prev next).update id fun node =>
    { node with parent := none, prev := none, next := none }

/-- Takes every child out of a node, the first child first. -/
def removeChildren (doc : Document) (id : NodeId) : Document :=
  (doc.children id).foldl detach doc

/-- Lets only a node of the store pass. -/
def known (doc : Document) (id : NodeId) : Except Refusal NodeId :=
  if id < doc.size then .ok id else .error (.unknownNode doc.size id)

/-- Takes a node out of its place if it may go below `parent`. -/
def release (doc : Document) (parent id : NodeId) : Except Refusal Document :=
  if id = root then .error .rootMoved
  else if doc.isWithin id parent then .error (.wouldCycle id parent)
  else do
    let _ ← doc.known parent
    return doc.detach (← doc.known id)

/-- Links an unplaced node in as the last child of `parent`. -/
def linkLast (doc : Document) (parent id : NodeId) : Document :=
  let last := doc.lastChild parent
  let doc := doc.update id fun node => { node with parent := some parent, prev := last }
  (doc.leadOn (some parent) last (some id)).leadBack (some parent) (some id) none

/-- Links an unplaced node in directly before `anchor`, a child of `parent`. -/
def linkBefore (doc : Document) (parent anchor id : NodeId) : Document :=
  let prev := doc.prev anchor
  let doc := doc.update id fun node =>
    { node with parent := some parent, prev, next := some anchor }
  (doc.leadBack (some parent) (some id) (some anchor)).leadOn (some parent) prev (some id)

/-- Moves a node to the end of the children of `parent`. -/
def append (doc : Document) (parent id : NodeId) : Except Refusal Document := do
  return (← doc.release parent id).linkLast parent id

/-- Moves a node to directly before `anchor`. -/
def insertBefore (doc : Document) (anchor id : NodeId) : Except Refusal Document :=
  if anchor = id then .error (.beforeItself id)
  else do
    match doc.parent (← doc.known anchor) with
    | none => .error .anchorDetached
    | some parent => return (← doc.release parent id).linkBefore parent anchor id

/-- Moves a node to the start of the children of `parent`; a first child stays where it is. -/
def prepend (doc : Document) (parent id : NodeId) : Except Refusal Document := do
  match doc.firstChild (← doc.known parent) with
  | none => doc.append parent id
  | some first => if first = id then return doc else doc.insertBefore first id

/-- Makes a move. -/
def move (doc : Document) : Move NodeId → Except Refusal Document
  | .append parent child => doc.append parent child
  | .prepend parent child => doc.prepend parent child
  | .insertBefore anchor node => doc.insertBefore anchor node
  | .detach node => return doc.detach (← doc.known node)
  | .removeChildren node => return doc.removeChildren (← doc.known node)

end Document

end MarkdownTree
