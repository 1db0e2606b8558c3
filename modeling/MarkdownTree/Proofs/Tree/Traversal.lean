import MarkdownTree.Proofs.Tree.Order
import MarkdownTree.Proofs.Tree.Shape
import Mathlib.Logic.Relation

/-! Traversals: the walk over a subtree and the way up from a node, taken link by link without any
limit, end, and one meets a node exactly if the other does. -/

namespace MarkdownTree

/-- The nodes of a tree, each before what is below it. -/
def Tree.preorder (tree : Tree) : List NodeId :=
  tree.fold fun id below => id :: below.flatten

namespace Document

/-- A node is around another if the way up from that one, parent by parent, comes to it. -/
def Around (doc : Document) (top id : NodeId) : Prop :=
  Relation.ReflTransGen (fun child parent => doc.parent child = some parent) id top

/-- Going up from a node, but not beyond `top`, until there is a next sibling ends, and finds that
sibling or nothing. -/
inductive Climbs (doc : Document) (top : NodeId) : NodeId → Option NodeId → Prop where
  | top : Climbs doc top top none
  | sibling {id next : NodeId} (below : id ≠ top) (link : doc.next id = some next) :
      Climbs doc top id (some next)
  | loose {id : NodeId} (below : id ≠ top) (last : doc.next id = none)
      (above : doc.parent id = none) : Climbs doc top id none
  | up {id parent : NodeId} {found : Option NodeId} (below : id ≠ top) (last : doc.next id = none)
      (above : doc.parent id = some parent) (climbs : Climbs doc top parent found) :
      Climbs doc top id found

/-- The walk over the subtree of `top` goes down to the first child, else up to where it can go on.
-/
inductive Steps (doc : Document) (top : NodeId) : NodeId → Option NodeId → Prop where
  | down {id child : NodeId} (head : doc.firstChild id = some child) : Steps doc top id (some child)
  | after {id : NodeId} {found : Option NodeId} (leaf : doc.firstChild id = none)
      (climbs : Climbs doc top id found) : Steps doc top id found

/-- The walk over the subtree of `top`, step by step from `start`, ends and meets these nodes. -/
inductive Walks (doc : Document) (top : NodeId) : Option NodeId → List NodeId → Prop where
  | done : Walks doc top none []
  | step {id : NodeId} {next : Option NodeId} {rest : List NodeId} (steps : Steps doc top id next)
      (walks : Walks doc top next rest) : Walks doc top (some id) (id :: rest)

variable {doc : Document} {top id : NodeId}

/-- What a climb finds is determined. -/
theorem Climbs.unique {found found' : Option NodeId} (climbs : Climbs doc top id found)
    (again : Climbs doc top id found') : found = found' := by
  -- At each node the links tell which way the climb goes on.
  induction climbs with
  | top =>
    cases again with
    | top => rfl
    | sibling below _ | loose below _ _ | up below _ _ _ => exact absurd rfl below
  | sibling below link =>
    cases again with
    | top => exact absurd rfl below
    | sibling _ link' => exact link.symm.trans link'
    | loose _ last _ | up _ last _ _ => simp [link] at last
  | loose below last above =>
    cases again with
    | top | loose => rfl
    | sibling _ link => simp [last] at link
    | up _ _ above' _ => simp [above] at above'
  | up below last above _ ih =>
    cases again with
    | top => exact absurd rfl below
    | sibling _ link => simp [last] at link
    | loose _ _ none => simp [above] at none
    | up _ _ above' climbs' =>
      have same := Option.some.inj (above.symm.trans above')
      exact ih (same ▸ climbs')

/-- The next step of a walk is determined. -/
theorem Steps.unique {next next' : Option NodeId} (steps : Steps doc top id next)
    (again : Steps doc top id next') : next = next' := by
  cases steps with
  | down head =>
    cases again with
    | down head' => exact head.symm.trans head'
    | after leaf _ => simp [head] at leaf
  | after leaf climbs =>
    cases again with
    | down head => simp [leaf] at head
    | after _ climbs' => exact climbs.unique climbs'

/-- What a walk meets is determined. -/
theorem Walks.unique {start : Option NodeId} {nodes nodes' : List NodeId}
    (walks : Walks doc top start nodes) (again : Walks doc top start nodes') : nodes = nodes' := by
  induction walks generalizing nodes' with
  | done =>
    cases again
    rfl
  | step steps _ ih =>
    cases again with
    | step steps' walks' =>
      -- Both go on from the same node.
      have same := steps.unique steps'
      exact congrArg (_ :: ·) (ih (same ▸ walks'))

namespace WellFormed

/-- Every climb ends, with what comes after the subtree. -/
theorem climbs (wf : doc.WellFormed) (top id : NodeId) :
    Climbs doc top id (doc.afterSubtree top doc.size id) := by
  -- A climb goes along the line of parents, which ends.
  induction id using wf.parent_induction with
  | step id ih =>
    rw [wf.afterSubtree_eq]
    split
    · next same => exact same ▸ .top
    · next below =>
      cases link : doc.next id with
      | some next => exact .sibling below link
      | none =>
        cases above : doc.parent id with
        | none => exact .loose below link above
        | some parent => exact .up below link above (ih parent above)

/-- Every step ends, with what follows in document order. -/
theorem steps (wf : doc.WellFormed) (top id : NodeId) :
    Steps doc top id (doc.successor top id) := by
  unfold successor
  cases head : doc.firstChild id with
  | some child => exact .down head
  | none => exact .after head (wf.climbs top id)

/-- Following the order of a document to its end is a walk. -/
theorem walks_of_follows (wf : doc.WellFormed) {start : Option NodeId} {nodes : List NodeId}
    (follows : Follows (doc.successor top) start nodes) : Walks doc top start nodes := by
  induction nodes generalizing start with
  | nil =>
    have ended : start = none := follows
    exact ended ▸ .done
  | cons id rest ih =>
    rw [follows.1]
    exact .step (wf.steps top id) (ih follows.2)

/-- The nodes of the tree at a node are met in document order. -/
theorem preorder_tree (wf : doc.WellFormed) (id : NodeId) :
    (doc.tree id).preorder = doc.descendants id := by
  induction id using wf.child_induction with
  | step id ih =>
    have each : doc.fold (fun id below => id :: below.flatten) id =
        id :: ((doc.children id).map fun child => (doc.tree child).preorder).flatten :=
      wf.fold_eq _ id
    -- The walks over the subtrees of the children come one after another.
    rw [wf.descendants_eq, List.flatMap_def, ← List.map_congr_left ih]
    exact each

/-- A node is within what is around it. -/
theorem isWithin_iff_around (wf : doc.WellFormed) : doc.isWithin top id ↔ doc.Around top id := by
  constructor
  · intro within
    induction id using wf.parent_induction with
    | step id ih =>
      rcases wf.isWithin_iff.mp within with rfl | ⟨parent, above, within⟩
      · exact .refl
      · exact .head above (ih parent above within)
  · intro around
    induction around using Relation.ReflTransGen.head_induction_on with
    | refl => exact wf.isWithin_self top
    | head above _ within => exact wf.isWithin_iff.mpr (Or.inr ⟨_, above, within⟩)

/-- Every stored node is within a stored one that has no parent. -/
theorem exists_loose_above (wf : doc.WellFormed) (stored : id < doc.size) :
    ∃ top < doc.size, doc.parent top = none ∧ doc.isWithin top id := by
  induction id using wf.parent_induction with
  | step id ih =>
    cases above : doc.parent id with
    | none => exact ⟨id, stored, above, wf.isWithin_self id⟩
    | some parent =>
      have member := wf.linked.parent.mp above
      obtain ⟨top, stored', loose, within⟩ := ih parent above (wf.linked.owner_lt_size member)
      exact ⟨top, stored', loose, wf.isWithin_child member within⟩

/-- Only the node itself is around a node without a parent. -/
theorem eq_of_isWithin_loose (wf : doc.WellFormed) (loose : doc.parent id = none)
    (within : doc.isWithin top id) : top = id := by
  rcases wf.isWithin_iff.mp within with same | ⟨parent, above, _⟩
  · exact same
  · rw [loose] at above
    cases above

/-- What is within a stored node is stored. -/
theorem lt_size_of_isWithin (wf : doc.WellFormed) (stored : top < doc.size)
    (within : doc.isWithin top id) : id < doc.size := by
  rcases wf.isWithin_iff.mp within with same | ⟨parent, above, _⟩
  · exact same ▸ stored
  · exact lt_size_of_parent above

/-- The walks over all trees, that of the root and those that hang from nothing, meet every stored
node once. -/
theorem descendants_partition (wf : doc.WellFormed) :
    (((List.range doc.size).filter fun id => doc.parent id = none).flatMap doc.descendants).Perm
      (List.range doc.size) := by
  refine (List.perm_ext_iff_of_nodup ?_ List.nodup_range).mpr fun id => ?_
  · refine List.nodup_flatMap.mpr ⟨fun top _ => wf.descendants_nodup top, ?_⟩
    refine List.Pairwise.imp_of_mem ?_ (List.nodup_range.filter _)
    intro top top' here there different id met met'
    -- Of two nodes that are around the same one, one is around the other.
    have loose : doc.parent top = none := by simpa using (List.mem_filter.mp here).2
    have loose' : doc.parent top' = none := by simpa using (List.mem_filter.mp there).2
    rcases wf.isWithin_total (wf.mem_descendants.mp met) (wf.mem_descendants.mp met') with one | other
    · exact different (wf.eq_of_isWithin_loose loose' one)
    · exact different (wf.eq_of_isWithin_loose loose other).symm
  · simp only [List.mem_flatMap, List.mem_filter, List.mem_range, decide_eq_true_eq,
      wf.mem_descendants]
    constructor
    · rintro ⟨top, ⟨stored, _⟩, within⟩
      exact wf.lt_size_of_isWithin stored within
    · intro stored
      obtain ⟨top, stored', loose, within⟩ := wf.exists_loose_above stored
      exact ⟨top, ⟨stored', loose⟩, within⟩

end WellFormed

end Document

end MarkdownTree
