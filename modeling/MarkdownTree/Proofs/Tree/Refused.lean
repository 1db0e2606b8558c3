import MarkdownTree.Proofs.Tree.Move
import MarkdownTree.Proofs.Tree.Traversal

/-! Refused moves: when a move of stored nodes is refused, and which refusal is then given. -/

namespace MarkdownTree

/-- The nodes that a move names. -/
def Move.names {Name : Type} : Move Name → List Name
  | append parent child | prepend parent child => [parent, child]
  | insertBefore anchor node => [anchor, node]
  | detach node | removeChildren node => [node]

namespace Document

/-- Why a node may not go below a parent: it is the root, or else it is around the parent. -/
inductive NotBelow (doc : Document) (parent id : NodeId) : Refusal → Prop where
  | root (isRoot : id = root) : NotBelow doc parent id .rootMoved
  | cycle (notRoot : id ≠ Document.root) (around : doc.Around id parent) :
      NotBelow doc parent id (.wouldCycle id parent)

/-- Why a move may not be made. To put a node before another, the two must differ first, then the
other must have a parent, and then the node may go below that; to take nodes out is never refused.
-/
inductive Refused (doc : Document) : Move NodeId → Refusal → Prop where
  | append {parent child : NodeId} {refusal : Refusal} (below : NotBelow doc parent child refusal) :
      Refused doc (.append parent child) refusal
  | prepend {parent child : NodeId} {refusal : Refusal} (below : NotBelow doc parent child refusal) :
      Refused doc (.prepend parent child) refusal
  | itself {node : NodeId} : Refused doc (.insertBefore node node) (.beforeItself node)
  | loose {anchor node : NodeId} (different : anchor ≠ node) (none : doc.parent anchor = none) :
      Refused doc (.insertBefore anchor node) .anchorDetached
  | insertBefore {anchor node parent : NodeId} {refusal : Refusal} (different : anchor ≠ node)
      (above : doc.parent anchor = some parent) (below : NotBelow doc parent node refusal) :
      Refused doc (.insertBefore anchor node) refusal

variable {doc : Document} {parent id anchor : NodeId} {refusal : Refusal}

namespace WellFormed

/-- What may go below a parent has no reason not to. -/
theorem not_notBelow (wf : doc.WellFormed) (free : doc.MayGoBelow parent id) :
    ¬ NotBelow doc parent id refusal := by
  intro below
  cases below with
  | root isRoot => exact free.notRoot isRoot
  | cycle _ around => exact free.outside (wf.isWithin_iff_around.mpr around)

/-- A stored node is not released exactly when it may not go below the parent. -/
theorem release_error_iff (wf : doc.WellFormed) (parentStored : parent < doc.size)
    (stored : id < doc.size) :
    doc.release parent id = .error refusal ↔ NotBelow doc parent id refusal := by
  unfold release known
  rw [if_pos parentStored, if_pos stored]
  -- The two checks come one after the other, and nothing else can fail.
  by_cases isRoot : id = root
  · rw [if_pos isRoot]
    constructor
    · intro refused
      cases refused
      exact .root isRoot
    · intro below
      cases below with
      | root _ => rfl
      | cycle notRoot _ => exact absurd isRoot notRoot
  · rw [if_neg isRoot]
    by_cases within : doc.isWithin id parent
    · rw [if_pos within]
      constructor
      · intro refused
        cases refused
        exact .cycle isRoot (wf.isWithin_iff_around.mp within)
      · intro below
        cases below with
        | root isRoot' => exact absurd isRoot' isRoot
        | cycle _ _ => rfl
    · rw [if_neg within]
      refine iff_of_false (fun refused => by cases refused) ?_
      exact wf.not_notBelow ⟨isRoot, within, parentStored, stored⟩

/-- Moving a stored node to the end of a row is refused where it is not released. -/
theorem append_error_iff (wf : doc.WellFormed) (parentStored : parent < doc.size)
    (stored : id < doc.size) :
    doc.append parent id = .error refusal ↔ NotBelow doc parent id refusal := by
  rw [← wf.release_error_iff parentStored stored, Document.append]
  cases doc.release parent id <;> simp [bind, Except.bind, pure, Except.pure]

/-- Moving a stored node to before one that has a parent is refused where it is not released. -/
theorem insertBefore_error_iff (wf : doc.WellFormed) (different : anchor ≠ id)
    (above : doc.parent anchor = some parent) (stored : id < doc.size) :
    doc.insertBefore anchor id = .error refusal ↔ NotBelow doc parent id refusal := by
  have parentStored := wf.linked.parent_lt_size above
  rw [← wf.release_error_iff parentStored stored, insertBefore_of_parent different above]
  cases doc.release parent id <;> simp [Except.map]

/-- Moving a stored node to the start of a row is refused where it may not go below the parent,
whatever the row starts with. -/
theorem prepend_error_iff (wf : doc.WellFormed) (parentStored : parent < doc.size)
    (stored : id < doc.size) :
    doc.prepend parent id = .error refusal ↔ NotBelow doc parent id refusal := by
  rw [prepend_of_stored parentStored]
  cases head : doc.firstChild parent with
  | none => exact wf.append_error_iff parentStored stored
  | some first =>
    have member := wf.linked.mem_of_firstChild head
    by_cases already : first = id
    · -- The first child stays, and it may be where it is.
      subst already
      refine iff_of_false ?_ (wf.not_notBelow (wf.mayGoBelow_parent member))
      simp
    · simp only [if_neg already]
      exact wf.insertBefore_error_iff already (wf.linked.parent.mpr member) stored

/-- Moving a stored node to before another is refused for the first reason there is. -/
theorem insertBefore_refused_iff (wf : doc.WellFormed) (anchorStored : anchor < doc.size)
    (stored : id < doc.size) : doc.insertBefore anchor id = .error refusal ↔
      Refused doc (.insertBefore anchor id) refusal := by
  -- The reasons are taken in the order of the checks, and each rules out the ones after it.
  by_cases same : anchor = id
  · subst same
    rw [Document.insertBefore, if_pos rfl]
    constructor
    · intro refused
      cases refused
      exact .itself
    · intro refused
      cases refused with
      | itself => rfl
      | loose different _ | insertBefore different _ _ => exact absurd rfl different
  cases above : doc.parent anchor with
  | none =>
    have refuses : doc.insertBefore anchor id = .error .anchorDetached := by
      rw [Document.insertBefore, if_neg same, known, if_pos anchorStored]
      simp only [bind, Except.bind, above]
    rw [refuses]
    constructor
    · intro refused
      cases refused
      exact .loose same above
    · intro refused
      cases refused with
      | itself => exact absurd rfl same
      | loose _ _ => rfl
      | insertBefore _ above' _ => simp [above] at above'
  | some parent =>
    rw [wf.insertBefore_error_iff same above stored]
    constructor
    · exact .insertBefore same above
    · intro refused
      cases refused with
      | itself => exact absurd rfl same
      | loose _ none => simp [above] at none
      | insertBefore _ above' below => exact Option.some.inj (above.symm.trans above') ▸ below

/-- A move of stored nodes is refused exactly where there is a reason, and for that reason. -/
theorem move_error_iff (wf : doc.WellFormed) {move : Move NodeId}
    (stored : ∀ id ∈ move.names, id < doc.size) :
    doc.move move = .error refusal ↔ Refused doc move refusal := by
  cases move with
  | append parent child =>
    have parentStored := stored parent (by simp [Move.names])
    have childStored := stored child (by simp [Move.names])
    refine (wf.append_error_iff parentStored childStored).trans ⟨.append, fun refused => ?_⟩
    cases refused with
    | append below => exact below
  | prepend parent child =>
    have parentStored := stored parent (by simp [Move.names])
    have childStored := stored child (by simp [Move.names])
    refine (wf.prepend_error_iff parentStored childStored).trans ⟨.prepend, fun refused => ?_⟩
    cases refused with
    | prepend below => exact below
  | insertBefore anchor node =>
    exact wf.insertBefore_refused_iff (stored anchor (by simp [Move.names]))
      (stored node (by simp [Move.names]))
  | detach node | removeChildren node =>
    -- A stored node is known, and then nothing is checked.
    refine iff_of_false ?_ (fun refused => by cases refused)
    rw [Document.move, known, if_pos (stored node (by simp [Move.names]))]
    simp [bind, Except.bind, pure, Except.pure]

end WellFormed

end Document

end MarkdownTree
