import MarkdownTree.Proofs.Tree.Refused

/-! Moves in place: links are read and written one at a time, at stored nodes only, and what was
written before a refusal stays. A move in place gives what the move of the document as a value does,
and one that is refused has written nothing. -/

namespace MarkdownTree.Document

/-- A call on a document that is changed in place; a refusal leaves it as it is by then. -/
abbrev InPlace := EStateM Refusal Document

namespace InPlace

/-- Reads a node, which must be stored. -/
def read (id : NodeId) : InPlace Node := do
  let doc ← get
  if id < doc.size then return doc.node id else throw (.unknownNode doc.size id)

/-- Changes a node, which must be stored. -/
def write (id : NodeId) (change : Node → Node) : InPlace Unit := do
  let doc ← get
  if id < doc.size then set (doc.update id change) else throw (.unknownNode doc.size id)

/-- Goes up from a node, at most `limit` nodes, and tells whether it comes to `top`. -/
def climbsTo (top : NodeId) : (limit : Nat) → NodeId → InPlace Bool
  | 0, _ => return false
  | limit + 1, id => do
    if id = top then return true
    else match (← read id).parent with
      | none => return false
      | some parent => climbsTo top limit parent

/-- Lets what stands before a place in a row, a sibling or else the parent, lead to `next`. -/
def leadOn (parent prev next : Option NodeId) : InPlace Unit :=
  match prev, parent with
  | some prev, _ => write prev fun node => { node with next }
  | none, some parent => write parent fun node => { node with firstChild := next }
  | none, none => return ()

/-- Lets what stands after a place in a row, a sibling or else the parent, lead back to `prev`. -/
def leadBack (parent prev next : Option NodeId) : InPlace Unit :=
  match next, parent with
  | some next, _ => write next fun node => { node with prev }
  | none, some parent => write parent fun node => { node with lastChild := prev }
  | none, none => return ()

/-- Takes a node out of its parent. -/
def detach (id : NodeId) : InPlace Unit := do
  let node ← read id
  leadOn node.parent node.prev node.next
  leadBack node.parent node.prev node.next
  write id fun node => { node with parent := none, prev := none, next := none }

/-- Takes out first children, at most `limit` of them, until there is none. -/
def clear : (limit : Nat) → NodeId → InPlace Unit
  | 0, _ => return ()
  | limit + 1, id => do
    match (← read id).firstChild with
    | none => return ()
    | some child => do
      detach child
      clear limit id

/-- Takes a node out of its place after checking that it may go below `parent`. -/
def release (parent id : NodeId) : InPlace Unit := do
  if id = root then throw .rootMoved
  else
    let cycle ← climbsTo id (← get).size parent
    if cycle then throw (.wouldCycle id parent) else detach id

/-- Moves a node to the end of the children of `parent`. -/
def append (parent id : NodeId) : InPlace Unit := do
  release parent id
  let last := (← read parent).lastChild
  write id fun node => { node with parent := some parent, prev := last }
  leadOn (some parent) last (some id)
  write parent fun node => { node with lastChild := some id }

/-- Moves a node to directly before `anchor`. -/
def insertBefore (anchor id : NodeId) : InPlace Unit := do
  if anchor = id then throw (.beforeItself id)
  else match (← read anchor).parent with
    | none => throw .anchorDetached
    | some parent => do
      release parent id
      let prev := (← read anchor).prev
      write id fun node => { node with parent := some parent, prev, next := some anchor }
      write anchor fun node => { node with prev := some id }
      leadOn (some parent) prev (some id)

/-- Moves a node to the start of the children of `parent`; a first child stays where it is. -/
def prepend (parent id : NodeId) : InPlace Unit := do
  match (← read parent).firstChild with
  | none => append parent id
  | some first => if first = id then return () else insertBefore first id

/-- Makes a move. -/
def move : Move NodeId → InPlace Unit
  | .append parent child => append parent child
  | .prepend parent child => prepend parent child
  | .insertBefore anchor node => insertBefore anchor node
  | .detach node => detach node
  | .removeChildren node => do clear (← get).size node

/-- A call has what a move of the document as a value gives for its outcome, and is refused where
that is, before anything was written. -/
def Makes (doc : Document) (call : InPlace Unit) (made : Except Refusal Document) : Prop :=
  call.run doc = match made with
    | .ok other => .ok () other
    | .error refusal => .error refusal doc

variable {doc middle : Document} {parent id anchor : NodeId} {α β : Type}

/-- A call goes on from what the one before it has left. -/
theorem run_bind_ok {call : InPlace α} {value : α} (ended : call.run doc = .ok value middle)
    (more : α → InPlace β) : (call >>= more).run doc = (more value).run middle := by
  show EStateM.bind call more doc = _
  unfold EStateM.bind
  rw [show call doc = _ from ended]
  rfl

/-- A call that is refused goes no further. -/
theorem run_bind_error {call : InPlace α} {refusal : Refusal}
    (ended : call.run doc = .error refusal middle) (more : α → InPlace β) :
    (call >>= more).run doc = .error refusal middle := by
  show EStateM.bind call more doc = _
  unfold EStateM.bind
  rw [show call doc = _ from ended]

/-- A stored node is read. -/
theorem run_read (stored : id < doc.size) : (read id).run doc = .ok (doc.node id) doc := by
  show EStateM.run (if id < doc.size then return doc.node id
    else throw (.unknownNode doc.size id) : InPlace Node) doc = _
  rw [if_pos stored]
  rfl

/-- A stored node is changed. -/
theorem run_write (stored : id < doc.size) (change : Node → Node) :
    (write id change).run doc = .ok () (doc.update id change) := by
  show EStateM.run (if id < doc.size then set (doc.update id change)
    else throw (.unknownNode doc.size id) : InPlace Unit) doc = _
  rw [if_pos stored]
  rfl

/-- What leads on is changed as in a value, if it is stored. -/
theorem run_leadOn {above prev next : Option NodeId} (aboveStored : ∀ id ∈ above, id < doc.size)
    (prevStored : ∀ id ∈ prev, id < doc.size) :
    (leadOn above prev next).run doc = .ok () (doc.leadOn above prev next) := by
  unfold leadOn Document.leadOn
  cases prev with
  | some prev => exact run_write (prevStored prev rfl) _
  | none =>
    cases above with
    | some parent => exact run_write (aboveStored parent rfl) _
    | none => rfl

/-- What leads back is changed as in a value, if it is stored. -/
theorem run_leadBack {above prev next : Option NodeId} (aboveStored : ∀ id ∈ above, id < doc.size)
    (nextStored : ∀ id ∈ next, id < doc.size) :
    (leadBack above prev next).run doc = .ok () (doc.leadBack above prev next) := by
  unfold leadBack Document.leadBack
  cases next with
  | some next => exact run_write (nextStored next rfl) _
  | none =>
    cases above with
    | some parent => exact run_write (aboveStored parent rfl) _
    | none => rfl

/-- The way up from a node comes to what is around it, and needs no more than its lineage. -/
theorem run_climbsTo (wf : doc.WellFormed) (top : NodeId) (stored : id < doc.size) {limit : Nat}
    (fits : (doc.lineage id).length ≤ limit) :
    (climbsTo top limit id).run doc = .ok (doc.isWithin top id) doc := by
  -- The lineage of the parent is one shorter, so one step up leaves a limit that still fits.
  induction limit generalizing id with
  | zero => simp [wf.lineage_eq id] at fits
  | succ limit ih =>
    rw [climbsTo]
    by_cases same : id = top
    · rw [if_pos same, same, wf.isWithin_self top]
      rfl
    rw [if_neg same, run_bind_ok (run_read stored)]
    rw [wf.lineage_eq id, List.length_cons] at fits
    show EStateM.run (match doc.parent id with
      | none => return false
      | some parent => climbsTo top limit parent) doc = _
    cases above : doc.parent id with
    | none =>
      -- Nothing else is around a node without a parent.
      have outside : ¬ doc.isWithin top id := fun within =>
        same (wf.eq_of_isWithin_loose above within).symm
      simp [outside, EStateM.run, pure, EStateM.pure]
    | some parent =>
      rw [above] at fits
      have parentStored := wf.linked.parent_lt_size above
      have up : doc.isWithin top id = doc.isWithin top parent := by
        rw [Bool.eq_iff_iff]
        exact ⟨wf.isWithin_above above (Ne.symm same),
          wf.isWithin_child (wf.linked.parent.mp above)⟩
      rw [up]
      exact ih parentStored (Nat.le_of_succ_le_succ fits)

/-- Taking a stored node out in place takes it out. -/
theorem run_detach (wf : doc.WellFormed) (stored : id < doc.size) :
    (detach id).run doc = .ok () (doc.detach id) := by
  -- All that is written is stored: the parent and the siblings are.
  have parentStored : ∀ parent ∈ doc.parent id, parent < doc.size :=
    fun _ => wf.linked.parent_lt_size
  have prevStored : ∀ prev ∈ doc.prev id, prev < doc.size := fun _ => wf.linked.prev_lt_size
  have nextStored : ∀ next ∈ doc.next id, next < doc.size := fun _ => wf.linked.next_lt_size
  have size := (sameNodes_leadOn doc (doc.parent id) (doc.prev id) (doc.next id)).size
  have size' := (sameNodes_leadBack (doc.leadOn (doc.parent id) (doc.prev id) (doc.next id))
    (doc.parent id) (doc.prev id) (doc.next id)).size.trans size
  rw [detach, run_bind_ok (run_read stored)]
  show EStateM.run (do
    leadOn (doc.parent id) (doc.prev id) (doc.next id)
    leadBack (doc.parent id) (doc.prev id) (doc.next id)
    write id fun node => { node with parent := none, prev := none, next := none }) doc = _
  rw [run_bind_ok (run_leadOn parentStored prevStored),
    run_bind_ok (run_leadBack (by rwa [size]) (by rwa [size])), run_write (by rwa [size'])]
  rfl

/-- Checking a stored node and taking it out in place writes nothing before the checks are done. -/
theorem makes_release (wf : doc.WellFormed) (parentStored : parent < doc.size)
    (stored : id < doc.size) : Makes doc (release parent id) (doc.release parent id) := by
  unfold Makes release Document.release known
  rw [if_pos parentStored, if_pos stored]
  -- Both check in the same order, and the first write comes after the last check.
  by_cases isRoot : id = root
  · rw [if_pos isRoot, if_pos isRoot]
    rfl
  have fits := wf.linked.line_length_le wf.root_stored (wf.lineage_follows parent)
  rw [if_neg isRoot, if_neg isRoot,
    run_bind_ok (show EStateM.run (get : InPlace Document) doc = .ok doc doc from rfl),
    run_bind_ok (run_climbsTo wf id parentStored fits)]
  by_cases within : doc.isWithin id parent
  · rw [if_pos within, if_pos within]
    rfl
  · rw [if_neg within, if_neg within, run_detach wf stored]
    rfl

/-- What follows a release is refused with it, and otherwise goes on from the node taken out. -/
theorem makes_bind_release (wf : doc.WellFormed) (parentStored : parent < doc.size)
    (stored : id < doc.size) {more : Unit → InPlace Unit} {place : Document → Document}
    (placed : doc.MayGoBelow parent id →
      (more ()).run (doc.detach id) = .ok () (place (doc.detach id))) :
    Makes doc (release parent id >>= more) ((doc.release parent id).map place) := by
  have made := makes_release wf parentStored stored
  unfold Makes at made ⊢
  cases released : doc.release parent id with
  | error refusal =>
    rw [released] at made
    exact run_bind_error made more
  | ok middle =>
    obtain ⟨free, rfl⟩ := release_ok_iff.mp released
    rw [released] at made
    rw [run_bind_ok made]
    exact placed free

/-- Moving a stored node to the end of a row in place moves it there. -/
theorem makes_append (wf : doc.WellFormed) (parentStored : parent < doc.size)
    (stored : id < doc.size) : Makes doc (append parent id) (doc.append parent id) := by
  have size := (sameNodes_detach doc id).size
  have value : doc.append parent id =
      (doc.release parent id).map fun middle => middle.linkLast parent id := by
    rw [Document.append]
    cases doc.release parent id <;> rfl
  rw [value]
  refine makes_bind_release wf parentStored stored fun free => ?_
  have links := (wf.detach id).wellFormed.linked
  have lastStored : ∀ last ∈ (doc.detach id).lastChild parent, last < (doc.detach id).size :=
    fun _ => links.lastChild_lt_size
  rw [← size] at parentStored stored
  -- The node is linked in as in a value, one write after another.
  have onStored : ∀ above ∈ some parent, above < (doc.detach id).size := by
    intro above same
    exact Option.some.inj same ▸ parentStored
  rw [run_bind_ok (run_read parentStored), run_bind_ok (run_write stored _),
    run_bind_ok (run_leadOn (by rwa [size_update]) (by rwa [size_update])), run_write ?_]
  · rfl
  · rwa [(sameNodes_leadOn _ _ _ _).size, size_update]

/-- Moving a stored node to before another in place moves it there. -/
theorem makes_insertBefore (wf : doc.WellFormed) (anchorStored : anchor < doc.size)
    (stored : id < doc.size) : Makes doc (insertBefore anchor id) (doc.insertBefore anchor id) := by
  by_cases same : anchor = id
  · unfold Makes insertBefore Document.insertBefore
    rw [if_pos same, if_pos same]
    rfl
  have refuse : doc.parent anchor = none → doc.insertBefore anchor id = .error .anchorDetached :=
    fun above => (wf.insertBefore_refused_iff anchorStored stored).mpr (.loose same above)
  unfold Makes insertBefore
  rw [if_neg same, run_bind_ok (run_read anchorStored)]
  show EStateM.run (match doc.parent anchor with
    | none => _
    | some parent => _) doc = _
  cases above : doc.parent anchor with
  | none =>
    rw [refuse above]
    rfl
  | some parent =>
    have parentStored := wf.linked.parent_lt_size above
    rw [insertBefore_of_parent same above]
    refine makes_bind_release wf parentStored stored fun free => ?_
    -- What stands before the anchor is read once more, since it may have been the node itself.
    have links := (wf.detach id).wellFormed.linked
    have prevStored : ∀ prev ∈ (doc.detach id).prev anchor, prev < (doc.detach id).size :=
      fun _ => links.prev_lt_size
    have size := (sameNodes_detach doc id).size
    rw [← size] at parentStored stored anchorStored
    have onStored : ∀ above ∈ some parent, above < (doc.detach id).size := by
      intro above same
      exact Option.some.inj same ▸ parentStored
    rw [run_bind_ok (run_read anchorStored), run_bind_ok (run_write stored _),
      run_bind_ok (run_write (by rwa [size_update]) _),
      run_leadOn (by rwa [size_update, size_update]) (by rwa [size_update, size_update])]
    rfl

/-- Moving a stored node to the start of a row in place moves it there. -/
theorem makes_prepend (wf : doc.WellFormed) (parentStored : parent < doc.size)
    (stored : id < doc.size) : Makes doc (prepend parent id) (doc.prepend parent id) := by
  unfold Makes prepend
  rw [run_bind_ok (run_read parentStored), prepend_of_stored parentStored]
  show EStateM.run (match doc.firstChild parent with
    | none => append parent id
    | some first => if first = id then return () else insertBefore first id) doc = _
  cases head : doc.firstChild parent with
  | none => exact makes_append wf parentStored stored
  | some first =>
    have member := wf.linked.mem_of_firstChild head
    by_cases already : first = id
    · simp only [if_pos already]
      rfl
    · simp only [if_neg already]
      exact makes_insertBefore wf (wf.linked.lt_size member) stored

/-- Taking out first children until there is none takes out all children in order, and comes to its
end as soon as the limit covers them. -/
theorem run_clear (wf : doc.WellFormed) (stored : id < doc.size) {limit : Nat}
    (fits : (doc.children id).length ≤ limit) :
    (clear limit id).run doc = .ok () (doc.removeChildren id) := by
  induction limit generalizing doc with
  | zero =>
    have empty : doc.children id = [] := List.eq_nil_of_length_eq_zero (Nat.le_zero.mp fits)
    rw [removeChildren, empty]
    rfl
  | succ limit ih =>
    rw [clear, run_bind_ok (run_read stored)]
    show EStateM.run (match doc.firstChild id with
      | none => return ()
      | some child => do
        detach child
        clear limit id) doc = _
    have head := wf.linked.first id
    cases row : doc.children id with
    | nil =>
      rw [row, List.head?_nil] at head
      rw [head, removeChildren, row]
      rfl
    | cons child rest =>
      rw [row, List.head?_cons] at head
      have out := wf.detach child
      have childStored : child < doc.size := wf.linked.lt_size (by rw [row]; simp)
      -- What is left in the row are the other children.
      have left : (doc.detach child).children id = rest := by
        rw [out.children, Forest.erase, row, List.erase_cons_head]
      have later := ih out.wellFormed (out.nodes.size ▸ stored)
        (by rw [left]; simpa [row] using fits)
      simp only [head]
      rw [run_bind_ok (run_detach wf childStored), later, removeChildren, removeChildren, left, row,
        List.foldl_cons]

/-- A move of stored nodes in place makes the move. -/
theorem makes_move (wf : doc.WellFormed) {change : Move NodeId}
    (stored : ∀ id ∈ change.names, id < doc.size) :
    Makes doc (move change) (doc.move change) := by
  cases change with
  | append parent child =>
    exact makes_append wf (stored parent (by simp [Move.names])) (stored child (by simp [Move.names]))
  | prepend parent child =>
    exact makes_prepend wf (stored parent (by simp [Move.names]))
      (stored child (by simp [Move.names]))
  | insertBefore anchor node =>
    exact makes_insertBefore wf (stored anchor (by simp [Move.names]))
      (stored node (by simp [Move.names]))
  | detach node =>
    have known := known_ok_iff.mpr ⟨stored node (by simp [Move.names]), rfl⟩
    rw [Document.move, known]
    exact run_detach wf (stored node (by simp [Move.names]))
  | removeChildren node =>
    have known := known_ok_iff.mpr ⟨stored node (by simp [Move.names]), rfl⟩
    rw [Document.move, known]
    exact run_clear wf (stored node (by simp [Move.names])) (wf.linked.length_le node)

end InPlace

end MarkdownTree.Document
