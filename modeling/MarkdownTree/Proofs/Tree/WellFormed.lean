import MarkdownTree.Proofs.Tree.Follow
import MarkdownTree.Proofs.Tree.Row

/-! Well-formed documents: the five links of all nodes say the same, and every node hangs below a
node without a parent. -/

namespace MarkdownTree.Document

/-- The links of all nodes agree, and no node is its own ancestor. -/
structure WellFormed (doc : Document) : Prop where
  /-- The root is in the store, -/
  root_stored : root < doc.size
  /-- and nothing is above it. -/
  root_parent : doc.parent root = none
  /-- From the first child of a node, the links to the next sibling lead through its row and end. -/
  row_follows : ∀ id, Follows doc.next (doc.firstChild id) (doc.children id)
  /-- A row names no node twice. -/
  row_nodup : ∀ id, (doc.children id).Nodup
  /-- The row of a node holds exactly the nodes whose parent it is. -/
  mem_row : ∀ id child, child ∈ doc.children id ↔ doc.parent child = some id
  /-- The last link of a node leads to the end of its row. -/
  row_last : ∀ id, doc.lastChild id = (doc.children id).getLast?
  /-- The links between neighbours lead both ways. -/
  mirror : ∀ left right, doc.next left = some right ↔ doc.prev right = some left
  /-- A node without a parent has no siblings. -/
  loose : ∀ id, doc.parent id = none → doc.prev id = none ∧ doc.next id = none
  /-- The links to the parent lead from every node through its lineage and end. -/
  lineage_follows : ∀ id, Follows doc.parent (some id) (doc.lineage id)

/-- Every link of a document says what these rows say, one row of children for each node. -/
structure Linked (doc : Document) (rows : NodeId → List NodeId) : Prop where
  nodup : ∀ id, (rows id).Nodup
  parent : ∀ {id child}, doc.parent child = some id ↔ child ∈ rows id
  next : ∀ {left right}, doc.next left = some right ↔ ∃ id, Adjacent left right (rows id)
  prev : ∀ {left right}, doc.prev right = some left ↔ ∃ id, Adjacent left right (rows id)
  first : ∀ id, doc.firstChild id = (rows id).head?
  last : ∀ id, doc.lastChild id = (rows id).getLast?

variable {doc : Document} {rows : NodeId → List NodeId}

/-- An id that is not handed out yet reads as an unlinked node. -/
theorem node_of_not_stored {id : NodeId} (outside : ¬ id < doc.size) :
    doc.node id = { kind := .document, span := {} } := by
  simp only [size, Nat.not_lt] at outside
  simp [node, outside]

/-- Only stored nodes have a parent. -/
theorem lt_size_of_parent {id parent : NodeId} (below : doc.parent id = some parent) :
    id < doc.size := by
  -- The others read as nodes without links.
  by_contra outside
  simp [Document.parent, node_of_not_stored outside] at below

/-- Only stored nodes have children. -/
theorem lt_size_of_firstChild {id child : NodeId} (above : doc.firstChild id = some child) :
    id < doc.size := by
  by_contra outside
  simp [firstChild, node_of_not_stored outside] at above

namespace Linked

/-- A node is in one row only. -/
theorem same_row (links : doc.Linked rows) {id other child : NodeId} (here : child ∈ rows id)
    (there : child ∈ rows other) : id = other :=
  Option.some.inj ((links.parent.mpr here).symm.trans (links.parent.mpr there))

/-- Nodes in rows are stored. -/
theorem lt_size (links : doc.Linked rows) {id child : NodeId} (member : child ∈ rows id) :
    child < doc.size :=
  lt_size_of_parent (links.parent.mpr member)

/-- Nodes with children are stored. -/
theorem owner_lt_size (links : doc.Linked rows) {id child : NodeId} (member : child ∈ rows id) :
    id < doc.size := by
  -- A row that is not empty has a first node, to which the first link leads.
  obtain ⟨first, rest, split⟩ := List.exists_cons_of_ne_nil (List.ne_nil_of_mem member)
  have head : doc.firstChild id = some first := by rw [links.first, split, List.head?_cons]
  exact lt_size_of_firstChild head

/-- The parent of a node is stored. -/
theorem parent_lt_size (links : doc.Linked rows) {id parent : NodeId}
    (above : doc.parent id = some parent) : parent < doc.size :=
  links.owner_lt_size (links.parent.mp above)

/-- The sibling before a node is stored. -/
theorem prev_lt_size (links : doc.Linked rows) {id left : NodeId}
    (link : doc.prev id = some left) : left < doc.size := by
  obtain ⟨_, pair⟩ := links.prev.mp link
  exact links.lt_size pair.left_mem

/-- The sibling after a node is stored. -/
theorem next_lt_size (links : doc.Linked rows) {id right : NodeId}
    (link : doc.next id = some right) : right < doc.size := by
  obtain ⟨_, pair⟩ := links.next.mp link
  exact links.lt_size pair.right_mem

/-- The last child of a node is stored. -/
theorem lastChild_lt_size (links : doc.Linked rows) {id last : NodeId}
    (link : doc.lastChild id = some last) : last < doc.size := by
  rw [links.last] at link
  exact links.lt_size (List.mem_of_getLast? link)

/-- The first child of a node is in its row. -/
theorem mem_of_firstChild (links : doc.Linked rows) {id first : NodeId}
    (head : doc.firstChild id = some first) : first ∈ rows id :=
  List.mem_of_head? ((links.first id).symm.trans head)

/-- The links to the next sibling lead through any end of a row. -/
theorem follows_suffix (links : doc.Linked rows) (id : NodeId) :
    ∀ after before, rows id = before ++ after → Follows doc.next after.head? after := by
  intro after
  -- The induction takes the end of the row apart from its front.
  induction after with
  | nil => exact fun _ _ => rfl
  | cons child rest ih =>
    intro before split
    refine ⟨rfl, ?_⟩
    -- The links lead through the rest of the row, so only the next one is in question.
    have tail := ih (before ++ [child]) (by rw [split, List.append_assoc]; rfl)
    suffices doc.next child = rest.head? by rw [this]; exact tail
    cases rest with
    | cons next rest => exact links.next.mpr ⟨id, before, rest, split⟩
    | nil =>
      -- A next sibling would stand after the child in its own row, which ends with the child.
      rw [List.head?_nil, Option.eq_none_iff_forall_ne_some]
      intro next link
      obtain ⟨other, pair⟩ := links.next.mp link
      have same : id = other := links.same_row (by simp [split]) pair.left_mem
      exact (same ▸ pair).ne_last (links.nodup id) (by simp [split])

/-- The links to the next sibling lead through the whole row. -/
theorem follows (links : doc.Linked rows) (id : NodeId) :
    Follows doc.next (doc.firstChild id) (rows id) := by
  rw [links.first]
  exact links.follows_suffix id (rows id) [] rfl

/-- The links of a node in a row lead to its owner and to its neighbours there. -/
theorem of_split (links : doc.Linked rows) {id child : NodeId} {before after : List NodeId}
    (split : rows id = before ++ child :: after) :
    doc.parent child = some id ∧ doc.prev child = before.getLast? ∧
      doc.next child = after.head? := by
  have walk := links.follows_suffix id (child :: after) before split
  refine ⟨links.parent.mpr (by simp [split]), ?_, walk.2.head.symm⟩
  rcases List.eq_nil_or_concat before with rfl | ⟨before, left, rfl⟩
  · -- What stood before the first node would stand in the same row.
    rw [List.getLast?_nil, Option.eq_none_iff_forall_ne_some]
    intro left link
    obtain ⟨other, pair⟩ := links.prev.mp link
    have same : id = other := links.same_row (by simp [split]) pair.right_mem
    exact (same ▸ pair).ne_first (links.nodup id) (by simp [split])
  · -- The node that stands before it is its neighbour.
    rw [List.concat_eq_append, List.getLast?_concat]
    exact links.prev.mpr ⟨id, before, after, by simp [split]⟩

/-- A row is no longer than the store. -/
theorem length_le (links : doc.Linked rows) (id : NodeId) : (rows id).length ≤ doc.size :=
  length_le_of_nodup_of_lt (links.nodup id) fun _ member => links.lt_size member

/-- A line of parents is no longer than the store. -/
theorem line_length_le (links : doc.Linked rows) (stored : root < doc.size) {id : NodeId}
    {line : List NodeId} (walk : Follows doc.parent (some id) line) : line.length ≤ doc.size := by
  refine walk.length_le (Nat.lt_of_le_of_lt (Nat.zero_le root) stored) fun node parent above => ?_
  exact ⟨lt_size_of_parent above, links.parent_lt_size above⟩

/-- The rows are the children that reading the links gives. -/
theorem children_eq (links : doc.Linked rows) : doc.children = rows := by
  -- The walk over the siblings never runs out of steps.
  funext id
  exact (links.follows id).follow_eq (links.length_le id)

/-- What follows a node among its siblings is the rest of its row. -/
theorem following_eq (links : doc.Linked rows) {id child : NodeId} {before after : List NodeId}
    (split : rows id = before ++ child :: after) : doc.following child = after := by
  have split' : rows id = (before ++ [child]) ++ after := by rw [split, List.append_cons]
  -- The walk starts at the next sibling, and there is room for the whole rest.
  have walk := links.follows_suffix id after (before ++ [child]) split'
  rw [← (links.of_split split).2.2] at walk
  refine walk.follow_eq (Nat.le_trans ?_ (links.length_le id))
  rw [split', List.length_append]
  exact Nat.le_add_left _ _

/-- Rows that the links agree with make a document well formed if every line of parents ends. -/
theorem wellFormed (links : doc.Linked rows) (stored : root < doc.size)
    (top : doc.parent root = none)
    (lines : ∀ id, ∃ line, Follows doc.parent (some id) line) : doc.WellFormed where
  root_stored := stored
  root_parent := top
  row_follows id := by rw [links.children_eq]; exact links.follows id
  row_nodup id := by rw [links.children_eq]; exact links.nodup id
  mem_row id child := by rw [links.children_eq]; exact links.parent.symm
  row_last id := by rw [links.children_eq]; exact links.last id
  mirror left right := links.next.trans links.prev.symm
  loose id orphan := by
    -- A sibling on either side would put the node into a row.
    constructor
    · rw [Option.eq_none_iff_forall_ne_some]
      intro left link
      obtain ⟨parent, pair⟩ := links.prev.mp link
      simp [links.parent.mpr pair.right_mem] at orphan
    · rw [Option.eq_none_iff_forall_ne_some]
      intro right link
      obtain ⟨parent, pair⟩ := links.next.mp link
      simp [links.parent.mpr pair.left_mem] at orphan
  lineage_follows id := by
    -- Each line is short enough to be read to its end.
    obtain ⟨line, walk⟩ := lines id
    have read : doc.lineage id = line := walk.follow_eq (links.line_length_le stored walk)
    rw [read]
    exact walk

end Linked

namespace WellFormed

/-- The links of a well-formed document say what its rows of children say. -/
theorem linked (wf : doc.WellFormed) : doc.Linked doc.children := by
  have next : ∀ {left right}, doc.next left = some right ↔
      ∃ id, Adjacent left right (doc.children id) := by
    intro left right
    constructor
    · intro link
      -- The left one has a sibling, so it has a parent and stands in that parent's row.
      obtain ⟨parent, below⟩ : ∃ parent, doc.parent left = some parent := by
        rw [← Option.isSome_iff_exists, Option.isSome_iff_ne_none]
        intro orphan
        simp [(wf.loose left orphan).2] at link
      obtain ⟨before, after, split⟩ := List.append_of_mem ((wf.mem_row parent left).mpr below)
      have rest : Follows doc.next (doc.next left) after :=
        (Follows.suffix (split ▸ wf.row_follows parent)).2
      obtain ⟨after, rfl⟩ := List.head?_eq_some_iff.mp (rest.head.trans link)
      exact ⟨parent, before, after, split⟩
    · rintro ⟨parent, before, after, split⟩
      -- The links lead through the row of the parent, and from the left one to the right one.
      have walk : Follows doc.next (some left) (left :: right :: after) :=
        Follows.suffix (split ▸ wf.row_follows parent)
      exact walk.2.1
  exact
    { nodup := wf.row_nodup
      parent := (wf.mem_row _ _).symm
      next := next
      prev := (wf.mirror _ _).symm.trans next
      first := fun id => (wf.row_follows id).head.symm
      last := wf.row_last }

/-- A node without a parent is in no row. -/
theorem parent_eq_none_iff (wf : doc.WellFormed) {id : NodeId} :
    doc.parent id = none ↔ ∀ parent, id ∉ doc.children parent := by
  rw [Option.eq_none_iff_forall_ne_some]
  exact forall_congr' fun parent => not_congr wf.linked.parent

/-- A node below another is not the root. -/
theorem ne_root (wf : doc.WellFormed) {id parent : NodeId} (below : doc.parent id = some parent) :
    id ≠ root := by
  -- Nothing is above the root.
  intro same
  rw [same, wf.root_parent] at below
  cases below

/-- No node is its own next sibling. -/
theorem next_ne_self (wf : doc.WellFormed) (id : NodeId) : doc.next id ≠ some id := by
  intro link
  obtain ⟨parent, pair⟩ := wf.linked.next.mp link
  exact pair.ne (wf.row_nodup parent) rfl

/-- The lineage of a node is the node and the lineage of its parent. -/
theorem lineage_eq (wf : doc.WellFormed) (id : NodeId) :
    doc.lineage id = id :: ((doc.parent id).map doc.lineage).getD [] := by
  -- Links lead one way only, so it is enough that the other line follows them as well.
  refine (wf.lineage_follows id).unique ⟨rfl, ?_⟩
  cases above : doc.parent id with
  | none => rfl
  | some parent => exact wf.lineage_follows parent

/-- What holds of a node whenever it holds of its parent holds of all nodes. -/
theorem parent_induction (wf : doc.WellFormed) {motive : NodeId → Prop}
    (step : ∀ id, (∀ parent, doc.parent id = some parent → motive parent) → motive id)
    (id : NodeId) : motive id := by
  -- The lineage gets shorter from a node to its parent.
  induction lineage : doc.lineage id generalizing id with
  | nil => simp [wf.lineage_eq id] at lineage
  | cons first rest ih =>
    refine step id fun parent above => ih parent ?_
    rw [wf.lineage_eq id, above] at lineage
    exact (List.cons_eq_cons.mp lineage).2

/-- What holds of a node whenever it holds of its children holds of all nodes. -/
theorem child_induction (wf : doc.WellFormed) {motive : NodeId → Prop}
    (step : ∀ id, (∀ child ∈ doc.children id, motive child) → motive id)
    (id : NodeId) : motive id := by
  -- No lineage is longer than the store, and it grows from a node to its children.
  induction room : doc.size - (doc.lineage id).length using Nat.strongRecOn generalizing id with
  | ind room ih =>
    refine step id fun child member => ih _ ?_ child rfl
    have fits := wf.linked.line_length_le wf.root_stored (wf.lineage_follows child)
    have above := (wf.mem_row id child).mp member
    rw [wf.lineage_eq child, above] at fits ⊢
    simp only [Option.map_some, Option.getD_some, List.length_cons] at fits ⊢
    omega

/-- Being within a node is being that node, or having a parent within it. -/
theorem isWithin_iff (wf : doc.WellFormed) {top id : NodeId} : doc.isWithin top id ↔
    top = id ∨ ∃ parent, doc.parent id = some parent ∧ doc.isWithin top parent := by
  simp only [isWithin, List.contains_iff_mem]
  -- The lineage is the node and what is above it.
  rw [wf.lineage_eq id]
  cases doc.parent id <;> simp

/-- Every node is within itself. -/
theorem isWithin_self (wf : doc.WellFormed) (id : NodeId) : doc.isWithin id id :=
  wf.isWithin_iff.mpr (Or.inl rfl)

/-- A child is within whatever its parent is within. -/
theorem isWithin_child (wf : doc.WellFormed) {top id child : NodeId}
    (member : child ∈ doc.children id) (within : doc.isWithin top id) :
    doc.isWithin top child :=
  wf.isWithin_iff.mpr (Or.inr ⟨id, (wf.mem_row id child).mp member, within⟩)

/-- What is around a child but not the child itself is around the parent. -/
theorem isWithin_above (wf : doc.WellFormed) {top id child : NodeId}
    (above : doc.parent child = some id) (different : top ≠ child)
    (within : doc.isWithin top child) : doc.isWithin top id := by
  obtain ⟨parent, above', within⟩ := (wf.isWithin_iff.mp within).resolve_left different
  exact Option.some.inj (above'.symm.trans above) ▸ within

/-- Being within is transitive. -/
theorem isWithin_trans (wf : doc.WellFormed) {top middle id : NodeId}
    (outer : doc.isWithin top middle) (inner : doc.isWithin middle id) :
    doc.isWithin top id := by
  induction id using wf.parent_induction with
  | step id ih =>
    -- The induction goes up to where the inner node is the middle one.
    rcases wf.isWithin_iff.mp inner with rfl | ⟨parent, above, within⟩
    · exact outer
    · exact wf.isWithin_iff.mpr (Or.inr ⟨parent, above, ih parent above within⟩)

/-- The root is within itself alone. -/
theorem isWithin_root (wf : doc.WellFormed) {top : NodeId} (within : doc.isWithin top root) :
    top = root := by
  rcases wf.isWithin_iff.mp within with same | ⟨parent, above, _⟩
  · exact same
  · -- Nothing is above the root.
    rw [wf.root_parent] at above
    cases above

/-- What hangs from the root is stored. -/
theorem lt_size_of_isAttached (wf : doc.WellFormed) {id : NodeId} (attached : doc.isAttached id) :
    id < doc.size := by
  rcases wf.isWithin_iff.mp attached with same | ⟨parent, above, _⟩
  · exact same ▸ wf.root_stored
  · exact lt_size_of_parent above

/-- The children of the root hang from it. -/
theorem isAttached_of_parent (wf : doc.WellFormed) {id : NodeId}
    (below : doc.parent id = some root) : doc.isAttached id :=
  wf.isWithin_child ((wf.mem_row _ _).mpr below) (wf.isWithin_self root)

/-- No node is within one of its children. -/
theorem not_isWithin_parent (wf : doc.WellFormed) {id child : NodeId}
    (member : child ∈ doc.children id) : ¬ doc.isWithin child id := by
  intro within
  -- The node would come again in the lineage of its child, above itself.
  have above := (wf.mem_row id child).mp member
  have distinct := (wf.lineage_follows child).nodup
  rw [wf.lineage_eq child, above] at distinct
  simp only [isWithin, List.contains_iff_mem] at within
  exact (List.nodup_cons.mp distinct).1 within

/-- Nothing in the row of a node is the root or the node. -/
theorem ne_of_mem (wf : doc.WellFormed) {id child : NodeId} (member : child ∈ doc.children id) :
    child ≠ root ∧ child ≠ id := by
  refine ⟨wf.ne_root (wf.linked.parent.mpr member), fun same => ?_⟩
  exact wf.not_isWithin_parent member (same ▸ wf.isWithin_self child)

end WellFormed

/-- Two well-formed documents with the same nodes in the same rows are the same. -/
theorem WellFormed.ext {other : Document} (wf : doc.WellFormed) (wf' : other.WellFormed)
    (source : doc.source = other.source) (size : doc.size = other.size)
    (kind : doc.kind = other.kind) (span : doc.span = other.span)
    (children : doc.children = other.children) : doc = other := by
  -- Every link is determined by the rows.
  have links := wf.linked
  have links' := children ▸ wf'.linked
  have parent : doc.parent = other.parent := by
    funext id
    exact Option.ext fun _ => links.parent.trans links'.parent.symm
  have next : doc.next = other.next := by
    funext id
    exact Option.ext fun _ => links.next.trans links'.next.symm
  have prev : doc.prev = other.prev := by
    funext id
    exact Option.ext fun _ => links.prev.trans links'.prev.symm
  have first : doc.firstChild = other.firstChild := by
    funext id
    exact (links.first id).trans (links'.first id).symm
  have last : doc.lastChild = other.lastChild := by
    funext id
    exact (links.last id).trans (links'.last id).symm
  have node : ∀ id, doc.node id = other.node id := fun id =>
    Node.ext (congrFun kind id) (congrFun span id) (congrFun parent id) (congrFun first id)
      (congrFun last id) (congrFun prev id) (congrFun next id)
  refine Document.ext source (Array.ext size fun id here there => ?_)
  have same := node id
  simp only [Document.node, Array.getD_eq_getD_getElem?, Array.getElem?_eq_getElem here,
    Array.getElem?_eq_getElem there, Option.getD_some] at same
  exact same

end MarkdownTree.Document
