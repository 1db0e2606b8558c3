import MarkdownTree.Proofs.Tree.WellFormed

/-! Document order: the walk over a subtree visits a node, then the subtrees of its children. -/

namespace MarkdownTree.Document

variable {doc : Document}

/-- What is around a node starts no later than what is around an earlier one: of two siblings, the
first is not around the later node where the second is around the earlier one. -/
def Precedes (doc : Document) (earlier later : NodeId) : Prop :=
  ∀ first, ∀ second ∈ doc.following first,
    doc.isWithin second earlier → ¬ doc.isWithin first later

namespace WellFormed

/-- Looking for what comes after a subtree ends as soon as the limit covers the lineage. -/
theorem afterSubtree_limit (wf : doc.WellFormed) (top id : NodeId) {limit limit' : Nat}
    (fits : (doc.lineage id).length ≤ limit) (fits' : (doc.lineage id).length ≤ limit') :
    doc.afterSubtree top limit id = doc.afterSubtree top limit' id := by
  induction id using wf.parent_induction generalizing limit limit' with
  | step id ih =>
    rw [wf.lineage_eq id, List.length_cons] at fits fits'
    -- The lineage is not empty, so both limits leave room for a step.
    obtain ⟨limit, rfl⟩ := Nat.exists_eq_add_of_lt (Nat.lt_of_lt_of_le (Nat.succ_pos _) fits)
    obtain ⟨limit', rfl⟩ := Nat.exists_eq_add_of_lt (Nat.lt_of_lt_of_le (Nat.succ_pos _) fits')
    unfold afterSubtree
    cases above : doc.parent id with
    | none => rfl
    | some parent =>
      -- The lineage of the parent is shorter by one, and so are the limits for it.
      rw [above, Option.map_some, Option.getD_some] at fits fits'
      have same := @ih parent above (0 + limit) (0 + limit') (by omega) (by omega)
      simp only [same]

/-- What comes after a subtree is the next sibling, else what comes after the parent's subtree. -/
theorem afterSubtree_eq (wf : doc.WellFormed) (top id : NodeId) :
    doc.afterSubtree top doc.size id = if id = top then none else
      (doc.next id).or ((doc.parent id).bind (doc.afterSubtree top doc.size)) := by
  have fits := wf.linked.line_length_le wf.root_stored (wf.lineage_follows id)
  -- One step more than the limit changes nothing, and that step reads the links of the node.
  rw [wf.afterSubtree_limit top id fits (Nat.le_succ_of_le fits), afterSubtree]
  cases doc.next id <;> cases doc.parent id <;> rfl

/-- In document order a node is followed by its first child, else by what comes after its subtree.
-/
theorem successor_eq (wf : doc.WellFormed) (top id : NodeId) :
    doc.successor top id = (doc.children id).head?.or (doc.afterSubtree top doc.size id) := by
  rw [← wf.linked.first]
  unfold successor
  cases doc.firstChild id <;> rfl

/-- Both a node and what comes after its subtree are stored. -/
theorem afterSubtree_stored (wf : doc.WellFormed) {top id next : NodeId}
    (found : doc.afterSubtree top doc.size id = some next) : id < doc.size ∧ next < doc.size := by
  induction id using wf.parent_induction with
  | step id ih =>
    rw [wf.afterSubtree_eq] at found
    split at found
    · cases found
    · cases sibling : doc.next id with
      | some right =>
        rw [sibling] at found
        -- The next sibling is in the same row.
        obtain ⟨parent, pair⟩ := wf.linked.next.mp sibling
        have same : right = next := Option.some.inj found
        exact ⟨wf.linked.lt_size pair.left_mem, same ▸ wf.linked.lt_size pair.right_mem⟩
      | none =>
        cases above : doc.parent id with
        | none => simp [sibling, above] at found
        | some parent =>
          -- Without a next sibling the walk goes on from the parent.
          rw [sibling, above] at found
          exact ⟨lt_size_of_parent above, (ih parent above found).2⟩

/-- Both a node and what follows it in document order are stored. -/
theorem successor_stored (wf : doc.WellFormed) {top id next : NodeId}
    (found : doc.successor top id = some next) : id < doc.size ∧ next < doc.size := by
  unfold successor at found
  cases head : doc.firstChild id with
  | some child =>
    rw [head] at found
    -- The walk goes down to the first child.
    have member := wf.linked.mem_of_firstChild head
    have same : child = next := Option.some.inj found
    exact ⟨lt_size_of_firstChild head, same ▸ wf.linked.lt_size member⟩
  | none =>
    rw [head] at found
    -- Without children the walk goes on after the node.
    exact wf.afterSubtree_stored found

/-- After the subtree of a child comes the next child, else what comes after the whole subtree. -/
theorem afterSubtree_child (wf : doc.WellFormed) {top id child : NodeId}
    {before after : List NodeId} (split : doc.children id = before ++ child :: after)
    (within : doc.isWithin top id) : doc.afterSubtree top doc.size child =
      after.head?.or (doc.afterSubtree top doc.size id) := by
  obtain ⟨above, _, next⟩ := wf.linked.of_split split
  have notTop : child ≠ top := by
    intro same
    exact wf.not_isWithin_parent (by simp [split]) (same ▸ within)
  rw [wf.afterSubtree_eq top child, if_neg notTop, above, next]
  rfl

/-- A list of nodes that the walk over any larger subtree meets from a node on, before it goes on
after the node's own subtree. -/
def Covers (doc : Document) (id : NodeId) (nodes : List NodeId) : Prop :=
  ∀ top rest, doc.isWithin top id →
    Follows (doc.successor top) (doc.afterSubtree top doc.size id) rest →
    Follows (doc.successor top) (some id) (nodes ++ rest)

/-- A node and what covers its children cover the node. -/
theorem covers_node (wf : doc.WellFormed) {id : NodeId} {below : NodeId → List NodeId}
    (children : ∀ child ∈ doc.children id, Covers doc child (below child)) :
    Covers doc id (id :: (doc.children id).flatMap below) := by
  intro top rest within after
  -- From any child on, the walk meets what covers the children that are left.
  have row : ∀ left done, doc.children id = done ++ left →
      Follows (doc.successor top) (left.head?.or (doc.afterSubtree top doc.size id))
        (left.flatMap below ++ rest) := by
    intro left
    induction left with
    | nil => exact fun _ _ => after
    | cons child left ih =>
      intro done split
      -- The walk meets what covers the child, then goes on to the next one.
      have member : child ∈ doc.children id := by simp [split]
      have tail := ih (done ++ [child]) (by rw [split, List.append_assoc]; rfl)
      rw [← wf.afterSubtree_child split within] at tail
      rw [List.flatMap_cons, List.append_assoc]
      exact children child member top _ (wf.isWithin_child member within) tail
  refine ⟨rfl, ?_⟩
  rw [wf.successor_eq top id]
  exact row (doc.children id) [] rfl

/-- What covers a node is what the walk over its subtree meets. -/
theorem descendants_of_covers (wf : doc.WellFormed) {id : NodeId} {nodes : List NodeId}
    (covers : Covers doc id nodes) : Follows (doc.successor id) (some id) nodes ∧
      doc.descendants id = nodes := by
  have ended : doc.afterSubtree id doc.size id = none := by
    rw [wf.afterSubtree_eq, if_pos rfl]
  -- Nothing comes after the top of the walk itself.
  have walk := covers id [] (wf.isWithin_self id) ended
  rw [List.append_nil] at walk
  have fits := walk.length_le (Nat.lt_of_le_of_lt (Nat.zero_le root) wf.root_stored)
    fun node next link => wf.successor_stored link
  exact ⟨walk, walk.follow_eq fits⟩

/-- The walk over a subtree covers it. -/
theorem covers_descendants (wf : doc.WellFormed) (id : NodeId) :
    Covers doc id (doc.descendants id) := by
  induction id using wf.child_induction with
  | step id ih =>
    have covers := wf.covers_node ih
    exact (wf.descendants_of_covers covers).2 ▸ covers

/-- The walk over a subtree ends. -/
theorem follows_descendants (wf : doc.WellFormed) (id : NodeId) :
    Follows (doc.successor id) (some id) (doc.descendants id) :=
  (wf.descendants_of_covers (wf.covers_descendants id)).1

/-- The walk over a subtree is the node and the walks over the subtrees of its children. -/
theorem descendants_eq (wf : doc.WellFormed) (id : NodeId) :
    doc.descendants id = id :: (doc.children id).flatMap doc.descendants :=
  (wf.descendants_of_covers (wf.covers_node fun child _ => wf.covers_descendants child)).2

/-- No walk over a subtree meets a node twice. -/
theorem descendants_nodup (wf : doc.WellFormed) (id : NodeId) : (doc.descendants id).Nodup :=
  (wf.follows_descendants id).nodup

/-- Being within a node is being that node, or being within one of its children. -/
theorem isWithin_iff_child (wf : doc.WellFormed) {top id : NodeId} : doc.isWithin top id ↔
    id = top ∨ ∃ child ∈ doc.children top, doc.isWithin child id := by
  constructor
  · intro within
    induction id using wf.parent_induction with
    | step id ih =>
      rcases wf.isWithin_iff.mp within with rfl | ⟨parent, above, within⟩
      · exact Or.inl rfl
      · -- The induction goes up to just below the top.
        right
        rcases ih parent above within with rfl | ⟨child, member, within⟩
        · exact ⟨id, (wf.mem_row _ _).mpr above, wf.isWithin_self id⟩
        · exact ⟨child, member, wf.isWithin_iff.mpr (Or.inr ⟨parent, above, within⟩)⟩
  · intro found
    rcases found with same | ⟨child, member, within⟩
    · exact same ▸ wf.isWithin_self id
    · exact wf.isWithin_trans (wf.isWithin_child member (wf.isWithin_self top)) within

/-- Within a node without children there is nothing but the node. -/
theorem eq_of_isWithin_leaf (wf : doc.WellFormed) {top id : NodeId} (none : doc.children top = [])
    (within : doc.isWithin top id) : id = top := by
  rcases wf.isWithin_iff_child.mp within with same | ⟨child, member, _⟩
  · exact same
  · rw [none] at member
    cases member

/-- The walk over a subtree meets exactly what is within its top. -/
theorem mem_descendants (wf : doc.WellFormed) {top id : NodeId} :
    id ∈ doc.descendants top ↔ doc.isWithin top id := by
  induction top using wf.child_induction with
  | step top ih =>
    rw [wf.descendants_eq, wf.isWithin_iff_child, List.mem_cons, List.mem_flatMap]
    constructor
    · rintro (same | ⟨child, member, below⟩)
      · exact Or.inl same
      · exact Or.inr ⟨child, member, (ih child member).mp below⟩
    · rintro (same | ⟨child, member, below⟩)
      · exact Or.inl same
      · exact Or.inr ⟨child, member, (ih child member).mpr below⟩

/-- Of two nodes within which a third is, one is within the other. -/
theorem isWithin_total (wf : doc.WellFormed) {first second id : NodeId}
    (one : doc.isWithin first id) (other : doc.isWithin second id) :
    doc.isWithin first second ∨ doc.isWithin second first := by
  induction id using wf.parent_induction with
  | step id ih =>
    -- Both lines of parents are the same one, and the induction goes up along it.
    rcases wf.isWithin_iff.mp one with rfl | ⟨parent, above, within⟩
    · exact Or.inr other
    · rcases wf.isWithin_iff.mp other with rfl | ⟨parent', above', within'⟩
      · exact Or.inl one
      · have same : parent = parent' := Option.some.inj (above.symm.trans above')
        exact ih parent above within (same ▸ within')

/-- Nothing is within two different children of one node. -/
theorem not_isWithin_sibling (wf : doc.WellFormed) {parent child sibling id : NodeId}
    (member : child ∈ doc.children parent) (member' : sibling ∈ doc.children parent)
    (different : child ≠ sibling) (within : doc.isWithin child id) : ¬ doc.isWithin sibling id := by
  -- One of the two would be within the other, and so within their parent's own child.
  have apart : ∀ {first second}, first ∈ doc.children parent → second ∈ doc.children parent →
      first ≠ second → ¬ doc.isWithin first second := by
    intro first second here there different within
    rcases wf.isWithin_iff.mp within with same | ⟨above, link, within⟩
    · exact different same
    · have same : above = parent := Option.some.inj (link.symm.trans ((wf.mem_row _ _).mp there))
      exact wf.not_isWithin_parent here (same ▸ within)
  intro within'
  rcases wf.isWithin_total within within' with one | other
  · exact apart member member' different one
  · exact apart member' member (Ne.symm different) other

/-- In document order no node comes after a node that is within it. -/
theorem descendants_pairwise (wf : doc.WellFormed) (id : NodeId) :
    (doc.descendants id).Pairwise fun earlier later => ¬ doc.isWithin later earlier := by
  induction id using wf.child_induction with
  | step id ih =>
    rw [wf.descendants_eq, List.pairwise_cons]
    constructor
    · -- A node comes before all that is within it, and is not within any of it.
      intro later member
      obtain ⟨child, here, below⟩ := List.mem_flatMap.mp member
      intro within
      have below := wf.mem_descendants.mp below
      exact wf.not_isWithin_parent here (wf.isWithin_trans below within)
    · refine List.pairwise_flatMap.mpr ⟨ih, ?_⟩
      refine List.Pairwise.imp_of_mem ?_ (wf.row_nodup id)
      intro child sibling here there different earlier inChild later inSibling within
      -- The earlier node would be within both children.
      have inSibling' := wf.isWithin_trans (wf.mem_descendants.mp inSibling) within
      exact wf.not_isWithin_sibling here there different (wf.mem_descendants.mp inChild) inSibling'

/-- A sibling after a node stands behind it in the row of their parent. -/
theorem row_of_mem_following (wf : doc.WellFormed) {first second : NodeId}
    (member : second ∈ doc.following first) : ∃ parent before between after,
      doc.children parent = before ++ first :: (between ++ second :: after) := by
  cases above : doc.parent first with
  | none =>
    -- Without a parent there are no siblings.
    have last := (wf.loose first above).2
    have empty : doc.following first = [] := by
      rw [following, last]
      cases doc.size <;> rfl
    rw [empty] at member
    cases member
  | some parent =>
    obtain ⟨before, rest, split⟩ := List.append_of_mem (wf.linked.parent.mp above)
    rw [wf.linked.following_eq split] at member
    obtain ⟨between, after, rfl⟩ := List.append_of_mem member
    exact ⟨parent, before, between, after, split⟩

/-- Of two siblings only one comes after the other. -/
theorem not_mem_following (wf : doc.WellFormed) {first second : NodeId}
    (member : second ∈ doc.following first) : first ∉ doc.following second := by
  obtain ⟨parent, before, between, after, split⟩ := wf.row_of_mem_following member
  have distinct := split ▸ wf.row_nodup parent
  rw [← List.cons_append, ← List.append_assoc] at split
  rw [wf.linked.following_eq split]
  -- What comes after the second one is further back in a row that holds the first one once.
  intro again
  refine (List.nodup_cons.mp (List.nodup_append.mp distinct).2.1).1 ?_
  simp [again]

/-- The nodes of a row come one after another. -/
theorem row_pairwise_following (wf : doc.WellFormed) (id : NodeId) :
    (doc.children id).Pairwise fun child sibling => sibling ∈ doc.following child := by
  -- The induction takes the end of the row apart from its front.
  suffices each : ∀ after before, doc.children id = before ++ after →
      after.Pairwise fun child sibling => sibling ∈ doc.following child from each _ [] rfl
  intro after
  induction after with
  | nil => exact fun _ _ => List.Pairwise.nil
  | cons child rest ih =>
    intro before split
    refine List.pairwise_cons.mpr ⟨fun sibling member => ?_, ih (before ++ [child]) (by simp [split])⟩
    rwa [wf.linked.following_eq split]

/-- No node is within a sibling after another and within that other as well. -/
theorem not_isWithin_of_following (wf : doc.WellFormed) {first second id : NodeId}
    (member : second ∈ doc.following first) (within : doc.isWithin second id) :
    ¬ doc.isWithin first id := by
  obtain ⟨parent, before, between, after, split⟩ := wf.row_of_mem_following member
  have here : first ∈ doc.children parent := by simp [split]
  have there : second ∈ doc.children parent := by simp [split]
  refine wf.not_isWithin_sibling there here (fun same => ?_) within
  -- A node that came after itself would come twice.
  exact wf.not_mem_following member (same ▸ member)

/-- What is around a node starts no later than what is around the node itself. -/
theorem precedes_self (wf : doc.WellFormed) (id : NodeId) : doc.Precedes id id :=
  fun _ _ member within => wf.not_isWithin_of_following member within

/-- In document order nothing within a node comes after what is within a later sibling of it. -/
theorem descendants_pairwise_precedes (wf : doc.WellFormed) (id : NodeId) :
    (doc.descendants id).Pairwise doc.Precedes := by
  induction id using wf.child_induction with
  | step id ih =>
    rw [wf.descendants_eq, List.pairwise_cons]
    constructor
    · -- What is around the top of the tree is around all of the tree.
      intro later member first second behind around
      obtain ⟨child, here, below⟩ := List.mem_flatMap.mp member
      have inside := wf.isWithin_child here (wf.isWithin_self id)
      have within := wf.isWithin_trans inside (wf.mem_descendants.mp below)
      exact wf.not_isWithin_of_following behind (wf.isWithin_trans around within)
    · refine List.pairwise_flatMap.mpr ⟨ih, ?_⟩
      refine List.Pairwise.imp_of_mem ?_ (wf.row_pairwise_following id)
      intro child sibling here there next earlier inChild later inSibling first second behind
        around within
      have inChild := wf.mem_descendants.mp inChild
      have inSibling := wf.mem_descendants.mp inSibling
      obtain ⟨parent, before, between, after, split⟩ := wf.row_of_mem_following behind
      have firstIn : first ∈ doc.children parent := by simp [split]
      have secondIn : second ∈ doc.children parent := by simp [split]
      by_cases same : second = child
      · -- Then the first one is a child too, but the later node is within a child after it.
        subst same
        have here' := wf.linked.same_row secondIn here
        subst here'
        refine wf.not_isWithin_sibling there firstIn (fun same => ?_) inSibling within
        exact wf.not_mem_following behind (same ▸ next)
      -- The earlier node is within the second one and within the child.
      rcases wf.isWithin_total around inChild with outer | inner
      · -- The second one is around the whole tree, and the first one is not.
        obtain ⟨above, link, outer⟩ := (wf.isWithin_iff.mp outer).resolve_left same
        have top : above = id := Option.some.inj (link.symm.trans (wf.linked.parent.mpr here))
        have below := wf.isWithin_trans (wf.isWithin_child there (top ▸ outer)) inSibling
        exact wf.not_isWithin_of_following behind below within
      · -- Both are within the child, and the later node is not.
        obtain ⟨above, link, inner⟩ := (wf.isWithin_iff.mp inner).resolve_left (Ne.symm same)
        have top : above = parent :=
          Option.some.inj (link.symm.trans (wf.linked.parent.mpr secondIn))
        have below := wf.isWithin_child firstIn (top ▸ inner)
        exact wf.not_isWithin_of_following next inSibling (wf.isWithin_trans below within)

/-- Where all rows of a subtree are the same in another document, so is the walk over it. -/
theorem descendants_congr (wf : doc.WellFormed) {other : Document} (wf' : other.WellFormed)
    {top : NodeId} (same : ∀ id, doc.isWithin top id → other.children id = doc.children id) :
    other.descendants top = doc.descendants top := by
  induction top using wf.child_induction with
  | step top ih =>
    rw [wf'.descendants_eq, wf.descendants_eq, same top (wf.isWithin_self top)]
    -- The rows below a child are rows of the subtree as well.
    refine congrArg (top :: ·) (List.flatMap_congr fun child member => ?_)
    refine ih child member fun id within => same id ?_
    exact wf.isWithin_iff_child.mpr (Or.inr ⟨child, member, within⟩)

/-- Of nodes that all have the top for their parent, the walk from there meets the children. -/
theorem filter_descendants (wf : doc.WellFormed) {top : NodeId} {chosen : NodeId → Bool}
    (below : ∀ id, chosen id → doc.parent id = some top) :
    (doc.descendants top).filter chosen = (doc.children top).filter chosen := by
  have links := wf.linked
  have notTop : ¬ chosen top := fun here =>
    wf.not_isWithin_parent (links.parent.mp (below top here)) (wf.isWithin_self top)
  -- Whatever is further down has another parent.
  have own : ∀ child ∈ doc.children top,
      (doc.descendants child).filter chosen = [child].filter chosen := by
    intro child member
    rw [wf.descendants_eq child, ← List.singleton_append, List.filter_append,
      List.append_right_eq_self, List.filter_eq_nil_iff]
    intro id deep here
    obtain ⟨inner, member', within⟩ := List.mem_flatMap.mp deep
    have up := wf.isWithin_child member' (wf.isWithin_self child)
    rcases wf.isWithin_iff.mp (wf.mem_descendants.mp within) with rfl | ⟨parent, above, within⟩
    · have same := links.same_row member' (links.parent.mp (below inner here))
      exact wf.not_isWithin_parent (same ▸ member) (wf.isWithin_self _)
    · have same : parent = top := Option.some.inj (above.symm.trans (below id here))
      exact wf.not_isWithin_parent member (wf.isWithin_trans up (same ▸ within))
  rw [wf.descendants_eq top, List.filter_cons_of_neg notTop, List.filter_flatMap,
    List.flatMap_congr own, ← List.filter_flatMap, List.flatMap_singleton']

/-- A node is attached exactly when the walk over the whole tree meets it. -/
theorem mem_descendants_root (wf : doc.WellFormed) {id : NodeId} :
    id ∈ doc.descendants root ↔ doc.isAttached id :=
  wf.mem_descendants

end WellFormed

end MarkdownTree.Document
