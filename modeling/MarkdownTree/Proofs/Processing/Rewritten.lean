import MarkdownTree.Proofs.Processing.AlertPatch

/-! Rewritten documents: some marked quotes are replaced by their alerts, one after another, and all
the other quotes are left as they were. -/

namespace MarkdownTree.Alert

variable {doc other next : Document} {quotes : List NodeId} {quote paragraph : NodeId}
  {blocks : List NodeId} {alert : AlertKind}

/-- A new node is the alert for a quote, and has of its content what it should. -/
structure Stands (doc other : Document) (quote paragraph : NodeId) (blocks : List NodeId)
    (alert : AlertKind) (new : NodeId) : Prop where
  kind : other.kind new = .alert alert
  span : other.span new = doc.span quote
  children : other.children new = moved doc paragraph blocks
  quote : other.children quote = kept doc paragraph blocks
  paragraph : other.children paragraph = inlines doc paragraph

/-- A document in which alerts stand for some marked quotes, the first new node for the first. -/
structure Rewritten (doc : Document) (quotes : List NodeId) (other : Document) : Prop where
  wellFormed : other.WellFormed
  distinct : quotes.Nodup
  /-- Every old node has its kind and span. -/
  keepsNodes : Document.KeepsNodes doc other
  /-- The alerts are the only new nodes, -/
  size : other.size = doc.size + quotes.length
  /-- one for each quote, -/
  each : ∀ {index quote}, quotes[index]? = some quote → ∃ paragraph blocks alert,
    Marked doc quote paragraph blocks alert ∧
      Stands doc other quote paragraph blocks alert (doc.size + index)
  /-- and they stand where the quotes stood. -/
  root : other.children Document.root = (doc.children Document.root).map fun id =>
    if id ∈ quotes then doc.size + quotes.idxOf id else id
  /-- No other row is touched. -/
  others : ∀ {node}, node < doc.size → node ≠ Document.root → node ∉ quotes →
    (∀ quote ∈ quotes, doc.firstChild quote ≠ some node) → other.children node = doc.children node

/-- A new node is no old one. -/
theorem new_ne {id : NodeId} (stored : id < doc.size) (index : Nat) : doc.size + index ≠ id :=
  Nat.ne_of_gt (Nat.lt_of_lt_of_le stored (Nat.le_add_right _ _))

/-- No quote is replaced in the document itself. -/
theorem Rewritten.refl (wf : doc.WellFormed) : Rewritten doc [] doc where
  wellFormed := wf
  distinct := List.nodup_nil
  keepsNodes := (Document.SameNodes.refl doc).keepsNodes
  size := rfl
  each found := by simp at found
  root := by simp
  others _ _ _ _ := rfl

namespace Rewritten

/-- Quotes are replaced when they are marked. -/
theorem marked (rewritten : Rewritten doc quotes other) (member : quote ∈ quotes) :
    ∃ paragraph blocks alert, Marked doc quote paragraph blocks alert := by
  obtain ⟨index, found⟩ := List.mem_iff_getElem?.mp member
  obtain ⟨paragraph, blocks, alert, marked, _⟩ := rewritten.each found
  exact ⟨paragraph, blocks, alert, marked⟩

/-- Only a child of a quote is its first child. -/
theorem firstChild_ne (wf : doc.WellFormed) {id parent : NodeId}
    (below : doc.parent id = some parent) (fresh : parent ∉ quotes) :
    ∀ quote ∈ quotes, doc.firstChild quote ≠ some id := by
  intro quote member head
  -- The two would have the node for a child.
  have inside := wf.linked.mem_of_firstChild head
  have same : quote = parent := Option.some.inj ((wf.linked.parent.mpr inside).symm.trans below)
  exact fresh (same ▸ member)

/-- The rows below a quote that is not replaced yet are not touched. -/
theorem children_waiting (wf : doc.WellFormed) (rewritten : Rewritten doc quotes other)
    (top : doc.parent quote = some Document.root) (fresh : quote ∉ quotes) :
    other.children quote = doc.children quote ∧
      ∀ id ∈ doc.children quote, other.children id = doc.children id := by
  have rootFresh : Document.root ∉ quotes := by
    intro member
    obtain ⟨_, _, _, marked⟩ := rewritten.marked member
    exact marked.ne_root wf rfl
  refine ⟨rewritten.others (Document.lt_size_of_parent top) (wf.ne_root top) fresh
    (firstChild_ne wf top rootFresh), fun id member => ?_⟩
  have below := wf.linked.parent.mpr member
  refine rewritten.others (wf.linked.lt_size member) (wf.ne_root below) (fun again => ?_)
    (firstChild_ne wf below fresh)
  -- A replaced quote stands below the root, and this one stands below a quote.
  obtain ⟨_, _, _, marked⟩ := rewritten.marked again
  exact wf.ne_root top (Option.some.inj (below.symm.trans marked.parent))

/-- Of the old nodes, those are below the root that were there and are not replaced. -/
theorem mem_children_root (rewritten : Rewritten doc quotes other) {id : NodeId}
    (stored : id < doc.size) : id ∈ other.children Document.root ↔
      id ∈ doc.children Document.root ∧ id ∉ quotes := by
  rw [rewritten.root, List.mem_map]
  constructor
  · intro found
    obtain ⟨old, member, same⟩ := found
    split at same
    · -- What stands for a quote is a new node.
      exact absurd same (new_ne stored _)
    · next fresh => exact same ▸ ⟨member, fresh⟩
  · intro waiting
    exact ⟨id, waiting.1, if_neg waiting.2⟩

/-- A node that is not replaced yet is below the root exactly if it was. -/
theorem parent_root_iff (wf : doc.WellFormed) (rewritten : Rewritten doc quotes other)
    {id : NodeId} (stored : id < doc.size) (fresh : id ∉ quotes) :
    other.parent id = some Document.root ↔ doc.parent id = some Document.root := by
  rw [rewritten.wellFormed.linked.parent, wf.linked.parent, rewritten.mem_children_root stored]
  exact and_iff_left fresh

/-- A quote that is not replaced yet is marked exactly if it was. -/
theorem marked_iff (wf : doc.WellFormed) (rewritten : Rewritten doc quotes other)
    (stored : quote < doc.size) (fresh : quote ∉ quotes) :
    Marked other quote paragraph blocks alert ↔ Marked doc quote paragraph blocks alert := by
  have top := rewritten.parent_root_iff wf stored fresh
  by_cases below : doc.parent quote = some Document.root
  · -- The quote is still below the root, with the same rows below it.
    obtain ⟨row, inner⟩ := rewritten.children_waiting wf below fresh
    exact Alert.marked_iff wf rewritten.wellFormed rewritten.keepsNodes top row inner
  · exact iff_of_false (fun marked => below (top.mp marked.parent))
      fun marked => below marked.parent

/-- What an alert has does not depend on the quotes that were replaced before. -/
theorem content_eq (wf : doc.WellFormed) (rewritten : Rewritten doc quotes other)
    (marked : Marked doc quote paragraph blocks alert) (fresh : quote ∉ quotes) :
    moved other paragraph blocks = moved doc paragraph blocks ∧
      kept other paragraph blocks = kept doc paragraph blocks ∧
      inlines other paragraph = inlines doc paragraph := by
  have inner := (rewritten.children_waiting wf marked.parent fresh).2 paragraph marked.first_mem
  exact content_congr wf marked.children rewritten.keepsNodes.kind inner

/-- An alert that stands for a quote stands for it when another quote is replaced. -/
theorem stands (wf : doc.WellFormed) (rewritten : Rewritten doc quotes other)
    {index : Nat} {earlier first : NodeId} {rest : List NodeId} {kind : AlertKind}
    (found : quotes[index]? = some earlier) (marked' : Marked doc earlier first rest kind)
    (stands : Stands doc other earlier first rest kind (doc.size + index))
    (marked : Marked doc quote paragraph blocks alert) (fresh : quote ∉ quotes)
    (replaced : Replaced other next quote paragraph blocks alert) :
    Stands doc next earlier first rest kind (doc.size + index) := by
  have within : index < quotes.length := (List.getElem?_eq_some_iff.mp found).1
  have old : doc.size + index < other.size := rewritten.size ▸ Nat.add_lt_add_left within _
  have different : earlier ≠ quote := fun same => fresh (same ▸ List.mem_of_getElem? found)
  have below := wf.linked.parent.mpr marked.first_mem
  have below' := wf.linked.parent.mpr marked'.first_mem
  -- Nodes with different parents differ.
  have apart : ∀ {one two above above' : NodeId}, doc.parent one = some above →
      doc.parent two = some above' → above ≠ above' → one ≠ two := by
    intro one two above above' up up' different same
    rw [same] at up
    exact different (Option.some.inj (up.symm.trans up'))
  have stays : ∀ {node}, node < other.size → node ≠ Document.root → node ≠ quote →
      node ≠ paragraph → next.children node = other.children node :=
    fun stored notRoot => replaced.children_of_ne notRoot (Nat.ne_of_lt stored)
  have kept : ∀ {id}, id < doc.size → id < other.size := fun stored =>
    Nat.lt_of_lt_of_le stored rewritten.keepsNodes.size
  exact
    { kind := (replaced.keepsNodes.kind _ old).trans stands.kind
      span := (replaced.keepsNodes.span _ old).trans stands.span
      children := (stays old (new_ne wf.root_stored index) (new_ne marked.stored index)
        (new_ne (Document.lt_size_of_parent below) index)).trans stands.children
      quote := (stays (kept marked'.stored) (marked'.ne_root wf) different
        (apart marked'.parent below (marked.ne_root wf).symm)).trans stands.quote
      paragraph := (stays (kept (Document.lt_size_of_parent below')) (wf.ne_root below')
        (apart below' marked.parent (marked'.ne_root wf))
        (apart below' below different)).trans stands.paragraph }

/-- The next new node stands for the quote that is replaced last. -/
theorem stands_last (wf : doc.WellFormed) (rewritten : Rewritten doc quotes other)
    (marked : Marked doc quote paragraph blocks alert) (fresh : quote ∉ quotes)
    (replaced : Replaced other next quote paragraph blocks alert) :
    Stands doc next quote paragraph blocks alert (doc.size + quotes.length) := by
  have wf' := rewritten.wellFormed
  have marked' := (rewritten.marked_iff wf marked.stored fresh).mpr marked
  obtain ⟨moved, kept, inlines⟩ := rewritten.content_eq wf marked fresh
  rw [← rewritten.size]
  exact
    { kind := (replaced.kind _).trans (if_pos rfl)
      span := ((replaced.span _).trans (if_pos rfl)).trans
        (rewritten.keepsNodes.span quote marked.stored)
      children := (replaced.children_alert wf').trans moved
      quote := (replaced.children_quote wf' marked').trans kept
      paragraph := (replaced.children_paragraph wf' marked').trans inlines }

/-- The row of the root has one more alert in it, where the quote was. -/
theorem root_replaced (rewritten : Rewritten doc quotes other)
    (stored : quote < doc.size) (fresh : quote ∉ quotes)
    (replaced : Replaced other next quote paragraph blocks alert) :
    next.children Document.root = (doc.children Document.root).map fun id =>
      if id ∈ quotes ++ [quote] then doc.size + (quotes ++ [quote]).idxOf id else id := by
  rw [replaced.children_root, rewritten.root, List.map_map]
  refine List.map_congr_left fun id _ => ?_
  show (if (if id ∈ quotes then doc.size + quotes.idxOf id else id) = quote then other.size
    else if id ∈ quotes then doc.size + quotes.idxOf id else id) = _
  by_cases before : id ∈ quotes
  · -- An alert that stands there already is not the quote.
    rw [if_pos before, if_neg (new_ne stored _), if_pos (List.mem_append_left _ before),
      List.idxOf_append_of_mem before]
  · rw [if_neg before]
    by_cases same : id = quote
    · -- The new alert is the next new node.
      subst same
      rw [if_pos rfl, if_pos (by simp), List.idxOf_append_of_notMem before, rewritten.size,
        List.idxOf_cons_self]
      rfl
    · rw [if_neg same, if_neg (by simp [before, same])]

/-- One more quote is replaced. -/
theorem replaced (wf : doc.WellFormed) (rewritten : Rewritten doc quotes other)
    (marked : Marked doc quote paragraph blocks alert) (fresh : quote ∉ quotes)
    (replaced : Replaced other next quote paragraph blocks alert) :
    Rewritten doc (quotes ++ [quote]) next := by
  have last := rewritten.stands_last wf marked fresh replaced
  refine
    { wellFormed := replaced.wellFormed
      distinct := List.nodup_append.mpr ⟨rewritten.distinct, List.nodup_singleton quote, ?_⟩
      keepsNodes := rewritten.keepsNodes.trans replaced.keepsNodes
      size := ?_
      each := ?_
      root := rewritten.root_replaced marked.stored fresh replaced
      others := ?_ }
  · intro id member other isQuote same
    rw [same, List.mem_singleton.mp isQuote] at member
    exact fresh member
  · rw [replaced.size, rewritten.size, List.length_append]
    rfl
  · intro index earlier found
    rcases Nat.lt_or_ge index quotes.length with within | beyond
    · -- The alerts that stand already go on to stand.
      rw [List.getElem?_append_left within] at found
      obtain ⟨first, rest, kind, isMarked, stands⟩ := rewritten.each found
      exact ⟨first, rest, kind, isMarked,
        rewritten.stands wf found isMarked stands marked fresh replaced⟩
    · rw [List.getElem?_append_right beyond, List.getElem?_singleton] at found
      split at found
      · next isLast =>
        have here : index = quotes.length :=
          Nat.le_antisymm (Nat.sub_eq_zero_iff_le.mp isLast) beyond
        have same : quote = earlier := Option.some.inj found
        subst same here
        exact ⟨paragraph, blocks, alert, marked, last⟩
      · cases found
  · intro node stored notRoot notQuotes notFirst
    have apart : node ∉ quotes ∧ node ≠ quote := by simpa using notQuotes
    have notParagraph : node ≠ paragraph := by
      intro same
      refine notFirst quote (by simp) ?_
      rw [wf.linked.first, marked.children, List.head?_cons, same]
    have old : node ≠ other.size :=
      Nat.ne_of_lt (Nat.lt_of_lt_of_le stored rewritten.keepsNodes.size)
    rw [replaced.children_of_ne notRoot old apart.2 notParagraph]
    exact rewritten.others stored notRoot apart.1 fun earlier member =>
      notFirst earlier (List.mem_append_left _ member)

end Rewritten

/-- Where the nodes of a rewritten document hang. -/
structure Rehung (doc : Document) (quotes : List NodeId) (other : Document) : Prop where
  /-- The alerts hang from the root, -/
  alert : ∀ {index}, index < quotes.length → other.parent (doc.size + index) = some Document.root
  /-- what goes to them from them, -/
  content : ∀ {index quote paragraph blocks alert}, quotes[index]? = some quote →
    Marked doc quote paragraph blocks alert →
      ∀ id ∈ moved doc paragraph blocks, other.parent id = some (doc.size + index)
  /-- and the quotes from nothing, -/
  quote : ∀ quote ∈ quotes, other.parent quote = none
  /-- nor do the marker lines. -/
  line : ∀ {quote paragraph blocks alert}, quote ∈ quotes →
    Marked doc quote paragraph blocks alert →
      ∀ id ∈ doc.children paragraph, id ∉ inlines doc paragraph → other.parent id = none
  /-- Every other node hangs where it did. -/
  others : ∀ {id}, id < doc.size → id ∉ quotes →
    (∀ quote ∈ quotes, ∀ paragraph blocks alert, Marked doc quote paragraph blocks alert →
      id ∉ moved doc paragraph blocks ∧
        (id ∈ doc.children paragraph → id ∈ inlines doc paragraph)) →
    other.parent id = doc.parent id

namespace Rewritten

/-- A marked quote that is replaced has its alert, as its marker and its rows say. -/
theorem stands_of_marked (rewritten : Rewritten doc quotes other) {index : Nat}
    (found : quotes[index]? = some quote) (marked : Marked doc quote paragraph blocks alert) :
    Stands doc other quote paragraph blocks alert (doc.size + index) := by
  obtain ⟨_, _, _, marked', stands⟩ := rewritten.each found
  obtain ⟨rfl, rfl, rfl⟩ := marked.unique marked'
  exact stands

variable (wf : doc.WellFormed) (rewritten : Rewritten doc quotes other)
include wf rewritten

/-- The row of an old node is that of the root, or that of a replaced quote, or that of the
paragraph such a quote starts with, or it is not touched. -/
theorem row_cases {node : NodeId} (old : node < doc.size) : node = Document.root ∨
    (∃ quote ∈ quotes, ∃ paragraph blocks alert, Marked doc quote paragraph blocks alert ∧
      (node = quote ∧ other.children node = kept doc paragraph blocks ∨
        node = paragraph ∧ other.children node = inlines doc paragraph)) ∨
    other.children node = doc.children node := by
  by_cases top : node = Document.root
  · exact Or.inl top
  by_cases replaced : node ∈ quotes
  · obtain ⟨index, found⟩ := List.mem_iff_getElem?.mp replaced
    obtain ⟨paragraph, blocks, alert, marked, stands⟩ := rewritten.each found
    exact Or.inr (Or.inl ⟨node, replaced, paragraph, blocks, alert, marked,
      Or.inl ⟨rfl, stands.quote⟩⟩)
  by_cases first : ∃ quote ∈ quotes, doc.firstChild quote = some node
  · -- The first child of a replaced quote is the paragraph of its marker.
    obtain ⟨quote, here, head⟩ := first
    obtain ⟨index, found⟩ := List.mem_iff_getElem?.mp here
    obtain ⟨paragraph, blocks, alert, marked, stands⟩ := rewritten.each found
    rw [wf.linked.first, marked.children] at head
    obtain rfl := Option.some.inj head
    exact Or.inr (Or.inl ⟨quote, here, paragraph, blocks, alert, marked,
      Or.inr ⟨rfl, stands.paragraph⟩⟩)
  · have notFirst : ∀ quote ∈ quotes, doc.firstChild quote ≠ some node := fun quote here head =>
      first ⟨quote, here, head⟩
    exact Or.inr (Or.inr (rewritten.others old top replaced notFirst))

/-- An old node is in the row where it was, or in that of the alert for its quote. -/
theorem mem_children {node id : NodeId} (stored : id < doc.size)
    (member : id ∈ other.children node) :
    id ∈ doc.children node ∨ ∃ index quote paragraph blocks alert,
      quotes[index]? = some quote ∧ Marked doc quote paragraph blocks alert ∧
        node = doc.size + index ∧ id ∈ moved doc paragraph blocks := by
  rcases Nat.lt_or_ge node doc.size with old | new
  · -- The rows of old nodes only lose nodes.
    left
    rcases rewritten.row_cases wf old with rfl | ⟨quote, _, paragraph, blocks, alert, marked,
      ⟨rfl, row⟩ | ⟨rfl, row⟩⟩ | row
    · exact ((rewritten.mem_children_root stored).mp member).1
    · exact (mem_moved_or_kept marked).mp (Or.inr (row ▸ member))
    · exact mem_of_mem_inlines (row ▸ member)
    · exact row ▸ member
  · -- A new node with children is one of the alerts.
    have within := rewritten.wellFormed.linked.owner_lt_size member
    obtain ⟨index, rfl⟩ := Nat.exists_eq_add_of_le new
    rw [rewritten.size, Nat.add_lt_add_iff_left] at within
    have found := List.getElem?_eq_getElem within
    obtain ⟨paragraph, blocks, alert, marked, stands⟩ := rewritten.each found
    exact Or.inr ⟨index, _, paragraph, blocks, alert, found, marked, rfl, stands.children ▸ member⟩

/-- The alerts hang from the root. -/
theorem parent_alert {index : Nat} (within : index < quotes.length) :
    other.parent (doc.size + index) = some Document.root := by
  have member := List.getElem_mem within
  obtain ⟨_, _, _, marked⟩ := rewritten.marked member
  rw [rewritten.wellFormed.linked.parent, rewritten.root, List.mem_map]
  refine ⟨quotes[index], wf.linked.parent.mp marked.parent, ?_⟩
  rw [if_pos member, rewritten.distinct.idxOf_getElem]

/-- The quotes hang from nothing. -/
theorem parent_quote (member : quote ∈ quotes) : other.parent quote = none := by
  have links := wf.linked
  obtain ⟨_, _, _, marked⟩ := rewritten.marked member
  have top := links.parent.mp marked.parent
  rw [rewritten.wellFormed.parent_eq_none_iff]
  intro node here
  rcases rewritten.mem_children wf marked.stored here with
    before | ⟨_, _, _, _, _, _, marked', _, content⟩
  · obtain rfl := links.same_row before top
    exact ((rewritten.mem_children_root marked.stored).mp here).2 member
  · -- A quote below the root is not below another quote.
    have before := (mem_moved_or_kept marked').mp (Or.inl content)
    exact marked'.ne_root wf (links.same_row before top)

/-- The marker lines hang from nothing. -/
theorem parent_line (member : quote ∈ quotes) (marked : Marked doc quote paragraph blocks alert)
    {id : NodeId} (inside : id ∈ doc.children paragraph) (dropped : id ∉ inlines doc paragraph) :
    other.parent id = none := by
  have links := wf.linked
  rw [rewritten.wellFormed.parent_eq_none_iff]
  intro node here
  rcases rewritten.mem_children wf (links.lt_size inside) here with
    before | ⟨_, _, _, _, _, _, marked', _, content⟩
  · obtain rfl := links.same_row before inside
    -- The paragraph has lost the line, and no other row held it.
    obtain ⟨index, found⟩ := List.mem_iff_getElem?.mp member
    exact dropped ((rewritten.stands_of_marked found marked).paragraph ▸ here)
  · -- A paragraph is no quote.
    have same := links.same_row ((mem_moved_or_kept marked').mp (Or.inl content)) inside
    have kind := marked.text
    rw [← same, marked'.kind] at kind
    cases kind

/-- A node that is no quote, does not go to an alert and is in no marker line hangs where it did. -/
theorem parent_others {id : NodeId} (stored : id < doc.size) (fresh : id ∉ quotes)
    (each : ∀ quote ∈ quotes, ∀ paragraph blocks alert, Marked doc quote paragraph blocks alert →
      id ∉ moved doc paragraph blocks ∧
        (id ∈ doc.children paragraph → id ∈ inlines doc paragraph)) :
    other.parent id = doc.parent id := by
  refine Option.ext fun node => ?_
  rw [rewritten.wellFormed.linked.parent, wf.linked.parent]
  -- A node that goes nowhere else is still in the row it was in.
  constructor
  · intro here
    rcases rewritten.mem_children wf stored here with
      before | ⟨_, quote, _, _, _, found, marked, _, content⟩
    · exact before
    · exact absurd content (each quote (List.mem_of_getElem? found) _ _ _ marked).1
  · intro before
    rcases rewritten.row_cases wf (wf.linked.owner_lt_size before) with rfl | ⟨quote, here, _, _, _,
      marked, ⟨rfl, row⟩ | ⟨rfl, row⟩⟩ | row
    · exact (rewritten.mem_children_root stored).mpr ⟨before, fresh⟩
    · rw [row]
      exact ((mem_moved_or_kept marked).mpr before).resolve_left (each _ here _ _ _ marked).1
    · rw [row]
      exact (each _ here _ _ _ marked).2 before
    · rwa [row]

/-- What is outside the replaced quotes hangs where it did. -/
theorem parent_outside {id : NodeId} (stored : id < doc.size)
    (outside : ∀ quote ∈ quotes, ¬ doc.isWithin quote id) : other.parent id = doc.parent id := by
  refine rewritten.parent_others wf stored (fun member => ?_) fun quote member _ _ _ marked => ?_
  · exact outside id member (wf.isWithin_self id)
  · have notInside := fun here => outside quote member (marked.isWithin wf here)
    exact ⟨fun content => notInside (Or.inl ((mem_moved_or_kept marked).mp (Or.inl content))),
      fun inline => absurd (Or.inr inline) notInside⟩

/-- What is outside the replaced quotes is within the same nodes as before. -/
theorem isWithin_outside {top id : NodeId} (stored : id < doc.size)
    (outside : ∀ quote ∈ quotes, ¬ doc.isWithin quote id) :
    other.isWithin top id ↔ doc.isWithin top id := by
  induction id using wf.parent_induction with
  | step id ih =>
    rw [rewritten.wellFormed.isWithin_iff, wf.isWithin_iff,
      rewritten.parent_outside wf stored outside]
    -- The line of parents stays outside all the way up.
    refine or_congr Iff.rfl (exists_congr fun parent => and_congr_right fun above => ?_)
    have member := (wf.mem_row _ _).mpr above
    exact ih parent above (wf.linked.owner_lt_size member) fun quote here within =>
      outside quote here (wf.isWithin_child member within)

/-- Old nodes are within no old node within which they were not before. -/
theorem isWithin_of_isWithin {top id : NodeId} (old : top < doc.size) (stored : id < doc.size)
    (within : other.isWithin top id) : doc.isWithin top id := by
  have wf' := rewritten.wellFormed
  induction id using wf'.parent_induction with
  | step id ih =>
    rcases wf'.isWithin_iff.mp within with same | ⟨node, above, within⟩
    · exact same ▸ wf.isWithin_self top
    have member := wf'.linked.parent.mp above
    rcases rewritten.mem_children wf stored member with before | ⟨index, quote, _, _, _, found,
      marked, new, content⟩
    · exact wf.isWithin_child before (ih node above (wf.linked.owner_lt_size before) within)
    · -- Above an alert there is only the root, within which the quote was as well.
      subst new
      have atRoot := rewritten.parent_alert wf (List.getElem?_eq_some_iff.mp found).1
      have isRoot : top = Document.root := by
        rcases wf'.isWithin_iff.mp within with same | ⟨node, above, within⟩
        · -- The alert itself is a new node.
          exact absurd same.symm (new_ne old index)
        · obtain rfl := Option.some.inj (atRoot.symm.trans above)
          rcases wf'.isWithin_iff.mp within with same | ⟨node, above, _⟩
          · exact same
          · rw [wf'.root_parent] at above
            cases above
      have inside := marked.isWithin wf (Or.inl ((mem_moved_or_kept marked).mp (Or.inl content)))
      exact wf.isWithin_trans (isRoot ▸ wf.isAttached_of_parent marked.parent) inside

/-- Every node of a rewritten document hangs where it should. -/
theorem rehung : Rehung doc quotes other where
  alert := rewritten.parent_alert wf
  content found marked id member := by
    rw [rewritten.wellFormed.linked.parent, (rewritten.stands_of_marked found marked).children]
    exact member
  quote _ := rewritten.parent_quote wf
  line member marked _ := rewritten.parent_line wf member marked
  others := rewritten.parent_others wf

end Rewritten

end MarkdownTree.Alert
