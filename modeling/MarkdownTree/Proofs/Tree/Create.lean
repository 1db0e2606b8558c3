import MarkdownTree.Proofs.Tree.Links

/-! New documents, new nodes and changed fields: what does not touch a link leaves every row. -/

namespace MarkdownTree.Document

/-- Two documents link the same ids in the same way. -/
structure SameLinks (doc other : Document) : Prop where
  parent : other.parent = doc.parent
  firstChild : other.firstChild = doc.firstChild
  lastChild : other.lastChild = doc.lastChild
  prev : other.prev = doc.prev
  next : other.next = doc.next

variable {doc other : Document}

/-- With the same links, a document is as well formed as another, and has the same rows. -/
theorem SameLinks.wellFormed (same : SameLinks doc other) (wf : doc.WellFormed)
    (stored : root < other.size) : other.WellFormed ∧ other.children = doc.children := by
  have links := wf.linked
  have linked : other.Linked doc.children :=
    { nodup := links.nodup
      parent := by rw [same.parent]; exact links.parent
      next := by rw [same.next]; exact links.next
      prev := by rw [same.prev]; exact links.prev
      first := by rw [same.firstChild]; exact links.first
      last := by rw [same.lastChild]; exact links.last }
  -- The rows that agreed with the links before still do.
  refine ⟨linked.wellFormed stored ?_ fun id => ⟨doc.lineage id, ?_⟩, linked.children_eq⟩
  · rw [same.parent]
    exact wf.root_parent
  · rw [same.parent]
    exact wf.lineage_follows id

/-- Where a node starts and what stands there is read off the source and the span of the node. -/
theorem source_congr {id : NodeId} (source : other.source = doc.source)
    (span : other.span id = doc.span id) :
    other.startPosition id = doc.startPosition id ∧ other.sourceSlice? id = doc.sourceSlice? id := by
  unfold startPosition sourceSlice?
  rw [source, span]
  exact ⟨rfl, rfl⟩

/-- A new document is well formed: its root is alone. -/
theorem wellFormed_ofSource (source : String) : (ofSource source).WellFormed := by
  have unlinked : ∀ id, (ofSource source).parent id = none ∧ (ofSource source).next id = none ∧
      (ofSource source).prev id = none ∧ (ofSource source).firstChild id = none ∧
      (ofSource source).lastChild id = none := by
    intro id
    cases id <;> exact ⟨rfl, rfl, rfl, rfl, rfl⟩
  -- Without links every row is empty, and every line ends where it starts.
  have linked : (ofSource source).Linked fun _ => [] :=
    { nodup := fun _ => List.nodup_nil
      parent := by simp [unlinked]
      next := by simp [unlinked, not_adjacent_nil]
      prev := by simp [unlinked, not_adjacent_nil]
      first := by simp [unlinked]
      last := by simp [unlinked] }
  refine linked.wellFormed Nat.zero_lt_one (unlinked root).1 fun id => ⟨[id], rfl, ?_⟩
  exact (unlinked id).1

/-- A new node reads as created, and every other node as before. -/
theorem node_create (doc : Document) (kind : Kind) (span : Span) (id : NodeId) :
    (doc.create kind span).1.node id = if id = doc.size then { kind, span } else doc.node id := by
  simp only [create, node, size, Array.getD_eq_getD_getElem?, Array.getElem?_push]
  split <;> rfl

/-- A new node makes the store longer by one. -/
@[simp] theorem size_create (doc : Document) (kind : Kind) (span : Span) :
    (doc.create kind span).1.size = doc.size + 1 := by
  simp [create, size]

/-- The kind of a new node is the one it was created with. -/
theorem kind_create (doc : Document) (kind : Kind) (span : Span) (id : NodeId) :
    (doc.create kind span).1.kind id = if id = doc.size then kind else doc.kind id := by
  simp only [Document.kind, node_create]
  split <;> rfl

/-- The span of a new node is the one it was created with. -/
theorem span_create (doc : Document) (kind : Kind) (span : Span) (id : NodeId) :
    (doc.create kind span).1.span id = if id = doc.size then span else doc.span id := by
  simp only [Document.span, node_create]
  split <;> rfl

/-- Creating a node links nothing. -/
theorem sameLinks_create (doc : Document) (kind : Kind) (span : Span) :
    SameLinks doc (doc.create kind span).1 := by
  have unlinked : doc.node doc.size = _ := node_of_not_stored (Nat.lt_irrefl doc.size)
  -- The new node has no links, just as before it was stored.
  constructor <;> funext id <;>
    simp only [Document.parent, Document.firstChild, Document.lastChild, Document.prev,
      Document.next, node_create] <;>
    split <;> simp_all

/-- Creating a node keeps a document well formed and every row as it was. -/
theorem WellFormed.create (wf : doc.WellFormed) (kind : Kind) (span : Span) :
    (doc.create kind span).1.WellFormed ∧ (doc.create kind span).1.children = doc.children :=
  (sameLinks_create doc kind span).wellFormed wf (by simp [root])

/-- A document stores all nodes of another as they are there, and perhaps more. -/
structure KeepsNodes (doc other : Document) : Prop where
  source : other.source = doc.source
  size : doc.size ≤ other.size
  kind : ∀ id < doc.size, other.kind id = doc.kind id
  span : ∀ id < doc.size, other.span id = doc.span id

/-- What keeps nodes that are kept keeps them. -/
theorem KeepsNodes.trans {middle : Document} (first : KeepsNodes doc middle)
    (second : KeepsNodes middle other) : KeepsNodes doc other where
  source := second.source.trans first.source
  size := Nat.le_trans first.size second.size
  kind id stored := (second.kind id (Nat.lt_of_lt_of_le stored first.size)).trans
    (first.kind id stored)
  span id stored := (second.span id (Nat.lt_of_lt_of_le stored first.size)).trans
    (first.span id stored)

/-- The same nodes are kept. -/
theorem SameNodes.keepsNodes (same : SameNodes doc other) : KeepsNodes doc other where
  source := same.source
  size := Nat.le_of_eq same.size.symm
  kind _ _ := congrFun same.kind _
  span _ _ := congrFun same.span _

/-- A new node is one more. -/
theorem keepsNodes_create (doc : Document) (kind : Kind) (span : Span) :
    KeepsNodes doc (doc.create kind span).1 where
  source := rfl
  size := by simp
  kind id stored := (kind_create doc kind span id).trans (if_neg (Nat.ne_of_lt stored))
  span id stored := (span_create doc kind span id).trans (if_neg (Nat.ne_of_lt stored))

/-- A change that keeps the links of a node links nothing. -/
theorem sameLinks_update {id : NodeId} {change : Node → Node}
    (keeps : ∀ node, (change node).parent = node.parent ∧
      (change node).firstChild = node.firstChild ∧ (change node).lastChild = node.lastChild ∧
      (change node).prev = node.prev ∧ (change node).next = node.next) :
    SameLinks doc (doc.update id change) := by
  have kept := keeps (doc.node id)
  constructor <;> funext other <;>
    simp only [Document.parent, Document.firstChild, Document.lastChild, Document.prev,
      Document.next, node_update] <;>
    split <;> simp_all

/-- Links that are those of a third document are the same. -/
theorem SameLinks.trans {middle : Document} (first : SameLinks doc middle)
    (second : SameLinks middle other) : SameLinks doc other where
  parent := second.parent.trans first.parent
  firstChild := second.firstChild.trans first.firstChild
  lastChild := second.lastChild.trans first.lastChild
  prev := second.prev.trans first.prev
  next := second.next.trans first.next

/-- Giving a node another kind links nothing. -/
theorem sameLinks_setKind (doc : Document) (id : NodeId) (kind : Kind) :
    SameLinks doc (doc.setKind id kind) :=
  sameLinks_update fun _ => ⟨rfl, rfl, rfl, rfl, rfl⟩

/-- Moving the end of a node's span links nothing. -/
theorem sameLinks_setStop (doc : Document) (id : NodeId) (stop : Nat) :
    SameLinks doc (doc.setStop id stop) :=
  sameLinks_update fun _ => ⟨rfl, rfl, rfl, rfl, rfl⟩

/-- Giving a stored node another kind shows at that node alone. -/
theorem kind_setKind {id : NodeId} (stored : id < doc.size) (kind : Kind) (other : NodeId) :
    (doc.setKind id kind).kind other = if other = id then kind else doc.kind other := by
  simp only [Document.kind, Document.setKind, node_update, stored, and_true]
  split <;> rfl

/-- Moving the end of a span leaves every kind. -/
@[simp] theorem kind_setStop (doc : Document) (id : NodeId) (stop : Nat) :
    (doc.setStop id stop).kind = doc.kind := by
  funext other
  simp only [Document.kind, Document.setStop, node_update]
  split
  · next here => rw [here.1]
  · rfl

/-- Giving a node another kind leaves every span. -/
@[simp] theorem span_setKind (doc : Document) (id : NodeId) (kind : Kind) :
    (doc.setKind id kind).span = doc.span := by
  funext other
  simp only [Document.span, Document.setKind, node_update]
  split
  · next here => rw [here.1]
  · rfl

/-- Moving the end of a stored node's span shows at that node alone. -/
theorem span_setStop {id : NodeId} (stored : id < doc.size) (stop : Nat) (other : NodeId) :
    (doc.setStop id stop).span other =
      if other = id then { doc.span id with stop } else doc.span other := by
  simp only [Document.span, Document.setStop, node_update, stored, and_true]
  split <;> rfl

/-- Giving a node another kind keeps a document well formed and every row as it was. -/
theorem WellFormed.setKind (wf : doc.WellFormed) (id : NodeId) (kind : Kind) :
    (doc.setKind id kind).WellFormed ∧ (doc.setKind id kind).children = doc.children := by
  refine (sameLinks_setKind doc id kind).wellFormed wf ?_
  rw [Document.setKind, size_update]
  exact wf.root_stored

end MarkdownTree.Document
