import MarkdownTree.Proofs.Tree.Added

/-! Contents: what stands below a node as a sequence of characters and of nodes that are no texts,
so that it does not show how its characters are shared out among texts. -/

namespace MarkdownTree

/-- A piece of what stands below a node: a character of a text, or a node that is no text. -/
inductive Part where
  | char (c : Char)
  | node (id : NodeId)
  deriving DecidableEq, Repr

namespace Part

/-- The same piece with other names for the nodes. -/
def rename (place : NodeId → NodeId) : Part → Part
  | char c => char c
  | node id => node (place id)

/-- What a piece comes to, given what characters and nodes come to. -/
def value {α : Type} (ofChar : Char → α) (ofNode : NodeId → α) : Part → α
  | char c => ofChar c
  | node id => ofNode id

end Part

namespace Kind

/-- The pieces that a node of this kind is in the row that it stands in. -/
def parts (kind : Kind) (id : NodeId) : List Part :=
  match kind with
  | .text literal => literal.toList.map .char
  | _ => [.node id]

/-- A node that is no text is one piece. -/
theorem parts_of_ne_text {kind : Kind} (other : kind.tag ≠ .text) (id : NodeId) :
    kind.parts id = [.node id] := by
  cases kind with
  | text => exact absurd rfl other
  | _ => rfl

end Kind

namespace Document

/-- What stands below a node, piece by piece. -/
def content (doc : Document) (id : NodeId) : List Part :=
  (doc.children id).flatMap fun child => (doc.kind child).parts child

/-- A stored node that is no text. -/
structure Inner (doc : Document) (id : NodeId) : Prop where
  stored : id < doc.size
  other : (doc.kind id).tag ≠ .text

/-- Nothing stands below a text. -/
def TextsEmpty (doc : Document) : Prop :=
  ∀ id, (doc.kind id).tag = .text → doc.content id = []

variable {doc other : Document} {id : NodeId}

/-- Every node that stands below another one is a child of it, and no text. -/
theorem WellFormed.inner_of_mem_content (wf : doc.WellFormed) {child : NodeId}
    (member : Part.node child ∈ doc.content id) : child ∈ doc.children id ∧ doc.Inner child := by
  obtain ⟨child', here, piece⟩ := List.mem_flatMap.mp member
  cases kind : doc.kind child' with
  | text literal => simp [kind, Kind.parts] at piece
  | _ =>
    -- All else is a piece of its own.
    obtain rfl : child = child' := by simpa [kind, Kind.parts] using piece
    exact ⟨here, wf.linked.lt_size here, by simp [kind, Kind.tag]⟩

/-- Contents are renamed alike by what agrees on the stored nodes. -/
theorem WellFormed.rename_content (wf : doc.WellFormed) {place place' : NodeId → NodeId}
    (same : ∀ id < doc.size, place' id = place id) (id : NodeId) :
    (doc.content id).map (Part.rename place') = (doc.content id).map (Part.rename place) := by
  refine List.map_congr_left fun part member => ?_
  cases part with
  | char => rfl
  | node child => exact congrArg Part.node (same child (wf.inner_of_mem_content member).2.stored)

/-- Contents are read off the rows and off what each child is in its row. -/
theorem content_congr (rows : other.children id = doc.children id)
    (parts : ∀ child ∈ doc.children id,
      (other.kind child).parts child = (doc.kind child).parts child) :
    other.content id = doc.content id := by
  unfold content
  rw [rows]
  exact List.flatMap_congr parts

/-- What the children of a node come to together is what its pieces come to, if a text comes to what
its characters do. -/
theorem join_content {ofChar : Char → String} {ofNode : NodeId → String}
    (texts : ∀ child ∈ doc.children id, ∀ literal, doc.kind child = .text literal →
      ofNode child = String.join (literal.toList.map ofChar)) :
    String.join ((doc.children id).map ofNode) =
      String.join ((doc.content id).map (Part.value ofChar ofNode)) := by
  unfold content
  generalize doc.children id = row at texts
  induction row with
  | nil => rfl
  | cons child rest ih =>
    rw [List.forall_mem_cons] at texts
    rw [List.map_cons, String.join_cons, ih texts.2, List.flatMap_cons, List.map_append,
      String.join_append]
    refine congrArg (· ++ _) ?_
    -- A text comes to its characters, and any other child to the one piece that it is.
    cases kind : doc.kind child with
    | text literal =>
      rw [texts.1 literal kind, Kind.parts, List.map_map]
      rfl
    | _ => simp [Kind.parts, Part.value]

/-- The plain text of a subtree is that of its top and then those of the subtrees below. -/
theorem WellFormed.plainText_eq (wf : doc.WellFormed) (id : NodeId) : doc.plainText id =
    (doc.kind id).plainText ++ String.join ((doc.children id).map doc.plainText) := by
  have below : ∀ row : List NodeId,
      String.join ((row.flatMap doc.descendants).map fun node => (doc.kind node).plainText) =
        String.join (row.map doc.plainText) := by
    intro row
    induction row with
    | nil => rfl
    | cons child rest ih =>
      rw [List.flatMap_cons, List.map_append, String.join_append, ih, List.map_cons,
        String.join_cons]
      rfl
  rw [plainText, wf.descendants_eq, List.map_cons, String.join_cons, below]

/-- A literal is made of its characters. -/
theorem join_singletons (literal : String) :
    String.join (literal.toList.map String.singleton) = literal := by
  refine String.toList_inj.mp ?_
  simp [String.toList_join, List.flatMap_map]

/-- While nothing stands below texts, the plain text of a subtree can be read off contents. -/
theorem WellFormed.plainText_content (wf : doc.WellFormed) (empty : doc.TextsEmpty) (id : NodeId) :
    doc.plainText id = (doc.kind id).plainText ++
      String.join ((doc.content id).map (Part.value String.singleton doc.plainText)) := by
  induction id using wf.child_induction with
  | step id ih =>
    rw [wf.plainText_eq, join_content fun child member literal kind => ?_]
    -- Below a text nothing comes after its literal.
    rw [ih child member, empty child (by rw [kind]; rfl), kind, join_singletons, List.map_nil,
      String.join_nil, String.append_empty]
    rfl

/-- Between two documents a sequence of pieces is added to what stands below one node, and all else
stays, while texts are still texts. -/
structure Gains (doc other : Document) (parent : NodeId) (parts : List Part) : Prop where
  size : doc.size ≤ other.size
  tag : ∀ id < doc.size, (other.kind id).tag = (doc.kind id).tag
  kind : ∀ id, doc.Inner id → other.kind id = doc.kind id
  content : ∀ id, other.content id = if id = parent then doc.content id ++ parts else doc.content id

namespace Gains

variable {parent : NodeId} {parts : List Part} (gains : Gains doc other parent parts)
include gains

/-- What is no text stays so. -/
theorem inner (inner : doc.Inner id) : other.Inner id :=
  ⟨Nat.lt_of_lt_of_le inner.stored gains.size, gains.tag id inner.stored ▸ inner.other⟩

/-- Nothing stands below texts, unless it is added there. -/
theorem textsEmpty (wf : doc.WellFormed) (empty : doc.TextsEmpty) (inner : doc.Inner parent) :
    other.TextsEmpty := by
  intro id isText
  have elsewhere : id ≠ parent := fun same => (gains.inner inner).other (same ▸ isText)
  rw [gains.content, if_neg elsewhere]
  rcases Nat.lt_or_ge id doc.size with stored | fresh
  · exact empty id (gains.tag id stored ▸ isText)
  · -- Nothing is below a node that was not there.
    rw [Document.content, wf.children_of_not_stored (Nat.not_lt.mpr fresh)]
    rfl

end Gains

/-- A new node adds the pieces that it is. -/
theorem Added.gains {parent : NodeId} {kind : Kind} {span : Span} (wf : doc.WellFormed)
    (added : Added doc other parent kind span) :
    Gains doc other parent (kind.parts doc.size) where
  size := added.keepsNodes.size
  tag id stored := congrArg Kind.tag (added.keepsNodes.kind id stored)
  kind id inner := added.keepsNodes.kind id inner.stored
  content id := by
    -- The children that were there are in their rows what they were.
    have before : (doc.children id).flatMap (fun child => (other.kind child).parts child) =
        doc.content id :=
      List.flatMap_congr fun child member => by
        rw [added.keepsNodes.kind child (wf.linked.lt_size member)]
    rw [content, added.children]
    split
    · rw [List.flatMap_append, before, List.flatMap_singleton, added.kind, if_pos rfl]
    · exact before

/-- A last child that is a text adds characters by getting longer. -/
theorem WellFormed.gains_longer (wf : doc.WellFormed) {parent last : NodeId} {sofar : String}
    (row : doc.lastChild parent = some last) (isText : doc.kind last = .text sofar)
    (literal : String) (stop : Nat) :
    Gains doc ((doc.setKind last (.text (sofar ++ literal))).setStop last stop) parent
      (literal.toList.map .char) := by
  have stored : last < doc.size := wf.linked.lastChild_lt_size row
  obtain ⟨front, split⟩ := List.getLast?_eq_some_iff.mp ((wf.linked.last parent).symm.trans row)
  have member : last ∈ doc.children parent := by simp [split]
  have kinds : ∀ id, ((doc.setKind last (.text (sofar ++ literal))).setStop last stop).kind id =
      if id = last then .text (sofar ++ literal) else doc.kind id := by
    intro id
    rw [kind_setStop, kind_setKind stored]
  have size : ((doc.setKind last (.text (sofar ++ literal))).setStop last stop).size = doc.size :=
    (size_update _ _ _).trans (size_update _ _ _)
  have rows := ((sameLinks_setKind doc last (.text (sofar ++ literal))).trans
    (sameLinks_setStop _ last stop)).wellFormed wf (by simpa [size] using wf.root_stored)
  refine ⟨Nat.le_of_eq size.symm, fun id _ => ?_, fun id inner => ?_, fun id => ?_⟩
  · rw [kinds]
    split
    · next same => rw [same, isText]; rfl
    · rfl
  · rw [kinds, if_neg fun same => inner.other (by rw [same, isText]; rfl)]
  · split
    · next same =>
      -- In its row the text is the last one, and nowhere else.
      subst same
      have distinct := split ▸ wf.row_nodup id
      have others : ∀ child ∈ front, child ≠ last := fun child here same =>
        (List.nodup_append.mp distinct).2.2 child here last (by simp) same
      rw [content, content, rows.2, split, List.flatMap_append, List.flatMap_append,
        List.flatMap_singleton, List.flatMap_singleton, kinds, if_pos rfl, isText,
        List.append_assoc]
      refine congrArg₂ (· ++ ·) (List.flatMap_congr fun child here => ?_) ?_
      · rw [kinds, if_neg (others child here)]
      · simp [Kind.parts]
    · next elsewhere =>
      refine content_congr (congrFun rows.2 id) fun child here => ?_
      rw [kinds, if_neg]
      intro same
      exact elsewhere (wf.linked.same_row (same ▸ here) member)

/-- After the nodes that there are, only the new one can be no text. -/
theorem Added.inner_cases {parent : NodeId} {kind : Kind} {span : Span}
    (added : Added doc other parent kind span) (inner : other.Inner id) :
    doc.Inner id ∨ id = doc.size := by
  have bound := inner.stored
  rw [added.size] at bound
  rcases Nat.lt_or_eq_of_le (Nat.le_of_lt_succ bound) with stored | same
  · exact Or.inl ⟨stored, added.keepsNodes.kind id stored ▸ inner.other⟩
  · exact Or.inr same

section setKind

variable {place : NodeId} {kind : Kind} (inner : doc.Inner place) (noText : kind.tag ≠ .text)
include inner noText

/-- With other fields for a node that is and stays no text, texts are where they were. -/
theorem tag_setKind_iff : ((doc.setKind place kind).kind id).tag = .text ↔
    (doc.kind id).tag = .text := by
  rw [kind_setKind inner.stored]
  split
  · next same => exact iff_of_false noText (same ▸ inner.other)
  · rfl

/-- With other fields for a node that is and stays no text, others are none where they were none. -/
theorem inner_setKind_iff : (doc.setKind place kind).Inner id ↔ doc.Inner id := by
  have size : (doc.setKind place kind).size = doc.size := size_update _ _ _
  have tag := @tag_setKind_iff doc id _ _ inner noText
  exact ⟨fun changed => ⟨size ▸ changed.stored, mt tag.mpr changed.other⟩,
    fun before => ⟨size.symm ▸ before.stored, mt tag.mp before.other⟩⟩

/-- Other fields for a node that is and stays no text change no contents. -/
theorem WellFormed.content_setKind (wf : doc.WellFormed) (id : NodeId) :
    (doc.setKind place kind).content id = doc.content id := by
  refine content_congr (congrFun (wf.setKind place kind).2 id) fun child _ => ?_
  rw [kind_setKind inner.stored]
  split
  · next same => rw [same, Kind.parts_of_ne_text noText, Kind.parts_of_ne_text inner.other]
  · rfl

/-- Other fields for a node that is and stays no text put nothing below texts. -/
theorem TextsEmpty.setKind (empty : doc.TextsEmpty) (wf : doc.WellFormed) :
    (doc.setKind place kind).TextsEmpty := by
  intro id isText
  rw [wf.content_setKind inner noText]
  exact empty id ((tag_setKind_iff inner noText).mp isText)

end setKind

end Document

end MarkdownTree
