import MarkdownTree.Proofs.Build.Told

/-! Texts in pieces: however a text is cut into touching pieces, the same is built of it, so that no
text node is left beside another one that it touches. -/

namespace MarkdownTree

namespace Document

variable {doc : Document} {id : NodeId}

/-- Changes of one node one after the other are one change. -/
theorem update_update (doc : Document) (id : NodeId) (change more : Node → Node) :
    (doc.update id change).update id more = doc.update id fun node => more (change node) := by
  refine Document.ext rfl (Array.ext (by simp [update]) fun other _ _ => ?_)
  simp only [update, Array.getElem_modify]
  split <;> rfl

/-- Of two kinds given one after the other the second one stays. -/
theorem setKind_setKind (doc : Document) (id : NodeId) (kind later : Kind) :
    (doc.setKind id kind).setKind id later = doc.setKind id later :=
  doc.update_update id _ _

/-- Of two kinds and ends given one after the other the second ones stay. -/
theorem setText_setText (doc : Document) (id : NodeId) (kind later : Kind) (middle stop : Nat) :
    (((doc.setKind id kind).setStop id middle).setKind id later).setStop id stop =
      (doc.setKind id later).setStop id stop := by
  simp only [setKind, setStop, update_update]

/-- Two texts one after the other, of which the second starts where the first ends. -/
structure Meet (doc : Document) (left right : NodeId) : Prop where
  next : doc.next left = some right
  first : (doc.kind left).tag = .text
  second : (doc.kind right).tag = .text
  touch : (doc.span left).stop = (doc.span right).start

/-- No text directly follows a text that it touches. -/
def Separate (doc : Document) : Prop :=
  ∀ left right, ¬ doc.Meet left right

/-- Nothing follows a last child. -/
theorem WellFormed.next_lastChild (wf : doc.WellFormed) {last : NodeId}
    (row : doc.lastChild id = some last) : doc.next last = none := by
  refine Option.eq_none_iff_forall_ne_some.mpr fun right link => ?_
  obtain ⟨owner, pair⟩ := wf.linked.next.mp link
  -- The one after it would stand in the same row.
  have member := List.mem_of_getLast? ((wf.linked.last id).symm.trans row)
  obtain rfl := wf.linked.same_row pair.left_mem member
  exact pair.ne_last (wf.row_nodup owner) ((wf.linked.last owner).symm.trans row)

/-- After the nodes that there are, a new node follows the last child of its parent. -/
theorem Added.next_cases {other : Document} {parent : NodeId} {kind : Kind} {span : Span}
    (added : Added doc other parent kind span) (wf : doc.WellFormed) {left right : NodeId}
    (link : other.next left = some right) :
    doc.next left = some right ∨ doc.lastChild parent = some left ∧ right = doc.size := by
  obtain ⟨owner, pair⟩ := added.wellFormed.linked.next.mp link
  rw [added.children] at pair
  split at pair
  · next same =>
    subst same
    rcases adjacent_concat.mp pair with before | ⟨last, isNew⟩
    · exact Or.inl (wf.linked.next.mpr ⟨owner, before⟩)
    · exact Or.inr ⟨(wf.linked.last owner).trans last, isNew⟩
  · exact Or.inl (wf.linked.next.mpr ⟨owner, pair⟩)

/-- Texts stay separate while links and tags stay, and while an end moves only where nothing
follows. -/
theorem Separate.congr {other : Document} (separate : doc.Separate) (links : SameLinks doc other)
    (tags : ∀ id, (other.kind id).tag = (doc.kind id).tag)
    (starts : ∀ id, (other.span id).start = (doc.span id).start)
    (stops : ∀ id, doc.next id ≠ none → (other.span id).stop = (doc.span id).stop) :
    other.Separate := by
  intro left right met
  have link := met.next
  rw [links.next] at link
  have stop := stops left (by simp [link])
  exact separate left right
    ⟨link, (tags left).symm.trans met.first, (tags right).symm.trans met.second,
      stop.symm.trans (met.touch.trans (starts right))⟩

/-- Texts stay separate while a node gets other fields under its tag. -/
theorem Separate.setKind (separate : doc.Separate) (stored : id < doc.size) {kind : Kind}
    (tag : kind.tag = (doc.kind id).tag) : (doc.setKind id kind).Separate := by
  refine separate.congr (sameLinks_setKind _ _ _) (fun other => ?_) (by simp) (by simp)
  rw [kind_setKind stored]
  split
  · next same => rw [same, tag]
  · rfl

/-- Texts stay separate while one with nothing after it gets another end. -/
theorem Separate.setStop (separate : doc.Separate) (stored : id < doc.size)
    (alone : doc.next id = none) (stop : Nat) : (doc.setStop id stop).Separate := by
  refine separate.congr (sameLinks_setStop _ _ _) (by simp) (fun other => ?_)
    fun other follows => ?_
  · rw [span_setStop stored]
    split
    · next same => rw [same]
    · rfl
  · have different : other ≠ id := fun same => follows (same ▸ alone)
    rw [span_setStop stored, if_neg different]

end Document

namespace Builder

variable {builder : Builder}

namespace WellFormed

variable (wf : builder.WellFormed)
include wf

/-- A text and one that goes on where it ends come to the same as both in one. -/
theorem push_pieces (first rest : String) (start middle stop : Nat) :
    (builder.push ⟨.text first, ⟨start, middle⟩⟩).push ⟨.text rest, ⟨middle, stop⟩⟩ =
      builder.push ⟨.text (first ++ rest), ⟨start, stop⟩⟩ := by
  rcases builder.text_cases (first ++ rest) ⟨start, stop⟩ with ⟨info, sofar, block, _⟩ |
    ⟨last, sofar, noCode, continues, _⟩ | ⟨noCode, apart, _⟩
  · -- A code block takes in one piece after the other.
    let longer : Builder := { builder with
      doc := builder.doc.setKind builder.parent (.codeBlock info (sofar ++ first)) }
    have block' : longer.InCode info (sofar ++ first) :=
      (Document.kind_setKind wf.parent_stored _ _).trans (if_pos rfl)
    rw [push_text_of_inCode block, push_text_of_inCode block', push_text_of_inCode block,
      ← String.append_assoc]
    exact congrArg (fun doc => Builder.mk doc builder.spine) (Document.setKind_setKind _ _ _ _)
  · -- The text that the first piece continues is continued by the second one.
    have stored := wf.lastChild_stored continues.row
    have other := (wf.doc.ne_of_mem (wf.doc.mem_of_lastChild continues.row)).2
    have links := (Document.sameLinks_setKind builder.doc last (.text (sofar ++ first))).trans
      (Document.sameLinks_setStop _ last middle)
    let longer : Builder := { builder with
      doc := (builder.doc.setKind last (.text (sofar ++ first))).setStop last middle }
    have kinds : ∀ id, longer.doc.kind id =
        if id = last then .text (sofar ++ first) else builder.doc.kind id := by
      intro id
      rw [Document.kind_setStop, Document.kind_setKind stored]
    have noCode' : ∀ info sofar, ¬ longer.InCode info sofar := by
      intro info code block
      have kind : longer.doc.kind builder.parent = .codeBlock info code := block
      rw [kinds, if_neg (Ne.symm other)] at kind
      exact noCode info code kind
    have continues' : longer.Continues middle last (sofar ++ first) := by
      refine ⟨(congrFun links.lastChild _).trans continues.row, (kinds last).trans (if_pos rfl), ?_⟩
      rw [Document.span_setStop (by simpa [Document.setKind] using stored), if_pos rfl]
    rw [push_text_of_continues noCode continues, push_text_of_continues noCode' continues',
      push_text_of_continues noCode continues, ← String.append_assoc]
    exact congrArg (fun doc => Builder.mk doc builder.spine) (Document.setText_setText _ _ _ _ _ _)
  · -- The first piece makes a leaf, and the second one makes it longer.
    rw [@push_text_apart builder noCode ⟨start, middle⟩ apart, wf.push_text_addLeaf noCode,
      @push_text_apart builder noCode ⟨start, stop⟩ apart]

/-- A new leaf is separate from the texts that there are if it continues none of them. -/
theorem separate_addLeaf (separate : builder.doc.Separate) {kind : Kind} {span : Span}
    (apart : ∀ last sofar, kind.tag = .text → ¬ builder.Continues span.start last sofar) :
    (builder.addLeaf kind span).doc.Separate := by
  have added := wf.added kind span
  intro left right met
  rcases added.next_cases wf.doc met.next with before | ⟨last, rfl⟩
  · -- Two nodes that were there are what they were.
    have stored := wf.doc.linked.next_lt_size before
    have stored' : left < builder.doc.size := by
      obtain ⟨owner, pair⟩ := wf.doc.linked.next.mp before
      exact wf.doc.linked.lt_size pair.left_mem
    have kinds := added.keepsNodes.kind
    have spans := added.keepsNodes.span
    refine separate left right ⟨before, ?_, ?_, ?_⟩
    · rw [← kinds left stored', met.first]
    · rw [← kinds right stored, met.second]
    · rw [← spans left stored', ← spans right stored, met.touch]
  · -- The new node would continue the last child.
    have stored := wf.lastChild_stored last
    have isText := met.first
    have isNew := met.second
    have touch := met.touch
    rw [added.keepsNodes.kind left stored] at isText
    rw [added.kind, if_pos rfl] at isNew
    rw [added.keepsNodes.span left stored, added.span, if_pos rfl] at touch
    cases found : builder.doc.kind left with
    | text sofar => exact apart left sofar isNew ⟨last, found, touch⟩
    | _ => simp [found, Kind.tag] at isText

/-- No event puts a text after one that it touches. -/
theorem separate_push (separate : builder.doc.Separate) (spanned : SpannedEvent) :
    (builder.push spanned).doc.Separate := by
  obtain ⟨event, span⟩ := spanned
  -- A block with a literal of its own keeps its tag, whatever it takes in.
  have collects : ∀ kind : Kind, kind.tag = (builder.doc.kind builder.parent).tag →
      (builder.doc.setKind builder.parent kind).Separate :=
    fun _ => separate.setKind wf.parent_stored
  cases event with
  | start container =>
    cases models : container.kind? with
    | none =>
      rw [push_start_none models]
      exact separate
    | some kind =>
      rw [push_start models]
      exact wf.separate_addLeaf separate fun _ _ isText =>
        absurd isText (tag_ne_text_of_models models)
  | text literal =>
    rcases builder.text_cases literal span with ⟨info, sofar, block, made⟩ |
      ⟨last, sofar, _, continues, made⟩ | ⟨_, apart, made⟩
    · rw [show builder.push ⟨.text literal, span⟩ = _ from made]
      have kind : builder.doc.kind builder.parent = .codeBlock info sofar := block
      exact collects _ (by rw [kind]; rfl)
    · -- The text that gets longer is the last one of its row.
      rw [show builder.push ⟨.text literal, span⟩ = _ from made]
      have stored := wf.lastChild_stored continues.row
      have longer : (builder.doc.setKind last (.text (sofar ++ literal))).Separate :=
        separate.setKind stored (by rw [continues.kind]; rfl)
      refine longer.setStop (by simpa [Document.setKind] using stored) ?_ span.stop
      rw [(Document.sameLinks_setKind _ _ _).next]
      exact wf.doc.next_lastChild continues.row
    · rw [show builder.push ⟨.text literal, span⟩ = _ from made]
      exact wf.separate_addLeaf separate fun last sofar _ => apart last sofar
  | html literal =>
    rcases builder.html_cases literal span with ⟨sofar, block, made⟩ | ⟨_, made⟩ <;>
      rw [show builder.push ⟨.html literal, span⟩ = _ from made]
    · have kind : builder.doc.kind builder.parent = .htmlBlock sofar := block
      exact collects _ (by rw [kind]; rfl)
    · exact wf.separate_addLeaf separate fun _ _ isText => by cases isText
  | code | softBreak | hardBreak | rule =>
    exact wf.separate_addLeaf separate fun _ _ isText => by cases isText
  | stop => exact separate
  | unmodelled => exact separate

/-- No events leave a text after one that it touches. -/
theorem separate_push_all (separate : builder.doc.Separate) (events : List SpannedEvent) :
    (events.foldl Builder.push builder).doc.Separate := by
  induction events generalizing builder with
  | nil => exact separate
  | cons spanned rest ih => exact ih (wf.push spanned) (wf.separate_push separate spanned)

end WellFormed

end Builder

/--
How a text is cut into pieces does not matter: told at once or as two texts with touching ranges,
wherever the cut is and whatever is told before and after, the document is the same.

No text that is built directly follows a sibling text that ends where it starts.
-/
theorem text_pieces_joined (source : String) :
    (∀ (before after : List SpannedEvent) (first rest : String) (start middle stop : Nat),
      Document.ofEvents source (before ++
          [⟨.text first, ⟨start, middle⟩⟩, ⟨.text rest, ⟨middle, stop⟩⟩] ++ after) =
        Document.ofEvents source (before ++ [⟨.text (first ++ rest), ⟨start, stop⟩⟩] ++ after)) ∧
    ∀ (events : List SpannedEvent) (left right : NodeId) (first second : String),
      let doc := Document.ofEvents source events
      ¬ (doc.next left = some right ∧ doc.kind left = .text first ∧
        doc.kind right = .text second ∧ (doc.span left).stop = (doc.span right).start) := by
  have start := Builder.wellFormed_ofSource source
  constructor
  · intro before after first rest begins middle stop
    unfold Document.ofEvents
    simp only [List.foldl_append, List.foldl_cons, List.foldl_nil]
    rw [(start.push_all before).push_pieces]
  · intro events left right first second doc met
    obtain ⟨link, isText, isText', touch⟩ := met
    -- At first there is no node beside another.
    have alone : (Builder.ofSource source).doc.Separate := by
      intro left right met
      have link := met.next
      cases left <;> cases link
    exact start.separate_push_all alone events left right
      ⟨link, congrArg Kind.tag isText, congrArg Kind.tag isText', touch⟩

end MarkdownTree
