import MarkdownTree.Proofs.Processing.AlertOrder
import MarkdownTree.Proofs.Processing.Commute
import MarkdownTree.Proofs.Processing.Reachable

/-! Marker lines: what a marked quote loses of its first paragraph when an alert takes its place. -/

namespace MarkdownTree.Alert

variable {doc other : Document} {quote paragraph : NodeId} {blocks : List NodeId}
  {alert : AlertKind} {row rest : List NodeId} {id : NodeId}

/-- What stands after a line break is part of its row. -/
theorem mem_of_mem_afterBreak (member : id ∈ afterBreak doc row) : id ∈ row :=
  ((List.tail_sublist _).trans (List.dropWhile_sublist _)).subset member

/-- What stands after the first line break of the front of a row does so in the whole row. -/
theorem mem_afterBreak_append (member : id ∈ afterBreak doc row) :
    id ∈ afterBreak doc (row ++ rest) := by
  -- The induction goes along the front to its first line break, after which all is kept.
  induction row with
  | nil => cases member
  | cons first row ih =>
    simp only [afterBreak, List.cons_append, List.dropWhile_cons] at ih member ⊢
    split at member
    · next text => rw [if_pos text]; exact ih member
    · next isBreak => rw [if_neg isBreak]; exact List.mem_append_left _ member

/-- What stands after the first line break of a row does so in the front of it, or is in the rest.
-/
theorem mem_afterBreak_or (member : id ∈ afterBreak doc (row ++ rest)) :
    id ∈ afterBreak doc row ∨ id ∈ rest := by
  induction row with
  -- Without a line break in the front, the first one is in the rest.
  | nil => exact Or.inr (mem_of_mem_afterBreak member)
  | cons first row ih =>
    simp only [afterBreak, List.cons_append, List.dropWhile_cons] at ih member ⊢
    split at member
    · next text => rw [if_pos text]; exact ih member
    · next isBreak => rw [if_neg isBreak]; exact List.mem_append.mp member

/-- The children of the paragraph that do not go to the alert: the marker line, or all of them when
the paragraph stays with the quote. -/
def dropped (doc : Document) (paragraph : NodeId) : List NodeId :=
  if hasContent doc (doc.children paragraph).tail then markerLine doc (doc.children paragraph)
  else doc.children paragraph

/-- The children of the paragraph that go to the alert with it. -/
def saved (doc : Document) (paragraph : NodeId) : List NodeId :=
  if hasContent doc (doc.children paragraph).tail then afterBreak doc (doc.children paragraph)
  else []

/-- The children of the paragraph are those that are dropped, then those that are saved. -/
theorem dropped_append_saved (doc : Document) (paragraph : NodeId) :
    dropped doc paragraph ++ saved doc paragraph = doc.children paragraph := by
  unfold dropped saved
  split
  · exact markerLine_append_afterBreak doc _
  · exact List.append_nil _

section replaced

variable (wf : doc.WellFormed) (marked : Marked doc quote paragraph blocks alert)
  (replaced : Replaced doc other quote paragraph blocks alert)
include wf marked replaced

/-- What is saved hangs from the root with the alert. -/
theorem isAttached_saved (member : id ∈ saved doc paragraph) : other.isAttached id := by
  have wf' := replaced.wellFormed
  unfold saved at member
  split at member
  · next content =>
    -- The line of parents leads over the paragraph and the alert to the root.
    have alertIn : doc.size ∈ other.children Document.root := by
      rw [replaced.children_root]
      exact List.mem_map.mpr ⟨quote, wf.linked.parent.mp marked.parent, if_pos rfl⟩
    have paragraphIn : paragraph ∈ other.children doc.size := by
      simp [replaced.children_alert wf, moved, content]
    have inlineIn : id ∈ other.children paragraph := by
      rw [replaced.children_paragraph wf marked, inlines, if_pos content]
      exact member
    have top := wf'.isWithin_child alertIn (wf'.isWithin_self Document.root)
    exact wf'.isWithin_child inlineIn (wf'.isWithin_child paragraphIn top)
  · cases member

/-- What is dropped does not hang from the root any more. -/
theorem not_isAttached_dropped (member : id ∈ dropped doc paragraph) : ¬ other.isAttached id := by
  have wf' := replaced.wellFormed
  have rewritten := replaced.rewritten wf marked
  have inRow : id ∈ doc.children paragraph := by
    rw [← dropped_append_saved]
    exact List.mem_append_left _ member
  have notRoot := (wf.ne_of_mem inRow).1
  intro attached
  obtain ⟨above, up, attached⟩ := (wf'.isWithin_iff.mp attached).resolve_left (Ne.symm notRoot)
  unfold dropped at member
  split at member
  · next content =>
    -- The marker line is in no row.
    have notInline : id ∉ inlines doc paragraph := by
      rw [inlines, if_pos content]
      intro later
      have distinct := wf.row_nodup paragraph
      rw [← markerLine_append_afterBreak doc (doc.children paragraph)] at distinct
      exact (List.nodup_append.mp distinct).2.2 id member id later rfl
    rw [rewritten.parent_line wf List.mem_cons_self marked inRow notInline] at up
    cases up
  · next empty =>
    -- The paragraph hangs from the quote, and that from nothing.
    have paragraphIn : paragraph ∈ other.children quote := by
      simp [replaced.children_quote wf marked, kept, empty]
    have inlineIn : id ∈ other.children paragraph := by
      rw [replaced.children_paragraph wf marked, inlines, if_neg empty]
      exact member
    have same := up.symm.trans (wf'.linked.parent.mpr inlineIn)
    obtain rfl : above = paragraph := Option.some.inj same
    obtain ⟨above', up', attached⟩ := (wf'.isWithin_iff.mp attached).resolve_left
      (wf'.ne_of_mem paragraphIn).1.symm
    have same := up'.symm.trans (wf'.linked.parent.mpr paragraphIn)
    obtain rfl : above' = quote := Option.some.inj same
    obtain ⟨_, up'', _⟩ := (wf'.isWithin_iff.mp attached).resolve_left (marked.ne_root wf).symm
    rw [rewritten.parent_quote wf List.mem_cons_self] at up''
    cases up''

/-- All that is below a child of the paragraph hangs from the root exactly if the child does. -/
theorem isAttached_below {inline : NodeId} (inRow : inline ∈ doc.children paragraph)
    (below : id ∈ doc.descendants inline) : other.isAttached id ↔ other.isAttached inline := by
  have wf' := replaced.wellFormed
  have notRoot := (wf.ne_of_mem inRow).1
  -- The subtree of the child is as it was.
  have same := descendants_apart wf replaced (wf.linked.lt_size inRow)
    fun _ within => marked.ne_of_inline wf inRow within
  have within := wf'.mem_descendants.mp (same ▸ below)
  constructor
  · intro attached
    rcases wf'.isWithin_total attached within with outer | inner
    · exact outer
    · -- The child is not around the root.
      exact absurd (wf'.isWithin_root inner) notRoot
  · exact fun attached => wf'.isWithin_trans attached within

end replaced

/--
A marked quote keeps all that its first paragraph holds after its first line break exactly if what
leaves the tree of that paragraph holds nothing after a line break of its own.

The line break may be at any depth in the paragraph. What leaves the tree is the row of inlines up
to the first line break among them, or all inlines when nothing but line breaks follows the first
one. A marker in markup that runs over several lines takes all these lines with it.
-/
theorem text_after_break_kept_iff {doc : Document} (reachable : doc.Reachable)
    {quote paragraph : NodeId} {made : Patch} (answer : process doc quote = some made)
    (first : doc.firstChild quote = some paragraph) (journal : Journal) :
    let result := made.apply doc journal
    result.refusal = none ∧
    ((∀ id ∈ afterBreak doc (doc.descendants paragraph), result.doc.isAttached id) ↔
      afterBreak doc ((dropped doc paragraph).flatMap doc.descendants) = []) := by
  intro result
  have wf := reachable.wellFormed
  obtain ⟨paragraph', blocks, alert, marked, rfl⟩ := (process_eq_some_iff wf).mp answer
  have same : paragraph' = paragraph := by
    rw [wf.linked.first, marked.children] at first
    exact Option.some.inj first
  subst same
  obtain ⟨other, replaced, applied⟩ := marked.apply wf
  have made : result = _ := applied journal
  rw [made]
  refine ⟨rfl, ?_⟩
  -- In document order the paragraph comes first, then what is dropped, then what is saved.
  have order : afterBreak doc (doc.descendants paragraph') =
      afterBreak doc ((dropped doc paragraph').flatMap doc.descendants ++
        (saved doc paragraph').flatMap doc.descendants) := by
    rw [wf.descendants_eq, ← List.flatMap_append, dropped_append_saved]
    simp [afterBreak, marked.text, Kind.isLineBreak]
  have inRow : ∀ {id}, id ∈ dropped doc paragraph' ∨ id ∈ saved doc paragraph' →
      id ∈ doc.children paragraph' := by
    intro id member
    rw [← dropped_append_saved]
    exact List.mem_append.mpr member
  rw [order]
  constructor
  · intro kept
    refine List.eq_nil_iff_forall_not_mem.mpr fun id member => ?_
    obtain ⟨inline, here, below⟩ := List.mem_flatMap.mp (mem_of_mem_afterBreak member)
    have attached := kept id (mem_afterBreak_append member)
    rw [isAttached_below wf marked replaced (inRow (Or.inl here)) below] at attached
    exact not_isAttached_dropped wf marked replaced here attached
  · intro empty id member
    rcases mem_afterBreak_or member with lost | late
    · rw [empty] at lost
      cases lost
    · obtain ⟨inline, here, below⟩ := List.mem_flatMap.mp late
      rw [isAttached_below wf marked replaced (inRow (Or.inr here)) below]
      exact isAttached_saved wf marked replaced here

/-- A note of two lines under its marker keeps both. -/
theorem body_under_marker_kept :
    let doc := List.foldl Document.after (.ofSource "> [!NOTE]\n> body\n> more")
      [.create .blockQuote ⟨0, 23⟩, .create .paragraph ⟨2, 23⟩, .create (.text "[!NOTE]") ⟨2, 9⟩,
        .create .softBreak ⟨9, 10⟩, .create (.text "body") ⟨12, 16⟩,
        .create .softBreak ⟨16, 17⟩, .create (.text "more") ⟨19, 23⟩,
        .move (.append Document.root 1), .move (.append 1 2), .move (.append 2 3),
        .move (.append 2 4), .move (.append 2 5), .move (.append 2 6), .move (.append 2 7)]
    let result := (patch doc 1 2 .note).apply doc []
    afterBreak doc (doc.descendants 2) = [5, 6, 7] ∧
      ∀ id ∈ [5, 6, 7], result.doc.isAttached id := by
  intro doc result
  have answer : process doc 1 = some (patch doc 1 2 .note) := by decide +kernel
  have first : doc.firstChild 1 = some 2 := by decide +kernel
  have late : afterBreak doc (doc.descendants 2) = [5, 6, 7] := by decide +kernel
  have kept := (@text_after_break_kept_iff doc ⟨_, _, rfl⟩ 1 2 _ answer first []).2.mpr
    (by decide +kernel)
  exact ⟨late, late ▸ kept⟩

/-- An emphasised marker whose emphasis goes on in the next line takes the text there with it. -/
theorem body_in_emphasised_marker_lost :
    let doc := List.foldl Document.after (.ofSource "> *[!NOTE]\n> body* tail\n> more")
      [.create .blockQuote ⟨0, 30⟩, .create .paragraph ⟨2, 30⟩, .create .emphasis ⟨2, 18⟩,
        .create (.text "[!NOTE]") ⟨3, 10⟩, .create .softBreak ⟨10, 11⟩,
        .create (.text "body") ⟨13, 17⟩, .create (.text " tail") ⟨18, 23⟩,
        .create .softBreak ⟨23, 24⟩, .create (.text "more") ⟨26, 30⟩,
        .move (.append Document.root 1), .move (.append 1 2), .move (.append 2 3),
        .move (.append 3 4), .move (.append 3 5), .move (.append 3 6), .move (.append 2 7),
        .move (.append 2 8), .move (.append 2 9)]
    let result := (patch doc 1 2 .note).apply doc []
    process doc 1 = some (patch doc 1 2 .note) ∧ doc.firstChild 1 = some 2 ∧
      doc.kind 6 = .text "body" ∧ 6 ∈ afterBreak doc (doc.descendants 2) ∧
      result.doc.isAttached 6 = false := by
  decide +kernel

end MarkdownTree.Alert
