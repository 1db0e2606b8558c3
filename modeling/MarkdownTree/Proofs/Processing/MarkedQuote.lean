import MarkdownTree.Processing.Alert
import MarkdownTree.Proofs.Processing.Patch
import Mathlib.Data.Option.Basic

/-! Marked quotes: whether a quote becomes an alert is read off its row and its paragraph's. -/

namespace MarkdownTree.Alert

variable {doc other : Document} {quote paragraph : NodeId} {blocks : List NodeId}
  {alert : AlertKind}

/-- Whether a row holds anything but line breaks. -/
def hasContent (doc : Document) (row : List NodeId) : Bool :=
  row.any fun id => !(doc.kind id).isLineBreak

/-- What stands in a row after its first line break. -/
def afterBreak (doc : Document) (row : List NodeId) : List NodeId :=
  (row.dropWhile fun id => !(doc.kind id).isLineBreak).tail

/-- A quote that becomes an alert, with the paragraph it starts with and the blocks after that. -/
structure Marked (doc : Document) (quote paragraph : NodeId) (blocks : List NodeId)
    (alert : AlertKind) : Prop where
  kind : doc.kind quote = .blockQuote
  parent : doc.parent quote = some Document.root
  children : doc.children quote = paragraph :: blocks
  text : doc.kind paragraph = .paragraph
  marked : marked? doc quote paragraph = some alert

namespace Marked

variable (marked : Marked doc quote paragraph blocks alert)
include marked

/-- The quote is in the store. -/
theorem stored : quote < doc.size :=
  Document.lt_size_of_parent marked.parent

/-- The paragraph is in the quote. -/
theorem first_mem : paragraph ∈ doc.children quote := by
  simp [marked.children]

/-- The blocks are in the quote. -/
theorem block_mem {id : NodeId} (member : id ∈ blocks) : id ∈ doc.children quote := by
  simp [marked.children, member]

/-- What a quote is read as is determined. -/
theorem unique {paragraph' : NodeId} {blocks' : List NodeId} {alert' : AlertKind}
    (marked' : Marked doc quote paragraph' blocks' alert') :
    paragraph = paragraph' ∧ blocks = blocks' ∧ alert = alert' := by
  obtain ⟨first, rest⟩ := List.cons_eq_cons.mp (marked.children.symm.trans marked'.children)
  subst first
  exact ⟨rfl, rest, Option.some.inj (marked.marked.symm.trans marked'.marked)⟩

variable (wf : doc.WellFormed)
include wf

/-- The quote is not the root. -/
theorem ne_root : quote ≠ Document.root :=
  wf.ne_root marked.parent

/-- The whole content of the quote is within it, and that of its paragraph too. -/
theorem isWithin {id : NodeId} (member : id ∈ doc.children quote ∨ id ∈ doc.children paragraph) :
    doc.isWithin quote id := by
  have inside := wf.isWithin_child marked.first_mem (wf.isWithin_self quote)
  rcases member with outer | inner
  · exact wf.isWithin_child outer (wf.isWithin_self quote)
  · exact wf.isWithin_child inner inside

/-- What is outside the quote is neither in its row nor in that of its paragraph. -/
theorem ne_of_outside {id parent : NodeId} (member : id ∈ doc.children parent)
    (outside : ¬ doc.isWithin quote id) : parent ≠ quote ∧ parent ≠ paragraph := by
  constructor
  · intro same
    exact outside (marked.isWithin wf (Or.inl (same ▸ member)))
  · intro same
    exact outside (marked.isWithin wf (Or.inr (same ▸ member)))

end Marked

/-- Only a child of the root is marked. -/
theorem parent_of_marked (marked : marked? doc quote paragraph = some alert) :
    doc.parent quote = some Document.root := by
  simp only [marked?, Option.bind_eq_bind, Option.bind_eq_some_iff, Option.guard_eq_some'] at marked
  obtain ⟨_, top, _⟩ := marked
  simpa using top

/-- A node gets a patch exactly when it is a marked quote. -/
theorem process_eq_some_iff (wf : doc.WellFormed) {made : Patch} :
    process doc quote = some made ↔ ∃ paragraph blocks alert,
      Marked doc quote paragraph blocks alert ∧ made = patch doc quote paragraph alert := by
  simp only [process, paragraph?, wf.linked.first, Option.bind_eq_bind, Option.bind_eq_some_iff,
    Option.guard_eq_some', Option.filter_eq_some_iff]
  constructor
  · intro answer
    obtain ⟨_, kind, paragraph, ⟨head, text⟩, alert, marked, made⟩ := answer
    -- The paragraph is the first child, and the blocks are the rest of the row.
    obtain ⟨blocks, children⟩ := List.head?_eq_some_iff.mp head
    exact ⟨paragraph, blocks, alert, ⟨by simpa using kind, parent_of_marked marked, children,
      by simpa using text, marked⟩, (Option.some.inj made).symm⟩
  · intro found
    obtain ⟨paragraph, blocks, alert, marked, rfl⟩ := found
    exact ⟨(), by simp [marked.kind], paragraph, ⟨by simp [marked.children],
      by simp [marked.text]⟩, alert, marked.marked, rfl⟩

/-- Content after the first node of a row is content of the rest of the row. -/
theorem hasContentAfter_eq (wf : doc.WellFormed) {id first : NodeId} {rest : List NodeId}
    (split : doc.children id = first :: rest) :
    hasContentAfter doc first = hasContent doc rest := by
  have split' : doc.children id = [] ++ first :: rest := split
  -- What follows the first node among its siblings is the rest of the row.
  rw [hasContentAfter, wf.linked.following_eq split', hasContent]

/-- Inline content is content of the row of the paragraph after the first node there. -/
theorem hasInlineContent_eq (wf : doc.WellFormed) (paragraph : NodeId) :
    hasInlineContent doc paragraph = hasContent doc (doc.children paragraph).tail := by
  rw [hasInlineContent, wf.linked.first]
  cases split : doc.children paragraph with
  | nil => rfl
  | cons first rest => exact hasContentAfter_eq wf split

/-- Only the kinds of its nodes tell whether a row has content. -/
theorem hasContent_congr {row : List NodeId} (kind : ∀ id ∈ row, other.kind id = doc.kind id) :
    hasContent other row = hasContent doc row := by
  induction row with
  | nil => rfl
  | cons first rest ih =>
    have tail := ih fun id member => kind id (List.mem_cons_of_mem first member)
    simp only [hasContent, List.any_cons, kind first List.mem_cons_self] at tail ⊢
    rw [tail]

/-- Only the kinds of its nodes tell what stands after the first line break of a row. -/
theorem afterBreak_congr {row : List NodeId} (kind : ∀ id ∈ row, other.kind id = doc.kind id) :
    afterBreak other row = afterBreak doc row := by
  induction row with
  | nil => rfl
  | cons first rest ih =>
    have tail := ih fun id member => kind id (List.mem_cons_of_mem first member)
    simp only [afterBreak, List.dropWhile_cons, kind first List.mem_cons_self] at tail ⊢
    -- At a line break the rest is taken as it is.
    split
    · exact tail
    · rfl

/-- A row is its marker line, and what stands after its first line break. -/
theorem markerLine_append_afterBreak (doc : Document) (row : List NodeId) :
    markerLine doc row ++ afterBreak doc row = row := by
  induction row with
  | nil => rfl
  | cons first rest ih =>
    rw [markerLine]
    unfold afterBreak at ih ⊢
    rw [List.dropWhile_cons]
    -- A line break ends the line; anything else belongs to it, and the line goes on.
    cases (doc.kind first).isLineBreak with
    | true => rfl
    | false => exact congrArg (first :: ·) ih

/-- The marker line is part of its row. -/
theorem mem_of_mem_markerLine {row : List NodeId} {id : NodeId}
    (member : id ∈ markerLine doc row) : id ∈ row := by
  rw [← markerLine_append_afterBreak doc row]
  exact List.mem_append_left _ member

/-- A row without its marker line is what stands after its first line break. -/
theorem filter_markerLine {row : List NodeId} (distinct : row.Nodup) :
    row.filter (fun id => id ∉ markerLine doc row) = afterBreak doc row := by
  -- The marker line is the front of the row.
  have split := markerLine_append_afterBreak doc row
  have cut := filter_front (split.symm ▸ distinct)
  rwa [split] at cut

/-- A quote with the same rows below it is marked in the same way where its nodes are kept. -/
theorem marked?_congr (wf : doc.WellFormed) (wf' : other.WellFormed)
    (keeps : Document.KeepsNodes doc other)
    (top : other.parent quote = some Document.root ↔ doc.parent quote = some Document.root)
    (children : doc.children quote = paragraph :: blocks)
    (children' : other.children quote = paragraph :: blocks)
    (inner : other.children paragraph = doc.children paragraph) :
    marked? other quote paragraph = marked? doc quote paragraph := by
  -- The nodes of a row are stored, so their kinds are kept.
  have kind : ∀ parent, ∀ id ∈ doc.children parent, other.kind id = doc.kind id :=
    fun _ id member => keeps.kind id (wf.linked.lt_size member)
  have top : (other.parent quote == some Document.root) =
      (doc.parent quote == some Document.root) := by
    rw [Bool.eq_iff_iff, beq_iff_eq, beq_iff_eq]
    exact top
  -- Whether there is content is read off the two rows, which are the same.
  have outer : hasContentAfter other paragraph = hasContentAfter doc paragraph := by
    rw [hasContentAfter_eq wf' children', hasContentAfter_eq wf children]
    exact hasContent_congr fun id member => kind quote id (by simp [children, member])
  have inline : hasInlineContent other paragraph = hasInlineContent doc paragraph := by
    rw [hasInlineContent_eq wf', hasInlineContent_eq wf, inner]
    exact hasContent_congr fun id member => kind paragraph id (List.mem_of_mem_tail member)
  have first : other.firstChild paragraph = doc.firstChild paragraph := by
    rw [wf'.linked.first, wf.linked.first, inner]
  unfold marked?
  rw [top, outer, inline, first]
  -- What is left reads the source under the first node of the paragraph.
  cases head : doc.firstChild paragraph with
  | none => rfl
  | some marker =>
    have member := wf.linked.mem_of_firstChild head
    have span := keeps.span marker (wf.linked.lt_size member)
    obtain ⟨place, slice⟩ := Document.source_congr keeps.source span
    simp only [Option.bind_eq_bind, Option.bind_some]
    rw [place, slice]

/-- A quote with the same rows below it is marked exactly where it was when its nodes are kept. -/
theorem marked_iff (wf : doc.WellFormed) (wf' : other.WellFormed)
    (keeps : Document.KeepsNodes doc other)
    (top : other.parent quote = some Document.root ↔ doc.parent quote = some Document.root)
    (row : other.children quote = doc.children quote)
    (inner : ∀ id ∈ doc.children quote, other.children id = doc.children id) :
    Marked other quote paragraph blocks alert ↔ Marked doc quote paragraph blocks alert := by
  constructor
  · intro marked
    -- The rows and the kinds are the same, so what was read before is read again.
    have parent := top.mp marked.parent
    have children := row.symm.trans marked.children
    have member : paragraph ∈ doc.children quote := by simp [children]
    have same := marked?_congr wf wf' keeps top children marked.children (inner _ member)
    exact
      { kind := (keeps.kind _ (Document.lt_size_of_parent parent)).symm.trans marked.kind
        parent := parent
        children := children
        text := (keeps.kind _ (wf.linked.lt_size member)).symm.trans marked.text
        marked := same.symm.trans marked.marked }
  · intro marked
    have children := row.trans marked.children
    have member := marked.first_mem
    have same := marked?_congr wf wf' keeps top marked.children children (inner _ member)
    exact
      { kind := (keeps.kind _ (Document.lt_size_of_parent marked.parent)).trans marked.kind
        parent := top.mpr marked.parent
        children := children
        text := (keeps.kind _ (wf.linked.lt_size member)).trans marked.text
        marked := same.trans marked.marked }

/-- A node gets a patch exactly when it is a marked quote, whatever the patch. -/
theorem isSome_process_iff (wf : doc.WellFormed) : (process doc quote).isSome ↔
    ∃ paragraph blocks alert, Marked doc quote paragraph blocks alert := by
  rw [Option.isSome_iff_exists]
  constructor
  · intro answer
    obtain ⟨made, answer⟩ := answer
    obtain ⟨paragraph, blocks, alert, marked, _⟩ := (process_eq_some_iff wf).mp answer
    exact ⟨paragraph, blocks, alert, marked⟩
  · intro found
    obtain ⟨paragraph, blocks, alert, marked⟩ := found
    exact ⟨_, (process_eq_some_iff wf).mpr ⟨paragraph, blocks, alert, marked, rfl⟩⟩

end MarkdownTree.Alert
