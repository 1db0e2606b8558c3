import MarkdownTree.Proofs.Processing.LateMarker
import MarkdownTree.Proofs.Processing.Marker
import MarkdownTree.Proofs.Processing.Reachable
import MarkdownTree.Proofs.Text.Offset

/-! Eligible quotes: which quotes become alerts, in terms of rows, kinds and the source alone. -/

namespace MarkdownTree

namespace Document

/-- Two documents that differ at most in the fields of the kinds of their nodes, such as literals.
-/
structure SameTags (doc other : Document) : Prop where
  source : other.source = doc.source
  size : other.size = doc.size
  span : other.span = doc.span
  links : SameLinks doc other
  tag : ∀ id, (other.kind id).tag = (doc.kind id).tag

/-- A kind with other fields differs in no more than that. -/
theorem sameTags_setKind {doc : Document} {id : NodeId} {kind : Kind} (stored : id < doc.size)
    (tag : kind.tag = (doc.kind id).tag) : SameTags doc (doc.setKind id kind) where
  source := rfl
  size := size_update doc id _
  span := span_setKind doc id kind
  links := sameLinks_setKind doc id kind
  tag node := by
    rw [kind_setKind stored]
    split
    · next same => rw [same, tag]
    · rfl

end Document

/-- The line breaks are the soft and the hard ones. -/
theorem Kind.isLineBreak_iff {kind : Kind} :
    kind.isLineBreak ↔ kind = .softBreak ∨ kind = .hardBreak := by
  cases kind <;> simp [isLineBreak]

/-- What the rewrite of alerts asks of a kind is told by its tag. -/
theorem Kind.reads_tag (kind : Kind) :
    (kind == blockQuote) = (kind.tag == .blockQuote) ∧
      (kind == paragraph) = (kind.tag == .paragraph) ∧
      kind.isLineBreak = (kind.tag == .softBreak || kind.tag == .hardBreak) := by
  cases kind <;> refine ⟨?_, ?_, rfl⟩ <;> rw [Bool.eq_iff_iff] <;> simp [tag]

namespace Document.SameTags

variable {doc other : Document} (same : SameTags doc other)
include same

/-- Kinds with the same tag are asked for in the same way. -/
theorem kinds (id : NodeId) : (other.kind id == .blockQuote) = (doc.kind id == .blockQuote) ∧
    (other.kind id == .paragraph) = (doc.kind id == .paragraph) ∧
      (other.kind id).isLineBreak = (doc.kind id).isLineBreak := by
  obtain ⟨quote, paragraph, breaks⟩ := (doc.kind id).reads_tag
  obtain ⟨quote', paragraph', breaks'⟩ := (other.kind id).reads_tag
  rw [quote, paragraph, breaks, quote', paragraph', breaks', same.tag]
  exact ⟨rfl, rfl, rfl⟩

/-- The rows are the same, and so is what follows a node in its row. -/
theorem rows : other.children = doc.children ∧ other.following = doc.following := by
  constructor
  · funext id
    rw [children, children, same.size, same.links.next, same.links.firstChild]
  · funext id
    rw [following, following, same.size, same.links.next]

end Document.SameTags

namespace Alert

variable {doc other : Document} {quote paragraph : NodeId} {blocks row : List NodeId}

/-- Where line breaks are tells where the marker line ends. -/
theorem markerLine_congr
    (breaks : ∀ id, (other.kind id).isLineBreak = (doc.kind id).isLineBreak) :
    markerLine other row = markerLine doc row := by
  induction row with
  | nil => rfl
  | cons first rest ih => rw [markerLine, markerLine, breaks, ih]

/-- A quote is rewritten in the same way whatever the fields of kinds are. -/
theorem process_congr (same : Document.SameTags doc other) (quote : NodeId) :
    process other quote = process doc quote := by
  obtain ⟨children, following⟩ := same.rows
  have firstChild := same.links.firstChild
  have breaks := fun id => (same.kinds id).2.2
  -- Whether there is content is read off rows and line breaks.
  have after : hasContentAfter other = hasContentAfter doc := by
    funext id
    simp only [hasContentAfter, following, breaks]
  have inline : hasInlineContent other = hasInlineContent doc := by
    funext id
    rw [hasInlineContent, hasInlineContent, firstChild, after]
  have reads := fun id => Document.source_congr same.source (congrFun same.span id)
  have marked : marked? other quote = marked? doc quote := by
    funext paragraph
    simp only [marked?, same.links.parent, after, inline, firstChild, fun id => (reads id).1,
      fun id => (reads id).2]
  have made : patch other quote = patch doc quote := by
    funext paragraph alert
    simp only [patch, after, inline, following, children, same.span, markerLine_congr breaks]
  simp only [process, paragraph?, firstChild, fun id => (same.kinds id).1,
    fun id => (same.kinds id).2.1, marked, made]

/-- A quote below the root that starts with a paragraph with a marker at its start, behind which
stands more than line breaks.

The marker is in the source that the span of the first node there cuts out, which has no more than
five characters before it in its line. -/
structure Eligible (doc : Document) (quote paragraph : NodeId) (blocks : List NodeId)
    (marker : NodeId) (inlines : List NodeId) (before text : String) : Prop where
  quoted : Quoted doc quote paragraph blocks
  row : doc.children paragraph = marker :: inlines
  content : ∃ id ∈ blocks ++ inlines, doc.kind id ≠ .softBreak ∧ doc.kind id ≠ .hardBreak
  source : ∃ after, doc.source = before ++ text ++ after
  start : before.utf8ByteSize = (doc.span marker).start
  stop : (before ++ text).utf8ByteSize = (doc.span marker).stop
  column : (before.toList.rtakeWhile (· ≠ '\n')).length ≤ 5
  marked : ∃ alert : AlertKind, alert.OccursIn text

/-- One of two rows has content exactly if they hold a node that is no line break. -/
theorem hasContent_or_iff {blocks inlines : List NodeId} :
    hasContent doc blocks ∨ hasContent doc inlines ↔
      ∃ id ∈ blocks ++ inlines, doc.kind id ≠ .softBreak ∧ doc.kind id ≠ .hardBreak := by
  rw [← Bool.or_eq_true, hasContent, hasContent, ← List.any_append, List.any_eq_true]
  refine exists_congr fun id => and_congr_right fun _ => ?_
  rw [Bool.not_eq_true', ← Bool.not_eq_true, Kind.isLineBreak_iff, not_or]

/-- The column and the slice of a node are read off what its span cuts out of the source: the column
counts the characters before that text in its line. -/
theorem column_and_slice_iff {marker : NodeId} {text : String} :
    (doc.startPosition marker).column ≤ maxColumn ∧ doc.sourceSlice? marker = some text ↔
      ∃ before, (∃ after, doc.source = before ++ text ++ after) ∧
        before.utf8ByteSize = (doc.span marker).start ∧
        (before ++ text).utf8ByteSize = (doc.span marker).stop ∧
        (before.toList.rtakeWhile (· ≠ '\n')).length ≤ 5 := by
  -- With the text cut out at the start of the node, its column counts what stands before.
  have column : ∀ before after, doc.source = before ++ text ++ after →
      before.utf8ByteSize = (doc.span marker).start →
      (doc.startPosition marker).column = (before.toList.rtakeWhile (· ≠ '\n')).length := by
    intro before after whole start
    rw [Document.startPosition, whole, String.append_assoc, ← start, Position.ofOffset_append]
  rw [Document.sourceSlice?, slice?_eq_some_iff]
  constructor
  · rintro ⟨near, before, after, whole, start, stop⟩
    exact ⟨before, ⟨after, whole⟩, start, stop, column before after whole start ▸ near⟩
  · rintro ⟨before, ⟨after, whole⟩, start, stop, near⟩
    exact ⟨column before after whole start ▸ near, before, after, whole, start, stop⟩

/-- A node holds a marker exactly if it is not too far to the right, and the marker is the first one
in its slice of the source. -/
theorem markerAt?_eq_some_iff {marker : NodeId} {alert : AlertKind} :
    markerAt? doc marker = some alert ↔ ∃ text,
      ((doc.startPosition marker).column ≤ maxColumn ∧ doc.sourceSlice? marker = some text) ∧
        alert.FirstIn text := by
  simp only [markerAt?, Option.bind_eq_bind, Option.bind_eq_some_iff, Option.guard_eq_some',
    AlertKind.firstIn?_eq_some_iff, exists_const, and_assoc, exists_and_left]

/-- A quote is marked as an alert exactly if it is eligible and the marker of this alert is the
first one there. -/
theorem marked_iff_eligible (wf : doc.WellFormed) {alert : AlertKind} :
    Marked doc quote paragraph blocks alert ↔ ∃ marker inlines before text,
      Eligible doc quote paragraph blocks marker inlines before text ∧ alert.FirstIn text := by
  -- The quote and its rows are read in the same way, so only the source is in question.
  rw [marked_iff_marker wf]
  constructor
  · rintro ⟨quoted, marker, inlines, row, content, found⟩
    obtain ⟨text, read, first⟩ := markerAt?_eq_some_iff.mp found
    obtain ⟨before, source, start, stop, column⟩ := column_and_slice_iff.mp read
    exact ⟨marker, inlines, before, text,
      { quoted, row, content := hasContent_or_iff.mp content, source, start, stop, column
        marked := ⟨alert, first.occursIn⟩ }, first⟩
  · rintro ⟨marker, inlines, before, text, eligible, first⟩
    have read := column_and_slice_iff.mpr
      ⟨before, eligible.source, eligible.start, eligible.stop, eligible.column⟩
    exact ⟨eligible.quoted, marker, inlines, eligible.row,
      hasContent_or_iff.mpr eligible.content, markerAt?_eq_some_iff.mpr ⟨text, read, first⟩⟩

/-- One of the markers is the first one of an eligible quote. -/
theorem Eligible.first {marker : NodeId} {inlines : List NodeId} {before text : String}
    (eligible : Eligible doc quote paragraph blocks marker inlines before text) :
    ∃ alert : AlertKind, alert.FirstIn text := by
  obtain ⟨alert, found⟩ := Option.isSome_iff_exists.mp
    (AlertKind.isSome_firstIn?_iff.mpr eligible.marked)
  exact ⟨alert, AlertKind.firstIn?_eq_some_iff.mp found⟩

/--
Exactly the eligible quotes become alerts.

A node is answered with a patch exactly if it is an eligible quote. The one node that the patch
creates is then the alert whose marker is the first one in the text, over the span of the quote. The
answer is the same in any document that has the same source, spans, links and tags: the fields of
kinds do not matter, and so no literal does.
-/
theorem quote_answered_iff_eligible (reachable : doc.Reachable) (quote : NodeId) :
    ((process doc quote).isSome ↔ ∃ paragraph blocks marker inlines before text,
      Eligible doc quote paragraph blocks marker inlines before text) ∧
    (∀ paragraph blocks marker inlines before text,
      Eligible doc quote paragraph blocks marker inlines before text →
      ∃ made alert, process doc quote = some made ∧
        made.created = [(.alert alert, doc.span quote)] ∧
        ∀ other : AlertKind, other.FirstIn text ↔ other = alert) ∧
    (∀ other, Document.SameTags doc other → process other quote = process doc quote) := by
  have wf := reachable.wellFormed
  -- An eligible quote gets the patch for the first marker there.
  have made : ∀ paragraph blocks marker inlines before text,
      Eligible doc quote paragraph blocks marker inlines before text →
      ∃ alert, process doc quote = some (patch doc quote paragraph alert) ∧
        alert.FirstIn text := by
    intro paragraph blocks marker inlines before text eligible
    obtain ⟨alert, first⟩ := eligible.first
    have marked := (marked_iff_eligible wf).mpr ⟨marker, inlines, before, text, eligible, first⟩
    exact ⟨alert, (process_eq_some_iff wf).mpr ⟨paragraph, blocks, alert, marked, rfl⟩, first⟩
  refine ⟨⟨fun answered => ?_, ?_⟩, ?_, fun other same => process_congr same quote⟩
  · obtain ⟨paragraph, blocks, alert, marked⟩ := (isSome_process_iff wf).mp answered
    obtain ⟨marker, inlines, before, text, eligible, _⟩ := (marked_iff_eligible wf).mp marked
    exact ⟨paragraph, blocks, marker, inlines, before, text, eligible⟩
  · rintro ⟨paragraph, blocks, marker, inlines, before, text, eligible⟩
    obtain ⟨alert, answer, _⟩ := made _ _ _ _ _ _ eligible
    exact Option.isSome_of_mem answer
  · intro paragraph blocks marker inlines before text eligible
    obtain ⟨alert, answer, first⟩ := made _ _ _ _ _ _ eligible
    refine ⟨_, alert, answer, rfl, fun other => ⟨fun first' => first'.unique first, ?_⟩⟩
    rintro rfl
    exact first

/-- A quote with two markers four characters, but seven bytes, into its line becomes a tip, although
no literal holds a marker, and also when one holds another marker. -/
theorem two_markers_make_tip :
    let doc := List.foldl Document.after (.ofSource "ééé [!TIP] [!NOTE]\nb")
      [.create .blockQuote ⟨0, 23⟩, .create .paragraph ⟨0, 23⟩, .create (.text "") ⟨7, 21⟩,
        .create .softBreak ⟨21, 22⟩, .create (.text "b") ⟨22, 23⟩,
        .move (.append Document.root 1), .move (.append 1 2), .move (.append 2 3),
        .move (.append 2 4), .move (.append 2 5)]
    (∃ made, process doc 1 = some made ∧ made.created = [(.alert .tip, ⟨0, 23⟩)]) ∧
      process (doc.setKind 3 (.text "[!CAUTION]")) 1 = process doc 1 := by
  intro doc
  obtain ⟨_, answered, same⟩ := @quote_answered_iff_eligible doc ⟨_, _, rfl⟩ 1
  have eligible : Eligible doc 1 2 [] 3 [4, 5] "ééé " "[!TIP] [!NOTE]" :=
    { quoted := ⟨by decide +kernel, by decide +kernel, by decide +kernel, by decide +kernel⟩
      row := by decide +kernel
      content := by decide +kernel
      source := ⟨"\nb", by decide +kernel⟩
      start := by decide +kernel
      stop := by decide +kernel
      column := by decide +kernel
      marked := ⟨.tip, "", " [!NOTE]", by decide +kernel⟩ }
  obtain ⟨made, alert, answer, created, first⟩ := answered _ _ _ _ _ _ eligible
  have isTip := (first .tip).mp (AlertKind.firstIn?_eq_some_iff.mp (by decide +kernel))
  exact ⟨⟨made, answer, by rw [created, ← isTip]; decide +kernel⟩,
    same _ (Document.sameTags_setKind (by decide +kernel) (by decide +kernel))⟩

end Alert

end MarkdownTree
