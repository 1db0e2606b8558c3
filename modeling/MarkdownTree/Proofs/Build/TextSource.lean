import MarkdownTree.Proofs.Build.BlockLiteral
import MarkdownTree.Proofs.Build.Told
import MarkdownTree.Proofs.Text.Offset

/-! Texts and their source: a text node is told by the texts that were merged into it, whose ranges
touch, so that its span covers what they come from and its literal is what they say. -/

namespace MarkdownTree

namespace TellsText

variable {literal : String} {span : Span} {events : List SpannedEvent}

/-- A text that starts where others end goes on telling what they tell. -/
theorem concat (told : TellsText literal span events) (more : String) (stop : Nat) :
    TellsText (literal ++ more) ⟨span.start, stop⟩
      (events ++ [⟨.text more, ⟨span.stop, stop⟩⟩]) := by
  induction told with
  | last => exact .more .last
  | more others ih =>
    rw [String.append_assoc]
    exact .more ih

/-- All that tells a text is texts. -/
theorem texts (told : TellsText literal span events) :
    ∀ piece ∈ events, ∃ payload, piece.event = .text payload := by
  induction told with
  | last => simp
  | more others ih => exact List.forall_mem_cons.mpr ⟨⟨_, rfl⟩, ih⟩

/-- The span that is told runs from the start of the first text to the end of the last one. -/
theorem ends (told : TellsText literal span events) : ∃ first last, events.head? = some first ∧
    events.getLast? = some last ∧ span = ⟨first.span.start, last.span.stop⟩ := by
  induction told with
  | last => exact ⟨_, _, rfl, rfl, rfl⟩
  | more others ih =>
    obtain ⟨first, last, _, isLast, whole⟩ := ih
    refine ⟨_, last, rfl, ?_, ?_⟩
    · rw [List.getLast?_cons, isLast, Option.getD_some]
    · rw [← congrArg Span.stop whole]

/-- Each text starts where the one before it ends. -/
theorem touching (told : TellsText literal span events) :
    events.IsChain fun piece next => piece.span.stop = next.span.start := by
  induction told with
  | last => exact .singleton _
  | more others ih =>
    obtain ⟨first, last, isFirst, _, whole⟩ := others.ends
    refine List.isChain_cons.mpr ⟨fun next isNext => ?_, ih⟩
    obtain rfl := Option.some.inj (isFirst.symm.trans isNext)
    exact congrArg Span.start whole

/-- What is told is what the texts say one after another. -/
theorem literal_eq (told : TellsText literal span events) :
    literal = String.join (events.filterMap (·.event.text?)) := by
  induction told with
  | last => simp [Event.text?]
  | @more _ _ _ _ _ events others ih =>
    show _ = String.join (_ :: events.filterMap (·.event.text?))
    rw [String.join_cons, ← ih]

/-- If each text is the part of a source that it comes from, so is the text that they tell. -/
theorem slice?_eq (told : TellsText literal span events) {source : String}
    (slices : ∀ piece ∈ events,
      slice? source piece.span.start piece.span.stop = piece.event.text?) :
    slice? source span.start span.stop = some literal := by
  induction told with
  | last => exact slices _ (List.mem_singleton_self _)
  | more others ih =>
    obtain ⟨first, rest⟩ := List.forall_mem_cons.mp slices
    exact slice?_append first (ih rest)

end TellsText

namespace Document

variable {doc other : Document} {id : NodeId}

/-- All texts of a document are those of another one. -/
structure KeepsTexts (doc other : Document) : Prop where
  source : other.source = doc.source
  size : doc.size ≤ other.size
  texts : ∀ id literal, other.kind id = .text literal →
    doc.kind id = .text literal ∧ other.span id = doc.span id

/-- A document has its own texts. -/
theorem KeepsTexts.refl (doc : Document) : KeepsTexts doc doc :=
  ⟨rfl, Nat.le_refl _, fun _ _ text => ⟨text, rfl⟩⟩

/-- A new node that is no text leaves the texts. -/
theorem Added.keepsTexts {parent : NodeId} {kind : Kind} {span : Span}
    (added : Added doc other parent kind span) (noText : kind.tag ≠ .text) :
    KeepsTexts doc other where
  source := added.source
  size := added.keepsNodes.size
  texts id literal text := by
    rw [added.kind] at text
    -- The text is not the new node.
    split at text
    · exact absurd (congrArg Kind.tag text) noText
    · next old => exact ⟨text, (added.span id).trans (if_neg old)⟩

/-- A node that becomes no text leaves the others. -/
theorem keepsTexts_setKind (stored : id < doc.size) {kind : Kind} (noText : kind.tag ≠ .text) :
    KeepsTexts doc (doc.setKind id kind) where
  source := rfl
  size := Nat.le_of_eq (size_update _ _ _).symm
  texts other literal text := by
    rw [kind_setKind stored] at text
    split at text
    · exact absurd (congrArg Kind.tag text) noText
    · exact ⟨text, congrFun (span_setKind _ _ _) other⟩

/-- A document over a source in which each text is told by the pieces that are known of it. -/
structure TextsTold (source : String) (doc : Document) (pieces : NodeId → List SpannedEvent) :
    Prop where
  source : doc.source = source
  texts : ∀ id literal, doc.kind id = .text literal → TellsText literal (doc.span id) (pieces id)
  fresh : ∀ id, ¬ id < doc.size → pieces id = []

namespace TextsTold

variable {source : String} {pieces : NodeId → List SpannedEvent}
  (told : TextsTold source doc pieces)
include told

/-- While the texts stay, so does what tells them. -/
theorem keep (keeps : KeepsTexts doc other) : TextsTold source other pieces where
  source := keeps.source.trans told.source
  texts id literal text := by
    obtain ⟨before, span⟩ := keeps.texts id literal text
    rw [span]
    exact told.texts id literal before
  fresh id outside := told.fresh id fun stored => outside (Nat.lt_of_lt_of_le stored keeps.size)

/-- A new text is told by itself. -/
theorem added {parent : NodeId} {payload : String} {span : Span}
    (added : Added doc other parent (.text payload) span) : TextsTold source other fun id =>
      pieces id ++ if some doc.size = some id then [⟨.text payload, span⟩] else [] where
  source := added.source.trans told.source
  texts id literal text := by
    rw [added.kind] at text
    rw [added.span]
    by_cases new : id = doc.size
    · subst new
      rw [if_pos rfl] at text ⊢
      obtain rfl := Kind.text.inj text
      rw [if_pos rfl, told.fresh _ (Nat.lt_irrefl _)]
      exact .last
    · rw [if_neg new] at text ⊢
      rw [if_neg fun same => new (Option.some.inj same).symm, List.append_nil]
      exact told.texts id literal text
  fresh id outside := by
    rw [added.size] at outside
    rw [told.fresh id (by omega), if_neg fun same => by cases same; omega, List.append_nil]

/-- A text that gets longer is told by one piece more. -/
theorem longer {last : NodeId} {sofar payload : String} {span : Span} (stored : last < doc.size)
    (kind : doc.kind last = .text sofar) (stop : (doc.span last).stop = span.start) :
    TextsTold source ((doc.setKind last (.text (sofar ++ payload))).setStop last span.stop)
      fun id => pieces id ++ if some last = some id then [⟨.text payload, span⟩] else [] where
  source := told.source
  texts id literal text := by
    have stored' : last < (doc.setKind last (.text (sofar ++ payload))).size := by
      rwa [setKind, size_update]
    rw [kind_setStop, kind_setKind stored] at text
    rw [span_setStop stored', span_setKind]
    by_cases here : id = last
    · subst here
      rw [if_pos rfl] at text ⊢
      obtain rfl := Kind.text.inj text
      have piece := (told.texts id sofar kind).concat payload span.stop
      rw [stop] at piece
      rw [if_pos rfl]
      exact piece
    · rw [if_neg here] at text ⊢
      rw [if_neg fun same => here (Option.some.inj same).symm, List.append_nil]
      exact told.texts id literal text
  fresh id outside := by
    have outside' : ¬ id < doc.size := by simpa [setStop, setKind] using outside
    rw [told.fresh id outside', if_neg fun same => by cases same; exact outside' stored,
      List.append_nil]

end TextsTold

end Document

namespace Builder

variable {builder : Builder}

/-- The node that a text goes into: unless a code block takes it in, the last child that the
innermost open node has afterwards. -/
def receiver? (builder : Builder) (spanned : SpannedEvent) : Option NodeId :=
  match spanned.event, builder.doc.kind builder.parent with
  | .text _, .codeBlock _ _ => none
  | .text _, _ => (builder.push spanned).doc.lastChild builder.parent
  | _, _ => none

/-- The texts that go into a node, in order of arrival. -/
def merged (id : NodeId) : Builder → List SpannedEvent → List SpannedEvent
  | _, [] => []
  | builder, spanned :: rest =>
    (if builder.receiver? spanned = some id then [spanned] else []) ++
      merged id (builder.push spanned) rest

/-- What goes into a node is some of the events, in their order. -/
theorem merged_sublist (id : NodeId) (builder : Builder) (events : List SpannedEvent) :
    (merged id builder events).Sublist events := by
  induction events generalizing builder with
  | nil => exact .slnil
  | cons spanned rest ih =>
    unfold merged
    split
    · exact (ih _).cons_cons spanned
    · exact (ih _).cons spanned

/-- Only texts go into a node. -/
theorem receiver?_of_other {spanned : SpannedEvent} (noText : spanned.event.text? = none) :
    builder.receiver? spanned = none := by
  obtain ⟨event, span⟩ := spanned
  cases event <;> first | rfl | cases noText

/-- Outside code blocks a text goes into the last child of the innermost open node. -/
theorem receiver?_of_text (noCode : ∀ info sofar, ¬ builder.InCode info sofar) (payload : String)
    (span : Span) : builder.receiver? ⟨.text payload, span⟩ =
      (builder.text payload span).doc.lastChild builder.parent := by
  unfold receiver?
  split
  · next block => exact absurd block (noCode _ _)
  · rfl
  · next other _ => exact absurd rfl (other payload)

namespace WellFormed

variable (wf : builder.WellFormed)
include wf

/-- An event that is no text leaves the texts. -/
theorem keepsTexts_push {spanned : SpannedEvent} (noText : spanned.event.text? = none) :
    Document.KeepsTexts builder.doc (builder.push spanned).doc := by
  obtain ⟨event, span⟩ := spanned
  have leaf : ∀ {kind : Kind}, kind.tag ≠ .text →
      Document.KeepsTexts builder.doc (builder.addLeaf kind span).doc :=
    (wf.added _ span).keepsTexts
  cases event with
  | start container =>
    cases models : container.kind? with
    | none =>
      rw [push_start_none models]
      exact .refl _
    | some kind =>
      rw [push_start models]
      exact leaf (tag_ne_text_of_models models)
  | text payload => cases noText
  | html payload =>
    rcases builder.html_cases payload span with ⟨sofar, _, made⟩ | ⟨_, made⟩ <;>
      rw [show builder.push ⟨.html payload, span⟩ = _ from made]
    · exact Document.keepsTexts_setKind wf.parent_stored (by simp [Kind.tag])
    · exact leaf (by simp [Kind.tag])
  | code | softBreak | hardBreak | rule => exact leaf (by simp [Kind.tag])
  | stop => exact .refl _
  | unmodelled => exact .refl _

variable {source : String} {pieces : NodeId → List SpannedEvent}

/-- A text goes into the node that receives it, and into no other. -/
theorem textsTold_text (told : builder.doc.TextsTold source pieces) (payload : String)
    (span : Span) : (builder.text payload span).doc.TextsTold source fun id =>
      pieces id ++ if builder.receiver? ⟨.text payload, span⟩ = some id then
        [⟨.text payload, span⟩] else [] := by
  rcases builder.text_cases payload span with ⟨info, sofar, block, made⟩ |
    ⟨last, sofar, noCode, continues, made⟩ | ⟨noCode, _, made⟩
  · -- A code block takes the text in, and no node receives it.
    have kind : builder.doc.kind builder.parent = .codeBlock info sofar := block
    have none : builder.receiver? ⟨.text payload, span⟩ = none := by simp [receiver?, kind]
    rw [made]
    simpa [none] using told.keep (Document.keepsTexts_setKind wf.parent_stored (by simp [Kind.tag]))
  · have links := (Document.sameLinks_setKind builder.doc last (.text (sofar ++ payload))).trans
      (Document.sameLinks_setStop _ last span.stop)
    rw [receiver?_of_text noCode, made, links.lastChild, continues.row]
    exact told.longer (wf.lastChild_stored continues.row) continues.kind continues.stop
  · have added := wf.added (.text payload) span
    rw [receiver?_of_text noCode, made, added.lastChild_parent]
    exact told.added added

/-- Every event goes into the node that receives it, if any. -/
theorem textsTold_push (told : builder.doc.TextsTold source pieces) (spanned : SpannedEvent) :
    (builder.push spanned).doc.TextsTold source fun id =>
      pieces id ++ if builder.receiver? spanned = some id then [spanned] else [] := by
  cases text : spanned.event.text? with
  | none => simpa [receiver?_of_other text] using told.keep (wf.keepsTexts_push text)
  | some payload =>
    obtain ⟨event, span⟩ := spanned
    cases event <;> cases text
    exact wf.textsTold_text told payload span

/-- After any events, each text is told by what went into it. -/
theorem textsTold_push_all (told : builder.doc.TextsTold source pieces)
    (events : List SpannedEvent) :
    (events.foldl Builder.push builder).doc.TextsTold source fun id =>
      pieces id ++ merged id builder events := by
  induction events generalizing builder pieces with
  | nil => simpa [merged] using told
  | cons spanned rest ih =>
    have later := ih (wf.push spanned) (wf.textsTold_push told spanned)
    simpa only [List.foldl_cons, merged, List.append_assoc] using later

end WellFormed

end Builder

/--
The texts merged into a text node arrive in order with touching ranges; the span of the node runs
from the start of the first one to the end of the last one, and its literal is what they say.

So a node whose texts are the parts of the source that they come from is the part of the source that
it covers.
-/
theorem merged_texts_cover_source (source : String) (events : List SpannedEvent) {id : NodeId}
    {literal : String} (text : (Document.ofEvents source events).kind id = .text literal) :
    let doc := Document.ofEvents source events
    let pieces := Builder.merged id (.ofSource source) events
    pieces.Sublist events ∧ (∀ piece ∈ pieces, ∃ payload, piece.event = .text payload) ∧
    (pieces.IsChain fun piece next => piece.span.stop = next.span.start) ∧
    (∃ first last, pieces.head? = some first ∧ pieces.getLast? = some last ∧
      doc.span id = ⟨first.span.start, last.span.stop⟩) ∧
    literal = String.join (pieces.filterMap (·.event.text?)) ∧
    ((∀ piece ∈ pieces, slice? source piece.span.start piece.span.stop = piece.event.text?) →
      doc.sourceSlice? id = some literal) := by
  intro doc pieces
  -- The empty document has no text.
  have start : (Builder.ofSource source).doc.TextsTold source fun _ => [] := by
    refine ⟨rfl, fun id literal text => ?_, fun _ _ => rfl⟩
    cases id <;> cases text
  have all := (Builder.wellFormed_ofSource source).textsTold_push_all start events
  have told : TellsText literal (doc.span id) pieces := all.texts id literal text
  refine ⟨Builder.merged_sublist id _ events, told.texts, told.touching, told.ends,
    told.literal_eq, fun slices => ?_⟩
  have source' : doc.source = source := all.source
  rw [Document.sourceSlice?, source']
  exact told.slice?_eq slices

/-- Texts run together over a container and a leaf that the tree does not model, after an end that
closes nothing, and they are the part of the source that the text node covers. -/
theorem text_across_dropped_events_covers_source :
    let events : List SpannedEvent := [⟨.stop, ⟨0, 0⟩⟩, ⟨.start .paragraph, ⟨0, 4⟩⟩,
      ⟨.text "é", ⟨0, 2⟩⟩, ⟨.start .unmodelled, ⟨2, 3⟩⟩, ⟨.text "[", ⟨2, 3⟩⟩,
      ⟨.unmodelled, ⟨3, 3⟩⟩, ⟨.stop, ⟨2, 3⟩⟩, ⟨.text "c", ⟨3, 4⟩⟩, ⟨.stop, ⟨0, 4⟩⟩]
    let pieces : List SpannedEvent :=
      [⟨.text "é", ⟨0, 2⟩⟩, ⟨.text "[", ⟨2, 3⟩⟩, ⟨.text "c", ⟨3, 4⟩⟩]
    let doc := Document.ofEvents "é[c" events
    doc.kind 2 = .text "é[c" ∧ Builder.merged 2 (.ofSource "é[c") events = pieces ∧
      (∀ piece ∈ pieces, slice? "é[c" piece.span.start piece.span.stop = piece.event.text?) ∧
      doc.span 2 = ⟨0, 4⟩ ∧ doc.sourceSlice? 2 = some "é[c" := by
  intro events pieces doc
  have text : doc.kind 2 = .text "é[c" := by decide +kernel
  have merged : Builder.merged 2 (.ofSource "é[c") events = pieces := by decide +kernel
  have slices : ∀ piece ∈ pieces,
      slice? "é[c" piece.span.start piece.span.stop = piece.event.text? := by
    decide +kernel
  obtain ⟨_, _, _, ⟨first, last, isFirst, isLast, span⟩, _, slice⟩ :=
    merged_texts_cover_source "é[c" events text
  rw [merged] at isFirst isLast slice
  cases isFirst
  cases isLast
  exact ⟨text, merged, slices, span, slice slices⟩

end MarkdownTree
