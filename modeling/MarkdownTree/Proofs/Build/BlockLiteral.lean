import MarkdownTree.Proofs.Build.Order

/-! Literals of blocks: which of the payloads that arrive while a code block or an HTML block is the
innermost open node its literal collects. -/

namespace MarkdownTree

/-- The payload of a text. -/
def Event.text? : Event → Option String
  | .text payload => some payload
  | _ => none

/-- The payload of raw HTML. -/
def Event.html? : Event → Option String
  | .html payload => some payload
  | _ => none

/-- The payload of a text or of raw HTML. -/
def Event.payload? : Event → Option String
  | .text payload | .html payload => some payload
  | _ => none

namespace Kind

/-- The literal of a block that has one; all else counts as empty. -/
def blockLiteral : Kind → String
  | codeBlock _ literal | htmlBlock literal => literal
  | _ => ""

/-- The payload that a block with a literal collects from an event. -/
def collects? : Kind → Event → Option String
  | codeBlock _ _ => Event.text?
  | htmlBlock _ => Event.html?
  | _ => fun _ => none

/-- What a block collects depends on its tag alone. -/
theorem collects?_congr {kind other : Kind} (same : kind.tag = other.tag) :
    kind.collects? = other.collects? := by
  -- Two kinds of the same tag collect in the same way, and all other pairs have different tags.
  cases kind <;> cases other <;> first | rfl | cases same

end Kind

/-- A block starts with an empty literal. -/
theorem Container.blockLiteral_eq {container : Container} {kind : Kind}
    (models : container.kind? = some kind) : kind.blockLiteral = "" := by
  cases container <;> cases models <;> try rfl
  -- A link or an image is of one of two kinds, neither of which is a block.
  all_goals
    split <;> rfl

namespace Builder

variable {builder : Builder} {id : NodeId}

/-- What arrives of some payload while a node is the innermost open one, in order. -/
def arriving (payload? : Event → Option String) (id : NodeId) :
    Builder → List SpannedEvent → List String
  | _, [] => []
  | builder, spanned :: rest =>
    (if builder.parent = id then (payload? spanned.event).toList else []) ++
      arriving payload? id (builder.push spanned) rest

/-- How the kind of a node changes while it takes in a payload: its tag stays, and the literal of a
block goes on with the payload. -/
structure Takes (kind other : Kind) (payload : String) : Prop where
  tag : other.tag = kind.tag
  literal : other.blockLiteral = kind.blockLiteral ++ payload

/-- A kind that stays takes in nothing. -/
theorem Takes.refl (kind : Kind) : Takes kind kind "" :=
  ⟨rfl, String.append_empty.symm⟩

/-- The kinds after an event: the innermost open node takes in what it collects, all others take in
nothing, and new nodes start with an empty literal. -/
structure Collected (builder : Builder) (event : Event) (doc : Document) : Prop where
  size : builder.doc.size ≤ doc.size
  old : ∀ id < builder.doc.size, Takes (builder.doc.kind id) (doc.kind id)
    (if builder.parent = id then ((builder.doc.kind id).collects? event).getD "" else "")
  new : ∀ id, ¬ id < builder.doc.size → (doc.kind id).blockLiteral = ""

/-- An id that was not handed out yet has an empty literal. -/
theorem blockLiteral_of_not_stored (outside : ¬ id < builder.doc.size) :
    (builder.doc.kind id).blockLiteral = "" := by
  rw [Document.kind, Document.node_of_not_stored outside]
  rfl

/-- An event that is not collected leaves all kinds as they are. -/
theorem collected_of_same {event : Event}
    (ignored : (builder.doc.kind builder.parent).collects? event = none) :
    Collected builder event builder.doc where
  size := Nat.le_refl _
  old id _ := by
    -- The innermost open node takes in what it collects of the event, which is nothing.
    split
    · next here =>
      rw [← here, ignored]
      exact .refl _
    · exact .refl _
  new _ outside := blockLiteral_of_not_stored outside

/-- A text that is continued is no block. -/
theorem collected_continued {event : Event} {last : NodeId} {sofar more : String} (stop : Nat)
    (kind : builder.doc.kind last = .text sofar) (stored : last < builder.doc.size)
    (ignored : (builder.doc.kind builder.parent).collects? event = none) :
    Collected builder event ((builder.doc.setKind last (.text more)).setStop last stop) := by
  have same := collected_of_same ignored
  have kinds : ∀ id, id ≠ last →
      ((builder.doc.setKind last (.text more)).setStop last stop).kind id = builder.doc.kind id := by
    intro id elsewhere
    rw [Document.kind_setStop, Document.kind_setKind stored, if_neg elsewhere]
  refine ⟨by simp [Document.setKind, Document.setStop], fun id here => ?_, fun id outside => ?_⟩
  · by_cases other : id = last
    · subst other
      have takes := (same.old id here).literal
      refine ⟨?_, ?_⟩ <;> rw [Document.kind_setStop, Document.kind_setKind stored, if_pos rfl]
      · rw [kind]
        rfl
      · -- Neither the old text nor the longer one has a literal of a block.
        rw [← takes, kind]
        rfl
    · rw [kinds id other]
      exact same.old id here
  · have other : id ≠ last := fun same => outside (same ▸ stored)
    rw [kinds id other]
    exact same.new id outside

namespace WellFormed

variable (wf : builder.WellFormed) {event : Event}
include wf

/-- An event that is not collected may make a leaf without a literal of a block. -/
theorem collected_addLeaf {kind : Kind} (span : Span) (empty : kind.blockLiteral = "")
    (ignored : (builder.doc.kind builder.parent).collects? event = none) :
    Collected builder event (builder.addLeaf kind span).doc := by
  have added := wf.added kind span
  -- All nodes there were keep their kinds, and the new one is no block with text in it.
  have same := collected_of_same ignored
  refine ⟨added.keepsNodes.size, fun id stored => ?_, fun id outside => ?_⟩
  · rw [added.keepsNodes.kind id stored]
    exact same.old id stored
  · rw [added.kind]
    split
    · exact empty
    · exact same.new id outside

/-- The innermost open node takes in a payload that it collects. -/
theorem collected_setKind {kind : Kind} (payload : String)
    (collects : (builder.doc.kind builder.parent).collects? event = some payload)
    (takes : Takes (builder.doc.kind builder.parent) kind payload) :
    Collected builder event (builder.doc.setKind builder.parent kind) := by
  refine ⟨Nat.le_of_eq (Document.size_update _ _ _).symm, fun id _ => ?_, fun id outside => ?_⟩
  · rw [Document.kind_setKind wf.parent_stored]
    -- The innermost open node takes in the payload, and no other node changes.
    by_cases here : id = builder.parent
    · subst here
      rw [if_pos rfl, if_pos rfl, collects]
      exact takes
    · rw [if_neg here, if_neg (Ne.symm here)]
      exact .refl _
  · have elsewhere : id ≠ builder.parent := fun same => outside (same ▸ wf.parent_stored)
    rw [Document.kind_setKind wf.parent_stored, if_neg elsewhere]
    exact blockLiteral_of_not_stored outside

/-- A text is collected by a code block and by nothing else. -/
theorem collected_text (payload : String) (span : Span) :
    Collected builder (.text payload) (builder.text payload span).doc := by
  -- Where no code block is open a text is not collected, whether it makes a leaf or not.
  have ignored : (∀ info sofar, ¬ builder.InCode info sofar) →
      (builder.doc.kind builder.parent).collects? (.text payload) = none := by
    intro noCode
    cases kind : builder.doc.kind builder.parent with
    | codeBlock info sofar => exact absurd kind (noCode info sofar)
    | _ => rfl
  rcases builder.text_cases payload span with ⟨info, sofar, block, made⟩ |
    ⟨last, sofar, noCode, continues, made⟩ | ⟨noCode, _, made⟩ <;> rw [made]
  · have kind : builder.doc.kind builder.parent = .codeBlock info sofar := block
    refine wf.collected_setKind payload ?_ ?_ <;> rw [kind]
    · rfl
    · exact ⟨rfl, rfl⟩
  · exact collected_continued _ continues.kind (wf.lastChild_stored continues.row)
      (ignored noCode)
  · exact wf.collected_addLeaf _ rfl (ignored noCode)

/-- Raw HTML is collected by an HTML block and by nothing else. -/
theorem collected_html (payload : String) (span : Span) :
    Collected builder (.html payload) (builder.html payload span).doc := by
  rcases builder.html_cases payload span with ⟨sofar, block, made⟩ | ⟨noHtml, made⟩ <;> rw [made]
  · have kind : builder.doc.kind builder.parent = .htmlBlock sofar := block
    refine wf.collected_setKind payload ?_ ?_ <;> rw [kind]
    · rfl
    · exact ⟨rfl, rfl⟩
  · refine wf.collected_addLeaf _ rfl ?_
    cases kind : builder.doc.kind builder.parent with
    | htmlBlock sofar => exact absurd kind (noHtml sofar)
    | _ => rfl

/-- What every event does to the kinds. -/
theorem collected_push (spanned : SpannedEvent) :
    Collected builder spanned.event (builder.push spanned).doc := by
  obtain ⟨event, span⟩ := spanned
  -- All events but texts and raw HTML are collected nowhere.
  have ignored : event.payload? = none →
      (builder.doc.kind builder.parent).collects? event = none := by
    intro none
    cases event <;> cases none <;> cases builder.doc.kind builder.parent <;> rfl
  cases event with
  | start container =>
    cases models : container.kind? with
    | none =>
      rw [push_start_none models]
      exact collected_of_same (ignored rfl)
    | some kind =>
      rw [push_start models]
      exact wf.collected_addLeaf span (Container.blockLiteral_eq models) (ignored rfl)
  | text payload => exact wf.collected_text payload span
  | html payload => exact wf.collected_html payload span
  | code literal => exact wf.collected_addLeaf span rfl (ignored rfl)
  | softBreak => exact wf.collected_addLeaf span rfl (ignored rfl)
  | hardBreak => exact wf.collected_addLeaf span rfl (ignored rfl)
  | rule => exact wf.collected_addLeaf span rfl (ignored rfl)
  | stop => exact collected_of_same (ignored rfl)
  | unmodelled => exact collected_of_same (ignored rfl)

/-- No event changes the tag of a node. -/
theorem tag_push_all (events : List SpannedEvent) (stored : id < builder.doc.size) :
    ((events.foldl Builder.push builder).doc.kind id).tag = (builder.doc.kind id).tag := by
  induction events generalizing builder with
  | nil => rfl
  | cons spanned rest ih =>
    have collected := wf.collected_push spanned
    -- The node is still stored after the first event, with the same tag.
    have later := ih (wf.push spanned) (Nat.lt_of_lt_of_le stored collected.size)
    exact later.trans (collected.old id stored).tag

/-- After any events, the literal of a block goes on with all that arrived of what it collects. -/
theorem blockLiteral_push_all (events : List SpannedEvent) {final : Kind}
    (last : (events.foldl Builder.push builder).doc.kind id = final) :
    final.blockLiteral = (builder.doc.kind id).blockLiteral ++
      String.join (arriving final.collects? id builder events) := by
  induction events generalizing builder with
  | nil => rw [← last, arriving, String.join_nil, String.append_empty]; rfl
  | cons spanned rest ih =>
    have collected := wf.collected_push spanned
    rw [ih (wf.push spanned) last, arriving, String.join_append, ← String.append_assoc]
    refine congrArg (· ++ _) ?_
    by_cases stored : id < builder.doc.size
    · -- What the block collects now is what it collects in the end, since its tag stays.
      have tag := wf.tag_push_all (spanned :: rest) stored
      rw [last] at tag
      rw [(collected.old id stored).literal, Kind.collects?_congr tag]
      split
      · cases (builder.doc.kind id).collects? spanned.event <;> simp
      · rfl
    · -- A node that is not there yet collects nothing, and starts with nothing.
      have elsewhere : builder.parent ≠ id := fun same => stored (same ▸ wf.parent_stored)
      rw [collected.new id stored, blockLiteral_of_not_stored stored, if_neg elsewhere]
      rfl

end WellFormed

/-- Nothing is joined exactly if every part is empty. -/
theorem join_eq_empty_iff {parts : List String} :
    String.join parts = "" ↔ ∀ part ∈ parts, part = "" := by
  induction parts with
  | nil => simp
  | cons part rest ih => rw [String.join_cons, String.append_eq_empty_iff, ih, List.forall_mem_cons]

/-- What arrives of all payloads is as long as the texts and the raw HTML together. -/
theorem length_arriving (id : NodeId) (builder : Builder) (events : List SpannedEvent) :
    (String.join (arriving Event.payload? id builder events)).length =
      (String.join (arriving Event.html? id builder events)).length +
        (String.join (arriving Event.text? id builder events)).length := by
  induction events generalizing builder with
  | nil => rfl
  | cons spanned rest ih =>
    simp only [arriving, String.join_append, String.length_append, ih]
    split
    · -- A payload is either that of a text or that of raw HTML.
      cases spanned.event <;>
        simp only [Event.payload?, Event.html?, Event.text?, Option.toList, String.join_nil,
          String.join_cons, String.append_empty, String.length_empty] <;> omega
    · simp only [String.join_nil, String.length_empty]
      omega

/-- All payloads that arrive come to the same text as the raw HTML alone exactly if all texts among
them are empty. -/
theorem join_arriving_iff (id : NodeId) (builder : Builder) (events : List SpannedEvent) :
    String.join (arriving Event.html? id builder events) =
        String.join (arriving Event.payload? id builder events) ↔
      ∀ text ∈ arriving Event.text? id builder events, text = "" := by
  rw [← join_eq_empty_iff]
  constructor
  · -- The texts have no length left if the raw HTML is as long as all payloads.
    intro same
    have lengths := length_arriving id builder events
    rw [← same] at lengths
    exact String.length_eq_zero_iff.mp (by omega)
  · intro empty
    induction events generalizing builder with
    | nil => rfl
    | cons spanned rest ih =>
      simp only [arriving, String.join_append, String.append_eq_empty_iff] at empty ⊢
      rw [ih _ empty.2]
      refine congrArg (· ++ _) ?_
      -- An empty text adds nothing to the payloads, and all others are raw HTML.
      have first := empty.1
      split at first
      · next here =>
        rw [if_pos here, if_pos here]
        cases kind : spanned.event <;> simp_all [Event.text?, Event.html?, Event.payload?]
      · next elsewhere => rw [if_neg elsewhere, if_neg elsewhere]

/-- In an HTML block a text leaves the literal and goes to a text node, the last child of the block.
-/
theorem push_text_of_inHtml (wf : builder.WellFormed) {sofar : String}
    (block : builder.InHtml sofar) (payload : String) (span : Span) :
    let after := builder.push ⟨.text payload, span⟩
    after.InHtml sofar ∧ ∃ last before, after.doc.lastChild builder.parent = some last ∧
      after.doc.kind last = .text (before ++ payload) := by
  intro after
  have kind : builder.doc.kind builder.parent = .htmlBlock sofar := block
  rcases builder.text_cases payload span with ⟨info, code, isCode, _⟩ |
    ⟨last, before, _, continues, made⟩ | ⟨_, _, made⟩
  · -- An HTML block is no code block.
    exact Kind.noConfusion (kind.symm.trans isCode)
  · have stored := wf.lastChild_stored continues.row
    have other := (wf.doc.ne_of_mem (wf.doc.mem_of_lastChild continues.row)).2
    have links := (Document.sameLinks_setKind builder.doc last (.text (before ++ payload))).trans
      (Document.sameLinks_setStop _ last span.stop)
    rw [show after = _ from made]
    refine ⟨?_, last, before, ?_, ?_⟩
    · show ((builder.doc.setKind last _).setStop last span.stop).kind builder.parent = _
      rw [Document.kind_setStop, Document.kind_setKind stored, if_neg (Ne.symm other), kind]
    · rw [links.lastChild, continues.row]
    · rw [Document.kind_setStop, Document.kind_setKind stored, if_pos rfl]
  · have added := wf.added (.text payload) span
    rw [show after = _ from made]
    refine ⟨?_, builder.doc.size, "", added.lastChild_parent, ?_⟩
    · show (builder.addLeaf (.text payload) span).doc.kind builder.parent = _
      rw [added.keepsNodes.kind _ wf.parent_stored, kind]
    · rw [added.kind, if_pos rfl, String.empty_append]

end Builder

/--
A code block collects all texts that arrive while it is the innermost open node, an HTML block all
raw HTML; an HTML block collects all payloads that arrive exactly if the texts among them are empty.

What a block collects goes to the end of its literal and makes no node. A text that arrives in an
HTML block goes to a text node below the block instead.
-/
theorem block_collects_all_iff (source : String) (events : List SpannedEvent) :
    let builder := events.foldl Builder.push (.ofSource source)
    let arrived := fun payload? id => Builder.arriving payload? id (.ofSource source) events
    (∀ id info literal, builder.doc.kind id = .codeBlock info literal →
      literal = String.join (arrived Event.text? id)) ∧
    (∀ id literal, builder.doc.kind id = .htmlBlock literal →
      literal = String.join (arrived Event.html? id) ∧
      (literal = String.join (arrived Event.payload? id) ↔
        ∀ text ∈ arrived Event.text? id, text = "")) ∧
    (∀ info sofar payload span, builder.InCode info sofar →
      builder.push ⟨.text payload, span⟩ = { builder with
        doc := builder.doc.setKind builder.parent (.codeBlock info (sofar ++ payload)) }) ∧
    (∀ sofar payload span, builder.InHtml sofar →
      builder.push ⟨.html payload, span⟩ = { builder with
        doc := builder.doc.setKind builder.parent (.htmlBlock (sofar ++ payload)) }) ∧
    (∀ sofar payload span, builder.InHtml sofar →
      let after := builder.push ⟨.text payload, span⟩
      after.InHtml sofar ∧ ∃ last before, after.doc.lastChild builder.parent = some last ∧
        after.doc.kind last = .text (before ++ payload)) := by
  intro builder arrived
  have start := Builder.wellFormed_ofSource source
  have wf : builder.WellFormed := start.push_all events
  -- No node of the empty document is a block, so a literal is just what was collected.
  have empty : ∀ id, ((Builder.ofSource source).doc.kind id).blockLiteral = "" := by
    intro id
    cases id <;> rfl
  refine ⟨fun id info literal kind => ?_, fun id literal kind => ?_,
    fun _ _ payload span block => Builder.push_text_of_inCode block payload span,
    fun _ payload span block => Builder.push_html_of_inHtml block payload span,
    fun _ payload span block => Builder.push_text_of_inHtml wf block payload span⟩
  · have collected := start.blockLiteral_push_all events kind
    rw [empty, String.empty_append] at collected
    exact collected
  · have collected := start.blockLiteral_push_all events kind
    rw [empty, String.empty_append] at collected
    have literal' : literal = String.join (arrived Event.html? id) := collected
    rw [literal']
    exact ⟨rfl, Builder.join_arriving_iff id _ events⟩

/-- The blanks before the tag of an HTML block arrive as a text, and the block does not collect them.
-/
theorem blanks_before_tag_not_collected :
    let opened := (Builder.ofSource "  <div>\n  x").push ⟨.start .htmlBlock, ⟨2, 11⟩⟩
    let events : List SpannedEvent := [⟨.text "  ", ⟨2, 2⟩⟩, ⟨.html "<div>\n", ⟨2, 8⟩⟩,
      ⟨.html "  x", ⟨8, 11⟩⟩]
    let builder := events.foldl Builder.push opened
    opened.doc.kind opened.parent = .htmlBlock "" ∧
      Builder.arriving Event.payload? 1 opened events = ["  ", "<div>\n", "  x"] ∧
      builder.doc.kind 1 = .htmlBlock "<div>\n  x" ∧
      builder.doc.children 1 = [2] ∧ builder.doc.kind 2 = .text "  " := by
  decide +kernel

end MarkdownTree
