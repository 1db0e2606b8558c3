import MarkdownTree.Proofs.Processing.Builtin
import MarkdownTree.Proofs.Processing.ImageRun
import MarkdownTree.Proofs.Processing.LateMarker
import MarkdownTree.Proofs.Processing.OneWalk
import MarkdownTree.Proofs.Processing.QueuedImage
import MarkdownTree.Proofs.Processing.Unmarked

/-! Second walks: when a walk of both processors over what the first one left finds nothing to do.
-/

namespace MarkdownTree

open Alert (Late Marked Rewritten markerAt?)
open ImageLink (Due Mended Occurs Queued Repair)

variable {doc alerted other : Document} {repairs : List Repair} {repair : Repair}
  {quote paragraph : NodeId} {blocks rest : List NodeId}

/-- What a walk of both processors leaves: alerts for all marked quotes, then all repairs that are
due. -/
structure Processed (doc alerted : Document) (repairs : List Repair) (other : Document) : Prop where
  alerts : Rewritten doc (Alert.markedQuotes doc) alerted
  images : Mended alerted repairs other
  due : ∀ repair, repair ∈ repairs ↔ Due alerted repairs repair

/-- A walk of both processors leaves what it should. -/
theorem ProcessorSet.run_processed (wf : doc.WellFormed) (journal : Journal) :
    ∃ alerted repairs, Processed doc alerted repairs (standard.run doc journal).doc := by
  have alerts := Alert.run_rewritten wf []
  have wf' := alerts.wellFormed
  have made := (run_both (List.mem_cons_self : standard ∈ eitherOrder) wf journal).2
  have made' := (run_alone Alert.accepted rfl wf []).2
  have made'' := (run_alone ImageLink.accepted rfl wf' []).2
  obtain ⟨repairs, done, due⟩ := ImageLink.run_done wf' []
  have fewer := @images_sublist (doc, 0) wf (tagged doc .blockQuote)
  rw [← made'] at made fewer
  -- The images that the alerts leave in the tree are visited in the old order.
  have attached : ∀ id ∈ tagged doc .imageRef,
      (run [Alert.processor] doc []).doc.isAttached id →
        id ∈ tagged (run [Alert.processor] doc []).doc .imageRef := by
    intro id member hangs
    obtain ⟨before, isImage⟩ := (mem_tagged wf).mp member
    have kind := alerts.keepsNodes.kind id (wf.lt_size_of_isAttached before)
    exact (mem_tagged wf').mpr ⟨hangs, (congrArg Kind.tag kind).trans isImage⟩
  have distinct : (tagged doc .imageRef).Nodup := (wf.descendants_nodup _).filter _
  have skipped := @turns_images ((run [Alert.processor] doc []).doc,
    (run [Alert.processor] doc []).patched) wf' _ _ fewer distinct attached
  rw [skipped] at made
  -- What was counted before does not matter for the document.
  have shifted := ImageLink.processor.turns_count (run [Alert.processor] doc []).doc 0
    (run [Alert.processor] doc []).patched (tagged (run [Alert.processor] doc []).doc .imageRef)
  rw [Nat.zero_add, ← made''] at shifted
  have same : (standard.run doc journal).doc = _ := congrArg Prod.fst (made.trans shifted)
  exact ⟨_, repairs, alerts, same ▸ done.mended, due⟩

namespace Processed

variable (wf : doc.WellFormed) (processed : Processed doc alerted repairs other)
include wf processed

/-- Late markers are not touched by the alerts. -/
theorem late_iff : Late alerted quote paragraph blocks repair rest ↔
    Late doc quote paragraph blocks repair rest := by
  have agree : ∀ id < doc.size, alerted.kind id = doc.kind id ∧
      markerAt? alerted id = markerAt? doc id := by
    intro id stored
    have keeps := processed.alerts.keepsNodes
    exact ⟨keeps.kind id stored, Alert.markerAt?_congr keeps.source (keeps.span id stored)⟩
  -- The rows of a quote that is not replaced stay, and so does the kind of what is in them.
  have stays : doc.parent quote = some Document.root → Alert.process doc quote = none →
      alerted.parent quote = some Document.root ∧
        alerted.children quote = doc.children quote ∧
        (∀ id ∈ doc.children quote, alerted.children id = doc.children id) ∧
        ∀ id, id = quote ∨ id ∈ doc.children quote ∨ id ∈ doc.children paragraph →
          alerted.kind id = doc.kind id ∧ markerAt? alerted id = markerAt? doc id := by
    intro parent none
    have stored := Document.lt_size_of_parent parent
    have fresh := Alert.not_mem_markedQuotes none
    obtain ⟨row, inner⟩ := processed.alerts.children_waiting wf parent fresh
    refine ⟨(processed.alerts.parent_root_iff wf stored fresh).mpr parent, row, inner,
      fun id member => agree id ?_⟩
    rcases member with same | outer | inner
    · exact same ▸ stored
    · exact wf.linked.lt_size outer
    · exact wf.linked.lt_size inner
  constructor
  · intro late
    obtain ⟨_, parent, none⟩ := processed.alerts.waiting wf late.quoted.kind late.quoted.parent
    obtain ⟨_, row, inner, same⟩ := stays parent none
    have member : paragraph ∈ doc.children quote := by simp [← row, late.quoted.children]
    refine late.congr (fun id here => ?_) parent row.symm (inner paragraph member).symm none
    rw [row, inner paragraph member] at here
    exact ⟨(same id here).1.symm, (same id here).2.symm⟩
  · intro late
    obtain ⟨parent, row, inner, same⟩ := stays late.quoted.parent late.unmarked
    have member : paragraph ∈ doc.children quote := by simp [late.quoted.children]
    exact late.congr same parent row (inner paragraph member) (processed.alerts.unmarked wf quote)

omit wf in
/-- The repair of a late marker is due: around its image there are only the paragraph, the quote and
the root. -/
theorem late_mem (late : Late alerted quote paragraph blocks repair rest) : repair ∈ repairs := by
  have wf' := processed.alerts.wellFormed
  have paragraphIn : paragraph ∈ alerted.children quote := by simp [late.quoted.children]
  have imageIn : repair.image ∈ alerted.children paragraph := by simp [late.row]
  have attached := wf'.isWithin_child imageIn
    (wf'.isWithin_child paragraphIn (wf'.isAttached_of_parent late.quoted.parent))
  have around : ∀ {top}, top ≠ repair.image → alerted.isWithin top repair.image →
      top = paragraph ∨ top = quote ∨ top = Document.root := by
    intro top different within
    have within := wf'.isWithin_above (wf'.linked.parent.mpr imageIn) different within
    by_cases isParagraph : top = paragraph
    · exact Or.inl isParagraph
    have within := wf'.isWithin_above (wf'.linked.parent.mpr paragraphIn) isParagraph within
    by_cases isQuote : top = quote
    · exact Or.inr (Or.inl isQuote)
    have within := wf'.isWithin_above late.quoted.parent isQuote within
    exact Or.inr (Or.inr (wf'.isWithin_root within))
  refine (processed.due repair).mpr ⟨attached, late.occurs wf', fun made member drops => ?_⟩
  -- None of the three is the right bracket or the link of a repair.
  have occurs := processed.images.occurs made member
  have apart := late.fits.place_ne occurs.fits
  obtain ⟨_, _, right, link⟩ := Alert.plain_of_fits occurs.fits
  obtain ⟨parent, _, _, rightAbove, linkAbove⟩ := occurs.parents wf'
  have none : ∀ {top}, Alert.Plain alerted top → alerted.parent top = some parent →
      ¬ (top = paragraph ∨ top = quote ∨ top = Document.root) := by
    rintro top plain above (rfl | rfl | rfl)
    · exact plain.kind_ne.1 late.quoted.text
    · exact plain.kind_ne.2.1 late.quoted.kind
    · exact wf'.ne_root above rfl
  rcases drops with within | ⟨_, within⟩
  · exact none right rightAbove (around apart.2.2.2.1.symm within)
  · exact none link linkAbove (around apart.2.2.2.2.1.symm within)

/-- The images that are in brackets before a link once all is done are the queued ones that are
still in the tree. -/
theorem images_silent_iff : (∀ node, other.isAttached node → ImageLink.process other node = none) ↔
    ∀ repair made, Queued doc repair made → ¬ other.isAttached repair.image := by
  have wf' := processed.alerts.wellFormed
  have due := fun repair => (processed.due repair).mpr
  constructor
  · intro silent repair made queued attached
    -- A queued image in the tree hangs from a node, since it did before.
    have hangs := ((processed.images.isAttached_iff wf').mp attached).1
    obtain ⟨_, parent, above⟩ := wf.parent_next queued.closes
    obtain ⟨_, above', _⟩ := (wf'.isWithin_iff.mp hangs).resolve_left (wf.ne_root above).symm
    have queued' := queued.in_rewritten wf processed.alerts (by simp [above'])
    have occurs := (processed.images.occurs_iff_queued wf' due attached).mpr ⟨made, queued'⟩
    have answer := (ImageLink.process_eq_some_iff_occurs processed.images.wellFormed).mpr
      ⟨repair, occurs, rfl, rfl⟩
    rw [silent _ attached] at answer
    cases answer
  · intro none node attached
    refine Option.eq_none_iff_forall_ne_some.mpr fun patch answer => ?_
    obtain ⟨repair, occurs, rfl, _⟩ :=
      (ImageLink.process_eq_some_iff_occurs processed.images.wellFormed).mp answer
    obtain ⟨made, queued⟩ := (processed.images.occurs_iff_queued wf' due attached).mp occurs
    exact none repair made (queued.of_rewritten wf processed.alerts) attached

/-- The quotes that are marked once all is done are those with a late marker. -/
theorem alerts_silent_iff : (∀ node, other.isAttached node → Alert.process other node = none) ↔
    ∀ quote paragraph blocks repair rest, ¬ Late doc quote paragraph blocks repair rest := by
  have wf' := processed.alerts.wellFormed
  have wf'' := processed.images.wellFormed
  have marked_iff := fun quote =>
    processed.images.marked_iff_late wf' (processed.alerts.unmarked wf quote)
  constructor
  · intro silent quote paragraph blocks repair rest late
    -- The marker is still late once the alerts are there, and then its repair is made.
    have late' := (processed.late_iff wf).mpr late
    obtain ⟨paragraph, blocks, alert, marked⟩ := (marked_iff quote).mpr
      ⟨repair, processed.late_mem late', paragraph, blocks, rest, late'⟩
    have answer := (Alert.process_eq_some_iff wf'').mpr ⟨_, _, _, marked, rfl⟩
    rw [silent quote (wf''.isAttached_of_parent marked.parent)] at answer
    cases answer
  · intro none quote _
    rw [← Option.not_isSome_iff_eq_none, Alert.isSome_process_iff wf'', marked_iff]
    rintro ⟨repair, _, paragraph, blocks, rest, late⟩
    exact none _ _ _ _ _ ((processed.late_iff wf).mp late)

end Processed

/-- A walk of both processors is silent when neither has anything to answer about a node of the
tree. -/
theorem ProcessorSet.silent_standard_iff (wf : doc.WellFormed) : standard.Silent doc ↔
    (∀ node, doc.isAttached node → ImageLink.process doc node = none) ∧
      ∀ node, doc.isAttached node → Alert.process doc node = none := by
  constructor
  · intro silent
    -- A walk asks about the nodes with tags that the processor lists.
    have ask : ∀ processor ∈ standard, ∀ node, doc.isAttached node →
        (doc.kind node).tag ∈ processor.tags → processor.process doc node = none := by
      intro processor member node attached tagged
      refine silent node ?_ processor (mem_forTag.mpr ⟨member, tagged⟩)
      refine List.mem_filter.mpr ⟨wf.mem_descendants_root.mpr attached, ?_⟩
      exact List.any_eq_true.mpr ⟨processor, member, by simpa using tagged⟩
    constructor
    · intro node attached
      -- About other nodes the processor has nothing to answer.
      by_cases tag : (doc.kind node).tag = .imageRef
      · exact ask ImageLink.processor (by simp [standard]) node attached
          (by simp [ImageLink.processor, tag])
      · simp [ImageLink.process, tag]
    · intro node attached
      by_cases kind : doc.kind node = .blockQuote
      · exact ask Alert.processor (by simp [standard]) node attached
          (by simp [Alert.processor, kind, Kind.tag])
      · simp [Alert.process, kind]
  · rintro ⟨images, alerts⟩ node member processor listed
    have attached := wf.mem_descendants_root.mp (List.mem_filter.mp member).1
    rcases mem_standard.mp (mem_forTag.mp listed).1 with rfl | rfl
    · exact alerts node attached
    · exact images node attached

/--
A second walk of both processors finds nothing to do exactly if the first one left no image that had
been queued in the tree, and no marker came late.

An image is queued when it stands in brackets before another image in brackets before a link: the
repair of that one lets the link stand after it, where the first walk has been already. A marker
comes late when it is in a link that a repair lets stand first in the paragraph of a quote that was
no alert. The second walk then makes at least one patch; otherwise it makes none, reports nothing
and leaves the document as it is.
-/
theorem second_walk_idle_iff {doc : Document} (reachable : doc.Reachable)
    (journal journal' : Journal) :
    let first := ProcessorSet.standard.run doc journal
    let second := ProcessorSet.standard.run first.doc journal'
    second.refusal = none ∧
    (second.patched = 0 ∧ second.journal = journal' ∧ second.doc = first.doc ↔
      (∀ repair made, Queued doc repair made → ¬ first.doc.isAttached repair.image) ∧
      ∀ quote paragraph blocks repair rest, ¬ Late doc quote paragraph blocks repair rest) := by
  intro first second
  have wf := reachable.wellFormed
  obtain ⟨alerted, repairs, processed⟩ := ProcessorSet.run_processed wf journal
  have wf' := processed.images.wellFormed
  have either : ProcessorSet.standard ∈ eitherOrder := List.mem_cons_self
  have accepted : ∀ processor ∈ ProcessorSet.standard, processor.Accepted := by
    intro processor member
    have which : processor = Alert.processor ∨ processor = ImageLink.processor := by
      simpa [ProcessorSet.standard] using member
    rcases which with rfl | rfl
    · exact Alert.accepted
    · exact ImageLink.accepted
  -- The second walk starts from what the first one left.
  have silent := (ProcessorSet.silent_standard_iff wf').trans
    (and_congr (processed.images_silent_iff wf) (processed.alerts_silent_iff wf))
  refine ⟨(run_both either wf' journal').1, Iff.trans ?_ silent⟩
  constructor
  · intro idle
    exact (ProcessorSet.patched_eq_zero_iff accepted wf' journal').mp idle.1
  · intro silent
    obtain ⟨visited, same⟩ := ProcessorSet.run_of_silent silent journal'
    have ends : second = _ := same
    rw [ends]
    exact ⟨rfl, rfl, rfl⟩

/-- A second walk leaves an image in its link alone. -/
theorem image_in_link_left_alone :
    let doc := List.foldl Document.after (.ofSource "a [![i]][l]")
      [.create .paragraph ⟨0, 11⟩, .create (.text "a ") ⟨0, 2⟩, .create (.text "[") ⟨2, 3⟩,
        .create (.imageRef ⟨"i", ""⟩ "i") ⟨3, 7⟩, .create (.text "]") ⟨7, 8⟩,
        .create (.linkRef ⟨"l", ""⟩ "l") ⟨8, 11⟩, .move (.append Document.root 1),
        .move (.append 1 2), .move (.append 1 3), .move (.append 1 4), .move (.append 1 5),
        .move (.append 1 6)]
    let first := ProcessorSet.standard.run doc []
    let second := ProcessorSet.standard.run first.doc []
    first.patched = 1 ∧ second.patched = 0 ∧ second.doc = first.doc := by
  intro doc first second
  have images : ∀ id < doc.size, (doc.kind id).tag = .imageRef → id = 4 := by decide +kernel
  have quotes : ∀ id < doc.size, doc.kind id ≠ .blockQuote := by decide +kernel
  have unqueued : ∀ repair made, Queued doc repair made → ¬ first.doc.isAttached repair.image := by
    intro repair made queued _
    -- After the only image stands a right bracket, and after that the link.
    have image := images _ (Alert.plain_of_fits queued.fits).2.1.stored queued.fits.image
    have right : doc.next 4 = some 5 := by decide +kernel
    have link : doc.next 5 = some 6 := by decide +kernel
    have isRight := Option.some.inj (right.symm.trans (image ▸ queued.closes))
    have isLeft := Option.some.inj (link.symm.trans (isRight ▸ queued.beside))
    have kind : doc.kind 6 ≠ .text "[" := by decide +kernel
    exact kind (isLeft ▸ queued.occurs.fits.left)
  have inTime : ∀ quote paragraph blocks repair rest,
      ¬ Late doc quote paragraph blocks repair rest := fun quote _ _ _ _ late =>
    quotes quote (Document.lt_size_of_parent late.quoted.parent) late.quoted.kind
  obtain ⟨patched, _, same⟩ :=
    (@second_walk_idle_iff doc ⟨_, _, rfl⟩ [] []).2.mpr ⟨unqueued, inTime⟩
  exact ⟨by decide +kernel, patched, same⟩

/-- Of two images in brackets before one link, a second walk puts the first into the link as well,
in the place of the other. -/
theorem queued_image_moved_by_second_walk :
    let doc := List.foldl Document.after
      (.ofSource "\\[![a][i]\\]\\[![b][i]\\][l]\n\n[i]: /i\n[l]: /l\n")
      [.create .paragraph ⟨0, 26⟩, .create (.text "[") ⟨1, 2⟩,
        .create (.imageRef ⟨"/i", ""⟩ "i") ⟨2, 9⟩, .create (.text "a") ⟨4, 5⟩,
        .create (.text "]") ⟨10, 11⟩, .create (.text "[") ⟨12, 13⟩,
        .create (.imageRef ⟨"/i", ""⟩ "i") ⟨13, 20⟩, .create (.text "b") ⟨15, 16⟩,
        .create (.text "]") ⟨21, 22⟩, .create (.linkRef ⟨"/l", ""⟩ "l") ⟨22, 25⟩,
        .create (.text "l") ⟨23, 24⟩, .move (.append Document.root 1), .move (.append 1 2),
        .move (.append 1 3), .move (.append 3 4), .move (.append 1 5), .move (.append 1 6),
        .move (.append 1 7), .move (.append 7 8), .move (.append 1 9), .move (.append 1 10),
        .move (.append 10 11)]
    let first := ProcessorSet.standard.run doc []
    let second := ProcessorSet.standard.run first.doc []
    first.patched = 1 ∧ first.doc.children 10 = [7] ∧
      second.patched = 1 ∧ second.doc.children 10 = [3] := by
  decide +kernel

end MarkdownTree
