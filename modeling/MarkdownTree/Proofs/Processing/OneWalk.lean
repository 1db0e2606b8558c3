import MarkdownTree.Proofs.Processing.AlertOrder
import MarkdownTree.Proofs.Processing.Commute
import MarkdownTree.Proofs.Processing.Reachable

/-! One walk for alerts and images makes what a walk for alerts and then one for images make. -/

namespace MarkdownTree

open Document (KeepsNodes)
open ProcessorSet (tagged mem_tagged)

/-- Old nodes are within no old node after a turn for an alert within which they were not before. -/
theorem Alert.isWithin_of_turn {tally : Document × Nat} (wf : tally.1.WellFormed)
    {quote top id : NodeId} (old : top < tally.1.size) (stored : id < tally.1.size)
    (within : (processor.turn tally quote).1.isWithin top id) : tally.1.isWithin top id := by
  by_cases isMarked : ∃ paragraph blocks alert, Marked tally.1 quote paragraph blocks alert
  · obtain ⟨paragraph, blocks, alert, marked⟩ := isMarked
    obtain ⟨other, replaced, turned⟩ := marked.turn wf
    rw [show processor.turn tally quote = _ from turned tally.2] at within
    exact (replaced.rewritten wf marked).isWithin_of_isWithin wf old stored within
  · -- Without an alert nothing changes.
    rw [show processor.turn tally quote = _ from turn_of_not_marked wf isMarked tally.2] at within
    exact within

/-- Nodes are within no quote after a turn for an image within which they were not before, nor do
they hang from the root if they did not. -/
theorem ImageLink.isWithin_of_turn {tally : Document × Nat} (wf : tally.1.WellFormed)
    {image top id : NodeId} (notLink : (tally.1.kind top).tag = .blockQuote ∨ top = Document.root)
    (within : (processor.turn tally image).1.isWithin top id) : tally.1.isWithin top id := by
  by_cases active : tally.1.isAttached image ∧ ∃ left right link parent before after,
      Bracketed tally.1 image left right link parent before after
  · obtain ⟨hangs, left, right, link, parent, before, after, bracketed⟩ := active
    obtain ⟨other, reshaped, turned⟩ := bracketed.turn wf hangs
    rw [show processor.turn tally image = _ from turned tally.2] at within
    refine bracketed.isWithin_of_isWithin wf reshaped ?_ within
    intro same
    -- The link is neither a quote nor the root.
    rcases notLink with isQuote | isRoot
    · have isLink := bracketed.link
      rw [← same, isQuote] at isLink
      cases isLink
    · exact wf.ne_root (wf.linked.parent.mpr bracketed.mem_row.2.2.2) (same.symm.trans isRoot)
  · rw [show processor.turn tally image = _ from turn_of_not_bracketed wf active tally.2] at within
    exact within

/-- A turn at an image may wait until quotes outside which it is are rewritten. -/
theorem turns_after_image {tally : Document × Nat} (wf : tally.1.WellFormed) {image : NodeId}
    (stored : image < tally.1.size) {quotes : List NodeId}
    (each : ∀ quote ∈ quotes, quote < tally.1.size ∧ ¬ tally.1.isWithin quote image) :
    quotes.foldl Alert.processor.turn (ImageLink.processor.turn tally image) =
      ImageLink.processor.turn (quotes.foldl Alert.processor.turn tally) image := by
  induction quotes generalizing tally with
  | nil => rfl
  | cons quote rest ih =>
    -- The image is put off past the first quote, and by induction past the others.
    obtain ⟨wf', keeps⟩ := Alert.processor.turn_keeps tally wf quote
    rw [List.foldl_cons, List.foldl_cons,
      turns_commute wf stored (each quote List.mem_cons_self).2 tally.2]
    refine ih wf' (Nat.lt_of_lt_of_le stored keeps.size) fun later member => ?_
    obtain ⟨old, outside⟩ := each later (List.mem_cons_of_mem quote member)
    exact ⟨Nat.lt_of_lt_of_le old keeps.size, fun within =>
      outside (Alert.isWithin_of_turn wf old stored within)⟩

/-- The two orders in which both processors can be registered. -/
def eitherOrder : List ProcessorSet :=
  [[Alert.processor, ImageLink.processor], [ImageLink.processor, Alert.processor]]

/-- With both processors, quotes are looked at for alerts and images for brackets. -/
theorem turn_both {set : ProcessorSet} (either : set ∈ eitherOrder) (tally : Document × Nat)
    (node : NodeId) : set.turn tally node =
      match (tally.1.kind node).tag with
      | .blockQuote => Alert.processor.turn tally node
      | .imageRef => ImageLink.processor.turn tally node
      | _ => tally := by
  -- No tag is that of both, so the order makes no difference.
  unfold ProcessorSet.turn
  simp only [eitherOrder, List.mem_cons, List.not_mem_nil, or_false] at either
  rcases either with rfl | rfl <;> cases (tally.1.kind node).tag <;> rfl

/-- Old nodes are within no quote after a turn within which they were not before. -/
theorem isWithin_of_turn {set : ProcessorSet} (either : set ∈ eitherOrder)
    {tally : Document × Nat} (wf : tally.1.WellFormed) {node quote id : NodeId}
    (isQuote : (tally.1.kind quote).tag = .blockQuote) (old : quote < tally.1.size)
    (stored : id < tally.1.size) (within : (set.turn tally node).1.isWithin quote id) :
    tally.1.isWithin quote id := by
  rw [turn_both either] at within
  split at within
  · exact Alert.isWithin_of_turn wf old stored within
  · exact ImageLink.isWithin_of_turn wf (Or.inl isQuote) within
  · exact within

/-- The turns of both processors come to those at all quotes and then those at all images, when no
image comes before a quote that it is within. -/
theorem turns_both {set : ProcessorSet} (either : set ∈ eitherOrder) (tags : NodeId → Tag)
    {tally : Document × Nat} (wf : tally.1.WellFormed) {nodes : List NodeId}
    (each : ∀ id ∈ nodes, id < tally.1.size ∧ (tally.1.kind id).tag = tags id)
    (apart : nodes.Pairwise fun earlier later =>
      tags later = .blockQuote → ¬ tally.1.isWithin later earlier) :
    nodes.foldl set.turn tally =
      (nodes.filter fun id => tags id == .imageRef).foldl ImageLink.processor.turn
        ((nodes.filter fun id => tags id == .blockQuote).foldl Alert.processor.turn tally) := by
  induction nodes generalizing tally with
  | nil => rfl
  | cons node rest ih =>
    obtain ⟨stored, tag⟩ := each node List.mem_cons_self
    obtain ⟨before, apart⟩ := List.pairwise_cons.mp apart
    obtain ⟨wf', keeps⟩ := set.turn_keeps tally wf node
    have each' : ∀ id ∈ rest, id < (set.turn tally node).1.size ∧
        ((set.turn tally node).1.kind id).tag = tags id := by
      intro id member
      obtain ⟨old, tag⟩ := each id (List.mem_cons_of_mem node member)
      exact ⟨Nat.lt_of_lt_of_le old keeps.size, (keeps.kind id old).symm ▸ tag⟩
    -- A turn puts no node into a later quote that was outside it.
    have apart' : rest.Pairwise fun earlier later => tags later = .blockQuote →
        ¬ (set.turn tally node).1.isWithin later earlier := by
      refine apart.imp_of_mem fun {earlier later} here there outside isQuote within => ?_
      obtain ⟨old, _⟩ := each earlier (List.mem_cons_of_mem node here)
      obtain ⟨old', tag'⟩ := each later (List.mem_cons_of_mem node there)
      exact outside isQuote
        (isWithin_of_turn either wf (tag'.trans isQuote) old' old within)
    rw [List.foldl_cons, ih wf' each' apart', turn_both either tally node, tag]
    -- The first node is a quote, or an image, or neither of them.
    split
    · next isQuote => simp [isQuote]
    · next isImage =>
      simp only [isImage, List.filter_cons, beq_self_eq_true, if_true, List.foldl_cons]
      -- The turn at the image waits until all quotes are done.
      rw [turns_after_image wf stored fun quote member => ?_]
      · rfl
      · obtain ⟨here, isQuote⟩ := List.mem_filter.mp member
        exact ⟨(each quote (List.mem_cons_of_mem node here)).1,
          before quote here (by simpa using isQuote)⟩
    · next notQuote notImage =>
      rw [List.filter_cons_of_neg (by simpa using notQuote),
        List.filter_cons_of_neg (by simpa using notImage)]

/-- After turns for alerts, the images still in the tree are in the old order. -/
theorem images_sublist {tally : Document × Nat} (wf : tally.1.WellFormed) (quotes : List NodeId) :
    (tagged (quotes.foldl Alert.processor.turn tally).1 .imageRef).Sublist
      (tagged tally.1 .imageRef) := by
  induction quotes generalizing tally with
  | nil => exact List.Sublist.refl _
  | cons quote rest ih =>
    refine (ih (Alert.processor.turn_keeps tally wf quote).1).trans ?_
    by_cases isMarked : ∃ paragraph blocks alert, Alert.Marked tally.1 quote paragraph blocks alert
    · obtain ⟨paragraph, blocks, alert, marked⟩ := isMarked
      obtain ⟨other, replaced, turned⟩ := marked.turn wf
      rw [show Alert.processor.turn tally quote = _ from turned tally.2]
      -- The alert is no image, and the old nodes have their kinds.
      have old : tagged other .imageRef = ((other.descendants Document.root).filter fun id =>
          id ≠ tally.1.size).filter fun id => (tally.1.kind id).tag == .imageRef := by
        rw [tagged, List.filter_filter]
        refine List.filter_congr fun id _ => ?_
        rw [replaced.kind]
        by_cases new : id = tally.1.size <;> simp [new, Kind.tag]
      rw [old]
      exact (Alert.descendants_root wf replaced marked).filter _
    · rw [show Alert.processor.turn tally quote = _ from
        Alert.turn_of_not_marked wf isMarked tally.2]

/-- Turns for images may leave out images that are not in the tree. -/
theorem turns_images {tally : Document × Nat} (wf : tally.1.WellFormed) {few many : List NodeId}
    (fewer : few.Sublist many) (distinct : many.Nodup)
    (attached : ∀ id ∈ many, tally.1.isAttached id → id ∈ few) :
    many.foldl ImageLink.processor.turn tally = few.foldl ImageLink.processor.turn tally := by
  induction fewer generalizing tally with
  | slnil => rfl
  | cons image fewer ih =>
    obtain ⟨fresh, distinct⟩ := List.nodup_cons.mp distinct
    -- The image is not in the tree, so its turn is idle.
    have idle : ImageLink.processor.turn tally image = tally := by
      refine Processor.turn_of_idle (fun _ hangs _ => fresh ?_) tally.2
      exact fewer.subset (attached image List.mem_cons_self hangs)
    rw [List.foldl_cons, idle]
    exact ih wf distinct fun id member => attached id (List.mem_cons_of_mem image member)
  | cons_cons image _ ih =>
    obtain ⟨fresh, distinct⟩ := List.nodup_cons.mp distinct
    rw [List.foldl_cons, List.foldl_cons]
    refine ih (ImageLink.processor.turn_keeps tally wf image).1 distinct fun id member hangs => ?_
    -- What hangs from the root afterwards did so before.
    have before := ImageLink.isWithin_of_turn wf (Or.inr rfl) hangs
    have one := attached id (List.mem_cons_of_mem image member) before
    rcases List.mem_cons.mp one with same | here
    · exact absurd member (same ▸ fresh)
    · exact here

/-- A walk of both processors is a fold of turns at the quotes and then at the images. -/
theorem run_both {set : ProcessorSet} (either : set ∈ eitherOrder) {doc : Document}
    (wf : doc.WellFormed) (journal : Journal) :
    (set.run doc journal).refusal = none ∧
      ((set.run doc journal).doc, (set.run doc journal).patched) =
        (tagged doc .imageRef).foldl ImageLink.processor.turn
          ((tagged doc .blockQuote).foldl Alert.processor.turn (doc, 0)) := by
  -- Neither processor makes a patch that is refused.
  have accepted : ∀ processor ∈ set, processor.Accepted := by
    intro processor member
    have both : processor = Alert.processor ∨ processor = ImageLink.processor := by
      simp only [eitherOrder, List.mem_cons, List.not_mem_nil, or_false] at either
      rcases either with same | same <;> rw [same] at member <;> simp at member <;> tauto
    rcases both with same | same
    · exact same ▸ Alert.accepted
    · exact same ▸ ImageLink.accepted
  have handled : ∀ tag, set.handles tag = (tag == .blockQuote || tag == .imageRef) := by
    intro tag
    simp only [eitherOrder, List.mem_cons, List.not_mem_nil, or_false] at either
    rcases either with same | same <;> rw [same] <;> cases tag <;> rfl
  obtain ⟨going, made⟩ := ProcessorSet.run_eq_turns accepted wf journal
  -- Of the nodes that are visited, those of either tag are in document order.
  have chosen : ∀ tag, tag = .blockQuote ∨ tag = .imageRef →
      (((doc.descendants Document.root).filter fun id => set.handles (doc.kind id).tag).filter
        fun id => (doc.kind id).tag == tag) = tagged doc tag := by
    intro tag isOne
    rw [List.filter_filter]
    refine List.filter_congr fun id _ => ?_
    rw [Bool.and_eq_left_iff_imp, handled]
    intro same
    rcases isOne with one | one <;> simp [one, eq_of_beq same]
  refine ⟨going, made.trans ?_⟩
  rw [turns_both either (fun id => (doc.kind id).tag) wf, chosen _ (Or.inl rfl),
    chosen _ (Or.inr rfl)]
  · intro id member
    have attached := wf.mem_descendants_root.mp (List.mem_filter.mp member).1
    exact ⟨wf.lt_size_of_isAttached attached, rfl⟩
  · refine ((wf.descendants_pairwise Document.root).filter _).imp ?_
    exact fun {earlier later} outside _ => outside

/--
One walk with both processors leaves what a walk for alerts and then one for images leave.

The two walks leave the same document, with the same nodes in and out of the tree, and make as many
patches together as the one does. It does not matter in which order the processors are registered.
-/
theorem one_walk_is_two {doc : Document} (reachable : doc.Reachable) {set : ProcessorSet}
    (either : set ∈ eitherOrder) (journal journal' journal'' : Journal) :
    let both := set.run doc journal
    let alerts := ProcessorSet.run [Alert.processor] doc journal'
    let images := ProcessorSet.run [ImageLink.processor] alerts.doc journal''
    both.refusal = none ∧ alerts.refusal = none ∧ images.refusal = none ∧
      both.doc = images.doc ∧ both.patched = alerts.patched + images.patched := by
  intro both alerts images
  have wf := reachable.wellFormed
  obtain ⟨going, made⟩ := run_both either wf journal
  obtain ⟨going', made'⟩ := ProcessorSet.run_alone Alert.accepted rfl wf journal'
  have kept := Alert.processor.turns_keep (doc, 0) wf (tagged doc .blockQuote)
  have fewer := @images_sublist (doc, 0) wf (tagged doc .blockQuote)
  rw [← made'] at kept fewer
  obtain ⟨going'', made''⟩ := ProcessorSet.run_alone ImageLink.accepted rfl kept.1 journal''
  refine ⟨going, going', going'', ?_⟩
  -- The second walk has all images that the first one leaves in the tree.
  have attached : ∀ id ∈ tagged doc .imageRef, alerts.doc.isAttached id →
      id ∈ tagged alerts.doc .imageRef := by
    intro id member hangs
    obtain ⟨before, isImage⟩ := (mem_tagged wf).mp member
    have kind := kept.2.kind id (wf.lt_size_of_isAttached before)
    exact (mem_tagged kept.1).mpr ⟨hangs, (congrArg Kind.tag kind).trans isImage⟩
  have distinct : (tagged doc .imageRef).Nodup := (wf.descendants_nodup _).filter _
  rw [← made', turns_images kept.1 fewer distinct attached] at made
  -- The second walk counts from where the first one stopped.
  have shifted := ImageLink.processor.turns_count alerts.doc 0 alerts.patched
    (tagged alerts.doc .imageRef)
  rw [Nat.zero_add, ← made''] at shifted
  have ends := made.trans shifted
  exact ⟨congrArg Prod.fst ends, (congrArg Prod.snd ends).trans (Nat.add_comm _ _)⟩

/-- An alert whose body is a bracketed image: one walk makes the patches of both walks. -/
theorem one_walk_over_image_in_alert :
    let doc := List.foldl Document.after (.ofSource "> [!NOTE]\n> [![i]][l]")
      [.create .blockQuote ⟨0, 21⟩, .create .paragraph ⟨2, 21⟩, .create (.text "[!NOTE]") ⟨2, 9⟩,
        .create .softBreak ⟨9, 10⟩, .create (.text "[") ⟨12, 13⟩,
        .create (.imageRef ⟨"i", ""⟩ "i") ⟨13, 17⟩, .create (.text "]") ⟨17, 18⟩,
        .create (.linkRef ⟨"l", ""⟩ "l") ⟨18, 21⟩, .move (.append Document.root 1),
        .move (.append 1 2), .move (.append 2 3), .move (.append 2 4), .move (.append 2 5),
        .move (.append 2 6), .move (.append 2 7), .move (.append 2 8)]
    let both := ProcessorSet.run [ImageLink.processor, Alert.processor] doc []
    let alerts := ProcessorSet.run [Alert.processor] doc []
    let images := ProcessorSet.run [ImageLink.processor] alerts.doc []
    both.doc = images.doc ∧ both.patched = 2 ∧ both.doc.children 2 = [8] := by
  intro doc both alerts images
  obtain ⟨_, _, _, same, patched⟩ := @one_walk_is_two doc ⟨_, _, rfl⟩
    [ImageLink.processor, Alert.processor] (by simp [eitherOrder]) [] [] []
  refine ⟨same, patched.trans ?_, ?_⟩
  · decide +kernel
  · decide +kernel

end MarkdownTree
