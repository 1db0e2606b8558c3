import MarkdownTree.Proofs.Processing.Patch

/-! Turns: a walk is a fold of single turns, one processor at one node, when no patch is refused. -/

namespace MarkdownTree

open Document (KeepsNodes)

/-- A patch keeps the kind and span of every node, also where it is refused. -/
theorem Patch.keepsNodes {doc : Document} (wf : doc.WellFormed) (patch : Patch)
    (journal : Journal) : KeepsNodes doc (patch.apply doc journal).doc := by
  -- Moves need a well-formed document, so the two are kept together.
  have both : (patch.apply doc journal).doc.WellFormed ∧
      KeepsNodes doc (patch.apply doc journal).doc := by
    refine @Patch.apply_keeps (fun other => other.WellFormed ∧ KeepsNodes doc other)
      ?_ ?_ doc ⟨wf, (Document.SameNodes.refl doc).keepsNodes⟩ patch journal
    · intro other kind span both
      obtain ⟨wf, keeps⟩ := both
      exact ⟨(wf.create kind span).1, keeps.trans (Document.keepsNodes_create other kind span)⟩
    · intro other move next both moved
      obtain ⟨wf, keeps⟩ := both
      have reshaped := wf.move moved
      exact ⟨reshaped.wellFormed, keeps.trans reshaped.nodes.keepsNodes⟩
  exact both.2

/-- What a patch leaves does not depend on what was reported before. -/
theorem Patch.doc_apply (patch : Patch) (doc : Document) (journal journal' : Journal) :
    (patch.apply doc journal).doc = (patch.apply doc journal').doc := by
  unfold Patch.apply
  dsimp only
  -- Only what is reported is put after what was reported before.
  split <;> rfl

/-- Without an answer nothing happens, but the question counts. -/
theorem Progress.offer_of_none (progress : Progress) {processor : Processor} {node : NodeId}
    (answer : processor.process progress.doc node = none) :
    progress.offer processor node = { progress with visited := progress.visited + 1 } := by
  simp only [offer, answer]

/-- An answer that is not refused is made, and counts. -/
theorem Progress.offer_of_some (progress : Progress) {processor : Processor} {node : NodeId}
    {patch : Patch} (answer : processor.process progress.doc node = some patch)
    (accepted : (patch.apply progress.doc progress.journal).refusal = none) :
    progress.offer processor node =
      { doc := (patch.apply progress.doc progress.journal).doc
        journal := (patch.apply progress.doc progress.journal).journal
        visited := progress.visited + 1
        patched := progress.patched + 1 } := by
  simp only [offer, answer, accepted, Option.isNone_none, if_true]

namespace Processor

/-- A turn of a processor at a node, with the patches counted: if the node hangs in the tree and the
processor answers with a patch, that is applied. -/
def turn (processor : Processor) (tally : Document × Nat) (node : NodeId) : Document × Nat :=
  if tally.1.isAttached node then
    match processor.process tally.1 node with
    | some patch => ((patch.apply tally.1 []).doc, tally.2 + 1)
    | none => tally
  else tally

/-- No patch of the processor is refused by a well-formed document. -/
def Accepted (processor : Processor) : Prop :=
  ∀ doc node patch, doc.WellFormed → processor.process doc node = some patch →
    ∀ journal, (patch.apply doc journal).refusal = none

variable {processor : Processor}

/-- A turn with an answer applies it. -/
theorem turn_of_some {doc : Document} {node : NodeId} {patch : Patch}
    (attached : doc.isAttached node) (answer : processor.process doc node = some patch)
    (count : Nat) : processor.turn (doc, count) node = ((patch.apply doc []).doc, count + 1) := by
  simp only [turn, attached, answer, if_true]

/-- A turn without an answer does nothing. -/
theorem turn_of_idle {doc : Document} {node : NodeId}
    (idle : ∀ patch, doc.isAttached node → processor.process doc node ≠ some patch) (count : Nat) :
    processor.turn (doc, count) node = (doc, count) := by
  unfold turn
  split
  · next attached =>
    rw [Option.eq_none_iff_forall_ne_some.mpr fun patch => idle patch attached]
  · rfl

/-- A turn leaves a well-formed document with the old nodes. -/
theorem turn_keeps (processor : Processor) (tally : Document × Nat) (wf : tally.1.WellFormed)
    (node : NodeId) : (processor.turn tally node).1.WellFormed ∧
      KeepsNodes tally.1 (processor.turn tally node).1 := by
  unfold turn
  -- A turn that is not idle applies one patch.
  split
  · split
    · next patch _ => exact ⟨wf.apply patch [], patch.keepsNodes wf []⟩
    · exact ⟨wf, (Document.SameNodes.refl _).keepsNodes⟩
  · exact ⟨wf, (Document.SameNodes.refl _).keepsNodes⟩

/-- Turns at several nodes leave a well-formed document with the old nodes. -/
theorem turns_keep (processor : Processor) (tally : Document × Nat) (wf : tally.1.WellFormed)
    (nodes : List NodeId) : (nodes.foldl processor.turn tally).1.WellFormed ∧
      KeepsNodes tally.1 (nodes.foldl processor.turn tally).1 := by
  induction nodes generalizing tally with
  | nil => exact ⟨wf, (Document.SameNodes.refl _).keepsNodes⟩
  | cons node rest ih =>
    obtain ⟨wf', keeps⟩ := processor.turn_keeps tally wf node
    obtain ⟨wf'', keeps'⟩ := ih _ wf'
    exact ⟨wf'', keeps.trans keeps'⟩

/-- Turns do not look at how many patches were made before. -/
theorem turns_count (processor : Processor) (doc : Document) (count more : Nat)
    (nodes : List NodeId) : nodes.foldl processor.turn (doc, count + more) =
      ((nodes.foldl processor.turn (doc, count)).1,
        (nodes.foldl processor.turn (doc, count)).2 + more) := by
  induction nodes generalizing doc count with
  | nil => rfl
  | cons node rest ih =>
    -- A turn counts one more or none, whatever the count is.
    have one : processor.turn (doc, count + more) node =
        ((processor.turn (doc, count) node).1, (processor.turn (doc, count) node).2 + more) := by
      unfold turn
      split
      · cases processor.process doc node with
        | none => rfl
        | some patch => exact congrArg (Prod.mk _) (Nat.add_right_comm count more 1)
      · rfl
    rw [List.foldl_cons, List.foldl_cons, one, ih]

/-- At a node in the tree, a walk that goes on makes the turn. -/
theorem offer_eq_turn (accepted : processor.Accepted) {progress : Progress}
    (wf : progress.doc.WellFormed) (going : progress.refusal = none) {node : NodeId}
    (attached : progress.doc.isAttached node) :
    (progress.offer processor node).refusal = none ∧
      ((progress.offer processor node).doc, (progress.offer processor node).patched) =
        processor.turn (progress.doc, progress.patched) node := by
  unfold turn
  rw [if_pos attached]
  cases answer : processor.process progress.doc node with
  | none =>
    -- The question counts as a visit, which a turn does not look at.
    rw [progress.offer_of_none answer]
    exact ⟨going, rfl⟩
  | some patch =>
    -- The patch is not refused, so the walk goes on and the patch counts.
    rw [progress.offer_of_some answer (accepted _ _ _ wf answer _),
      patch.doc_apply progress.doc progress.journal []]
    exact ⟨rfl, rfl⟩

end Processor

namespace ProcessorSet

/-- The turns of the processors of a node's tag. -/
def turn (set : ProcessorSet) (tally : Document × Nat) (node : NodeId) : Document × Nat :=
  let processors := set.forTag (tally.1.kind node).tag
  processors.foldl (fun tally processor => processor.turn tally node) tally

/-- Offering a node to processors is a turn of each. -/
theorem offerAll_eq_turns {processors : List Processor}
    (accepted : ∀ processor ∈ processors, processor.Accepted) {progress : Progress}
    (wf : progress.doc.WellFormed) (going : progress.refusal = none) {node : NodeId} {tag : Tag}
    (stored : node < progress.doc.size) (tagged : (progress.doc.kind node).tag = tag) :
    (offerAll tag node progress processors).refusal = none ∧
      ((offerAll tag node progress processors).doc,
        (offerAll tag node progress processors).patched) =
        processors.foldl (fun tally processor => processor.turn tally node)
          (progress.doc, progress.patched) := by
  unfold offerAll
  induction processors generalizing progress with
  | nil => exact ⟨going, rfl⟩
  | cons processor rest ih =>
    rw [List.foldl_cons, List.foldl_cons]
    have later : ∀ processor ∈ rest, processor.Accepted := fun processor member =>
      accepted processor (List.mem_cons_of_mem _ member)
    -- The walk goes on and the tag stays, so only whether the node is in the tree matters.
    have same : (progress.refusal.isNone && progress.doc.isAttached node
        && (progress.doc.kind node).tag == tag) = progress.doc.isAttached node := by
      simp [going, tagged]
    rw [same]
    cases attached : progress.doc.isAttached node with
    | false =>
      -- Outside the tree neither the walk nor the turn does anything.
      have stays : processor.turn (progress.doc, progress.patched) node =
          (progress.doc, progress.patched) := if_neg (by simp [attached])
      rw [stays]
      exact ih later wf going stored tagged
    | true =>
      obtain ⟨going', made⟩ := Processor.offer_eq_turn (accepted processor List.mem_cons_self) wf
        going attached
      have kept := processor.turn_keeps (progress.doc, progress.patched) wf node
      rw [← made] at kept ⊢
      exact ih later kept.1 going' (Nat.lt_of_lt_of_le stored kept.2.size)
        ((congrArg Kind.tag (kept.2.kind node stored)).trans tagged)

/-- The turns of a set leave a well-formed document with the old nodes. -/
theorem turn_keeps (set : ProcessorSet) (tally : Document × Nat) (wf : tally.1.WellFormed)
    (node : NodeId) :
    (set.turn tally node).1.WellFormed ∧ KeepsNodes tally.1 (set.turn tally node).1 := by
  unfold turn
  induction set.forTag (tally.1.kind node).tag generalizing tally with
  | nil => exact ⟨wf, (Document.SameNodes.refl _).keepsNodes⟩
  | cons processor rest ih =>
    obtain ⟨wf', keeps⟩ := processor.turn_keeps tally wf node
    obtain ⟨wf'', keeps'⟩ := ih _ wf'
    exact ⟨wf'', keeps.trans keeps'⟩

/-- Visiting nodes one after another makes a turn at each, when no patch is refused. -/
theorem visits_eq_turns {set : ProcessorSet} (accepted : ∀ processor ∈ set, processor.Accepted)
    {progress : Progress} (wf : progress.doc.WellFormed) (going : progress.refusal = none)
    {nodes : List NodeId} (stored : ∀ id ∈ nodes, id < progress.doc.size) :
    (nodes.foldl set.visit progress).refusal = none ∧
      ((nodes.foldl set.visit progress).doc, (nodes.foldl set.visit progress).patched) =
        nodes.foldl set.turn (progress.doc, progress.patched) := by
  have asked : ∀ tag, ∀ processor ∈ set.forTag tag, processor.Accepted := by
    intro tag processor member
    obtain ⟨processor', member', here⟩ := List.mem_flatMap.mp member
    obtain ⟨_, _, same⟩ := List.mem_map.mp here
    exact same ▸ accepted _ member'
  induction nodes generalizing progress with
  | nil => exact ⟨going, rfl⟩
  | cons node rest ih =>
    obtain ⟨going', made⟩ := offerAll_eq_turns (asked (progress.doc.kind node).tag) wf going
      (stored node List.mem_cons_self) rfl
    have made' : ((set.visit progress node).doc, (set.visit progress node).patched) =
        set.turn (progress.doc, progress.patched) node := made
    -- The turn leaves what the walk needs to go on: a well-formed document with the old nodes.
    have kept := set.turn_keeps (progress.doc, progress.patched) wf node
    rw [List.foldl_cons, List.foldl_cons]
    rw [← made'] at kept ⊢
    exact ih kept.1 going' fun id member =>
      Nat.lt_of_lt_of_le (stored id (List.mem_cons_of_mem node member)) kept.2.size

/-- A walk of processors of which no patch is refused is a fold of their turns. -/
theorem run_eq_turns {set : ProcessorSet} (accepted : ∀ processor ∈ set, processor.Accepted)
    {doc : Document} (wf : doc.WellFormed) (journal : Journal) :
    (set.run doc journal).refusal = none ∧
      ((set.run doc journal).doc, (set.run doc journal).patched) =
        ((doc.descendants Document.root).filter fun id => set.handles (doc.kind id).tag).foldl
          set.turn (doc, 0) := by
  refine @visits_eq_turns _ accepted { doc, journal } wf rfl _ fun id member => ?_
  have attached := wf.mem_descendants_root.mp (List.mem_filter.mp member).1
  exact wf.lt_size_of_isAttached attached

/-- The turns of a set of one processor are its own turns where nodes have its only tag. -/
theorem turns_alone {processor : Processor} {tag : Tag} (only : processor.tags = [tag])
    {tally : Document × Nat} (wf : tally.1.WellFormed) {nodes : List NodeId}
    (each : ∀ id ∈ nodes, id < tally.1.size ∧ (tally.1.kind id).tag = tag) :
    nodes.foldl (turn [processor]) tally = nodes.foldl processor.turn tally := by
  induction nodes generalizing tally with
  | nil => rfl
  | cons node rest ih =>
    obtain ⟨_, tagged⟩ := each node List.mem_cons_self
    -- The node has the tag, and the set asks this processor once about it.
    have one : turn [processor] tally node = processor.turn tally node := by
      simp [turn, forTag, only, tagged]
    obtain ⟨wf', keeps⟩ := processor.turn_keeps tally wf node
    rw [List.foldl_cons, List.foldl_cons, one]
    refine ih wf' fun id member => ?_
    obtain ⟨old, tagged⟩ := each id (List.mem_cons_of_mem node member)
    exact ⟨Nat.lt_of_lt_of_le old keeps.size, (keeps.kind id old).symm ▸ tagged⟩

/-- The nodes of a tree that have a tag, in document order. -/
def tagged (doc : Document) (tag : Tag) : List NodeId :=
  (doc.descendants Document.root).filter fun id => (doc.kind id).tag == tag

/-- Tagged nodes are stored nodes of the tag. -/
theorem mem_tagged {doc : Document} (wf : doc.WellFormed) {tag : Tag} {id : NodeId} :
    id ∈ tagged doc tag ↔ doc.isAttached id ∧ (doc.kind id).tag = tag := by
  rw [tagged, List.mem_filter, wf.mem_descendants_root, beq_iff_eq]

/-- A walk of one processor with one tag is a fold of its turns over the nodes of the tag. -/
theorem run_alone {processor : Processor} (accepted : processor.Accepted) {tag : Tag}
    (only : processor.tags = [tag]) {doc : Document} (wf : doc.WellFormed) (journal : Journal) :
    (run [processor] doc journal).refusal = none ∧
      ((run [processor] doc journal).doc, (run [processor] doc journal).patched) =
        (tagged doc tag).foldl processor.turn (doc, 0) := by
  obtain ⟨going, made⟩ := run_eq_turns (fun other member => List.mem_singleton.mp member ▸ accepted)
    wf journal
  -- The set looks at the nodes of its one tag.
  have chosen : ((doc.descendants Document.root).filter fun id =>
      handles [processor] (doc.kind id).tag) = tagged doc tag := by
    refine List.filter_congr fun id _ => ?_
    simp [handles, only, Bool.beq_eq_decide_eq]
  refine ⟨going, made.trans ?_⟩
  rw [chosen]
  refine turns_alone only wf fun id member => ?_
  obtain ⟨attached, isTagged⟩ := (mem_tagged wf).mp member
  exact ⟨wf.lt_size_of_isAttached attached, isTagged⟩

end ProcessorSet

end MarkdownTree
