import MarkdownTree.Proofs.Processing.Asked
import MarkdownTree.Proofs.Processing.Reachable
import MarkdownTree.Proofs.Processing.Turn

/-! Records of walks: every question that a walk asks, in order, with the document as it is then. -/

namespace MarkdownTree

open Document (KeepsNodes)

/-- A question of a walk: a processor is asked about a node of a document. -/
structure Question where
  processor : Processor
  node : NodeId
  doc : Document

/-- What the processor answers. -/
def Question.answer (question : Question) : Option Patch :=
  question.processor.process question.doc question.node

/-- A walk on its way, with all that it has asked so far. -/
structure Recorded where
  progress : Progress
  questions : List Question := []

namespace Recorded

/-- Asks one processor about one node, and writes the question down. -/
def offer (walk : Recorded) (processor : Processor) (node : NodeId) : Recorded :=
  { progress := walk.progress.offer processor node
    questions := walk.questions ++ [⟨processor, node, walk.progress.doc⟩] }

/-- Asks what is due, if its node hangs in the tree at that moment. -/
def attend (walk : Recorded) (due : Processor × NodeId) : Recorded :=
  if walk.progress.doc.isAttached due.2 then walk.offer due.1 due.2 else walk

/-- What has been asked, without the documents. -/
def asked (walk : Recorded) : List (Processor × NodeId) :=
  walk.questions.map fun question => (question.processor, question.node)

end Recorded

namespace ProcessorSet

/-- Asks processors about one node as a walk does, and writes every question down. -/
def recordAll (tag : Tag) (node : NodeId) (walk : Recorded) (processors : List Processor) :
    Recorded :=
  processors.foldl (fun walk processor =>
    if walk.progress.refusal.isNone && walk.progress.doc.isAttached node
        && (walk.progress.doc.kind node).tag == tag then
      walk.offer processor node
    else
      walk) walk

/-- Visits one node as a walk does. -/
def recordVisit (set : ProcessorSet) (walk : Recorded) (node : NodeId) : Recorded :=
  let tag := (walk.progress.doc.kind node).tag
  recordAll tag node walk (set.forTag tag)

/-- Walks a document once, and writes every question down. -/
def record (set : ProcessorSet) (doc : Document) (journal : Journal) : Recorded :=
  (set.candidates doc).foldl set.recordVisit { progress := { doc, journal } }

/-- What is due at a node: the processors of the tag it has, in order. -/
def due (set : ProcessorSet) (doc : Document) (node : NodeId) : List (Processor × NodeId) :=
  (set.forTag (doc.kind node).tag).map fun processor => (processor, node)

/-- What is due in a walk over a document as it is at the start, in document order. -/
def agenda (set : ProcessorSet) (doc : Document) : List (Processor × NodeId) :=
  (doc.descendants Document.root).flatMap (set.due doc)

variable {set : ProcessorSet} {doc : Document} {journal : Journal} {walk : Recorded}
  {processor : Processor} {processors : List Processor} {node : NodeId} {nodes : List NodeId}
  {tag : Tag}

/-- Writing the questions down changes nothing for one node. -/
theorem recordAll_progress : (recordAll tag node walk processors).progress =
    offerAll tag node walk.progress processors := by
  unfold recordAll offerAll
  -- Both ask under the same condition, which does not look at the questions before.
  refine (List.foldl_hom Recorded.progress fun walk processor => ?_).symm
  split <;> rfl

/-- Writing the questions down changes nothing for any nodes. -/
theorem recordVisits_progress : (nodes.foldl set.recordVisit walk).progress =
    nodes.foldl set.visit walk.progress := by
  induction nodes generalizing walk with
  | nil => rfl
  | cons node rest ih =>
    have first : (set.recordVisit walk node).progress = set.visit walk.progress node :=
      recordAll_progress
    rw [List.foldl_cons, List.foldl_cons, ih, first]

/-- A recorded walk is the walk. -/
theorem record_progress (set : ProcessorSet) (doc : Document) (journal : Journal) :
    (set.record doc journal).progress = set.run doc journal :=
  recordVisits_progress

section keeps

variable (Holds : Recorded → Prop)

/-- What every question about a node keeps, the questions about it keep. -/
theorem recordAll_keeps (holds : Holds walk)
    (step : ∀ walk, Holds walk → walk.progress.refusal = none →
      walk.progress.doc.isAttached node → (walk.progress.doc.kind node).tag = tag →
      ∀ processor ∈ processors, Holds (walk.offer processor node)) :
    Holds (recordAll tag node walk processors) := by
  unfold recordAll
  induction processors generalizing walk with
  | nil => exact holds
  | cons processor rest ih =>
    rw [List.foldl_cons]
    refine ih ?_ fun walk holds going attached tagged processor member =>
      step walk holds going attached tagged processor (List.mem_cons_of_mem _ member)
    -- A processor is only asked while the node is in the tree with its tag.
    split
    · next asked =>
      simp only [Bool.and_eq_true, Option.isNone_iff_eq_none, beq_iff_eq] at asked
      exact step walk holds asked.1.1 asked.1.2 asked.2 processor List.mem_cons_self
    · exact holds

/-- What every question of a walk keeps, the walk keeps. -/
theorem record_keeps (start : Holds { progress := { doc, journal } })
    (step : ∀ walk processor node, Holds walk → walk.progress.refusal = none → processor ∈ set →
      (walk.progress.doc.kind node).tag ∈ processor.tags → walk.progress.doc.isAttached node →
      Holds (walk.offer processor node)) : Holds (set.record doc journal) := by
  unfold record
  refine List.foldlRecOn _ _ start fun walk holds node _ => ?_
  refine recordAll_keeps Holds holds fun other holds going attached tagged processor member => ?_
  obtain ⟨listed, handled⟩ := mem_forTag.mp member
  exact step other processor node holds going listed (tagged ▸ handled) attached

end keeps

end ProcessorSet

/-- A question that a walk of some processors may ask: the document is well formed, the processor is
one of them, and the node hangs in the tree and has one of its tags. -/
structure Question.Proper (set : ProcessorSet) (question : Question) : Prop where
  wellFormed : question.doc.WellFormed
  listed : question.processor ∈ set
  tagged : (question.doc.kind question.node).tag ∈ question.processor.tags
  attached : question.doc.isAttached question.node

/-- Asking leaves a well-formed document with the old nodes. -/
theorem Recorded.offer_keepsNodes {walk : Recorded} (wf : walk.progress.doc.WellFormed)
    (processor : Processor) (node : NodeId) :
    (walk.offer processor node).progress.doc.WellFormed ∧
      KeepsNodes walk.progress.doc (walk.offer processor node).progress.doc :=
  @Progress.offer_keeps (fun other => other.WellFormed ∧ KeepsNodes walk.progress.doc other)
    (fun patch _ journal holds =>
      ⟨holds.1.apply patch journal, holds.2.trans (patch.keepsNodes holds.1 journal)⟩)
    walk.progress ⟨wf, (Document.SameNodes.refl _).keepsNodes⟩ processor node

/-- What holds all along a walk of some processors over a document. -/
structure Recorded.Sound (set : ProcessorSet) (doc : Document) (walk : Recorded) : Prop where
  wellFormed : walk.progress.doc.WellFormed
  keepsNodes : KeepsNodes doc walk.progress.doc
  proper : ∀ question ∈ walk.questions, question.Proper set
  visited : walk.progress.visited = walk.questions.length
  patched : walk.progress.refusal = none →
    walk.progress.patched = walk.questions.countP fun question => question.answer.isSome

namespace Recorded.Sound

variable {set : ProcessorSet} {doc : Document} {walk : Recorded} {processor : Processor}
  {node : NodeId}

/-- A walk is sound at its start. -/
theorem start (wf : doc.WellFormed) (set : ProcessorSet) (journal : Journal) :
    Sound set doc { progress := { doc, journal } } where
  wellFormed := wf
  keepsNodes := (Document.SameNodes.refl doc).keepsNodes
  proper _ member := absurd member List.not_mem_nil
  visited := rfl
  patched _ := rfl

/-- A question that may be asked keeps a walk sound. -/
theorem offer (sound : Sound set doc walk) (going : walk.progress.refusal = none)
    (proper : Question.Proper set ⟨processor, node, walk.progress.doc⟩) :
    Sound set doc (walk.offer processor node) where
  wellFormed := (offer_keepsNodes sound.wellFormed processor node).1
  keepsNodes := sound.keepsNodes.trans (offer_keepsNodes sound.wellFormed processor node).2
  proper question member := by
    rcases List.mem_append.mp member with before | last
    · exact sound.proper question before
    · exact List.mem_singleton.mp last ▸ proper
  visited := by
    have counted := sound.visited
    simp only [Recorded.offer, Progress.offer, List.length_append, List.length_singleton]
    split <;> simp [counted]
  patched accepted := by
    have counted := sound.patched going
    have asked : Question.answer ⟨processor, node, walk.progress.doc⟩ =
      processor.process walk.progress.doc node := rfl
    simp only [Recorded.offer, List.countP_append, List.countP_singleton, asked] at accepted ⊢
    cases answer : processor.process walk.progress.doc node with
    | none => simp [Progress.offer_of_none _ answer, counted]
    | some patch =>
      -- A patch that is refused ends the walk, so this one was not.
      have made : (patch.apply walk.progress.doc walk.progress.journal).refusal = none := by
        simpa [Progress.offer, answer] using accepted
      simp [Progress.offer_of_some _ answer made, counted]

/-- A walk is sound as a whole. -/
theorem record (wf : doc.WellFormed) (set : ProcessorSet) (journal : Journal) :
    Sound set doc (set.record doc journal) :=
  ProcessorSet.record_keeps (Sound set doc) (start wf set journal)
    fun _ _ _ sound going listed tagged attached =>
      sound.offer going ⟨sound.wellFormed, listed, tagged, attached⟩

end Recorded.Sound

namespace ProcessorSet

variable {set : ProcessorSet} {doc : Document} {walk : Recorded} {processors : List Processor}
  {node : NodeId} {nodes : List NodeId} {tag : Tag}

/-- A walk that was refused a patch asks nothing more about the node. -/
theorem recordAll_of_refused (refused : walk.progress.refusal ≠ none) :
    recordAll tag node walk processors = walk := by
  have ended : walk.progress.refusal.isNone = false :=
    Option.isNone_eq_false_iff.mpr (Option.isSome_iff_ne_none.mpr refused)
  unfold recordAll
  induction processors with
  | nil => rfl
  | cons processor rest ih =>
    rw [List.foldl_cons, ended]
    exact ih

/-- A walk that was refused a patch asks nothing more about any node. -/
theorem recordVisits_of_refused (refused : walk.progress.refusal ≠ none) :
    nodes.foldl set.recordVisit walk = walk := by
  induction nodes with
  | nil => rfl
  | cons node rest ih =>
    rw [List.foldl_cons, recordVisit, recordAll_of_refused refused]
    exact ih

/-- If no patch is refused, the processors of a node are asked in order, each one if the node hangs
in the tree at that moment. -/
theorem recordAll_eq (wf : walk.progress.doc.WellFormed) (stored : node < walk.progress.doc.size)
    (tagged : (walk.progress.doc.kind node).tag = tag)
    (completed : (recordAll tag node walk processors).progress.refusal = none) :
    recordAll tag node walk processors =
      (processors.map fun processor => (processor, node)).foldl Recorded.attend walk := by
  induction processors generalizing walk with
  | nil => rfl
  | cons processor rest ih =>
    -- A refusal would have ended the walk here and now.
    have going : walk.progress.refusal = none := by
      by_contra refused
      rw [recordAll_of_refused refused] at completed
      exact refused completed
    -- The tag stays what it was, so only whether the node is in the tree matters.
    have first : recordAll tag node walk (processor :: rest) =
        recordAll tag node (walk.attend (processor, node)) rest := by
      simp [recordAll, Recorded.attend, going, tagged]
    rw [first] at completed ⊢
    rw [List.map_cons, List.foldl_cons]
    unfold Recorded.attend at completed ⊢
    split
    · next attached =>
      rw [if_pos attached] at completed
      obtain ⟨wf', keeps⟩ := Recorded.offer_keepsNodes wf processor node
      exact ih wf' (Nat.lt_of_lt_of_le stored keeps.size)
        ((congrArg Kind.tag (keeps.kind node stored)).trans tagged) completed
    · next loose =>
      rw [if_neg loose] at completed
      exact ih wf stored tagged completed

/-- If no patch is refused, what is due at the start is asked in order, as long as its node hangs in
the tree at that moment. -/
theorem recordVisits_eq (wf : walk.progress.doc.WellFormed)
    (keeps : KeepsNodes doc walk.progress.doc) (stored : ∀ node ∈ nodes, node < doc.size)
    (completed : (nodes.foldl set.recordVisit walk).progress.refusal = none) :
    nodes.foldl set.recordVisit walk =
      (nodes.flatMap (set.due doc)).foldl Recorded.attend walk := by
  induction nodes generalizing walk with
  | nil => rfl
  | cons node rest ih =>
    have here := stored node List.mem_cons_self
    -- A node of the start still has the kind that it had.
    have kind := keeps.kind node here
    have going : (set.recordVisit walk node).progress.refusal = none := by
      by_contra refused
      rw [List.foldl_cons, recordVisits_of_refused refused] at completed
      exact refused completed
    have first : set.recordVisit walk node = (set.due doc node).foldl Recorded.attend walk := by
      rw [due, ← kind]
      exact recordAll_eq wf (Nat.lt_of_lt_of_le here keeps.size) rfl going
    have kept : (set.recordVisit walk node).progress.doc.WellFormed ∧
        KeepsNodes doc (set.recordVisit walk node).progress.doc := by
      refine recordAll_keeps (fun walk => walk.progress.doc.WellFormed ∧
        KeepsNodes doc walk.progress.doc) ⟨wf, keeps⟩ fun walk holds _ _ _ processor _ => ?_
      obtain ⟨wf', keeps'⟩ := Recorded.offer_keepsNodes holds.1 processor node
      exact ⟨wf', holds.2.trans keeps'⟩
    rw [List.flatMap_cons, List.foldl_append, ← first]
    exact ih kept.1 kept.2 (fun id member => stored id (List.mem_cons_of_mem node member)) completed

/-- Nothing is due at a node of a tag that no processor lists. -/
theorem due_of_not_handled (other : ¬ set.handles (doc.kind node).tag) : set.due doc node = [] := by
  rw [due, List.map_eq_nil_iff, List.eq_nil_iff_forall_not_mem]
  intro processor member
  obtain ⟨listed, tagged⟩ := mem_forTag.mp member
  refine other (List.any_eq_true.mpr ⟨processor, listed, ?_⟩)
  simpa using tagged

/-- What is due, is due at the nodes that a walk goes through. -/
theorem agenda_eq (set : ProcessorSet) (doc : Document) :
    set.agenda doc = (set.candidates doc).flatMap (set.due doc) := by
  unfold agenda candidates
  induction doc.descendants Document.root with
  | nil => rfl
  | cons node rest ih =>
    rw [List.flatMap_cons, ih, List.filter_cons]
    split
    · rw [List.flatMap_cons]
    · next other => rw [due_of_not_handled other, List.nil_append]

/-- A walk that completes asks what is due, each time if the node hangs in the tree. -/
theorem record_eq (wf : doc.WellFormed) {journal : Journal}
    (completed : (set.run doc journal).refusal = none) :
    set.record doc journal =
      (set.agenda doc).foldl Recorded.attend { progress := { doc, journal } } := by
  rw [agenda_eq]
  refine recordVisits_eq wf (Document.SameNodes.refl doc).keepsNodes (fun node member => ?_) ?_
  · exact wf.lt_size_of_isAttached (wf.mem_descendants_root.mp (List.mem_filter.mp member).1)
  · rw [← record_progress] at completed
    exact completed

end ProcessorSet

/-- What is asked of what is due comes in the order in which it is due. -/
theorem Recorded.attend_asked (walk : Recorded) (agenda : List (Processor × NodeId)) :
    ∃ chosen, chosen.Sublist agenda ∧
      (agenda.foldl attend walk).asked = walk.asked ++ chosen := by
  induction agenda generalizing walk with
  | nil => exact ⟨[], List.Sublist.refl [], (List.append_nil _).symm⟩
  | cons due rest ih =>
    obtain ⟨chosen, sublist, told⟩ := ih (walk.attend due)
    rw [List.foldl_cons, told]
    unfold attend
    split
    · refine ⟨due :: chosen, sublist.cons_cons due, ?_⟩
      simp [asked, Recorded.offer]
    · exact ⟨chosen, sublist.cons due, rfl⟩

/--
A walk of any processors that completes asks exactly what is due at its start, in that order, and
passes over what is due at a node that does not hang in the tree at that moment.

Due are the processors of the tag of each node, in order and once for each time they list it, and
the nodes of the tree come in document order. So no node is asked about that was created on the way,
and none outside the tags of the processor. The walk counts what it asks and the patches that it is
answered with, and keeps the kind and span of every node there was.
-/
theorem walk_asks_what_is_due {doc : Document} (reachable : doc.Reachable) (set : ProcessorSet)
    (journal : Journal) (completed : (set.run doc journal).refusal = none) :
    let walk := set.record doc journal
    walk.progress = set.run doc journal ∧
    walk = (set.agenda doc).foldl Recorded.attend { progress := { doc, journal } } ∧
    walk.asked.Sublist (set.agenda doc) ∧
    (∀ question ∈ walk.questions, doc.isAttached question.node ∧ question.Proper set) ∧
    (set.run doc journal).visited = walk.questions.length ∧
    (set.run doc journal).patched =
      walk.questions.countP (fun question => question.answer.isSome) ∧
    KeepsNodes doc (set.run doc journal).doc := by
  intro walk
  have wf := reachable.wellFormed
  have sound : Recorded.Sound set doc walk := .record wf set journal
  have same : walk.progress = set.run doc journal := set.record_progress doc journal
  have fold : walk = (set.agenda doc).foldl Recorded.attend { progress := { doc, journal } } :=
    ProcessorSet.record_eq wf completed
  obtain ⟨chosen, sublist, told⟩ :=
    Recorded.attend_asked { progress := { doc, journal } } (set.agenda doc)
  rw [← fold] at told
  have ordered : walk.asked.Sublist (set.agenda doc) := by
    rw [told]
    exact sublist
  refine ⟨same, fold, ordered, fun question member => ⟨?_, sound.proper question member⟩,
    same ▸ sound.visited, ?_, same ▸ sound.keepsNodes⟩
  · -- What is due, is due at nodes of the tree at the start.
    have member' : (question.processor, question.node) ∈ walk.asked := List.mem_map_of_mem member
    obtain ⟨node, met, isDue⟩ := List.mem_flatMap.mp (ordered.subset member')
    obtain ⟨_, _, pair⟩ := List.mem_map.mp isDue
    cases pair
    exact wf.mem_descendants_root.mp met
  · rw [← same]
    exact sound.patched (same ▸ completed)

/-- A text that is asked twice takes both texts after it out before they are asked; the texts it
creates hang in the tree and are not asked. -/
theorem texts_taken_out_not_asked :
    let doc := List.foldl Document.after (.ofSource "abc")
      [.create .paragraph ⟨0, 3⟩, .create (.text "a") ⟨0, 1⟩, .create (.text "b") ⟨1, 2⟩,
        .create (.text "c") ⟨2, 3⟩, .move (.append Document.root 1), .move (.append 1 2),
        .move (.append 1 3), .move (.append 1 4)]
    let taker : Processor :=
      { name := "taker"
        tags := [.text, .text]
        process := fun doc id => (doc.next id).map fun next =>
          { created := [(.text "new", {})]
            edits := [.append (.existing Document.root) (.created 0), .detach (.existing next)] } }
    let walk := ProcessorSet.record [taker] doc []
    walk.asked.map Prod.snd = [2, 2] ∧
      (ProcessorSet.agenda [taker] doc).map Prod.snd = [2, 2, 3, 3, 4, 4] ∧
      (ProcessorSet.run [taker] doc []).visited = 2 ∧
      (ProcessorSet.run [taker] doc []).patched = 2 ∧
      (ProcessorSet.run [taker] doc []).doc.children Document.root = [1, 5, 6] := by
  intro doc taker walk
  have completed : (ProcessorSet.run [taker] doc []).refusal = none := by decide +kernel
  obtain ⟨_, _, _, _, visited, patched, _⟩ :=
    @walk_asks_what_is_due doc ⟨_, _, rfl⟩ [taker] [] completed
  have asked : walk.asked.map Prod.snd = [2, 2] := by decide +kernel
  have questions : walk.questions.length = 2 := by
    simpa [Recorded.asked] using congrArg List.length asked
  refine ⟨asked, by decide +kernel, visited.trans questions, patched.trans ?_, by decide +kernel⟩
  decide +kernel

end MarkdownTree
