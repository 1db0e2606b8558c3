import MarkdownTree.Processing.Standard
import MarkdownTree.Proofs.Processing.Commute
import MarkdownTree.Proofs.Processing.Mended
import MarkdownTree.Proofs.Processing.Record

/-! Built-in processors: what their patches do to a document, and what holds after any number of
walks of sets that are made of them. -/

namespace MarkdownTree

open Alert (Marked Replaced)
open ImageLink (Mended Repair)

/-- What a patch of a built-in processor makes of a document at a node: a marked quote is replaced
by an alert, or the repair of an image is made. -/
inductive Rewrites (doc : Document) : NodeId → Document → Prop where
  | alert {quote paragraph : NodeId} {blocks : List NodeId} {alert : AlertKind} {other : Document}
      (marked : Marked doc quote paragraph blocks alert)
      (replaced : Replaced doc other quote paragraph blocks alert) : Rewrites doc quote other
  | image {repair : Repair} {other : Document} (mended : Mended doc [repair] other) :
      Rewrites doc repair.image other

variable {doc : Document} {processor : Processor} {node : NodeId} {patch : Patch}
  {set : ProcessorSet} {progress : Progress}

/-- A rewritten document is well formed. -/
theorem Rewrites.wellFormed {other : Document} (rewrites : Rewrites doc node other) :
    other.WellFormed := by
  cases rewrites with
  | alert _ replaced => exact replaced.wellFormed
  | image mended => exact mended.wellFormed

/-- A rewritten document has the old nodes. -/
theorem Rewrites.keepsNodes {other : Document} (rewrites : Rewrites doc node other) :
    Document.KeepsNodes doc other := by
  cases rewrites with
  | alert _ replaced => exact replaced.keepsNodes
  | image mended => exact mended.nodes.keepsNodes

/-- A built-in processor is one of the two. -/
theorem ProcessorSet.mem_standard :
    processor ∈ standard ↔ processor = Alert.processor ∨ processor = ImageLink.processor := by
  simp [standard]

/-- No patch of a built-in processor is refused, and it rewrites the document. -/
theorem rewrites_of_answer (wf : doc.WellFormed) (builtin : processor ∈ ProcessorSet.standard)
    (answer : processor.process doc node = some patch) : ∃ other, Rewrites doc node other ∧
      ∀ journal, (patch.apply doc journal).doc = other ∧
        (patch.apply doc journal).refusal = none := by
  -- An answer tells what stands there, and then the patch is known to be made.
  rcases ProcessorSet.mem_standard.mp builtin with rfl | rfl
  · obtain ⟨paragraph, blocks, alert, marked, rfl⟩ := (Alert.process_eq_some_iff wf).mp answer
    obtain ⟨other, replaced, made⟩ := marked.apply wf
    exact ⟨other, .alert marked replaced, fun journal => by simp [made journal]⟩
  · obtain ⟨repair, occurs, rfl, rfl⟩ := (ImageLink.process_eq_some_iff_occurs wf).mp answer
    obtain ⟨parent, before, after, bracketed⟩ := occurs.bracketed wf
    obtain ⟨other, reshaped, made⟩ := bracketed.apply wf
    exact ⟨other, .image ((Mended.refl wf).repaired wf occurs List.not_mem_nil bracketed reshaped),
      fun journal => by simp [made journal]⟩

/-- Asking a built-in processor leaves the document and counts no patch, or it rewrites the document
and counts one. -/
theorem Progress.offer_builtin (wf : progress.doc.WellFormed)
    (builtin : processor ∈ ProcessorSet.standard) (node : NodeId) :
    (progress.offer processor node).doc = progress.doc ∧
        (progress.offer processor node).patched = progress.patched ∨
      Rewrites progress.doc node (progress.offer processor node).doc ∧
        (progress.offer processor node).patched = progress.patched + 1 := by
  cases answer : processor.process progress.doc node with
  | none =>
    rw [progress.offer_of_none answer]
    exact Or.inl ⟨rfl, rfl⟩
  | some patch =>
    obtain ⟨other, rewrites, made⟩ := rewrites_of_answer wf builtin answer
    obtain ⟨result, accepted⟩ := made progress.journal
    rw [progress.offer_of_some answer accepted]
    exact Or.inr ⟨result ▸ rewrites, rfl⟩

namespace ProcessorSet

/-- No patch of built-in processors is refused. -/
theorem accepted_of_builtin (builtin : set ⊆ standard) : ∀ processor ∈ set, processor.Accepted := by
  intro processor member
  rcases mem_standard.mp (builtin member) with rfl | rfl
  · exact Alert.accepted
  · exact ImageLink.accepted

/-- What every rewriting of an attached node keeps while it is counted, a walk of built-in
processors keeps. -/
theorem run_builtin_keeps {Holds : Document → Nat → Prop}
    (step : ∀ doc count node other, doc.WellFormed → Holds doc count → doc.isAttached node →
      Rewrites doc node other → Holds other (count + 1))
    (wf : doc.WellFormed) {count : Nat} (holds : Holds doc count) (builtin : set ⊆ standard)
    (journal : Journal) :
    Holds (set.run doc journal).doc (count + (set.run doc journal).patched) := by
  rw [← record_progress]
  refine (record_keeps (fun walk => walk.progress.doc.WellFormed ∧
    Holds walk.progress.doc (count + walk.progress.patched)) ⟨wf, holds⟩ ?_).2
  intro walk processor node holds _ listed _ attached
  obtain ⟨wf, holds⟩ := holds
  show (walk.progress.offer processor node).doc.WellFormed ∧
    Holds (walk.progress.offer processor node).doc
      (count + (walk.progress.offer processor node).patched)
  -- Without an answer nothing changes; with one, the document is rewritten once.
  obtain ⟨same, counted⟩ | ⟨rewrites, counted⟩ :=
    Progress.offer_builtin wf (builtin listed) node
  · rw [same, counted]
    exact ⟨wf, holds⟩
  · rw [counted]
    exact ⟨rewrites.wellFormed, step _ _ _ _ wf holds attached rewrites⟩

/-- Walks a document again and again, each time with some processors and a journal, and adds up the
patches. -/
def runAll (tally : Document × Nat) (walks : List (ProcessorSet × Journal)) : Document × Nat :=
  walks.foldl (fun tally walk =>
    let progress := walk.1.run tally.1 walk.2
    (progress.doc, tally.2 + progress.patched)) tally

/-- Walks leave a well-formed document. -/
theorem runAll_wellFormed {tally : Document × Nat} (wf : tally.1.WellFormed)
    (walks : List (ProcessorSet × Journal)) : (runAll tally walks).1.WellFormed := by
  induction walks generalizing tally with
  | nil => exact wf
  | cons walk rest ih => exact ih (wf.run walk.1 walk.2)

/-- What every rewriting of an attached node keeps while it is counted, any number of walks of
built-in processors keep. -/
theorem runAll_builtin_keeps {Holds : Document → Nat → Prop}
    (step : ∀ doc count node other, doc.WellFormed → Holds doc count → doc.isAttached node →
      Rewrites doc node other → Holds other (count + 1))
    {tally : Document × Nat} (wf : tally.1.WellFormed) (holds : Holds tally.1 tally.2)
    {walks : List (ProcessorSet × Journal)} (builtin : ∀ walk ∈ walks, walk.1 ⊆ standard) :
    Holds (runAll tally walks).1 (runAll tally walks).2 := by
  -- Each walk starts from what the one before it has left, with its count.
  induction walks generalizing tally with
  | nil => exact holds
  | cons walk rest ih =>
    exact ih (wf.run walk.1 walk.2)
      (run_builtin_keeps step wf holds (builtin walk List.mem_cons_self) walk.2)
      fun other member => builtin other (List.mem_cons_of_mem walk member)

end ProcessorSet

/--
No patch of a built-in processor is ever refused.

A walk of built-in processors completes, in whatever order and however often the set has them. A
single node, whether it hangs in the tree or not, that is answered with a patch is rewritten by it.
-/
theorem builtin_patches_made {doc : Document} (reachable : doc.Reachable) :
    (∀ set ⊆ ProcessorSet.standard, ∀ journal, (set.run doc journal).refusal = none) ∧
    ∀ processor ∈ ProcessorSet.standard, ∀ node patch,
      processor.process doc node = some patch → ∃ other, Rewrites doc node other ∧
        ∀ journal, (patch.apply doc journal).doc = other ∧
          (patch.apply doc journal).refusal = none :=
  ⟨fun _ builtin journal =>
      (ProcessorSet.run_eq_turns (ProcessorSet.accepted_of_builtin builtin) reachable.wellFormed
        journal).1,
    fun _ builtin _ _ answer => rewrites_of_answer reachable.wellFormed builtin answer⟩

/-- A paragraph that was made a marked quote is replaced, whoever comes first, and an image in
brackets that hangs in no tree may go into its link. -/
theorem quote_and_loose_image_rewritten :
    let doc := List.foldl Document.after (.ofSource "> [!NOTE]\n> body")
      [.create .paragraph ⟨0, 16⟩, .create .paragraph ⟨2, 16⟩, .create (.text "[!NOTE]") ⟨2, 9⟩,
        .create .softBreak ⟨9, 10⟩, .create (.text "body") ⟨12, 16⟩, .create .paragraph {},
        .create (.text "[") {}, .create (.imageRef ⟨"i", ""⟩ "i") {}, .create (.text "]") {},
        .create (.linkRef ⟨"l", ""⟩ "l") {}, .setKind 1 .blockQuote,
        .move (.append Document.root 1), .move (.append 1 2), .move (.append 2 3),
        .move (.append 2 4), .move (.append 2 5), .move (.append 6 7), .move (.append 6 8),
        .move (.append 6 9), .move (.append 6 10)]
    let set := [ImageLink.processor, Alert.processor, ImageLink.processor, Alert.processor]
    (ProcessorSet.run set doc []).refusal = none ∧ (ProcessorSet.run set doc []).patched = 1 ∧
      doc.isAttached 8 = false ∧ ∃ patch other, ImageLink.process doc 8 = some patch ∧
        Rewrites doc 8 other ∧ (patch.apply doc []).doc = other ∧
        (patch.apply doc []).refusal = none := by
  intro doc set
  obtain ⟨completes, made⟩ := @builtin_patches_made doc ⟨_, _, rfl⟩
  have answer : ImageLink.process doc 8 = some (ImageLink.patch 8 7 9 10) := by decide +kernel
  obtain ⟨other, rewrites, applied⟩ := made ImageLink.processor (by simp [ProcessorSet.standard])
    8 _ answer
  refine ⟨completes set ?_ [], by decide +kernel, by decide +kernel, _, other, answer, rewrites,
    applied []⟩
  simp [set, ProcessorSet.standard]

end MarkdownTree
