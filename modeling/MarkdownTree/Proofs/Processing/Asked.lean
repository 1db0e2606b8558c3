import MarkdownTree.Proofs.Processing.Turn

/-! Points of a walk: every question that a walk asks is asked at one node of one processor, on what
the questions before it have left. -/

namespace MarkdownTree.ProcessorSet

variable {set : ProcessorSet} {doc : Document} {journal : Journal} {progress : Progress}
  {processor : Processor} {node : NodeId}

/-- The nodes that a walk over a document goes through. -/
def candidates (set : ProcessorSet) (doc : Document) : List NodeId :=
  (doc.descendants Document.root).filter fun id => set.handles (doc.kind id).tag

/-- A walk visits its nodes one after another. -/
theorem run_eq (set : ProcessorSet) (doc : Document) (journal : Journal) :
    set.run doc journal = (set.candidates doc).foldl set.visit { doc, journal } := rfl

/-- The processors of a tag are those of the set that list it. -/
theorem mem_forTag {tag : Tag} :
    processor ∈ set.forTag tag ↔ processor ∈ set ∧ tag ∈ processor.tags := by
  unfold forTag
  simp only [List.mem_flatMap, List.mem_map, List.mem_filter, beq_iff_eq]
  constructor
  · rintro ⟨_, member, _, ⟨tagged, rfl⟩, rfl⟩
    exact ⟨member, tagged⟩
  · exact fun listed => ⟨processor, listed.1, tag, ⟨listed.2, rfl⟩, rfl⟩

/-- A walk comes to ask a processor about a node: all nodes before are visited, and all processors
before are done with the node, which still hangs in the tree with its tag. -/
structure Asked (set : ProcessorSet) (doc : Document) (journal : Journal) (progress : Progress)
    (processor : Processor) (node : NodeId) : Prop where
  point : ∃ before after, set.candidates doc = before ++ node :: after ∧
    let visited := before.foldl set.visit { doc, journal }
    let tag := (visited.doc.kind node).tag
    ∃ earlier later, set.forTag tag = earlier ++ processor :: later ∧
      progress = offerAll tag node visited earlier ∧ (progress.doc.kind node).tag = tag
  going : progress.refusal = none
  attached : progress.doc.isAttached node

namespace Asked

variable (asked : set.Asked doc journal progress processor node)
include asked

/-- Whoever is asked is one of the set. -/
theorem mem : processor ∈ set := by
  obtain ⟨before, _, _, earlier, later, processors, _⟩ := asked.point
  have member : processor ∈ earlier ++ processor :: later := by simp
  rw [← processors] at member
  exact (mem_forTag.mp member).1

/-- The document at that point is well formed. -/
theorem wellFormed (wf : doc.WellFormed) : progress.doc.WellFormed := by
  obtain ⟨before, _, _, _, _, _, rfl, _⟩ := asked.point
  -- Every patch on the way there keeps documents well formed.
  have patch : ∀ (patch : Patch) (doc : Document) (journal : Journal), doc.WellFormed →
      (patch.apply doc journal).doc.WellFormed := fun patch _ journal wf => wf.apply patch journal
  have start : (Progress.mk doc journal 0 0 none).doc.WellFormed := wf
  exact offerAll_keeps patch _ node (set.visits_keep patch start before) _

end Asked

end MarkdownTree.ProcessorSet
