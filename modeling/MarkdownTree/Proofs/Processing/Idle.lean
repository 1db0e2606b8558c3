import MarkdownTree.Proofs.Processing.Asked

/-! Idle walks: a walk applies no patch exactly if no processor answers about a node of the tree as
it is at the start, and then it leaves everything as it is. -/

namespace MarkdownTree

/-- A step over a document that counts: it either is idle and does nothing, or counts. -/
structure Counting {Item : Type} (step : Document × Nat → Item → Document × Nat)
    (idle : Document → Item → Prop) : Prop where
  stays : ∀ tally item, idle tally.1 item → step tally item = tally
  counts : ∀ tally item, ¬ idle tally.1 item → tally.2 < (step tally item).2

namespace Counting

variable {Item : Type} {step : Document × Nat → Item → Document × Nat}
  {idle : Document → Item → Prop} (counting : Counting step idle)
include counting

/-- Steps that are all idle at the start do nothing. -/
theorem foldl_of_idle {tally : Document × Nat} {items : List Item}
    (all : ∀ item ∈ items, idle tally.1 item) : items.foldl step tally = tally := by
  induction items with
  | nil => rfl
  | cons item rest ih =>
    -- The step leaves the document, so the others are idle after it as well.
    rw [List.foldl_cons, counting.stays tally item (all item List.mem_cons_self)]
    exact ih fun other member => all other (List.mem_cons_of_mem item member)

/-- The count never goes down. -/
theorem le_foldl (tally : Document × Nat) (items : List Item) :
    tally.2 ≤ (items.foldl step tally).2 := by
  induction items generalizing tally with
  | nil => exact Nat.le_refl _
  | cons item rest ih =>
    refine Nat.le_trans ?_ (ih (step tally item))
    by_cases isIdle : idle tally.1 item
    · exact Nat.le_of_eq (congrArg Prod.snd (counting.stays tally item isIdle)).symm
    · exact Nat.le_of_lt (counting.counts tally item isIdle)

/-- Steps that are not all idle at the start count. -/
theorem lt_foldl {tally : Document × Nat} {items : List Item}
    (busy : ¬ ∀ item ∈ items, idle tally.1 item) : tally.2 < (items.foldl step tally).2 := by
  induction items with
  | nil => exact absurd (fun _ member => absurd member List.not_mem_nil) busy
  | cons item rest ih =>
    rw [List.foldl_cons]
    by_cases isIdle : idle tally.1 item
    · -- An idle step leaves the document for the steps after it.
      rw [counting.stays tally item isIdle]
      exact ih fun all => busy (List.forall_mem_cons.mpr ⟨isIdle, all⟩)
    · exact Nat.lt_of_lt_of_le (counting.counts tally item isIdle) (counting.le_foldl _ rest)

end Counting

/-- The turn of a processor is idle where the processor has nothing to answer about the node, as
long as that is in the tree. -/
def Processor.Idle (processor : Processor) (doc : Document) (node : NodeId) : Prop :=
  doc.isAttached node → processor.process doc node = none

/-- Turns at a node count what is answered. -/
theorem Processor.counting_turn (node : NodeId) :
    Counting (fun tally (processor : Processor) => processor.turn tally node)
      fun doc processor => processor.Idle doc node where
  stays tally processor idle :=
    turn_of_idle (fun patch attached answer => by simp [idle attached] at answer) tally.2
  counts tally processor busy := by
    -- A turn that is not idle is about a node of the tree, and there is an answer.
    unfold Idle at busy
    rw [Classical.not_imp] at busy
    obtain ⟨attached, answer⟩ := busy
    obtain ⟨patch, answer⟩ := Option.ne_none_iff_exists'.mp answer
    rw [show processor.turn tally node = _ from turn_of_some attached answer tally.2]
    exact Nat.lt_succ_self _

namespace ProcessorSet

variable {set : ProcessorSet} {doc : Document} {journal : Journal} {progress : Progress}

/-- No processor answers about a node that a walk goes through, as the document is at the start. -/
def Silent (set : ProcessorSet) (doc : Document) : Prop :=
  ∀ node ∈ set.candidates doc, ∀ processor ∈ set.forTag (doc.kind node).tag,
    processor.process doc node = none

/-- The turns of a set count what is answered. -/
theorem counting_turn (set : ProcessorSet) : Counting set.turn fun doc node =>
    ∀ processor ∈ set.forTag (doc.kind node).tag, processor.Idle doc node where
  stays _ node idle := (Processor.counting_turn node).foldl_of_idle idle
  counts _ node busy := (Processor.counting_turn node).lt_foldl busy

/-- Processors that have nothing to answer about a node only count how often they are asked. -/
theorem offerAll_of_idle {processors : List Processor} {node : NodeId} (tag : Tag)
    (idle : ∀ processor ∈ processors, processor.Idle progress.doc node) :
    ∃ visited, offerAll tag node progress processors = { progress with visited } := by
  unfold offerAll
  induction processors generalizing progress with
  | nil => exact ⟨progress.visited, rfl⟩
  | cons processor rest ih =>
    rw [List.foldl_cons]
    split
    · next asked =>
      -- The question counts, and the others are asked about the same document.
      have attached : progress.doc.isAttached node := by
        simp only [Bool.and_eq_true] at asked
        exact asked.1.2
      rw [progress.offer_of_none (idle processor List.mem_cons_self attached)]
      obtain ⟨visited, made⟩ := @ih { progress with visited := progress.visited + 1 }
        fun other member => idle other (List.mem_cons_of_mem processor member)
      exact ⟨visited, made⟩
    · exact ih fun other member => idle other (List.mem_cons_of_mem processor member)

/-- A walk in which no processor has anything to answer leaves everything as it is. -/
theorem run_of_silent (silent : set.Silent doc) (journal : Journal) :
    ∃ visited, set.run doc journal = { doc, journal, visited } := by
  rw [run_eq]
  unfold Silent at silent
  generalize set.candidates doc = nodes at silent
  suffices each : ∀ progress : Progress, progress.doc = doc →
      ∃ visited, nodes.foldl set.visit progress = { progress with visited } from
    each { doc, journal } rfl
  induction nodes with
  | nil => exact fun progress _ => ⟨progress.visited, rfl⟩
  | cons node rest ih =>
    intro progress same
    subst same
    obtain ⟨visited, made⟩ := offerAll_of_idle (progress.doc.kind node).tag
      fun processor member _ => silent node List.mem_cons_self processor member
    -- The visit leaves the document for the visits after it.
    have visit : set.visit progress node = { progress with visited } := made
    rw [List.foldl_cons, visit]
    exact ih (fun other member => silent other (List.mem_cons_of_mem node member))
      { progress with visited } rfl

/-- A walk of processors of which no patch is refused applies none exactly if no processor has
anything to answer at the start. -/
theorem patched_eq_zero_iff (accepted : ∀ processor ∈ set, processor.Accepted)
    (wf : doc.WellFormed) (journal : Journal) :
    (set.run doc journal).patched = 0 ↔ set.Silent doc := by
  have counted : (set.run doc journal).patched =
      ((set.candidates doc).foldl set.turn (doc, 0)).2 :=
    congrArg Prod.snd (run_eq_turns accepted wf journal).2
  -- All nodes that are visited hang in the tree.
  have silent : set.Silent doc ↔ ∀ node ∈ set.candidates doc,
      ∀ processor ∈ set.forTag (doc.kind node).tag, processor.Idle doc node := by
    refine forall₂_congr fun node member => forall₂_congr fun processor _ => ?_
    exact (imp_iff_right (wf.mem_descendants_root.mp (List.mem_filter.mp member).1)).symm
  have counting := set.counting_turn
  rw [silent, counted]
  constructor
  · intro none
    by_contra busy
    have more := @Counting.lt_foldl _ _ _ counting (doc, 0) _ busy
    exact Nat.ne_of_gt more none
  · intro idle
    exact congrArg Prod.snd (@Counting.foldl_of_idle _ _ _ counting (doc, 0) _ idle)

end ProcessorSet

end MarkdownTree
