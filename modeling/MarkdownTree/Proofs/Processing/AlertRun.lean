import MarkdownTree.Proofs.Processing.Reachable
import MarkdownTree.Proofs.Processing.Rewritten

/-! Whole walks for alerts: every marked quote of the document that is walked is replaced, in place,
and nothing else. -/

namespace MarkdownTree.Alert

variable {doc : Document} {quotes : List NodeId}

/-- What is reported when these quotes are replaced by the next new nodes. -/
def changes (size : Nat) : List NodeId → Journal
  | [] => []
  | quote :: rest =>
    ⟨.removedWithChildren, quote⟩ :: ⟨.addedWithChildren, size⟩ :: changes (size + 1) rest

/-- One more quote is reported last. -/
theorem changes_concat (size : Nat) (quotes : List NodeId) (quote : NodeId) :
    changes size (quotes ++ [quote]) = changes size quotes ++
      [⟨.removedWithChildren, quote⟩, ⟨.addedWithChildren, size + quotes.length⟩] := by
  induction quotes generalizing size with
  | nil => rfl
  | cons first rest ih =>
    simp only [List.cons_append, changes, ih, List.length_cons]
    rw [Nat.add_assoc, Nat.add_comm 1]

/-- A walk that has replaced these quotes so far, and nothing else. -/
structure Done (doc : Document) (journal : Journal) (quotes : List NodeId) (progress : Progress) :
    Prop where
  rewritten : Rewritten doc quotes progress.doc
  refusal : progress.refusal = none
  patched : progress.patched = quotes.length
  journal : progress.journal = journal ++ changes doc.size quotes

variable {journal : Journal} {progress : Progress} {node : NodeId}

/-- The walk replaces the next quote if it is marked in the document at the start. -/
theorem Done.visit (wf : doc.WellFormed) (done : Done doc journal quotes progress)
    (stored : node < doc.size) (kind : doc.kind node = .blockQuote) (fresh : node ∉ quotes) :
    Done doc journal (quotes ++ [node].filter fun id => (process doc id).isSome)
      (ProcessorSet.visit [processor] progress node) := by
  obtain ⟨rewritten, refusal, patched, reported⟩ := done
  have wf' := rewritten.wellFormed
  have kind' := (rewritten.keepsNodes.kind node stored).trans kind
  -- The walk asks about the quote if it is still in the tree.
  have asked : ProcessorSet.visit [processor] progress node =
      if progress.doc.isAttached node then progress.offer processor node else progress := by
    simp [ProcessorSet.visit, ProcessorSet.offerAll, ProcessorSet.forTag, processor, kind',
      Kind.tag, refusal]
  rw [asked]
  cases answer : (process doc node).isSome with
  | true =>
    obtain ⟨paragraph, blocks, alert, marked⟩ := (isSome_process_iff wf).mp answer
    -- The quote is still marked in the same way, since only others were replaced.
    have marked' := (rewritten.marked_iff wf stored fresh).mpr marked
    obtain ⟨next, replaced, applied⟩ := marked'.apply wf'
    have answer' := (process_eq_some_iff wf').mpr ⟨_, _, _, marked', rfl⟩
    have accepted : ((patch progress.doc node paragraph alert).apply progress.doc
        progress.journal).refusal = none := by rw [applied]
    have one : ([node].filter fun id => (process doc id).isSome) = [node] := by simp [answer]
    rw [if_pos (wf'.isAttached_of_parent marked'.parent),
      progress.offer_of_some answer' accepted, applied, one]
    exact
      { rewritten := rewritten.replaced wf marked fresh replaced
        refusal := rfl
        patched := by simp [patched]
        journal := by rw [changes_concat, ← rewritten.size, reported, List.append_assoc] }
  | false =>
    -- Nor does a quote come to be marked.
    have answer' : process progress.doc node = none := by
      rw [← Option.not_isSome_iff_eq_none, isSome_process_iff wf']
      intro found
      obtain ⟨paragraph, blocks, alert, marked'⟩ := found
      have marked := (rewritten.marked_iff wf stored fresh).mp marked'
      rw [(isSome_process_iff wf).mpr ⟨paragraph, blocks, alert, marked⟩] at answer
      cases answer
    have empty : ([node].filter fun id => (process doc id).isSome) = [] := by simp [answer]
    rw [empty, List.append_nil]
    split
    · rw [progress.offer_of_none answer']
      exact ⟨rewritten, refusal, patched, reported⟩
    · exact ⟨rewritten, refusal, patched, reported⟩

/-- The walk replaces all quotes that are marked in the document at the start. -/
theorem Done.walk (wf : doc.WellFormed) (nodes : List NodeId)
    (each : ∀ id ∈ nodes, id < doc.size ∧ doc.kind id = .blockQuote)
    (distinct : (quotes ++ nodes).Nodup) (done : Done doc journal quotes progress) :
    Done doc journal (quotes ++ nodes.filter fun id => (process doc id).isSome)
      (nodes.foldl (ProcessorSet.visit [processor]) progress) := by
  induction nodes generalizing quotes progress with
  | nil => simpa using done
  | cons node rest ih =>
    obtain ⟨stored, kind⟩ := each node List.mem_cons_self
    have fresh : node ∉ quotes := fun member =>
      (List.nodup_append.mp distinct).2.2 node member node List.mem_cons_self rfl
    -- The quotes that are replaced are among those that are visited, so none comes twice.
    have chosen : ([node].filter fun id => (process doc id).isSome).Sublist [node] :=
      List.filter_sublist
    have distinct' :
        ((quotes ++ [node].filter fun id => (process doc id).isSome) ++ rest).Nodup := by
      refine distinct.sublist ?_
      rw [List.append_assoc, ← List.singleton_append]
      exact (List.Sublist.refl quotes).append (chosen.append (List.Sublist.refl rest))
    have walked := ih (fun id member => each id (List.mem_cons_of_mem node member)) distinct'
      (done.visit wf stored kind fresh)
    rw [List.append_assoc, ← List.filter_append, List.singleton_append] at walked
    exact walked

/-- Only the children of the root get a patch. -/
theorem parent_of_process (wf : doc.WellFormed) {id : NodeId} (answer : (process doc id).isSome) :
    doc.parent id = some Document.root := by
  obtain ⟨_, _, _, marked⟩ := (isSome_process_iff wf).mp answer
  exact marked.parent

/-- The walk looks at the block quotes. -/
theorem handles_iff {id : NodeId} :
    ProcessorSet.handles [processor] (doc.kind id).tag ↔ doc.kind id = .blockQuote := by
  cases doc.kind id <;> simp [ProcessorSet.handles, processor, Kind.tag]

/-- Of the nodes that the walk looks at, those in the row of the root get a patch, in its order. -/
theorem filter_candidates (wf : doc.WellFormed) :
    ((doc.descendants Document.root).filter fun id =>
      ProcessorSet.handles [processor] (doc.kind id).tag).filter
        (fun id => (process doc id).isSome) =
      (doc.children Document.root).filter fun id => (process doc id).isSome := by
  rw [List.filter_filter, ← wf.filter_descendants fun id => parent_of_process wf]
  refine List.filter_congr fun id _ => ?_
  rw [Bool.and_eq_left_iff_imp]
  intro answer
  obtain ⟨_, _, _, marked⟩ := (isSome_process_iff wf).mp answer
  exact handles_iff.mpr marked.kind

/--
One walk for alerts replaces exactly the quotes that get a patch in the document at the start.

They are all children of the root, and in its row a new alert stands for each. The alert has the
kind of the marker, the span of the quote and what follows the marker in it; the quote keeps the
rest and is taken out, as is the marker line of a paragraph that goes to the alert. All other nodes
and rows stay, no patch is refused, and the changes are reported in document order.
-/
theorem alerts_replace_marked_quotes {doc : Document} (reachable : doc.Reachable)
    (journal : Journal) :
    let result := ProcessorSet.run [processor] doc journal
    let quotes := (doc.children Document.root).filter fun id => (process doc id).isSome
    (∀ id, (process doc id).isSome ↔ id ∈ quotes) ∧
    result.refusal = none ∧ result.patched = quotes.length ∧
    result.journal = journal ++ changes doc.size quotes ∧
    Rewritten doc quotes result.doc ∧ Rehung doc quotes result.doc := by
  intro result quotes
  have wf := reachable.wellFormed
  have start : Done doc journal [] { doc, journal } :=
    { rewritten := .refl wf
      refusal := rfl
      patched := rfl
      journal := (List.append_nil journal).symm }
  have each : ∀ id ∈ (doc.descendants Document.root).filter fun id =>
      ProcessorSet.handles [processor] (doc.kind id).tag,
      id < doc.size ∧ doc.kind id = .blockQuote := by
    intro id member
    obtain ⟨met, tag⟩ := List.mem_filter.mp member
    exact ⟨wf.lt_size_of_isAttached (wf.mem_descendants_root.mp met), handles_iff.mp tag⟩
  -- What is walked over is what is in the tree at the start, so no quote is met twice.
  have done := start.walk wf _ each ((wf.descendants_nodup _).filter _)
  rw [List.nil_append, filter_candidates wf] at done
  obtain ⟨rewritten, refusal, patched, reported⟩ := done
  refine ⟨fun id => ?_, refusal, patched, reported, rewritten, rewritten.rehung wf⟩
  rw [List.mem_filter]
  refine (and_iff_right_of_imp fun answer => ?_).symm
  exact wf.linked.parent.mp (parent_of_process wf answer)

/-- A note of one line under its marker becomes an alert, and keeps its paragraph. -/
theorem note_replaced :
    let doc := List.foldl Document.after (.ofSource "> [!NOTE]\n> body")
      [.create .blockQuote ⟨0, 16⟩, .create .paragraph ⟨2, 16⟩, .create (.text "[!NOTE]") ⟨2, 9⟩,
        .create .softBreak ⟨9, 10⟩, .create (.text "body") ⟨12, 16⟩,
        .move (.append Document.root 1), .move (.append 1 2), .move (.append 2 3),
        .move (.append 2 4), .move (.append 2 5)]
    let result := ProcessorSet.run [processor] doc []
    result.patched = 1 ∧
      result.journal = [⟨.removedWithChildren, 1⟩, ⟨.addedWithChildren, 6⟩] ∧
      result.doc.children Document.root = [6] ∧ result.doc.parent 1 = none := by
  intro doc result
  have quotes : ((doc.children Document.root).filter fun id => (process doc id).isSome) = [1] := by
    decide +kernel
  obtain ⟨_, _, patched, reported, rewritten, rehung⟩ :=
    @alerts_replace_marked_quotes doc ⟨_, _, rfl⟩ []
  rw [quotes] at patched reported rewritten rehung
  exact ⟨patched, reported, rewritten.root, rehung.quote 1 List.mem_cons_self⟩

end MarkdownTree.Alert
