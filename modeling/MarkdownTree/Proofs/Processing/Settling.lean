import MarkdownTree.Proofs.Processing.Builtin
import MarkdownTree.Proofs.Processing.MarkerLine
import MarkdownTree.Proofs.Processing.Report
import MarkdownTree.Proofs.Processing.SecondWalk
import Mathlib.Algebra.Order.BigOperators.Group.List
import Mathlib.Algebra.Order.Ring.Nat

/-! Settling: every patch of a built-in processor leaves fewer nodes in the tree, so walks of them
apply fewer patches than there are nodes, and after a walk without one nothing is left to do. -/

namespace MarkdownTree

open ProcessorSet (standard runAll)

variable {doc other : Document} {node quote paragraph : NodeId} {blocks : List NodeId}
  {alert : AlertKind} {repair : ImageLink.Repair}

namespace Document

/-- How many nodes hang in the tree. -/
def treeSize (doc : Document) : Nat :=
  (doc.descendants root).length

/-- At least the root hangs in the tree. -/
theorem WellFormed.treeSize_pos (wf : doc.WellFormed) : 0 < doc.treeSize :=
  List.length_pos_of_mem (wf.mem_descendants_root.mpr (wf.isWithin_self root))

/-- Between two documents these nodes leave the tree, and no others than these come into it. -/
structure Sheds (doc other : Document) (lost gained : List NodeId) : Prop where
  distinct : lost.Nodup
  gone : ∀ id ∈ lost, doc.isAttached id ∧ ¬ other.isAttached id
  before : ∀ id, other.isAttached id → doc.isAttached id ∨ id ∈ gained

/-- Whatever each node weighs, a tree gets lighter by the nodes that leave it, and heavier at most
by those that may come. -/
theorem Sheds.weight_add_le {lost gained : List NodeId} (sheds : Sheds doc other lost gained)
    (wf : doc.WellFormed) (wf' : other.WellFormed) (weight : NodeId → Nat) :
    ((other.descendants root).map weight).sum + (lost.map weight).sum ≤
      ((doc.descendants root).map weight).sum + (gained.map weight).sum := by
  -- What is in the new tree and what is lost are different nodes, all of them old or gained.
  have apart : (other.descendants root ++ lost).Nodup := by
    refine List.nodup_append.mpr ⟨wf'.descendants_nodup root, sheds.distinct, ?_⟩
    rintro id met _ member rfl
    exact (sheds.gone id member).2 (wf'.mem_descendants_root.mp met)
  have known : other.descendants root ++ lost ⊆ doc.descendants root ++ gained := by
    intro id member
    rw [List.mem_append, wf.mem_descendants_root]
    rcases List.mem_append.mp member with met | left
    · exact sheds.before id (wf'.mem_descendants_root.mp met)
    · exact Or.inl (sheds.gone id left).1
  obtain ⟨same, perm, sublist⟩ := apart.subperm known
  have less := (sublist.map weight).sum_le_sum fun _ _ => Nat.zero_le _
  rw [(perm.map weight).sum_eq] at less
  simpa using less

end Document

/-- A marked quote drops at least the first child of its paragraph. -/
theorem Alert.Marked.exists_dropped (wf : doc.WellFormed)
    (marked : Marked doc quote paragraph blocks alert) :
    ∃ marker, marker ∈ dropped doc paragraph := by
  obtain ⟨_, marker, rest, row, _, _⟩ := (marked_iff_marker wf).mp marked
  refine ⟨marker, ?_⟩
  unfold dropped
  rw [row, markerLine]
  -- The marker line holds the first child, be it a line break or not.
  split
  · split <;> simp
  · exact List.mem_cons_self

/-- An alert takes the place of at least two nodes: the quote, and what its paragraph drops. -/
theorem Alert.Replaced.sheds (wf : doc.WellFormed)
    (marked : Marked doc quote paragraph blocks alert)
    (replaced : Replaced doc other quote paragraph blocks alert) :
    ∃ marker, doc.Sheds other [quote, marker] [doc.size] := by
  have wf' := replaced.wellFormed
  have rewritten := replaced.rewritten wf marked
  obtain ⟨marker, member⟩ := marked.exists_dropped wf
  have inRow : marker ∈ doc.children paragraph := by
    rw [← dropped_append_saved]
    exact List.mem_append_left _ member
  have attached := wf.isAttached_of_parent marked.parent
  have inside := wf.isWithin_trans attached (marked.isWithin wf (Or.inr inRow))
  -- The quote hangs from the root, and the marker from a paragraph.
  have apart : quote ≠ marker := by
    rintro rfl
    have same := marked.parent.symm.trans (wf.linked.parent.mpr inRow)
    have notRoot := (wf.ne_of_mem marked.first_mem).1
    exact notRoot (Option.some.inj same).symm
  have out : ¬ other.isAttached quote := by
    intro attached'
    obtain ⟨_, above, _⟩ := (wf'.isWithin_iff.mp attached').resolve_left (marked.ne_root wf).symm
    rw [rewritten.parent_quote wf List.mem_cons_self] at above
    cases above
  refine ⟨marker, by simpa using apart, fun id lost => ?_, fun id attached' => ?_⟩
  · rcases List.mem_cons.mp lost with rfl | lost
    · exact ⟨attached, out⟩
    · obtain rfl := List.mem_singleton.mp lost
      exact ⟨inside, not_isAttached_dropped wf marked replaced member⟩
  · simpa using replaced.isAttached_before wf marked attached'

/-- A repair leaves no new node in the tree, and takes out at least the left bracket. -/
theorem ImageLink.Mended.sheds (wf : doc.WellFormed) (mended : Mended doc [repair] other)
    (attached : doc.isAttached repair.image) : doc.Sheds other [repair.left] [] := by
  have occurs := mended.occurs repair List.mem_cons_self
  have left := (wf.isAttached_next occurs.opens).mpr attached
  have out : ¬ other.isAttached repair.left := fun attached' =>
    ((mended.isAttached_one wf).mp attached').2.1 (wf.isWithin_self _)
  refine ⟨List.nodup_singleton _, fun id lost => ?_, fun id attached' => ?_⟩
  · obtain rfl := List.mem_singleton.mp lost
    exact ⟨left, out⟩
  · exact Or.inl ((mended.isAttached_one wf).mp attached').1

/-- With a patch of a built-in processor more nodes leave the tree than come into it, and only
alerts come. -/
theorem Rewrites.sheds (wf : doc.WellFormed) (attached : doc.isAttached node)
    (rewrites : Rewrites doc node other) : ∃ lost gained, doc.Sheds other lost gained ∧
      gained.length < lost.length ∧ ∀ id ∈ gained, ∃ alert, other.kind id = .alert alert := by
  cases rewrites with
  | alert marked replaced =>
    obtain ⟨marker, sheds⟩ := replaced.sheds wf marked
    exact ⟨_, _, sheds, by simp, fun id member =>
      ⟨_, (replaced.kind id).trans (if_pos (List.mem_singleton.mp member))⟩⟩
  | image mended => exact ⟨_, _, mended.sheds wf attached, by simp, by simp⟩

/-- A patch of a built-in processor leaves fewer nodes in the tree. -/
theorem Rewrites.treeSize_lt (wf : doc.WellFormed) (attached : doc.isAttached node)
    (rewrites : Rewrites doc node other) : other.treeSize < doc.treeSize := by
  obtain ⟨lost, gained, sheds, fewer, _⟩ := rewrites.sheds wf attached
  have less := sheds.weight_add_le wf rewrites.wellFormed fun _ => 1
  simp only [List.map_const', List.sum_replicate_nat, Nat.mul_one] at less
  unfold Document.treeSize
  omega

namespace ProcessorSet

variable {set : ProcessorSet} {journal : Journal} {walks : List (ProcessorSet × Journal)}

/-- Every question of a walk of built-in processors that is answered with a patch makes the tree
smaller. -/
theorem treeSize_lt_of_answer (wf : doc.WellFormed) (builtin : set ⊆ standard)
    {question : Question} (asked : question ∈ (set.record doc journal).questions) {patch : Patch}
    (answer : question.answer = some patch) (journal' : Journal) :
    (patch.apply question.doc journal').doc.treeSize < question.doc.treeSize := by
  have proper := (Recorded.Sound.record wf set journal).proper question asked
  obtain ⟨other, rewrites, made⟩ :=
    rewrites_of_answer proper.wellFormed (builtin proper.listed) answer
  rw [(made journal').1]
  exact rewrites.treeSize_lt proper.wellFormed proper.attached

/-- If every patch lowers a measure, what is left of that and the patches counted are together no
more than at the start. -/
theorem runAll_measure_le {measure : Document → Nat}
    (less : ∀ {doc node other}, doc.WellFormed → doc.isAttached node → Rewrites doc node other →
      measure other < measure doc)
    {tally : Document × Nat} (wf : tally.1.WellFormed)
    (builtin : ∀ walk ∈ walks, walk.1 ⊆ standard) :
    measure (runAll tally walks).1 + (runAll tally walks).2 ≤ measure tally.1 + tally.2 := by
  -- Each patch counts one, and lowers the measure by one at least.
  have step : ∀ (doc : Document) (count : Nat) (node : NodeId) (other : Document), doc.WellFormed →
      measure doc + count ≤ measure tally.1 + tally.2 → doc.isAttached node →
      Rewrites doc node other → measure other + (count + 1) ≤ measure tally.1 + tally.2 := by
    intro doc count node other wf bounded attached rewrites
    have lower := less wf attached rewrites
    omega
  exact runAll_builtin_keeps step wf (Nat.le_refl _) builtin

/-- The nodes left in the tree and the patches counted are together no more than at the start. -/
theorem runAll_treeSize {tally : Document × Nat} (wf : tally.1.WellFormed)
    (builtin : ∀ walk ∈ walks, walk.1 ⊆ standard) :
    (runAll tally walks).1.treeSize + (runAll tally walks).2 ≤ tally.1.treeSize + tally.2 :=
  runAll_measure_le (fun wf attached rewrites => rewrites.treeSize_lt wf attached) wf builtin

/-- If both processors have nothing to answer, no set of them has. -/
theorem silent_of_standard (wf : doc.WellFormed) (silent : standard.Silent doc)
    (builtin : set ⊆ standard) : set.Silent doc := by
  obtain ⟨images, alerts⟩ := (silent_standard_iff wf).mp silent
  intro node member processor listed
  have attached := wf.mem_descendants_root.mp (List.mem_filter.mp member).1
  rcases mem_standard.mp (builtin (mem_forTag.mp listed).1) with rfl | rfl
  · exact alerts node attached
  · exact images node attached

/-- If both processors have nothing to answer, walks of them do nothing. -/
theorem runAll_of_silent {tally : Document × Nat} (wf : tally.1.WellFormed)
    (silent : standard.Silent tally.1) (builtin : ∀ walk ∈ walks, walk.1 ⊆ standard) :
    runAll tally walks = tally := by
  induction walks with
  | nil => rfl
  | cons walk rest ih =>
    obtain ⟨visited, same⟩ :=
      run_of_silent (silent_of_standard wf silent (builtin walk List.mem_cons_self)) walk.2
    have idle : runAll tally (walk :: rest) = runAll tally rest := by
      show runAll ((walk.1.run tally.1 walk.2).doc, tally.2 + (walk.1.run tally.1 walk.2).patched)
        rest = runAll tally rest
      rw [same, Nat.add_zero]
    rw [idle]
    exact ih fun other member => builtin other (List.mem_cons_of_mem walk member)

end ProcessorSet

/--
Walks of built-in processors settle, however many there are and in whatever order the sets have the
processors.

Every patch on the way leaves fewer nodes in the tree. So all walks together apply fewer patches
than there were nodes in the tree, and once a walk of both processors applies none, it has left the
document as it was, and so does every walk after it.
-/
theorem walks_settle {doc : Document} (reachable : doc.Reachable)
    {walks : List (ProcessorSet × Journal)} (builtin : ∀ walk ∈ walks, walk.1 ⊆ standard) :
    let ended := runAll (doc, 0) walks
    (∀ before set journal after, walks = before ++ (set, journal) :: after →
      ∀ question ∈ (set.record (runAll (doc, 0) before).1 journal).questions, ∀ patch,
        question.answer = some patch → ∀ journal',
          (patch.apply question.doc journal').doc.treeSize < question.doc.treeSize) ∧
    ended.1.treeSize + ended.2 ≤ doc.treeSize ∧ ended.2 < doc.treeSize ∧
    ∀ journal, (standard.run ended.1 journal).patched = 0 →
      ∀ later : List (ProcessorSet × Journal), (∀ walk ∈ later, walk.1 ⊆ standard) →
        runAll ended ((standard, journal) :: later) = ended := by
  intro ended
  have wf := reachable.wellFormed
  have bounded : ended.1.treeSize + ended.2 ≤ doc.treeSize + 0 :=
    @ProcessorSet.runAll_treeSize walks (doc, 0) wf builtin
  have wf' : ended.1.WellFormed := ProcessorSet.runAll_wellFormed wf walks
  -- The root stays in the tree, so there are more nodes than patches.
  have positive := wf'.treeSize_pos
  refine ⟨?_, by omega, by omega, fun journal idle later builtin' => ?_⟩
  · rintro before set journal after rfl question asked patch answer journal'
    have listed : set ⊆ standard := builtin (set, journal) (by simp)
    exact ProcessorSet.treeSize_lt_of_answer (ProcessorSet.runAll_wellFormed wf before) listed asked
      answer journal'
  · have silent := (ProcessorSet.patched_eq_zero_iff
      (ProcessorSet.accepted_of_builtin (List.Subset.refl standard)) wf' journal).mp idle
    refine ProcessorSet.runAll_of_silent wf' silent fun walk member => ?_
    rcases List.mem_cons.mp member with rfl | member
    · exact List.Subset.refl standard
    · exact builtin' walk member

/-- An alert takes the place of its quote and marker, and an image in it goes into a link; a second
walk of both processors does nothing, and so do those after it. -/
theorem note_with_image_settles :
    let doc := List.foldl Document.after (.ofSource "> [!NOTE]")
      [.create .blockQuote ⟨0, 9⟩, .create .paragraph ⟨2, 9⟩, .create (.text "[!NOTE]") ⟨2, 9⟩,
        .create (.text "[") {}, .create (.imageRef ⟨"i", ""⟩ "i") {}, .create (.text "]") {},
        .create (.linkRef ⟨"l", ""⟩ "l") {}, .move (.append Document.root 1),
        .move (.append 1 2), .move (.append 2 3), .move (.append 1 4), .move (.append 1 5),
        .move (.append 1 6), .move (.append 1 7)]
    let ended := ProcessorSet.runAll (doc, 0) [(ProcessorSet.standard, [])]
    doc.treeSize = 8 ∧ ended.1.treeSize = 4 ∧ ended.2 = 2 ∧ ended.2 < doc.treeSize ∧
      ProcessorSet.runAll ended [(ProcessorSet.standard, []), ([ImageLink.processor], [])] =
        ended := by
  intro doc ended
  obtain ⟨_, _, fewer, settled⟩ := @walks_settle doc ⟨_, _, rfl⟩ [(ProcessorSet.standard, [])]
    (by simp)
  have idle : (ProcessorSet.standard.run ended.1 []).patched = 0 := by decide +kernel
  refine ⟨by decide +kernel, by decide +kernel, by decide +kernel, fewer, settled [] idle _ ?_⟩
  simp [ProcessorSet.standard]

end MarkdownTree
