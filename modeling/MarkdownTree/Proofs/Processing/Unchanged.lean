import MarkdownTree.Command.Run
import MarkdownTree.Proofs.Build.Order
import MarkdownTree.Proofs.Processing.Settling
import MarkdownTree.Proofs.Tree.Outline

/-! Unchanged trees: a walk of built-in processors reports nothing exactly if it applies no patch,
and exactly if the outline of the document is what it was. -/

namespace MarkdownTree

open ProcessorSet (standard)

variable {doc other : Document} {node : NodeId} {processor : Processor} {patch : Patch}
  {journal : Journal}

namespace Patch

/-- All changes are reported, unless one is refused. -/
theorem length_noteAll {ids : List NodeId} {notices : List Notice}
    (told : (noteAll ids journal notices).2 = none) :
    (noteAll ids journal notices).1.length = journal.length + notices.length := by
  -- Each change makes the journal longer before the others are reported.
  induction notices generalizing journal with
  | nil => rfl
  | cons notice rest ih =>
    cases found : notice.node.resolve ids with
    | ok node =>
      simp only [noteAll, found] at told ⊢
      rw [ih told]
      simp only [List.length_append, List.length_cons, List.length_nil]
      omega
    | error refusal => simp [noteAll, found] at told

/-- A patch that is not refused reports all its changes. -/
theorem length_journal (patch : Patch) (accepted : (patch.apply doc journal).refusal = none) :
    (patch.apply doc journal).journal.length = journal.length + patch.notices.length := by
  unfold apply at accepted ⊢
  dsimp only at accepted ⊢
  split
  · next refused =>
    rw [refused] at accepted
    cases accepted
  · next made =>
    rw [made] at accepted
    exact length_noteAll accepted

end Patch

/-- Every answer of a built-in processor has a change to report. -/
theorem notices_of_answer (wf : doc.WellFormed) (builtin : processor ∈ standard)
    (answer : processor.process doc node = some patch) : 0 < patch.notices.length := by
  rcases ProcessorSet.mem_standard.mp builtin with rfl | rfl
  · obtain ⟨paragraph, blocks, alert, _, rfl⟩ := (Alert.process_eq_some_iff wf).mp answer
    simp [Alert.patch]
  · obtain ⟨repair, _, _, rfl⟩ := (ImageLink.process_eq_some_iff_occurs wf).mp answer
    simp [ImageLink.patch]

/-- A patch of a built-in processor leaves a shorter outline. -/
theorem Rewrites.outlineLines_lt (wf : doc.WellFormed) (attached : doc.isAttached node)
    (rewrites : Rewrites doc node other) : other.outlineLines < doc.outlineLines := by
  obtain ⟨lost, gained, sheds, fewer, alerts⟩ := rewrites.sheds wf attached
  have keeps := rewrites.keepsNodes
  let lines : NodeId → Nat := fun id => (other.kind id).lineCount
  have less := sheds.weight_add_le wf rewrites.wellFormed lines
  -- What was in the tree takes the lines that it took.
  have before : doc.linesOf (doc.descendants Document.root) =
      ((doc.descendants Document.root).map lines).sum := by
    refine congrArg List.sum (List.map_congr_left fun id met => ?_)
    have stored := wf.lt_size_of_isAttached (wf.mem_descendants_root.mp met)
    exact congrArg Kind.lineCount (keeps.kind id stored).symm
  -- Each node takes a line, and an alert no more than that.
  have many : lost.length ≤ (lost.map lines).sum := by
    simpa using List.length_le_sum_of_one_le (lost.map lines) (by simp [lines, Kind.lineCount])
  have few : (gained.map lines).sum = gained.length := by
    have one : gained.map lines = gained.map fun _ => 1 := List.map_congr_left fun id member => by
      obtain ⟨alert, kind⟩ := alerts id member
      exact (congrArg Kind.lineCount kind).trans (Kind.lineCount_alert alert)
    simp [one]
  rw [rewrites.wellFormed.outlineLines_eq, wf.outlineLines_eq, before]
  show ((other.descendants Document.root).map lines).sum < _
  omega

namespace ProcessorSet

variable {set : ProcessorSet}

/-- A walk of built-in processors reports a change at least for every patch. -/
theorem patched_le_journal (wf : doc.WellFormed) (builtin : set ⊆ standard) (journal : Journal) :
    journal.length + (set.run doc journal).patched ≤ (set.run doc journal).journal.length := by
  rw [← record_progress]
  refine (record_keeps (fun walk => walk.progress.doc.WellFormed ∧
    journal.length + walk.progress.patched ≤ walk.progress.journal.length)
    ⟨wf, Nat.le_refl _⟩ ?_).2
  intro walk processor node holds _ listed _ _
  obtain ⟨wf, reported⟩ := holds
  refine ⟨(Recorded.offer_keepsNodes wf processor node).1, ?_⟩
  show journal.length + (walk.progress.offer processor node).patched ≤
    (walk.progress.offer processor node).journal.length
  cases answer : processor.process walk.progress.doc node with
  | none =>
    rw [walk.progress.offer_of_none answer]
    exact reported
  | some patch =>
    -- The patch is made, so all its changes are reported, and there is one at least.
    obtain ⟨_, _, made⟩ := rewrites_of_answer wf (builtin listed) answer
    have accepted := (made walk.progress.journal).2
    have more := notices_of_answer wf (builtin listed) answer
    have length := patch.length_journal accepted
    rw [walk.progress.offer_of_some answer accepted]
    dsimp only
    omega

/-- A walk of built-in processors leaves an outline that is shorter by a line or more for every
patch. -/
theorem outlineLines_add_le (wf : doc.WellFormed) (builtin : set ⊆ standard) (journal : Journal) :
    (set.run doc journal).doc.outlineLines + (set.run doc journal).patched ≤ doc.outlineLines := by
  have shorter := @runAll_measure_le [(set, journal)] Document.outlineLines
    (fun wf attached rewrites => rewrites.outlineLines_lt wf attached) (doc, 0) wf
    (by simpa using builtin)
  simpa [runAll] using shorter

/-- A walk of built-in processors that applies no patch leaves everything as it is. -/
theorem run_of_unpatched (wf : doc.WellFormed) (builtin : set ⊆ standard) (journal : Journal)
    (unpatched : (set.run doc journal).patched = 0) :
    (set.run doc journal).doc = doc ∧ (set.run doc journal).journal = journal := by
  have silent := (patched_eq_zero_iff (accepted_of_builtin builtin) wf journal).mp unpatched
  obtain ⟨visited, same⟩ := run_of_silent silent journal
  rw [same]
  exact ⟨rfl, rfl⟩

/-- A walk of built-in processors reports nothing exactly if it applies no patch, and exactly if it
leaves the outline. -/
theorem unchanged_iff (wf : doc.WellFormed) (builtin : set ⊆ standard) :
    ((set.run doc []).journal = [] ↔ (set.run doc []).patched = 0) ∧
      ((set.run doc []).patched = 0 ↔
        (set.run doc []).doc.outline Document.root = doc.outline Document.root) := by
  have reported := patched_le_journal wf builtin []
  have shorter := outlineLines_add_le wf builtin []
  have unpatched := run_of_unpatched wf builtin []
  refine ⟨⟨fun empty => ?_, fun none => (unpatched none).2⟩,
    fun none => by rw [(unpatched none).1], fun same => ?_⟩
  · rw [empty] at reported
    simpa using reported
  · -- With the same outline there is no line less, so there was no patch.
    unfold Document.outlineLines at shorter
    rw [same] at shorter
    omega

end ProcessorSet

/-- The processors of a configuration are built in. -/
theorem Config.processors_subset (config : Config) : config.processors ⊆ standard := by
  unfold Config.processors standard
  cases config.alerts <;> cases config.imageLinks <;> simp

/-- No changes are told of exactly if none is reported. -/
theorem Command.stderr_showProcessed (config : Config) (doc : Document) :
    (showProcessed config doc).stderr = "Processed tree\nNo changes\n" ↔
      (config.processors.run doc []).journal = [] := by
  unfold showProcessed
  dsimp only
  generalize (config.processors.run doc []).journal = journal
  cases journal <;> simp

/--
A walk of built-in processors with a fresh journal, in whatever order and however often the set has
them, reports nothing exactly if it applies no patch, and exactly if the outline of the document is
the same as before.

So it is for the trees that a command shows, with whatever events its input is read: it tells that
nothing changed exactly if the outline that it prints is that of the document as it was read.
-/
theorem nothing_reported_iff_outline_kept {doc : Document} (reachable : doc.Reachable)
    {set : ProcessorSet} (builtin : set ⊆ ProcessorSet.standard) :
    ((set.run doc []).journal = [] ↔ (set.run doc []).patched = 0) ∧
    ((set.run doc []).patched = 0 ↔
      (set.run doc []).doc.outline Document.root = doc.outline Document.root) ∧
    ∀ (config : Config) (source : String) (events : List SpannedEvent),
      let told := Document.ofEvents source events
      let walked := config.processors.run told []
      (Command.showProcessed config told).stdout =
          walked.doc.outline Document.root ++ walked.journal.listing walked.doc ∧
        ((Command.showProcessed config told).stderr = "Processed tree\nNo changes\n" ↔
          walked.doc.outline Document.root = (Command.showRaw told).stdout) := by
  obtain ⟨reported, kept⟩ := ProcessorSet.unchanged_iff reachable.wellFormed builtin
  refine ⟨reported, kept, fun config source events => ⟨rfl, ?_⟩⟩
  have wf : (Document.ofEvents source events).WellFormed :=
    ((Builder.wellFormed_ofSource source).push_all events).doc
  obtain ⟨reported, kept⟩ := ProcessorSet.unchanged_iff wf config.processors_subset
  exact (Command.stderr_showProcessed config _).trans (reported.trans kept)

/-- An image goes into a link with a label that looks like three lines of an outline, and the
outline changes; alerts alone change nothing there. -/
theorem outline_changed_under_lines_in_label :
    let doc := List.foldl Document.after (.ofSource "")
      [.create .paragraph {}, .create (.text "[") {}, .create (.imageRef ⟨"i", ""⟩ "i") {},
        .create (.text "]") {}, .create (.linkRef ⟨"l", ""⟩ "l]\n    text \"[\"\n    text [") {},
        .move (.append Document.root 1), .move (.append 1 2), .move (.append 1 3),
        .move (.append 1 4), .move (.append 1 5)]
    let both := ProcessorSet.run [ImageLink.processor, Alert.processor] doc []
    let alerts := ProcessorSet.run [Alert.processor] doc []
    both.patched = 1 ∧ both.journal ≠ [] ∧
      both.doc.outline Document.root ≠ doc.outline Document.root ∧ alerts.patched = 0 ∧
      alerts.journal = [] ∧ alerts.doc.outline Document.root = doc.outline Document.root := by
  intro doc both alerts
  have reachable : doc.Reachable := ⟨_, _, rfl⟩
  have busy : both.patched = 1 := by decide +kernel
  have idle : alerts.patched = 0 := by decide +kernel
  obtain ⟨reported, kept, _⟩ := @nothing_reported_iff_outline_kept doc reachable
    [ImageLink.processor, Alert.processor] (by simp [ProcessorSet.standard])
  obtain ⟨reported', kept', _⟩ := @nothing_reported_iff_outline_kept doc reachable
    [Alert.processor] (by simp [ProcessorSet.standard])
  have counted : both.patched ≠ 0 := by rw [busy]; decide
  exact ⟨busy, mt reported.mp counted, mt kept.mpr counted, idle, reported'.mpr idle, kept'.mp idle⟩

end MarkdownTree
