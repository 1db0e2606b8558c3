import MarkdownTree.Proofs.Processing.Builtin
import MarkdownTree.Proofs.Processing.LateMarker
import MarkdownTree.Proofs.Processing.Report

/-! Alerts on top: in a tree that starts without alerts, walks of built-in processors leave alerts
below the root only, and none that is empty. -/

namespace MarkdownTree

variable {doc other : Document} {node quote paragraph : NodeId} {blocks : List NodeId}
  {alert : AlertKind} {repair : ImageLink.Repair}

/-- Every alert of the tree hangs from the root and holds more than line breaks. -/
def Document.AlertsOnTop (doc : Document) : Prop :=
  ∀ id, doc.isAttached id → (doc.kind id).tag = .alert →
    doc.parent id = some root ∧ Alert.hasContent doc (doc.children id)

/-- What hangs below an alert that hangs from the root is no such alert. -/
theorem Document.AlertsOnTop.below (wf : doc.WellFormed) (onTop : doc.AlertsOnTop) {id : NodeId}
    (attached : doc.isAttached id) (top : doc.parent id = some Document.root) {below : NodeId}
    (met : below ∈ doc.descendants id) (different : below ≠ id) :
    (doc.kind below).tag ≠ .alert := by
  intro isAlert
  have within := wf.mem_descendants.mp met
  obtain ⟨top', _⟩ := onTop below (wf.isWithin_trans attached within) isAlert
  -- Above an alert there is only the root, and that hangs from nothing.
  have isRoot := wf.isWithin_root (wf.isWithin_above top' different.symm within)
  exact wf.ne_root top isRoot

/-- What an alert gets when it is made is more than line breaks. -/
theorem Alert.Marked.hasContent_moved (wf : doc.WellFormed)
    (marked : Marked doc quote paragraph blocks alert) :
    hasContent doc (moved doc paragraph blocks) := by
  obtain ⟨quoted, marker, rest, row, content, _⟩ := (marked_iff_marker wf).mp marked
  unfold moved
  rw [row, List.tail_cons]
  by_cases inner : hasContent doc rest
  · -- The paragraph goes to the alert, and is content itself.
    rw [if_pos inner]
    simp [hasContent, quoted.text, Kind.isLineBreak]
  · -- Then there are blocks that are content, and all blocks go to the alert.
    have outer := content.resolve_right inner
    rw [if_neg inner, if_pos outer, List.nil_append]
    exact outer

/-- The alert for a quote stands on top and holds content, and all other alerts stay. -/
theorem Alert.Replaced.alertsOnTop (wf : doc.WellFormed) (onTop : doc.AlertsOnTop)
    (marked : Marked doc quote paragraph blocks alert)
    (replaced : Replaced doc other quote paragraph blocks alert) : other.AlertsOnTop := by
  have rewritten := replaced.rewritten wf marked
  have kinds := replaced.keepsNodes.kind
  intro id attached isAlert
  rcases replaced.isAttached_before wf marked attached with before | rfl
  · have stored := wf.lt_size_of_isAttached before
    rw [kinds id stored] at isAlert
    obtain ⟨top, content⟩ := onTop id before isAlert
    -- An alert is neither the quote nor its paragraph, so its own row stays.
    have notQuote : id ≠ quote := by
      rintro rfl
      simp [marked.kind, Kind.tag] at isAlert
    have notParagraph : id ≠ paragraph := by
      rintro rfl
      simp [marked.text, Kind.tag] at isAlert
    refine ⟨(rewritten.parent_root_iff wf stored (by simpa using notQuote)).mpr top, ?_⟩
    rw [replaced.children_of_ne (wf.ne_root top) (Nat.ne_of_lt stored) notQuote notParagraph,
      hasContent_congr fun child member => kinds child (wf.linked.lt_size member)]
    exact content
  · have top : other.parent (doc.size + 0) = some Document.root :=
      rewritten.parent_alert wf (by simp)
    refine ⟨top, ?_⟩
    have stored : ∀ child ∈ moved doc paragraph blocks, child < doc.size := fun child member =>
      wf.linked.lt_size ((mem_moved_or_kept marked).mp (Or.inl member))
    rw [replaced.children_alert wf,
      hasContent_congr fun child member => kinds child (stored child member)]
    exact marked.hasContent_moved wf

/-- A repair leaves all alerts where they are, and its link in an alert that loses the image. -/
theorem ImageLink.Mended.alertsOnTop (wf : doc.WellFormed) (onTop : doc.AlertsOnTop)
    (mended : Mended doc [repair] other) : other.AlertsOnTop := by
  have occurs := mended.occurs repair List.mem_cons_self
  intro id attached isAlert
  rw [mended.nodes.kind] at isAlert
  obtain ⟨top, content⟩ := onTop id ((mended.isAttached_one wf).mp attached).1 isAlert
  -- An alert is none of the four nodes of the repair.
  have notPlain : ¬ Alert.Plain doc id := by
    simp [Alert.Plain, isAlert]
  obtain ⟨left, image, right, link⟩ := Alert.plain_of_fits occurs.fits
  have notTaken : id ∉ takenBy [repair] := by
    rw [mem_takenBy]
    rintro ⟨made, member, same⟩
    obtain rfl := List.mem_singleton.mp member
    rcases same with rfl | rfl | rfl <;> contradiction
  have notLink : ∀ made ∈ [repair], made.link ≠ id := by
    intro made member same
    obtain rfl := List.mem_singleton.mp member
    exact notPlain (same ▸ link)
  have rootNotLink : ∀ made ∈ [repair], made.link ≠ Document.root := by
    intro made member
    obtain rfl := List.mem_singleton.mp member
    obtain ⟨_, _, _, _, above⟩ := occurs.parents wf
    exact wf.ne_root above
  refine ⟨(mended.parent_iff wf).mpr (Or.inr ⟨top, notTaken, rootNotLink⟩), ?_⟩
  -- A row that loses the image still has the link.
  have whole : doc.children id = [] ++ doc.children id := rfl
  rw [mended.others id notLink, Alert.hasContent_congr fun child _ => congrFun mended.nodes.kind _,
    mended.hasContent_filter wf whole]
  exact content

/-- A patch of a built-in processor keeps alerts on top. -/
theorem Rewrites.alertsOnTop (wf : doc.WellFormed) (onTop : doc.AlertsOnTop)
    (rewrites : Rewrites doc node other) : other.AlertsOnTop := by
  cases rewrites with
  | alert marked replaced => exact replaced.alertsOnTop wf onTop marked
  | image mended => exact mended.alertsOnTop wf onTop

/--
If there is no alert in a tree, all alerts are on top after any number of walks of built-in
processors.

Each of them is a child of the root, no other alert hangs below it, and it has a child that is no
line break, also when later repairs have taken some of its children.
-/
theorem alerts_stay_on_top {doc : Document} (reachable : doc.Reachable)
    (without : ∀ id, doc.isAttached id → (doc.kind id).tag ≠ .alert)
    {walks : List (ProcessorSet × Journal)}
    (builtin : ∀ walk ∈ walks, walk.1 ⊆ ProcessorSet.standard) :
    let result := (ProcessorSet.runAll (doc, 0) walks).1
    ∀ id, result.isAttached id → (result.kind id).tag = .alert →
      id ∈ result.children Document.root ∧
      (∀ below ∈ result.descendants id, below ≠ id → (result.kind below).tag ≠ .alert) ∧
      ∃ child ∈ result.children id, ¬ (result.kind child).isLineBreak := by
  intro result id attached isAlert
  have wf := reachable.wellFormed
  have wf' : result.WellFormed := ProcessorSet.runAll_wellFormed wf walks
  have start : doc.AlertsOnTop := fun id attached isAlert => absurd isAlert (without id attached)
  have onTop : result.AlertsOnTop :=
    @ProcessorSet.runAll_builtin_keeps (fun doc _ => doc.AlertsOnTop)
      (fun _ _ _ _ wf onTop _ rewrites => rewrites.alertsOnTop wf onTop) (doc, 0) wf start walks
      builtin
  obtain ⟨top, content⟩ := onTop id attached isAlert
  refine ⟨wf'.linked.parent.mp top, fun below met different =>
    onTop.below wf' attached top met different, ?_⟩
  obtain ⟨child, member, isContent⟩ := List.any_eq_true.mp content
  exact ⟨child, member, by simpa using isContent⟩

/-- A marked quote in an alert stays a quote in a second walk, and a repair leaves its link there.
-/
theorem nested_quote_stays_in_alert :
    let doc := List.foldl Document.after (.ofSource "> [!NOTE]\n>\n> > [!TIP]\n> > x")
      [.create .blockQuote ⟨0, 28⟩, .create .paragraph ⟨2, 10⟩, .create (.text "[!NOTE]") ⟨2, 9⟩,
        .create .blockQuote ⟨14, 28⟩, .create .paragraph ⟨16, 28⟩,
        .create (.text "[!TIP]") ⟨16, 22⟩, .create .softBreak ⟨22, 23⟩,
        .create (.text "x") ⟨27, 28⟩, .create (.text "[") {}, .create (.imageRef ⟨"i", ""⟩ "i") {},
        .create (.text "]") {}, .create (.linkRef ⟨"l", ""⟩ "l") {},
        .move (.append Document.root 1), .move (.append 1 2), .move (.append 2 3),
        .move (.append 1 4), .move (.append 4 5), .move (.append 5 6), .move (.append 5 7),
        .move (.append 5 8), .move (.append 1 9), .move (.append 1 10), .move (.append 1 11),
        .move (.append 1 12)]
    let walks := [(ProcessorSet.standard, []), (ProcessorSet.standard, [])]
    let result := (ProcessorSet.runAll (doc, 0) walks).1
    result.children Document.root = [13] ∧ result.kind 13 = .alert .note ∧
      result.children 13 = [4, 12] ∧ result.kind 4 = .blockQuote ∧
      (∀ below ∈ result.descendants 13, below ≠ 13 → (result.kind below).tag ≠ .alert) ∧
      ∃ child ∈ result.children 13, ¬ (result.kind child).isLineBreak := by
  intro doc walks result
  have wf : doc.WellFormed := Document.Reachable.wellFormed ⟨_, _, rfl⟩
  have none : ∀ id < doc.size, (doc.kind id).tag ≠ .alert := by decide +kernel
  have without : ∀ id, doc.isAttached id → (doc.kind id).tag ≠ .alert := fun id attached =>
    none id (wf.lt_size_of_isAttached attached)
  have shape : result.isAttached 13 ∧ result.children Document.root = [13] ∧
      result.kind 13 = .alert .note ∧ result.children 13 = [4, 12] ∧
      result.kind 4 = .blockQuote := by decide +kernel
  obtain ⟨attached, top, kind, row, nested⟩ := shape
  obtain ⟨_, below, content⟩ := @alerts_stay_on_top doc ⟨_, _, rfl⟩ without walks (by simp [walks])
    13 attached (congrArg Kind.tag kind)
  exact ⟨top, kind, row, nested, below, content⟩

end MarkdownTree
