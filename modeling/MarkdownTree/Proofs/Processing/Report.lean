import MarkdownTree.Proofs.Processing.Asked
import MarkdownTree.Proofs.Processing.Commute
import MarkdownTree.Proofs.Processing.Mended
import MarkdownTree.Proofs.Processing.Reachable
import MarkdownTree.Processing.Standard

/-! Reports: whether the changes that a patch reports tell of all nodes that come into the tree and
of all that leave it. -/

namespace MarkdownTree

/-- A node is reported as removed, alone or below another. -/
def ReportsRemoved (before : Document) (changes : Journal) (id : NodeId) : Prop :=
  ⟨.removed, id⟩ ∈ changes ∨
    ∃ top, ⟨.removedWithChildren, top⟩ ∈ changes ∧ before.isWithin top id

/-- Every node that leaves the tree is reported as removed. -/
def CoversRemoved (before after : Document) (changes : Journal) : Prop :=
  ∀ id, before.isAttached id → ¬ after.isAttached id → ReportsRemoved before changes id

/-- Every node that comes into the tree is reported as added, alone or below another. -/
def CoversAdded (before after : Document) (changes : Journal) : Prop :=
  ∀ id, after.isAttached id → ¬ before.isAttached id → ⟨.added, id⟩ ∈ changes ∨
    ∃ top, ⟨.addedWithChildren, top⟩ ∈ changes ∧ after.isWithin top id

variable {doc other : Document}

namespace Alert

variable {quote paragraph : NodeId} {blocks : List NodeId} {alert : AlertKind}

/-- What is reported of a replaced quote tells of all that comes and goes. -/
theorem Replaced.covers (wf : doc.WellFormed) (marked : Marked doc quote paragraph blocks alert)
    (replaced : Replaced doc other quote paragraph blocks alert) :
    CoversAdded doc other [⟨.removedWithChildren, quote⟩, ⟨.addedWithChildren, doc.size⟩] ∧
      CoversRemoved doc other [⟨.removedWithChildren, quote⟩, ⟨.addedWithChildren, doc.size⟩] := by
  have wf' := replaced.wellFormed
  have rewritten := replaced.rewritten wf marked
  constructor
  · intro id attached before
    -- Of the old nodes none comes into the tree, and the only new one is the alert.
    obtain rfl := (replaced.isAttached_before wf marked attached).resolve_left before
    exact Or.inr ⟨doc.size, by simp, wf'.isWithin_self _⟩
  · intro id attached after
    refine Or.inr ⟨quote, by simp, ?_⟩
    -- What is outside the quote stays in the tree.
    by_contra outside
    have stored := wf.lt_size_of_isAttached attached
    refine after ((rewritten.isWithin_outside wf stored ?_).mpr attached)
    intro quote' member
    rwa [List.mem_singleton.mp member]

end Alert

namespace ImageLink

variable {repair : Repair}

/-- The nodes beside the image: the brackets and the link. -/
def Repair.beside (repair : Repair) : List NodeId :=
  [repair.left, repair.right, repair.link]

/-- A node hangs below a bracket or below the link. -/
def Below (doc : Document) (repair : Repair) (id : NodeId) : Prop :=
  ∃ top ∈ repair.beside, id ≠ top ∧ doc.isWithin top id

/-- Neither the brackets nor the link have anything below them. -/
structure Bare (doc : Document) (repair : Repair) : Prop where
  left : doc.children repair.left = []
  right : doc.children repair.right = []
  link : doc.children repair.link = []

/-- The brackets and the link are bare exactly if nothing hangs below them. -/
theorem bare_iff (wf : doc.WellFormed) : Bare doc repair ↔ ∀ id, ¬ Below doc repair id := by
  constructor
  · rintro bare id ⟨top, place, different, within⟩
    have empty : ∀ top ∈ repair.beside, doc.children top = [] := by
      simp [Repair.beside, bare.left, bare.right, bare.link]
    exact different (wf.eq_of_isWithin_leaf (empty top place) within)
  · intro none
    have empty : ∀ top ∈ repair.beside, doc.children top = [] := fun top place =>
      List.eq_nil_iff_forall_not_mem.mpr fun child member => none child
        ⟨top, place, (wf.ne_of_mem member).2, wf.isWithin_child member (wf.isWithin_self top)⟩
    exact ⟨empty _ (by simp [Repair.beside]), empty _ (by simp [Repair.beside]),
      empty _ (by simp [Repair.beside])⟩

namespace Occurs

variable (wf : doc.WellFormed) (occurs : Occurs doc repair)
include wf occurs

/-- The brackets and the link have the parent of the image. -/
theorem parent_beside : ∃ parent, doc.parent repair.image = some parent ∧
    ∀ top ∈ repair.beside, doc.parent top = some parent := by
  obtain ⟨parent, left, image, right, link⟩ := occurs.parents wf
  exact ⟨parent, image, by simp [Repair.beside, left, right, link]⟩

/-- A repair that stands there is the only one at its image. -/
theorem forall_image_iff {holds : Repair → Prop} :
    (∀ made, Occurs doc made → made.image = repair.image → holds made) ↔ holds repair :=
  ⟨fun all => all repair occurs rfl,
    fun one _ occurs' image => occurs'.unique wf occurs (Or.inr (Or.inl image)) ▸ one⟩

end Occurs

namespace Mended

variable (wf : doc.WellFormed) (mended : Mended doc [repair] other)
include wf mended

/-- After one repair, what hung from the root does so still unless that repair took it out. -/
theorem isAttached_one {id : NodeId} : other.isAttached id ↔
    doc.isAttached id ∧ ¬ doc.isWithin repair.left id ∧ ¬ Drops doc repair id := by
  rw [mended.isAttached_iff wf]
  simp

/-- Nothing comes into the tree when a repair is made. -/
theorem coversAdded (changes : Journal) : CoversAdded doc other changes :=
  fun _ after before => absurd ((mended.isAttached_one wf).mp after).1 before

/-- What leaves the tree when a repair is made is the brackets, and what hangs below them or below
the link. -/
theorem not_isAttached_iff {id : NodeId} (before : doc.isAttached id) : ¬ other.isAttached id ↔
    (id = repair.right ∨ id = repair.left) ∨ Below doc repair id := by
  have own : ∀ top, doc.isWithin top id ↔ id = top ∨ id ≠ top ∧ doc.isWithin top id := by
    intro top
    by_cases same : id = top
    · simp [same, wf.isWithin_self]
    · simp [same]
  rw [mended.isAttached_one wf, Drops, own repair.left, own repair.right]
  simp only [before, Below, Repair.beside, List.mem_cons, List.not_mem_nil]
  -- What is within a bracket is now that bracket or below it, and the two sides list the same cases.
  grind

/-- Of the nodes that leave the tree when a repair is made, the brackets are reported, and what
hangs below them or below the link is not. -/
theorem reportsRemoved_iff {id : NodeId} (before : doc.isAttached id)
    (after : ¬ other.isAttached id) :
    ReportsRemoved doc repair.changes id ↔ ¬ Below doc repair id := by
  have reported : ReportsRemoved doc repair.changes id ↔ id = repair.right ∨ id = repair.left := by
    simp [ReportsRemoved, Repair.changes]
  rw [reported]
  constructor
  · rintro bracket ⟨top, place, different, within⟩
    -- The brackets and the link stand in one row, so none of them is below another.
    obtain ⟨parent, _, inRow⟩ := (mended.occurs repair (by simp)).parent_beside wf
    have place' : id ∈ repair.beside := by
      rcases bracket with rfl | rfl <;> simp [Repair.beside]
    exact wf.not_isWithin_sibling ((wf.mem_row _ _).mpr (inRow id place'))
      ((wf.mem_row _ _).mpr (inRow top place)) different (wf.isWithin_self id) within
  · exact fun notBelow => ((mended.not_isAttached_iff wf before).mp after).resolve_right notBelow

/-- What is reported of a repair tells of all that goes exactly if neither the brackets nor the link
had anything below them. -/
theorem coversRemoved_iff (attached : doc.isAttached repair.image) :
    CoversRemoved doc other repair.changes ↔ Bare doc repair := by
  rw [bare_iff wf]
  constructor
  · rintro covers id ⟨top, place, different, within⟩
    -- The brackets and the link are in the tree with the image.
    obtain ⟨parent, image, inRow⟩ := (mended.occurs repair (by simp)).parent_beside wf
    have above := wf.isWithin_above image (wf.ne_root image).symm attached
    have before := wf.isWithin_trans
      (wf.isWithin_child ((wf.mem_row _ _).mpr (inRow top place)) above) within
    have below : Below doc repair id := ⟨top, place, different, within⟩
    have after := (mended.not_isAttached_iff wf before).mpr (Or.inr below)
    exact (mended.reportsRemoved_iff wf before after).mp (covers id before after) below
  · exact fun none id before after => (mended.reportsRemoved_iff wf before after).mpr (none id)

end Mended

end ImageLink

/--
The changes that a patch of a standard walk reports tell of all nodes that come into the tree. Of
the nodes that leave it they tell as well, unless an image went into its link and the node was below
a bracket or below the link: such a node is never told of.

So all that leaves is told of exactly if neither the brackets nor the link had anything below them.
For alerts, which are no images, this is always so.
-/
theorem report_covers_patch_iff {doc : Document} (reachable : doc.Reachable) {journal : Journal}
    {progress : Progress} {processor : Processor} {node : NodeId}
    (asked : ProcessorSet.standard.Asked doc journal progress processor node) {patch : Patch}
    (answer : processor.process progress.doc node = some patch) :
    let applied := patch.apply progress.doc progress.journal
    ∃ changes, applied.refusal = none ∧ applied.journal = progress.journal ++ changes ∧
      CoversAdded progress.doc applied.doc changes ∧
      (∀ id, progress.doc.isAttached id → ¬ applied.doc.isAttached id →
        (ReportsRemoved progress.doc changes id ↔
          ∀ repair, ImageLink.Occurs progress.doc repair → repair.image = node →
            ¬ ImageLink.Below progress.doc repair id)) ∧
      (CoversRemoved progress.doc applied.doc changes ↔
        ∀ repair, ImageLink.Occurs progress.doc repair → repair.image = node →
          ImageLink.Bare progress.doc repair) := by
  intro applied
  have wf := asked.wellFormed reachable.wellFormed
  have which : processor = Alert.processor ∨ processor = ImageLink.processor := by
    simpa [ProcessorSet.standard] using asked.mem
  rcases which with rfl | rfl
  · obtain ⟨paragraph, blocks, alert, marked, rfl⟩ := (Alert.process_eq_some_iff wf).mp answer
    obtain ⟨other, replaced, made⟩ := marked.apply wf
    have result : applied = _ := made progress.journal
    rw [result]
    obtain ⟨added, removed⟩ := replaced.covers wf marked
    -- A block quote is no image.
    have none : ∀ repair, ImageLink.Occurs progress.doc repair → repair.image ≠ node := by
      intro repair occurs image
      have kind := occurs.fits.image
      rw [image, marked.kind] at kind
      cases kind
    exact ⟨_, rfl, rfl, added,
      fun id before after => iff_of_true (removed id before after)
        fun repair occurs image => absurd image (none repair occurs),
      iff_of_true removed fun repair occurs image => absurd image (none repair occurs)⟩
  · obtain ⟨repair, occurs, rfl, rfl⟩ := (ImageLink.process_eq_some_iff_occurs wf).mp answer
    obtain ⟨parent, before, after, bracketed⟩ := occurs.bracketed wf
    obtain ⟨other, reshaped, made⟩ := bracketed.apply wf
    have result : applied = _ := made progress.journal
    rw [result]
    have mended : ImageLink.Mended progress.doc [repair] other :=
      (ImageLink.Mended.refl wf).repaired wf occurs List.not_mem_nil bracketed reshaped
    refine ⟨repair.changes, rfl, rfl, mended.coversAdded wf _, fun id before after => ?_, ?_⟩
    · rw [occurs.forall_image_iff wf]
      exact mended.reportsRemoved_iff wf before after
    · rw [occurs.forall_image_iff wf]
      exact mended.coversRemoved_iff wf asked.attached

/-- Of an image that goes into a link without text, all is reported. -/
theorem empty_link_report_covers :
    let doc := List.foldl Document.after (.ofSource "\\[![i]\\][][l]\n\n[i]: /i\n[l]: /l\n")
      [.create .paragraph ⟨0, 14⟩, .create (.text "[") ⟨1, 2⟩,
        .create (.imageRef ⟨"/i", ""⟩ "i") ⟨2, 6⟩, .create (.text "i") ⟨4, 5⟩,
        .create (.text "]") ⟨7, 8⟩, .create (.linkRef ⟨"/l", ""⟩ "l") ⟨8, 13⟩,
        .move (.append Document.root 1), .move (.append 1 2), .move (.append 1 3),
        .move (.append 3 4), .move (.append 1 5), .move (.append 1 6)]
    let applied := (ImageLink.patch 3 2 5 6).apply doc []
    doc.Reachable ∧
      ProcessorSet.standard.Asked doc [] { doc, journal := [] } ImageLink.processor 3 ∧
      ImageLink.processor.process doc 3 = some (ImageLink.patch 3 2 5 6) ∧
      ∃ changes, applied.journal = changes ∧ CoversAdded doc applied.doc changes ∧
        CoversRemoved doc applied.doc changes := by
  intro doc applied
  have reachable : doc.Reachable := ⟨_, _, rfl⟩
  have wf := reachable.wellFormed
  have asked : ProcessorSet.standard.Asked doc [] { doc, journal := [] } ImageLink.processor 3 :=
    { point := ⟨[], [], by decide +kernel, [], [], rfl, rfl, rfl⟩
      going := rfl
      attached := by decide +kernel }
  have answer : ImageLink.processor.process doc 3 = some (ImageLink.patch 3 2 5 6) := by
    decide +kernel
  obtain ⟨changes, _, journal, added, _, removed⟩ := report_covers_patch_iff reachable asked answer
  -- The repair is the one that stands there.
  have there : ImageLink.Occurs doc ⟨2, 3, 5, 6⟩ := by decide +kernel
  have bare : ImageLink.Bare doc ⟨2, 3, 5, 6⟩ :=
    ⟨by decide +kernel, by decide +kernel, by decide +kernel⟩
  exact ⟨reachable, asked, answer, changes, journal, added,
    removed.mpr ((there.forall_image_iff wf).mpr bare)⟩

/-- The text of a link leaves the tree when an image goes into the link, and is not reported. -/
theorem link_text_removed_unreported :
    let doc := List.foldl Document.after (.ofSource "\\[![a][i]\\][l]\n\n[i]: /i\n[l]: /l\n")
      [.create .paragraph ⟨0, 15⟩, .create (.text "[") ⟨1, 2⟩,
        .create (.imageRef ⟨"/i", ""⟩ "i") ⟨2, 9⟩, .create (.text "a") ⟨4, 5⟩,
        .create (.text "]") ⟨10, 11⟩, .create (.linkRef ⟨"/l", ""⟩ "l") ⟨11, 14⟩,
        .create (.text "l") ⟨12, 13⟩, .move (.append Document.root 1), .move (.append 1 2),
        .move (.append 1 3), .move (.append 3 4), .move (.append 1 5), .move (.append 1 6),
        .move (.append 6 7)]
    let applied := (ImageLink.patch 3 2 5 6).apply doc []
    doc.Reachable ∧
      ProcessorSet.standard.Asked doc [] { doc, journal := [] } ImageLink.processor 3 ∧
      ImageLink.processor.process doc 3 = some (ImageLink.patch 3 2 5 6) ∧
      applied.journal = [⟨.added, 3⟩, ⟨.removed, 5⟩, ⟨.removed, 2⟩] ∧
      ¬ CoversRemoved doc applied.doc applied.journal := by
  intro doc applied
  have journal : applied.journal = [⟨.added, 3⟩, ⟨.removed, 5⟩, ⟨.removed, 2⟩] := by decide +kernel
  refine ⟨⟨_, _, rfl⟩, ⟨⟨[], [], by decide +kernel, [], [], rfl, rfl, rfl⟩, rfl, by decide +kernel⟩,
    by decide +kernel, journal, fun covers => ?_⟩
  -- The text was in the tree and is not any more.
  have told := covers 7 (by decide +kernel) (by decide +kernel)
  simp [ReportsRemoved, journal] at told

end MarkdownTree
