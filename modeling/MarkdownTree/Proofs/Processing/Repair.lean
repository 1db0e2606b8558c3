import MarkdownTree.Proofs.Processing.BracketedImage
import MarkdownTree.Proofs.Tree.Order

/-! Repairs: the places of a document where an image stands in brackets before a link. -/

namespace MarkdownTree

namespace Document.WellFormed

variable {doc : Document} {first second last : NodeId}

/-- A node is the next sibling of one node only. -/
theorem next_inj (wf : doc.WellFormed) (one : doc.next first = some last)
    (other : doc.next second = some last) : first = second :=
  Option.some.inj (((wf.mirror _ _).mp one).symm.trans ((wf.mirror _ _).mp other))

/-- What follows a node is its next sibling and what follows that. -/
theorem following_next (wf : doc.WellFormed) (link : doc.next first = some second) :
    doc.following first = second :: doc.following second := by
  obtain ⟨parent, before, after, row⟩ := wf.linked.next.mp link
  -- The row is cut after the one node, and then after the other.
  rw [wf.linked.following_eq row]
  rw [List.append_cons] at row
  rw [wf.linked.following_eq row]

/-- Neighbours have the same parent. -/
theorem parent_next (wf : doc.WellFormed) (link : doc.next first = some second) :
    doc.parent first = doc.parent second ∧ ∃ parent, doc.parent first = some parent := by
  obtain ⟨parent, pair⟩ := wf.linked.next.mp link
  have left := wf.linked.parent.mpr pair.left_mem
  exact ⟨left.trans (wf.linked.parent.mpr pair.right_mem).symm, parent, left⟩

/-- What is around a node but not the node itself is around its siblings as well. -/
theorem isWithin_sibling (wf : doc.WellFormed) (same : doc.parent first = doc.parent second)
    {top : NodeId} (different : top ≠ first) (within : doc.isWithin top first) :
    doc.isWithin top second := by
  -- Both lines of parents go on from the same node.
  obtain ⟨parent, above, within⟩ := (wf.isWithin_iff.mp within).resolve_left different
  exact wf.isWithin_iff.mpr (Or.inr ⟨parent, same ▸ above, within⟩)

/-- Neighbours are in the tree together. -/
theorem isAttached_next (wf : doc.WellFormed) (link : doc.next first = some second) :
    doc.isAttached first ↔ doc.isAttached second := by
  obtain ⟨same, parent, above⟩ := wf.parent_next link
  exact ⟨wf.isWithin_sibling same (wf.ne_root above).symm,
    wf.isWithin_sibling same.symm (wf.ne_root (same ▸ above)).symm⟩

end Document.WellFormed

namespace ImageLink

/-- The four nodes of a repair: the image goes into the link, and the brackets go. -/
structure Repair where
  left : NodeId
  image : NodeId
  right : NodeId
  link : NodeId
  deriving DecidableEq, Repr

namespace Repair

/-- What is reported when a repair is made. -/
def changes (repair : Repair) : Journal :=
  [⟨.added, repair.image⟩, ⟨.removed, repair.right⟩, ⟨.removed, repair.left⟩]

/-- The nodes that leave their row when a repair is made. -/
def taken (repair : Repair) : List NodeId :=
  [repair.left, repair.image, repair.right]

/-- The four nodes are an image, the two brackets and a link. -/
structure Fits (repair : Repair) (kind : NodeId → Kind) : Prop where
  left : kind repair.left = .text "["
  image : (kind repair.image).tag = .imageRef
  right : kind repair.right = .text "]"
  link : (kind repair.link).tag = .linkRef

/-- That four nodes fit is four tests of their kinds. -/
theorem fits_iff {repair : Repair} {kind : NodeId → Kind} : repair.Fits kind ↔
    kind repair.left = .text "[" ∧ (kind repair.image).tag = .imageRef ∧
      kind repair.right = .text "]" ∧ (kind repair.link).tag = .linkRef :=
  ⟨fun fits => ⟨fits.left, fits.image, fits.right, fits.link⟩,
    fun fits => ⟨fits.1, fits.2.1, fits.2.2.1, fits.2.2.2⟩⟩

/-- Whether four nodes fit can be tested. -/
instance (repair : Repair) (kind : NodeId → Kind) : Decidable (repair.Fits kind) :=
  decidable_of_iff _ fits_iff.symm

end Repair

/-- The four nodes stand side by side in a document. -/
structure Occurs (doc : Document) (repair : Repair) : Prop where
  fits : repair.Fits doc.kind
  opens : doc.next repair.left = some repair.image
  closes : doc.next repair.image = some repair.right
  leads : doc.next repair.right = some repair.link

/-- Whether four nodes stand side by side can be tested. -/
instance (doc : Document) (repair : Repair) : Decidable (Occurs doc repair) :=
  decidable_of_iff (repair.Fits doc.kind ∧ doc.next repair.left = some repair.image ∧
      doc.next repair.image = some repair.right ∧ doc.next repair.right = some repair.link)
    ⟨fun occurs => ⟨occurs.1, occurs.2.1, occurs.2.2.1, occurs.2.2.2⟩,
      fun occurs => ⟨occurs.fits, occurs.opens, occurs.closes, occurs.leads⟩⟩

variable {doc : Document} {repair other : Repair}

/-- No node can stand at two places of repairs. -/
theorem Repair.Fits.place_ne {kind : NodeId → Kind} (fits : repair.Fits kind)
    (fits' : other.Fits kind) :
    repair.left ≠ other.image ∧ repair.left ≠ other.right ∧ repair.left ≠ other.link ∧
      repair.image ≠ other.right ∧ repair.image ≠ other.link ∧ repair.right ≠ other.link := by
  obtain ⟨left, image, right, link⟩ := fits
  obtain ⟨left', image', right', link'⟩ := fits'
  -- Two nodes that are the same have the same kind.
  refine ⟨?_, ?_, ?_, ?_, ?_, ?_⟩ <;> intro same <;> simp_all [Kind.tag]

/-- An image in brackets before a link is four nodes side by side. -/
theorem Bracketed.occurs {image left right link parent : NodeId} {before after : List NodeId}
    (wf : doc.WellFormed) (bracketed : Bracketed doc image left right link parent before after) :
    Occurs doc ⟨left, image, right, link⟩ where
  fits := ⟨bracketed.left, bracketed.kind, bracketed.right, bracketed.link⟩
  opens := wf.linked.next.mpr ⟨parent, before, right :: link :: after, bracketed.row⟩
  closes := wf.linked.next.mpr ⟨parent, before ++ [left], link :: after, by
    rw [bracketed.row, List.append_cons]⟩
  leads := wf.linked.next.mpr ⟨parent, before ++ [left, image], after, by
    rw [bracketed.row, List.append_assoc]
    rfl⟩

namespace Occurs

variable (wf : doc.WellFormed) (occurs : Occurs doc repair)
include wf occurs

/-- Four nodes side by side are an image in brackets before a link. -/
theorem bracketed : ∃ parent before after,
    Bracketed doc repair.image repair.left repair.right repair.link parent before after := by
  have links := wf.linked
  obtain ⟨parent, before, rest, row⟩ := links.next.mp occurs.opens
  -- The links after the image lead on through its row.
  have row' := row
  rw [List.append_cons] at row'
  obtain ⟨rest, rfl⟩ :=
    List.head?_eq_some_iff.mp ((links.of_split row').2.2.symm.trans occurs.closes)
  rw [List.append_cons] at row'
  obtain ⟨after, rfl⟩ :=
    List.head?_eq_some_iff.mp ((links.of_split row').2.2.symm.trans occurs.leads)
  exact ⟨parent, before, after,
    ⟨occurs.fits.image, row, occurs.fits.left, occurs.fits.right, occurs.fits.link⟩⟩

/-- All four nodes have the same parent. -/
theorem parents : ∃ parent, doc.parent repair.left = some parent ∧
    doc.parent repair.image = some parent ∧ doc.parent repair.right = some parent ∧
      doc.parent repair.link = some parent := by
  obtain ⟨parent, before, after, bracketed⟩ := occurs.bracketed wf
  obtain ⟨left, image, right, link⟩ := bracketed.mem_row
  have links := wf.linked
  exact ⟨parent, links.parent.mpr left, links.parent.mpr image, links.parent.mpr right,
    links.parent.mpr link⟩

/-- A repair is determined by any one of its nodes. -/
theorem unique (occurs' : Occurs doc other) (shared : repair.left = other.left ∨
    repair.image = other.image ∨ repair.right = other.right ∨ repair.link = other.link) :
    repair = other := by
  obtain ⟨left, image, right, link⟩ := repair
  obtain ⟨left', image', right', link'⟩ := other
  -- The links between the four lead from each to all others, forth and back.
  have forth : left = left' → image = image' := fun same =>
    Option.some.inj (occurs.opens.symm.trans (same ▸ occurs'.opens))
  have forth' : image = image' → right = right' := fun same =>
    Option.some.inj (occurs.closes.symm.trans (same ▸ occurs'.closes))
  have forth'' : right = right' → link = link' := fun same =>
    Option.some.inj (occurs.leads.symm.trans (same ▸ occurs'.leads))
  have back : image = image' → left = left' := fun same =>
    wf.next_inj occurs.opens (same ▸ occurs'.opens)
  have back' : right = right' → image = image' := fun same =>
    wf.next_inj occurs.closes (same ▸ occurs'.closes)
  have back'' : link = link' → right = right' := fun same =>
    wf.next_inj occurs.leads (same ▸ occurs'.leads)
  rw [Repair.mk.injEq]
  tauto

/-- What comes after the nodes of a repair. -/
theorem following : doc.following repair.left = repair.image :: doc.following repair.image ∧
    doc.following repair.image = repair.right :: doc.following repair.right ∧
      doc.following repair.right = repair.link :: doc.following repair.link :=
  ⟨wf.following_next occurs.opens, wf.following_next occurs.closes,
    wf.following_next occurs.leads⟩

end Occurs

/-- A node gets a patch exactly when it is the image of a repair. -/
theorem process_eq_some_iff_occurs (wf : doc.WellFormed) {node : NodeId} {made : Patch} :
    process doc node = some made ↔ ∃ repair, Occurs doc repair ∧ repair.image = node ∧
      made = patch repair.image repair.left repair.right repair.link := by
  rw [process_eq_some_iff wf]
  constructor
  · intro found
    obtain ⟨left, right, link, parent, before, after, bracketed, rfl⟩ := found
    exact ⟨⟨left, node, right, link⟩, bracketed.occurs wf, rfl, rfl⟩
  · intro found
    obtain ⟨repair, occurs, rfl, rfl⟩ := found
    obtain ⟨parent, before, after, bracketed⟩ := occurs.bracketed wf
    exact ⟨_, _, _, parent, before, after, bracketed, rfl⟩

end ImageLink

end MarkdownTree
