import MarkdownTree.Proofs.Processing.AlertLinks
import MarkdownTree.Proofs.Processing.MendedTree

/-! Queued images: an image in brackets that stands before a repair comes to stand before the link
when that repair is made, and by then it has been passed. -/

namespace MarkdownTree.ImageLink

open Alert (Rewritten Plain plain_of_fits)

variable {doc other : Document} {repairs : List Repair} {repair made : Repair}
  {quotes : List NodeId}

/-- An image in brackets with another repair directly after it, in front of the link of both. -/
structure Queued (doc : Document) (repair made : Repair) : Prop where
  fits : repair.Fits doc.kind
  opens : doc.next repair.left = some repair.image
  closes : doc.next repair.image = some repair.right
  beside : doc.next repair.right = some made.left
  link : made.link = repair.link
  occurs : Occurs doc made

/-- A queued image is in the tree exactly if the image after it is. -/
theorem Queued.isAttached_iff (wf : doc.WellFormed) (queued : Queued doc repair made) :
    doc.isAttached repair.image ↔ doc.isAttached made.image := by
  rw [wf.isAttached_next queued.closes, wf.isAttached_next queued.beside,
    wf.isAttached_next queued.occurs.opens]

/-- Once all repairs that are due are made, the images in brackets before a link are the queued ones
that are still in the tree. -/
theorem Mended.occurs_iff_queued (wf : doc.WellFormed) (mended : Mended doc repairs other)
    (due : ∀ repair, Due doc repairs repair → repair ∈ repairs)
    (attached : other.isAttached repair.image) :
    Occurs other repair ↔ ∃ made, Queued doc repair made := by
  obtain ⟨hangs, kept⟩ := (mended.isAttached_iff wf).mp attached
  rw [mended.occurs_iff wf]
  constructor
  · rintro ⟨fits, notTaken, _, opens, closes, leads | ⟨made, member, beside, shared⟩⟩
    · -- A repair that was there from the start is due, so it is made.
      have occurs : Occurs doc repair := ⟨fits, opens, closes, leads⟩
      have member := due repair ⟨hangs, occurs, fun made member => (kept made member).2⟩
      exact absurd (mem_takenBy.mpr ⟨repair, member, Or.inr (Or.inl rfl)⟩) notTaken
    · exact ⟨made, fits, opens, closes, beside, shared, mended.occurs made member⟩
  · rintro ⟨made, queued⟩
    -- The repair after the image is due as long as the image is there, and then it has been made.
    have fits := queued.occurs.fits
    refine ⟨queued.fits, fun isTaken => ?_, mended.parent_ne_link wf attached, queued.opens,
      queued.closes, Or.inr ⟨made, due made ⟨?_, queued.occurs, fun other member drops => ?_⟩,
        queued.beside, queued.link⟩⟩
    · -- After the right bracket of a repair stands a link and not a bracket.
      obtain ⟨other, member, same⟩ := mended.image_mem queued.fits isTaken
      have occurs' := mended.occurs other member
      have right := Option.some.inj (occurs'.closes.symm.trans (same ▸ queued.closes))
      have next := occurs'.leads.symm.trans (right ▸ queued.beside)
      exact (fits.place_ne occurs'.fits).2.2.1 (Option.some.inj next).symm
    · exact (queued.isAttached_iff wf).mp hangs
    · -- What drops the one image drops the other, since the two have the same parent.
      have occurs' := mended.occurs other member
      have same : doc.parent made.image = doc.parent repair.image := by
        rw [(wf.parent_next queued.closes).1, (wf.parent_next queued.beside).1,
          (wf.parent_next queued.occurs.opens).1]
      refine (kept other member).2 ?_
      rcases drops with within | ⟨_, within⟩
      · exact Or.inl (wf.isWithin_sibling same (fits.place_ne occurs'.fits).2.2.2.1.symm within)
      · refine Or.inr ⟨(queued.fits.place_ne occurs'.fits).2.2.2.2.1, ?_⟩
        exact wf.isWithin_sibling same (fits.place_ne occurs'.fits).2.2.2.2.1.symm within

section rewritten

variable (wf : doc.WellFormed) (rewritten : Rewritten doc quotes other)
include wf rewritten

/-- Images queued after quotes were replaced were queued before. -/
theorem Queued.of_rewritten (queued : Queued other repair made) : Queued doc repair made := by
  -- All the nodes are plain, and plain nodes side by side were so before.
  obtain ⟨left, image, right, link⟩ := plain_of_fits queued.fits
  obtain ⟨left', _⟩ := plain_of_fits queued.occurs.fits
  exact
    { fits := rewritten.fits_iff.mp queued.fits
      opens := rewritten.next_of_next wf left image queued.opens
      closes := rewritten.next_of_next wf image right queued.closes
      beside := rewritten.next_of_next wf right left' queued.beside
      link := queued.link
      occurs := rewritten.occurs_of_occurs wf queued.occurs }

/-- Images that were queued are so after quotes were replaced, if they hang from a node. -/
theorem Queued.in_rewritten (queued : Queued doc repair made)
    (hangs : other.parent repair.image ≠ none) : Queued other repair made := by
  obtain ⟨left, image, right, link⟩ := plain_of_fits queued.fits
  obtain ⟨left', image', right', link'⟩ := plain_of_fits queued.occurs.fits
  have wf' := rewritten.wellFormed
  -- One after another the nodes hang from the same node.
  have step : ∀ {first second}, Plain doc first → Plain doc second →
      doc.next first = some second → other.parent first ≠ none →
        other.next first = some second ∧ other.parent second ≠ none := by
    intro first second plain plain' link hangs
    have next := rewritten.next_of_doc wf plain plain' link (Or.inl hangs)
    exact ⟨next, (wf'.parent_next next).1 ▸ hangs⟩
  have opens := rewritten.next_of_doc wf left image queued.opens (Or.inr hangs)
  obtain ⟨closes, hangs⟩ := step image right queued.closes hangs
  obtain ⟨beside, hangs⟩ := step right left' queued.beside hangs
  obtain ⟨opens', hangs⟩ := step left' image' queued.occurs.opens hangs
  obtain ⟨closes', hangs⟩ := step image' right' queued.occurs.closes hangs
  obtain ⟨leads', _⟩ := step right' link' queued.occurs.leads hangs
  exact
    { fits := rewritten.fits_iff.mpr queued.fits
      opens := opens
      closes := closes
      beside := beside
      link := queued.link
      occurs := ⟨rewritten.fits_iff.mpr queued.occurs.fits, opens', closes', leads'⟩ }

end rewritten

end MarkdownTree.ImageLink
