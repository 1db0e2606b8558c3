import MarkdownTree.Proofs.Processing.Repair
import MarkdownTree.Proofs.Processing.Rewritten

/-! Neighbours in rewritten documents: where alerts took the place of quotes, the nodes of repairs
stand side by side as they did, unless they went with a marker line. -/

namespace MarkdownTree.Alert

open ImageLink (Repair Occurs)

variable {doc other : Document} {quotes row : List NodeId} {quote paragraph first second : NodeId}
  {blocks : List NodeId} {alert : AlertKind}

/-- A text, an image or a link, as they are needed for a repair. -/
def Plain (doc : Document) (id : NodeId) : Prop :=
  (doc.kind id).tag ∈ [Tag.text, Tag.imageRef, Tag.linkRef]

/-- All nodes of a repair are plain. -/
theorem plain_of_fits {repair : Repair} (fits : repair.Fits doc.kind) :
    Plain doc repair.left ∧ Plain doc repair.image ∧ Plain doc repair.right ∧
      Plain doc repair.link := by
  unfold Plain
  -- Their kinds are known up to what they hold.
  rw [fits.left, fits.image, fits.right, fits.link]
  decide

/-- A plain node is no paragraph, no quote and no line break. -/
theorem Plain.kind_ne {id : NodeId} (plain : Plain doc id) :
    doc.kind id ≠ .paragraph ∧ doc.kind id ≠ .blockQuote ∧ ¬ (doc.kind id).isLineBreak := by
  -- Each of these kinds has a tag that is not one of the three.
  refine ⟨?_, ?_, ?_⟩ <;> intro same <;> cases kind : doc.kind id <;>
    simp_all [Plain, Kind.tag, Kind.isLineBreak]

/-- A plain node is stored, since what is not stored reads as a document. -/
theorem Plain.stored {id : NodeId} (plain : Plain doc id) : id < doc.size := by
  by_contra outside
  simp [Plain, Document.kind, Document.node_of_not_stored outside, Kind.tag] at plain

/-- What goes to an alert stands in one stretch of the row of the quote. -/
theorem moved_infix : moved doc paragraph blocks <:+: paragraph :: blocks := by
  unfold moved
  -- The paragraph goes if it holds content, and the blocks if they do.
  cases hasContent doc (doc.children paragraph).tail <;> cases hasContent doc blocks
  · exact List.nil_infix
  · exact (List.suffix_cons paragraph blocks).isInfix
  · exact (List.prefix_append [paragraph] blocks).isInfix
  · exact List.infix_rfl

/-- What stays with a quote stands in one stretch of its row. -/
theorem kept_infix : kept doc paragraph blocks <:+: paragraph :: blocks := by
  unfold kept
  -- The other way round: what holds no content stays.
  cases hasContent doc (doc.children paragraph).tail <;> cases hasContent doc blocks
  · exact List.infix_rfl
  · exact (List.prefix_append [paragraph] blocks).isInfix
  · exact (List.suffix_cons paragraph blocks).isInfix
  · exact List.nil_infix

/-- The inlines that a paragraph keeps are the end of its row. -/
theorem inlines_suffix : inlines doc paragraph <:+ doc.children paragraph := by
  unfold inlines
  split
  · exact ⟨_, markerLine_append_afterBreak doc _⟩
  · exact List.suffix_rfl

/-- What stands right before a node after the first line break stands there as well, unless it is
that line break. -/
theorem adjacent_afterBreak (distinct : row.Nodup) (pair : Adjacent first second row)
    (text : ¬ (doc.kind first).isLineBreak) (late : second ∈ afterBreak doc row) :
    Adjacent first second (afterBreak doc row) := by
  induction row with
  | nil => exact absurd pair not_adjacent_nil
  | cons head rest ih =>
    obtain ⟨fresh, distinct'⟩ := List.nodup_cons.mp distinct
    simp only [afterBreak, List.dropWhile_cons] at ih late ⊢
    rcases adjacent_cons.mp pair with ⟨rfl, next⟩ | pair
    · -- A node that the text leads is in front of the line break itself.
      obtain ⟨rest, rfl⟩ := List.head?_eq_some_iff.mp next
      rw [if_pos (by simpa using text)] at late
      rw [List.dropWhile_cons] at late
      have again : second ∈ rest := by
        split at late
        · exact ((List.tail_sublist _).trans (List.dropWhile_sublist _)).subset late
        · exact late
      exact absurd again (List.nodup_cons.mp distinct').1
    · split
      · next isText =>
        rw [if_pos isText] at late
        exact ih distinct' pair late
      · exact pair

/-- Blocks that stand side by side do so among what goes to the alert or among what stays, since
they go or stay together. -/
theorem adjacent_blocks (pair : Adjacent first second blocks) :
    Adjacent first second (moved doc paragraph blocks) ∨
      Adjacent first second (kept doc paragraph blocks) := by
  by_cases content : hasContent doc blocks
  · left
    rw [moved, if_pos content]
    exact pair.of_infix (List.suffix_append _ blocks).isInfix
  · right
    rw [kept, if_neg content]
    exact pair.of_infix (List.suffix_append _ blocks).isInfix

/-- Inlines that stand side by side do so among those that are kept as soon as one of them is, since
the first line break does not lie between them. -/
theorem adjacent_inlines (distinct : (doc.children paragraph).Nodup)
    (pair : Adjacent first second (doc.children paragraph))
    (text : ¬ (doc.kind first).isLineBreak)
    (inline : first ∈ inlines doc paragraph ∨ second ∈ inlines doc paragraph) :
    Adjacent first second (inlines doc paragraph) := by
  unfold inlines at inline ⊢
  split at inline
  · next content =>
    rw [if_pos content]
    rcases inline with early | late
    · -- What follows a node after the line break is after it as well.
      rw [← markerLine_append_afterBreak doc (doc.children paragraph)] at pair distinct
      exact (adjacent_append distinct early).mp pair
    · exact adjacent_afterBreak distinct pair text late
  · next empty =>
    rw [if_neg empty]
    exact pair

namespace Rewritten

variable (wf : doc.WellFormed) (rewritten : Rewritten doc quotes other)
include rewritten

/-- A stored node that is no alert is an old one. -/
theorem stored_of_kind {id : NodeId} (stored : id < other.size)
    (notAlert : ∀ alert, other.kind id ≠ .alert alert) : id < doc.size := by
  by_contra new
  obtain ⟨index, rfl⟩ := Nat.exists_eq_add_of_le (Nat.le_of_not_lt new)
  -- The new nodes are the alerts.
  rw [rewritten.size, Nat.add_lt_add_iff_left] at stored
  obtain ⟨_, _, _, _, stands⟩ := rewritten.each (List.getElem?_eq_getElem stored)
  exact notAlert _ stands.kind

/-- Plain nodes are old ones. -/
theorem stored_of_plain {id : NodeId} (plain : Plain other id) : id < doc.size := by
  refine rewritten.stored_of_kind plain.stored fun alert kind => ?_
  simp [Plain, kind, Kind.tag] at plain

/-- Plain nodes were plain before. -/
theorem plain_of_plain {id : NodeId} (plain : Plain other id) : Plain doc id := by
  have kind := rewritten.keepsNodes.kind id (rewritten.stored_of_plain plain)
  unfold Plain at plain ⊢
  rwa [kind] at plain

/-- No plain node is one of the quotes. -/
theorem fresh_of_plain {id : NodeId} (plain : Plain doc id) : id ∉ quotes := by
  intro member
  obtain ⟨_, _, _, marked⟩ := rewritten.marked member
  exact plain.kind_ne.2.1 marked.kind

/-- Four nodes fit exactly if they did before. -/
theorem fits_iff {repair : Repair} : repair.Fits other.kind ↔ repair.Fits doc.kind := by
  have kind : ∀ {id}, id < doc.size → other.kind id = doc.kind id := rewritten.keepsNodes.kind _
  constructor
  · intro fits
    obtain ⟨left, image, right, link⟩ := plain_of_fits fits
    rw [Repair.fits_iff] at fits ⊢
    -- The four nodes are no alerts, so they are old ones, and those keep their kinds.
    rwa [kind (rewritten.stored_of_plain left), kind (rewritten.stored_of_plain image),
      kind (rewritten.stored_of_plain right), kind (rewritten.stored_of_plain link)] at fits
  · intro fits
    obtain ⟨left, image, right, link⟩ := plain_of_fits fits
    rw [Repair.fits_iff] at fits ⊢
    rwa [kind left.stored, kind image.stored, kind right.stored, kind link.stored]

/-- In the row of the root, old nodes other than quotes stand side by side as they did. -/
theorem adjacent_root (old : first < doc.size) (old' : second < doc.size)
    (fresh : first ∉ quotes) (fresh' : second ∉ quotes) :
    Adjacent first second (other.children Document.root) ↔
      Adjacent first second (doc.children Document.root) := by
  rw [rewritten.root]
  have itself : ∀ {id node : NodeId}, node < doc.size → node ∉ quotes →
      ((if id ∈ quotes then doc.size + quotes.idxOf id else id) = node ↔ id = node) := by
    intro id node stored fresh
    by_cases isQuote : id ∈ quotes
    · -- What stands for a quote is a new node.
      rw [if_pos isQuote]
      exact iff_of_false (new_ne stored _) fun same => fresh (same ▸ isQuote)
    · rw [if_neg isQuote]
  exact adjacent_map (fun _ _ => itself old fresh) fun _ _ => itself old' fresh'

include wf

/-- Plain nodes that stand side by side did so before. -/
theorem next_of_next (plain : Plain other first) (plain' : Plain other second)
    (link : other.next first = some second) : doc.next first = some second := by
  have old := rewritten.stored_of_plain plain
  have old' := rewritten.stored_of_plain plain'
  obtain ⟨node, pair⟩ := rewritten.wellFormed.linked.next.mp link
  rw [wf.linked.next]
  -- Every row holds a stretch of an old row, but for the alerts in that of the root.
  rcases Nat.lt_or_ge node doc.size with stored | new
  · rcases rewritten.row_cases wf stored with rfl | ⟨quote, _, paragraph, blocks, alert, marked,
      ⟨rfl, row⟩ | ⟨rfl, row⟩⟩ | row
    · have fresh := rewritten.fresh_of_plain (rewritten.plain_of_plain plain)
      have fresh' := rewritten.fresh_of_plain (rewritten.plain_of_plain plain')
      exact ⟨_, (rewritten.adjacent_root old old' fresh fresh').mp pair⟩
    · rw [row] at pair
      exact ⟨node, marked.children ▸ pair.of_infix kept_infix⟩
    · rw [row] at pair
      exact ⟨node, pair.of_infix inlines_suffix.isInfix⟩
    · exact ⟨node, row ▸ pair⟩
  · have within := rewritten.wellFormed.linked.owner_lt_size pair.left_mem
    obtain ⟨index, rfl⟩ := Nat.exists_eq_add_of_le new
    rw [rewritten.size, Nat.add_lt_add_iff_left] at within
    obtain ⟨paragraph, blocks, alert, marked, stands⟩ :=
      rewritten.each (List.getElem?_eq_getElem within)
    rw [stands.children] at pair
    exact ⟨_, marked.children ▸ pair.of_infix moved_infix⟩

/-- Plain nodes that stood side by side still do so, as soon as one of them hangs from a node. -/
theorem next_of_doc (plain : Plain doc first) (plain' : Plain doc second)
    (link : doc.next first = some second)
    (hangs : other.parent first ≠ none ∨ other.parent second ≠ none) :
    other.next first = some second := by
  obtain ⟨node, pair⟩ := wf.linked.next.mp link
  have old := wf.linked.lt_size pair.left_mem
  have old' := wf.linked.lt_size pair.right_mem
  rw [rewritten.wellFormed.linked.next]
  rcases rewritten.row_cases wf (wf.linked.owner_lt_size pair.left_mem) with rfl | ⟨quote, here,
    paragraph, blocks, alert, marked, ⟨rfl, row⟩ | ⟨rfl, row⟩⟩ | row
  · exact ⟨_, (rewritten.adjacent_root old old' (rewritten.fresh_of_plain plain)
      (rewritten.fresh_of_plain plain')).mpr pair⟩
  · -- Neither is the paragraph, so both are blocks, here or below the alert.
    have notFirst : first ≠ paragraph := fun same => plain.kind_ne.1 (same ▸ marked.text)
    rw [marked.children] at pair
    have pair := (adjacent_cons.mp pair).resolve_left fun head => notFirst head.1
    obtain ⟨index, found⟩ := List.mem_iff_getElem?.mp here
    have stands := rewritten.stands_of_marked found marked
    rcases adjacent_blocks pair with gone | stays
    · exact ⟨doc.size + index, stands.children ▸ gone⟩
    · exact ⟨node, row ▸ stays⟩
  · -- An inline that is not kept hangs from nothing.
    have kept : ∀ {id}, id ∈ doc.children node → other.parent id ≠ none →
        id ∈ inlines doc node := fun inRow hangs => by_contra fun gone =>
      hangs (rewritten.parent_line wf here marked inRow gone)
    have inline : first ∈ inlines doc node ∨ second ∈ inlines doc node :=
      hangs.imp (kept pair.left_mem) (kept pair.right_mem)
    exact ⟨node, row ▸ adjacent_inlines (wf.row_nodup node) pair plain.kind_ne.2.2 inline⟩
  · exact ⟨node, row ▸ pair⟩

/-- The repairs of a rewritten document were there before. -/
theorem occurs_of_occurs {repair : Repair} (occurs : Occurs other repair) : Occurs doc repair := by
  obtain ⟨left, image, right, link⟩ := plain_of_fits occurs.fits
  exact
    { fits := rewritten.fits_iff.mp occurs.fits
      opens := rewritten.next_of_next wf left image occurs.opens
      closes := rewritten.next_of_next wf image right occurs.closes
      leads := rewritten.next_of_next wf right link occurs.leads }

end Rewritten

end MarkdownTree.Alert
