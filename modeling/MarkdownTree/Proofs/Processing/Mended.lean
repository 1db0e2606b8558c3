import MarkdownTree.Proofs.Processing.Repair

/-! Mended documents: some repairs are made, and of all other rows only the nodes that the repairs
take are gone. -/

namespace MarkdownTree.ImageLink

/-- The nodes that leave their rows when repairs are made. -/
def takenBy (repairs : List Repair) : List NodeId :=
  repairs.flatMap Repair.taken

/-- A document in which repairs are made, whatever the order in which they were made. -/
structure Mended (doc : Document) (repairs : List Repair) (other : Document) : Prop where
  wellFormed : other.WellFormed
  nodes : Document.SameNodes doc other
  /-- The repairs were there to be made, -/
  occurs : ∀ repair ∈ repairs, Occurs doc repair
  /-- each link has the image alone, -/
  link : ∀ repair ∈ repairs, other.children repair.link = [repair.image]
  /-- and all other rows lose the nodes that are taken. -/
  others : ∀ node, (∀ repair ∈ repairs, repair.link ≠ node) →
    other.children node = (doc.children node).filter fun id => id ∉ takenBy repairs

variable {doc other next : Document} {repairs : List Repair} {repair : Repair}

/-- The nodes taken are the images and the brackets. -/
theorem mem_takenBy {id : NodeId} : id ∈ takenBy repairs ↔
    ∃ repair ∈ repairs, repair.left = id ∨ repair.image = id ∨ repair.right = id := by
  simp [takenBy, Repair.taken, eq_comm]

/-- One more repair takes its own nodes. -/
theorem takenBy_concat : takenBy (repairs ++ [repair]) = takenBy repairs ++ repair.taken := by
  simp [takenBy]

/-- No repair is made in the document itself. -/
theorem Mended.refl (wf : doc.WellFormed) : Mended doc [] doc where
  wellFormed := wf
  nodes := .refl doc
  occurs _ member := absurd member List.not_mem_nil
  link _ member := absurd member List.not_mem_nil
  others node _ := by simp [takenBy]

/-- One repair leaves of every row but that of its link what it does not take. -/
theorem Bracketed.nest_eq_filter (wf : doc.WellFormed) {parent node : NodeId}
    {before after : List NodeId}
    (bracketed : Bracketed doc repair.image repair.left repair.right repair.link parent before after)
    (notLink : node ≠ repair.link) : nest doc repair.image repair.link parent before after node =
      (doc.children node).filter fun id => id ∉ repair.taken := by
  rw [nest]
  by_cases here : node = parent
  · -- The three nodes stand together in the row.
    have distinct := wf.row_nodup parent
    rw [bracketed.row] at distinct
    rw [if_pos here, here, bracketed.row]
    exact (filter_middle distinct).symm
  · -- None of the three is in another row.
    obtain ⟨leftIn, imageIn, rightIn, _⟩ := bracketed.mem_row
    rw [if_neg here, if_neg notLink]
    refine (List.filter_eq_self.mpr fun id member => ?_).symm
    have elsewhere : id ∉ doc.children parent := fun member' =>
      here (wf.linked.same_row member member')
    refine decide_eq_true fun gone => elsewhere ?_
    simp only [Repair.taken, List.mem_cons, List.not_mem_nil, or_false] at gone
    rcases gone with rfl | rfl | rfl <;> assumption

namespace Mended

variable (mended : Mended doc repairs other)
include mended

/-- Of the nodes of a repair that fits, only the image and the brackets can be taken. -/
theorem link_not_mem (fits : repair.Fits doc.kind) : repair.link ∉ takenBy repairs := by
  rw [mem_takenBy]
  rintro ⟨made, member, same⟩
  -- A link is neither a bracket nor an image.
  have apart := (mended.occurs made member).fits.place_ne fits
  rcases same with same | same | same
  · exact apart.2.2.1 same
  · exact apart.2.2.2.2.1 same
  · exact apart.2.2.2.2.2 same

/-- An image of four nodes that fit is taken only as an image. -/
theorem image_mem (fits : repair.Fits doc.kind) (member : repair.image ∈ takenBy repairs) :
    ∃ made ∈ repairs, made.image = repair.image := by
  obtain ⟨made, here, same⟩ := mem_takenBy.mp member
  have fits' := (mended.occurs made here).fits
  rcases same with same | same | same
  · exact absurd same (fits'.place_ne fits).1
  · exact ⟨made, here, same⟩
  · exact absurd same.symm (fits.place_ne fits').2.2.2.1

variable (wf : doc.WellFormed)
include wf

/-- Where the nodes of a mended document hang: the images in their links, and all others where they
did, unless they are taken or were in such a link. -/
theorem parent_iff {id node : NodeId} : other.parent id = some node ↔
    (∃ made ∈ repairs, made.image = id ∧ made.link = node) ∨
      doc.parent id = some node ∧ id ∉ takenBy repairs ∧ ∀ made ∈ repairs, made.link ≠ node := by
  rw [mended.wellFormed.linked.parent, wf.linked.parent]
  by_cases repaired : ∃ made ∈ repairs, made.link = node
  · obtain ⟨made, member, rfl⟩ := repaired
    rw [mended.link made member, List.mem_singleton]
    constructor
    · intro same
      exact Or.inl ⟨made, member, same.symm, rfl⟩
    · rintro (⟨made', member', same, links⟩ | ⟨_, _, apart⟩)
      · -- The link is that of one repair only.
        have one := (mended.occurs made member).unique wf (mended.occurs made' member')
          (Or.inr (Or.inr (Or.inr links.symm)))
        rw [one, same]
      · exact absurd rfl (apart made member)
  · have apart : ∀ made ∈ repairs, made.link ≠ node := fun made member same =>
      repaired ⟨made, member, same⟩
    rw [mended.others node apart, List.mem_filter, decide_eq_true_iff]
    constructor
    · exact fun kept => Or.inr ⟨kept.1, kept.2, apart⟩
    · rintro (⟨made, member, _, links⟩ | kept)
      · exact absurd links (apart made member)
      · exact ⟨kept.1, kept.2.1⟩

omit wf in
/-- In the row of a repaired link no two nodes stand side by side. -/
theorem not_adjacent_link {made : Repair} (member : made ∈ repairs) {first second : NodeId} :
    ¬ Adjacent first second (other.children made.link) := by
  rw [mended.link made member, adjacent_cons]
  -- The image is alone there, so nothing stands after it.
  rintro (⟨_, next⟩ | pair)
  · cases next
  · exact not_adjacent_nil pair

/-- What stands after a kept node and is taken is the left bracket of a repair. -/
theorem next_eq_left {first second : NodeId} (next : doc.next first = some second)
    (kept : first ∉ takenBy repairs) (gone : second ∈ takenBy repairs) :
    ∃ made ∈ repairs, made.left = second := by
  obtain ⟨made, member, same⟩ := mem_takenBy.mp gone
  have occurs := mended.occurs made member
  -- Before the image and before the right bracket stands a node that is taken.
  rcases same with same | same | same
  · exact ⟨made, member, same⟩
  · have before := wf.next_inj next (same ▸ occurs.opens)
    exact absurd (mem_takenBy.mpr ⟨made, member, Or.inl before.symm⟩) kept
  · have before := wf.next_inj next (same ▸ occurs.closes)
    exact absurd (mem_takenBy.mpr ⟨made, member, Or.inr (Or.inl before.symm)⟩) kept

/-- The first kept node after one that a repair follows is the link of that repair. -/
theorem find_kept {made : Repair} (member : made ∈ repairs) {first : NodeId}
    (next : doc.next first = some made.left) :
    (doc.following first).find? (fun id => id ∉ takenBy repairs) = some made.link := by
  have occurs := mended.occurs made member
  obtain ⟨toImage, toRight, toLink⟩ := occurs.following wf
  have row : doc.following first = made.taken ++ made.link :: doc.following made.link := by
    rw [wf.following_next next, toImage, toRight, toLink]
    rfl
  have linkKept : made.link ∉ takenBy repairs := mended.link_not_mem occurs.fits
  refine List.find?_eq_some_iff_append.mpr ⟨by simpa using linkKept, _, _, row, fun id gone => ?_⟩
  have gone : id ∈ takenBy repairs := List.mem_flatMap.mpr ⟨made, member, gone⟩
  simpa using gone

/-- Between a kept node and the next kept node of its row there is nothing, or one repair. -/
theorem next_of_next {first second : NodeId} (link : other.next first = some second) :
    first ∉ takenBy repairs ∧ (∀ made ∈ repairs, doc.parent first ≠ some made.link) ∧
      (doc.next first = some second ∧ second ∉ takenBy repairs ∨
        ∃ made ∈ repairs, doc.next first = some made.left ∧ made.link = second) := by
  have links := wf.linked
  obtain ⟨node, pair⟩ := mended.wellFormed.linked.next.mp link
  have apart : ∀ made ∈ repairs, made.link ≠ node := fun made member same =>
    mended.not_adjacent_link member (same ▸ pair)
  rw [mended.others node apart] at pair
  obtain ⟨before, between, after, row, kept, kept', dropped⟩ := adjacent_filter.mp pair
  have around := links.of_split row
  have firstKept : first ∉ takenBy repairs := by simpa using kept
  refine ⟨firstKept, fun made member above => ?_, ?_⟩
  · exact apart made member (Option.some.inj (above.symm.trans around.1))
  cases between with
  | nil => exact Or.inl ⟨around.2.2, by simpa using kept'⟩
  | cons head between =>
    -- The first of the nodes dropped opens a repair, and the first kept one after it is its link.
    have gone : head ∈ takenBy repairs := by simpa using dropped head List.mem_cons_self
    obtain ⟨made, member, rfl⟩ := mended.next_eq_left wf around.2.2 firstKept gone
    have found : (doc.following first).find? (fun id => id ∉ takenBy repairs) = some second :=
      List.find?_eq_some_iff_append.mpr
        ⟨kept', made.left :: between, after, links.following_eq row, by simpa using dropped⟩
    have found' := mended.find_kept wf member around.2.2
    exact Or.inr ⟨made, member, around.2.2, Option.some.inj (found'.symm.trans found)⟩

/-- Two kept nodes stand side by side if they did, or if one repair was between them. -/
theorem next_of_kept {first second : NodeId} (kept : first ∉ takenBy repairs)
    (elsewhere : ∀ made ∈ repairs, doc.parent first ≠ some made.link)
    (next : doc.next first = some second ∧ second ∉ takenBy repairs ∨
      ∃ made ∈ repairs, doc.next first = some made.left ∧ made.link = second) :
    other.next first = some second := by
  have links := wf.linked
  rcases next with ⟨next, kept'⟩ | ⟨made, member, next, rfl⟩
  · obtain ⟨node, before, after, row⟩ := links.next.mp next
    have above := (links.of_split row).1
    rw [mended.wellFormed.linked.next]
    refine ⟨node, ?_⟩
    rw [mended.others node fun made member same => elsewhere made member (same ▸ above)]
    exact adjacent_filter.mpr ⟨before, [], after, row, by simpa using kept, by simpa using kept',
      fun _ none => absurd none List.not_mem_nil⟩
  · obtain ⟨node, before, after, bracketed⟩ := (mended.occurs made member).bracketed wf
    have row := bracketed.row
    -- The node stands last before the left bracket.
    have last : before.getLast? = some first :=
      (links.of_split row).2.1.symm.trans ((wf.mirror _ _).mp next)
    obtain ⟨before, rfl⟩ := List.getLast?_eq_some_iff.mp last
    rw [List.append_assoc, List.singleton_append] at row
    have above := (links.of_split row).1
    rw [mended.wellFormed.linked.next]
    refine ⟨node, ?_⟩
    rw [mended.others node fun made member same => elsewhere made member (same ▸ above)]
    refine adjacent_filter.mpr ⟨before, made.taken, after, row, by simpa using kept,
      by simpa using mended.link_not_mem (mended.occurs made member).fits, fun id gone => ?_⟩
    have gone : id ∈ takenBy repairs := List.mem_flatMap.mpr ⟨made, member, gone⟩
    simpa using gone

/-- The brackets around an image that is not taken are not taken. -/
theorem brackets_kept (fits : repair.Fits doc.kind) (kept : repair.image ∉ takenBy repairs)
    (opens : doc.next repair.left = some repair.image)
    (closes : doc.next repair.image = some repair.right) :
    repair.left ∉ takenBy repairs ∧ repair.right ∉ takenBy repairs := by
  -- A bracket has one place in a repair, and there an image stands beside it that is taken as well.
  constructor
  · intro gone
    obtain ⟨made, member, same⟩ := mem_takenBy.mp gone
    have occurs := mended.occurs made member
    have apart := fits.place_ne occurs.fits
    rcases same with same | same | same
    · have after : made.image = repair.image :=
        Option.some.inj (occurs.opens.symm.trans (same ▸ opens))
      exact kept (mem_takenBy.mpr ⟨made, member, Or.inr (Or.inl after)⟩)
    · exact apart.1 same.symm
    · exact apart.2.1 same.symm
  · intro gone
    obtain ⟨made, member, same⟩ := mem_takenBy.mp gone
    have occurs := mended.occurs made member
    have apart := occurs.fits.place_ne fits
    rcases same with same | same | same
    · exact apart.2.1 same
    · exact apart.2.2.2.1 same
    · have before := wf.next_inj closes (same ▸ occurs.closes)
      exact kept (mem_takenBy.mpr ⟨made, member, Or.inr (Or.inl before.symm)⟩)

/-- Four nodes stand side by side in the mended document if they did, and their image and the link
above are left alone; or if one repair stood before their link, which is the link of both. -/
theorem occurs_iff : Occurs other repair ↔
    repair.Fits doc.kind ∧ repair.image ∉ takenBy repairs ∧
      (∀ made ∈ repairs, doc.parent repair.image ≠ some made.link) ∧
      doc.next repair.left = some repair.image ∧ doc.next repair.image = some repair.right ∧
      (doc.next repair.right = some repair.link ∨
        ∃ made ∈ repairs, doc.next repair.right = some made.left ∧ made.link = repair.link) := by
  constructor
  · intro occurs
    have fits : repair.Fits doc.kind := mended.nodes.kind ▸ occurs.fits
    obtain ⟨_, _, opens⟩ := mended.next_of_next wf occurs.opens
    obtain ⟨imageKept, elsewhere, closes⟩ := mended.next_of_next wf occurs.closes
    obtain ⟨_, _, leads⟩ := mended.next_of_next wf occurs.leads
    refine ⟨fits, imageKept, elsewhere, ?_, ?_, leads.imp_left And.left⟩
    · -- The image is no link, so it was next to the left bracket already.
      rcases opens with opens | ⟨made, member, _, same⟩
      · exact opens.1
      · exact absurd same.symm (fits.place_ne (mended.occurs made member).fits).2.2.2.2.1
    · rcases closes with closes | ⟨made, member, _, same⟩
      · exact closes.1
      · exact absurd same.symm (fits.place_ne (mended.occurs made member).fits).2.2.2.2.2
  · intro stands
    obtain ⟨fits, imageKept, elsewhere, opens, closes, leads⟩ := stands
    obtain ⟨leftKept, rightKept⟩ := mended.brackets_kept wf fits imageKept opens closes
    -- All of them are in the row of the image.
    have leftElsewhere := (wf.parent_next opens).1 ▸ elsewhere
    have rightElsewhere := (wf.parent_next closes).1 ▸ elsewhere
    refine ⟨mended.nodes.kind ▸ fits, ?_, ?_, ?_⟩
    · exact mended.next_of_kept wf leftKept leftElsewhere (Or.inl ⟨opens, imageKept⟩)
    · exact mended.next_of_kept wf imageKept elsewhere (Or.inl ⟨closes, rightKept⟩)
    · exact mended.next_of_kept wf rightKept rightElsewhere
        (leads.imp_left fun leads => ⟨leads, mended.link_not_mem fits⟩)

/-- One more repair is made. -/
theorem repaired (occurs : Occurs doc repair) (fresh : repair ∉ repairs)
    {parent : NodeId} {before after : List NodeId}
    (bracketed : Bracketed other repair.image repair.left repair.right repair.link parent before
      after)
    (reshaped : Document.Reshaped other next
      (nest other repair.image repair.link parent before after)) :
    Mended doc (repairs ++ [repair]) next := by
  have wf' := mended.wellFormed
  have mem : ∀ {made}, made ∈ repairs ++ [repair] ↔ made ∈ repairs ∨ made = repair := by simp
  refine
    { wellFormed := reshaped.wellFormed
      nodes := mended.nodes.trans reshaped.nodes
      occurs := ?_
      link := ?_
      others := ?_ }
  · intro made member
    rcases mem.mp member with before | rfl
    · exact mended.occurs made before
    · exact occurs
  · intro made member
    rw [reshaped.children, nest]
    rcases mem.mp member with before | rfl
    · -- The row of a link that was repaired before holds no brackets, and the link is another one.
      have notParent : made.link ≠ parent := by
        rintro rfl
        exact mended.not_adjacent_link before ⟨_, _, bracketed.row⟩
      have notLink : made.link ≠ repair.link := by
        intro same
        have one := (mended.occurs made before).unique wf occurs (Or.inr (Or.inr (Or.inr same)))
        exact fresh (one ▸ before)
      rw [if_neg notParent, if_neg notLink]
      exact mended.link made before
    · rw [if_neg (bracketed.link_ne wf').1, if_pos rfl]
  · intro node apart
    have earlier := mended.others node fun made member => apart made (mem.mpr (Or.inl member))
    have notLink : node ≠ repair.link := (apart repair (mem.mpr (Or.inr rfl))).symm
    have both : ((doc.children node).filter fun id => id ∉ takenBy (repairs ++ [repair])) =
        (other.children node).filter fun id => id ∉ repair.taken := by
      rw [earlier, List.filter_filter, takenBy_concat]
      refine List.filter_congr fun id _ => ?_
      simp only [List.mem_append, not_or, Bool.decide_and]
      exact Bool.and_comm _ _
    rw [both, reshaped.children]
    exact bracketed.nest_eq_filter wf' notLink

end Mended

/-- What a repair takes out of the tree when it is made: all that is within the right bracket, and
all that is below the link. -/
def Drops (doc : Document) (repair : Repair) (id : NodeId) : Prop :=
  doc.isWithin repair.right id ∨ id ≠ repair.link ∧ doc.isWithin repair.link id

/-- Whether a repair takes a node out of the tree can be tested. -/
instance (doc : Document) (repair : Repair) (id : NodeId) : Decidable (Drops doc repair id) :=
  inferInstanceAs (Decidable (_ ∨ _))

/-- What is around an image is around its link as well, and is not the link. -/
theorem Occurs.isWithin_link (wf : doc.WellFormed) (occurs : Occurs doc repair) {top : NodeId}
    (different : top ≠ repair.image) (within : doc.isWithin top repair.image) :
    doc.isWithin top repair.link ∧ top ≠ repair.link := by
  obtain ⟨parent, _, image, _, link⟩ := occurs.parents wf
  refine ⟨wf.isWithin_sibling (image.trans link.symm) different within, fun isLink => ?_⟩
  -- The link is not around its own parent, above the image.
  have outer := wf.isWithin_above image different within
  exact wf.not_isWithin_parent ((wf.mem_row _ _).mpr link) (isLink ▸ outer)

namespace Mended

variable (wf : doc.WellFormed) (mended : Mended doc repairs other)
include wf mended

omit mended in
/-- A repair that drops the image of another one drops the link as well: images are neither brackets
nor links. -/
theorem drops_link {made : Repair} (occurs : Occurs doc repair) (occurs' : Occurs doc made)
    (drops : doc.isWithin made.left repair.image ∨ Drops doc made repair.image) :
    doc.isWithin made.left repair.link ∨ Drops doc made repair.link := by
  have apart := occurs'.fits.place_ne occurs.fits
  have apart' := occurs.fits.place_ne occurs'.fits
  rcases drops with within | within | ⟨_, within⟩
  · exact Or.inl (occurs.isWithin_link wf apart.1 within).1
  · exact Or.inr (Or.inl (occurs.isWithin_link wf apart'.2.2.2.1.symm within).1)
  · obtain ⟨around, other⟩ := occurs.isWithin_link wf apart'.2.2.2.2.1.symm within
    exact Or.inr (Or.inr ⟨other.symm, around⟩)

/-- What hangs from the root of a mended document did so before, and no repair drops it. -/
theorem kept_of_isAttached {id : NodeId} (attached : other.isAttached id) : doc.isAttached id ∧
    ∀ made ∈ repairs, ¬ doc.isWithin made.left id ∧ ¬ Drops doc made id := by
  have wf' := mended.wellFormed
  -- The induction goes up the line of parents in the mended document.
  induction id using wf'.parent_induction with
  | step id ih =>
    simp only [← not_or] at ih ⊢
    rcases wf'.isWithin_iff.mp attached with same | ⟨node, above, attached⟩
    · -- The root is within nothing that has a parent.
      subst same
      refine ⟨wf.isWithin_self _, fun made member => ?_⟩
      obtain ⟨parent, left, _, right, link⟩ := (mended.occurs made member).parents wf
      rintro (within | within | ⟨_, within⟩)
      · exact wf.ne_root left (wf.isWithin_root within)
      · exact wf.ne_root right (wf.isWithin_root within)
      · exact wf.ne_root link (wf.isWithin_root within)
    obtain ⟨hangs, kept⟩ := ih node above attached
    rcases (mended.parent_iff wf).mp above with ⟨made, member, rfl, rfl⟩ | ⟨up, notTaken, apart⟩
    · -- An image in its link was next to it, so it was within the same nodes but itself.
      have occurs := mended.occurs made member
      obtain ⟨parent, _, image, _, link⟩ := occurs.parents wf
      have attached := wf.isWithin_sibling (link.trans image.symm) (wf.ne_root link).symm hangs
      refine ⟨attached, fun made' member' drops => kept made' member' ?_⟩
      exact drops_link wf occurs (mended.occurs made' member') drops
    · -- Any other node hangs where it did, and is no bracket.
      refine ⟨wf.isWithin_iff.mpr (Or.inr ⟨node, up, hangs⟩), fun made member drops => ?_⟩
      have notLeft : made.left ≠ id := fun same =>
        notTaken (mem_takenBy.mpr ⟨made, member, Or.inl same⟩)
      have notRight : made.right ≠ id := fun same =>
        notTaken (mem_takenBy.mpr ⟨made, member, Or.inr (Or.inr same)⟩)
      refine kept made member ?_
      rcases drops with within | within | ⟨notLink, within⟩
      · exact Or.inl (wf.isWithin_above up notLeft within)
      · exact Or.inr (Or.inl (wf.isWithin_above up notRight within))
      · exact Or.inr (Or.inr ⟨(apart made member).symm, wf.isWithin_above up notLink.symm within⟩)

/-- In a row of the tree that is not that of a repaired link, all nodes that are kept hang from the
root. -/
theorem isAttached_child {node child : NodeId} (attached : other.isAttached node)
    (notLink : ∀ made ∈ repairs, made.link ≠ node) (member : child ∈ doc.children node)
    (kept : child ∉ takenBy repairs) : other.isAttached child :=
  mended.wellFormed.isWithin_iff.mpr (Or.inr ⟨node,
    (mended.parent_iff wf).mpr (Or.inr ⟨wf.linked.parent.mpr member, kept, notLink⟩), attached⟩)

/-- In such a row the image of a repair hangs from the root as well, below its link. -/
theorem isAttached_image {node : NodeId} (attached : other.isAttached node)
    (notLink : ∀ made ∈ repairs, made.link ≠ node) (member : repair ∈ repairs)
    (inRow : repair.image ∈ doc.children node) : other.isAttached repair.image := by
  have occurs := mended.occurs repair member
  obtain ⟨parent, _, image, _, link⟩ := occurs.parents wf
  have same : parent = node := Option.some.inj (image.symm.trans (wf.linked.parent.mpr inRow))
  have onLink := mended.isAttached_child wf attached notLink
    (wf.linked.parent.mp (same ▸ link)) (mended.link_not_mem occurs.fits)
  have into := (mended.parent_iff wf).mpr (Or.inl ⟨repair, member, rfl, rfl⟩)
  exact mended.wellFormed.isWithin_iff.mpr (Or.inr ⟨repair.link, into, onLink⟩)

/-- What hangs from the root and is dropped by no repair hangs from the root of the mended document.
-/
theorem isAttached_of_kept {id : NodeId} (attached : doc.isAttached id)
    (kept : ∀ made ∈ repairs, ¬ doc.isWithin made.left id ∧ ¬ Drops doc made id) :
    other.isAttached id := by
  have wf' := mended.wellFormed
  -- The induction goes up the line of parents in the document before the repairs.
  induction id using wf.parent_induction with
  | step id ih =>
    rcases wf.isWithin_iff.mp attached with same | ⟨node, up, attached⟩
    · exact same ▸ wf'.isWithin_self _
    have down : ∀ {top}, doc.isWithin top node → doc.isWithin top id := fun within =>
      wf.isWithin_iff.mpr (Or.inr ⟨node, up, within⟩)
    have inRow := (wf.mem_row _ _).mpr up
    have hangs : other.isAttached node := by
      refine ih node up attached fun made member => ⟨fun within => ?_, fun drops => ?_⟩
      · exact (kept made member).1 (down within)
      · refine (kept made member).2 ?_
        rcases drops with within | ⟨_, within⟩
        · exact Or.inl (down within)
        · -- A node below the link is not the link itself.
          refine Or.inr ⟨fun same => ?_, down within⟩
          exact wf.not_isWithin_parent inRow (same ▸ within)
    have apart : ∀ made ∈ repairs, made.link ≠ node := by
      intro made member same
      refine (kept made member).2 (Or.inr ⟨fun here => ?_, ?_⟩)
      · exact (wf.ne_of_mem inRow).2 (here.trans same)
      · exact down (same ▸ wf.isWithin_self _)
    by_cases isTaken : id ∈ takenBy repairs
    · obtain ⟨made, member, rfl | rfl | rfl⟩ := mem_takenBy.mp isTaken
      · exact absurd (wf.isWithin_self _) (kept made member).1
      · exact mended.isAttached_image wf hangs apart member inRow
      · exact absurd (Or.inl (wf.isWithin_self _)) (kept made member).2
    · exact mended.isAttached_child wf hangs apart inRow isTaken

/-- What is left in the tree did not hang from a repaired link. -/
theorem parent_ne_link {id : NodeId} (attached : other.isAttached id) :
    ∀ made ∈ repairs, doc.parent id ≠ some made.link := by
  intro made member above
  -- All that is below the link is dropped.
  have inRow := (wf.mem_row _ _).mpr above
  refine ((mended.kept_of_isAttached wf attached).2 made member).2 (Or.inr ⟨?_, ?_⟩)
  · exact (wf.ne_of_mem inRow).2
  · exact wf.isWithin_child inRow (wf.isWithin_self _)

/-- What hangs from the root of a mended document is what did, less what is within a left bracket
and what the repairs drop. -/
theorem isAttached_iff {id : NodeId} : other.isAttached id ↔ doc.isAttached id ∧
    ∀ made ∈ repairs, ¬ doc.isWithin made.left id ∧ ¬ Drops doc made id :=
  ⟨mended.kept_of_isAttached wf, fun kept => mended.isAttached_of_kept wf kept.1 kept.2⟩

end Mended

end MarkdownTree.ImageLink
