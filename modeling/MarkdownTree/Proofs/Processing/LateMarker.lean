import MarkdownTree.Proofs.Processing.AlertLinks
import MarkdownTree.Proofs.Processing.MendedTree

/-! Late markers: a quote that was not marked comes to be marked when a repair at the start of its
paragraph lets a link with a marker stand first there. -/

namespace MarkdownTree

open ImageLink (Repair Mended Due takenBy mem_takenBy)

variable {doc other : Document} {repairs : List Repair} {repair : Repair} {quotes : List NodeId}
  {quote paragraph node : NodeId} {blocks rest : List NodeId} {alert : AlertKind}

namespace ImageLink.Mended

variable (wf : doc.WellFormed) (mended : Mended doc repairs other)
include wf mended

/-- A row that is not that of a repaired link starts as before, unless it starts with a repair: then
it starts with the link. -/
theorem row_start {first : NodeId} (notLink : ∀ made ∈ repairs, made.link ≠ node)
    (row : doc.children node = first :: rest) :
    first ∉ takenBy repairs ∧
        other.children node = first :: rest.filter (fun id => id ∉ takenBy repairs) ∨
      ∃ made ∈ repairs, ∃ more,
        doc.children node = made.left :: made.image :: made.right :: made.link :: more ∧
        other.children node = made.link :: more.filter fun id => id ∉ takenBy repairs := by
  have split : doc.children node = [] ++ first :: rest := row
  have alone := (wf.linked.of_split split).2.1
  rw [mended.others node notLink]
  by_cases isTaken : first ∈ takenBy repairs
  · right
    obtain ⟨made, member, same⟩ := mem_takenBy.mp isTaken
    have occurs := mended.occurs made member
    -- Nothing stands before the first node, so it is the left bracket.
    have isLeft : made.left = first := by
      rcases same with same | same | same
      · exact same
      · have before := (wf.mirror _ _).mp (same ▸ occurs.opens)
        simp [alone] at before
      · have before := (wf.mirror _ _).mp (same ▸ occurs.closes)
        simp [alone] at before
    obtain ⟨image, right, link⟩ := occurs.following wf
    rw [right, link, isLeft, wf.linked.following_eq split] at image
    refine ⟨made, member, doc.following made.link, by rw [row, image, isLeft], ?_⟩
    rw [row, image, ← isLeft]
    exact mended.filter_repair member _
  · left
    rw [row, List.filter_cons_of_pos (by simpa using isTaken)]
    exact ⟨isTaken, rfl⟩

/-- The end of a row holds content exactly if what is left of it does: after whatever is taken
stands a link. -/
theorem hasContent_filter {done : List NodeId} (row : doc.children node = done ++ rest) :
    Alert.hasContent doc (rest.filter fun id => id ∉ takenBy repairs) =
      Alert.hasContent doc rest := by
  unfold Alert.hasContent
  rw [Bool.eq_iff_iff, List.any_eq_true, List.any_eq_true]
  constructor
  · rintro ⟨id, member, text⟩
    exact ⟨id, List.mem_of_mem_filter member, text⟩
  · rintro ⟨id, member, text⟩
    by_cases isTaken : id ∈ takenBy repairs
    · -- Behind a node that is taken stands the link of its repair, which is content and is kept.
      obtain ⟨made, here, same⟩ := mem_takenBy.mp isTaken
      have occurs := mended.occurs made here
      obtain ⟨before, after, rfl⟩ := List.append_of_mem member
      rw [← List.append_assoc] at row
      have behind : made.link ∈ doc.following id := by
        obtain ⟨image, right, link⟩ := occurs.following wf
        rcases same with rfl | rfl | rfl <;> simp [image, right, link]
      rw [wf.linked.following_eq row] at behind
      refine ⟨made.link, List.mem_filter.mpr ⟨by simp [behind], ?_⟩, ?_⟩
      · simpa using mended.link_not_mem occurs.fits
      · simpa using (Alert.plain_of_fits occurs.fits).2.2.2.kind_ne.2.2
    · exact ⟨id, List.mem_filter.mpr ⟨member, by simpa using isTaken⟩, text⟩

end ImageLink.Mended

namespace Alert

/-- The alert of the marker that the source under a node holds, if the node starts far enough to the
left. -/
def markerAt? (doc : Document) (id : NodeId) : Option AlertKind := do
  guard ((doc.startPosition id).column ≤ maxColumn)
  AlertKind.firstIn? (← doc.sourceSlice? id).toList

/-- Only the source under a node tells what marker it holds. -/
theorem markerAt?_congr {id : NodeId} (source : other.source = doc.source)
    (span : other.span id = doc.span id) : markerAt? other id = markerAt? doc id := by
  obtain ⟨place, slice⟩ := Document.source_congr source span
  unfold markerAt?
  rw [place, slice]

/-- A block quote below the root that starts with a paragraph. -/
structure Quoted (doc : Document) (quote paragraph : NodeId) (blocks : List NodeId) : Prop where
  kind : doc.kind quote = .blockQuote
  parent : doc.parent quote = some Document.root
  children : doc.children quote = paragraph :: blocks
  text : doc.kind paragraph = .paragraph

/-- A quote is marked when the first node of its paragraph holds a marker and more than line breaks
follows, there or after the paragraph. -/
theorem marked_iff_marker (wf : doc.WellFormed) : Marked doc quote paragraph blocks alert ↔
    Quoted doc quote paragraph blocks ∧ ∃ marker rest, doc.children paragraph = marker :: rest ∧
      (hasContent doc blocks ∨ hasContent doc rest) ∧ markerAt? doc marker = some alert := by
  constructor
  · rintro ⟨kind, parent, children, text, marked⟩
    refine ⟨⟨kind, parent, children, text⟩, ?_⟩
    -- The tests are taken one by one, and each is read as what it says of the rows.
    simp only [marked?, hasContentAfter_eq wf children, hasInlineContent_eq wf, wf.linked.first,
      Option.bind_eq_bind, Option.bind_eq_some_iff, Option.guard_eq_some'] at marked
    obtain ⟨_, _, _, content, marker, head, found⟩ := marked
    obtain ⟨rest, row⟩ := List.head?_eq_some_iff.mp head
    rw [row, List.tail_cons, Bool.or_eq_true] at content
    refine ⟨marker, rest, row, content, ?_⟩
    simpa only [markerAt?, Option.bind_eq_bind, Option.bind_eq_some_iff, Option.guard_eq_some']
      using found
  · rintro ⟨⟨kind, parent, children, text⟩, marker, rest, row, content, found⟩
    refine ⟨kind, parent, children, text, ?_⟩
    simp only [marked?, hasContentAfter_eq wf children, hasInlineContent_eq wf, wf.linked.first,
      row, List.tail_cons, List.head?_cons, Option.bind_eq_bind, Option.bind_eq_some_iff,
      Option.guard_eq_some', Bool.or_eq_true]
    refine ⟨(), by simp [parent], (), content, marker, rfl, ?_⟩
    simpa only [markerAt?, Option.bind_eq_bind, Option.bind_eq_some_iff, Option.guard_eq_some']
      using found

/-- A quote that is not marked, but whose paragraph starts with a repair of a link that holds a
marker. -/
structure Late (doc : Document) (quote paragraph : NodeId) (blocks : List NodeId)
    (repair : Repair) (rest : List NodeId) : Prop where
  quoted : Quoted doc quote paragraph blocks
  row : doc.children paragraph =
    repair.left :: repair.image :: repair.right :: repair.link :: rest
  fits : repair.Fits doc.kind
  content : hasContent doc blocks ∨ hasContent doc rest
  marker : (markerAt? doc repair.link).isSome
  unmarked : process doc quote = none

/-- A late marker is read off the rows, kinds and sources of the quote and its paragraph. -/
theorem Late.congr (late : Late doc quote paragraph blocks repair rest)
    (same : ∀ id, id = quote ∨ id ∈ doc.children quote ∨ id ∈ doc.children paragraph →
      other.kind id = doc.kind id ∧ markerAt? other id = markerAt? doc id)
    (parent : other.parent quote = some Document.root)
    (row : other.children quote = doc.children quote)
    (inner : other.children paragraph = doc.children paragraph)
    (unmarked : process other quote = none) : Late other quote paragraph blocks repair rest := by
  -- What matters are the kinds in both rows, and the marker in that of the paragraph.
  have outerKind : ∀ id ∈ paragraph :: blocks, other.kind id = doc.kind id := fun id member =>
    (same id (Or.inr (Or.inl (late.quoted.children ▸ member)))).1
  have innerSame := fun id member => same id (Or.inr (Or.inr (late.row ▸ member)))
  obtain ⟨left, image, right, link⟩ := late.fits
  have after : hasContent other blocks = hasContent doc blocks :=
    hasContent_congr fun id member => outerKind id (List.mem_cons_of_mem paragraph member)
  have tail : hasContent other rest = hasContent doc rest :=
    hasContent_congr fun id member => (innerSame id (by simp [member])).1
  exact
    { quoted :=
        { kind := (same quote (Or.inl rfl)).1.trans late.quoted.kind
          parent := parent
          children := row.trans late.quoted.children
          text := (outerKind paragraph List.mem_cons_self).trans late.quoted.text }
      row := inner.trans late.row
      fits :=
        { left := (innerSame repair.left (by simp)).1.trans left
          image := by rw [(innerSame repair.image (by simp)).1, image]
          right := (innerSame repair.right (by simp)).1.trans right
          link := by rw [(innerSame repair.link (by simp)).1, link] }
      content := by rw [after, tail]; exact late.content
      marker := by rw [(innerSame repair.link (by simp)).2]; exact late.marker
      unmarked := unmarked }

/-- The row of a paragraph that starts with four nodes that fit starts with a repair. -/
theorem Late.occurs (wf : doc.WellFormed) (late : Late doc quote paragraph blocks repair rest) :
    ImageLink.Occurs doc repair := by
  have bracketed : ImageLink.Bracketed doc repair.image repair.left repair.right repair.link
      paragraph [] rest :=
    ⟨late.fits.image, late.row, late.fits.left, late.fits.right, late.fits.link⟩
  exact bracketed.occurs wf

end Alert

namespace ImageLink.Mended

open Alert (Late Quoted Marked markerAt? hasContent marked_iff_marker)

variable (wf : doc.WellFormed) (mended : Mended doc repairs other)
include wf mended

omit wf in
/-- No node with one of these kinds takes part in a repair. -/
theorem apart_of_kind (kind : doc.kind node = .blockQuote ∨ doc.kind node = .paragraph) :
    node ∉ takenBy repairs ∧ (∀ made ∈ repairs, made.image ≠ node) ∧
      ∀ made ∈ repairs, made.link ≠ node := by
  -- All nodes of repairs are plain.
  have notPlain : ¬ Alert.Plain doc node := fun plain =>
    kind.elim plain.kind_ne.2.1 plain.kind_ne.1
  have plain := fun made member => Alert.plain_of_fits (mended.occurs made member).fits
  refine ⟨fun isTaken => ?_, fun made member same => ?_, fun made member same => ?_⟩
  · obtain ⟨made, member, rfl | rfl | rfl⟩ := mem_takenBy.mp isTaken
    · exact notPlain (plain made member).1
    · exact notPlain (plain made member).2.1
    · exact notPlain (plain made member).2.2.1
  · exact notPlain (same ▸ (plain made member).2.1)
  · exact notPlain (same ▸ (plain made member).2.2.2)

/-- The quotes that start with a paragraph are the same, with what the repairs leave of their rows.
-/
theorem quoted_iff : Quoted other quote paragraph blocks ↔ ∃ old,
    Quoted doc quote paragraph old ∧ blocks = old.filter fun id => id ∉ takenBy repairs := by
  have kinds := mended.nodes.kind
  constructor
  · rintro ⟨kind, parent, children, text⟩
    rw [kinds] at kind text
    obtain ⟨_, notImage, notLink⟩ := mended.apart_of_kind (Or.inl kind)
    obtain ⟨_, _, paragraphNotLink⟩ := mended.apart_of_kind (Or.inr text)
    -- The quote is no image, so it hung from the root before.
    have parent : doc.parent quote = some Document.root := by
      rcases (mended.parent_iff wf).mp parent with ⟨made, member, same, _⟩ | before
      · exact absurd same (notImage made member)
      · exact before.1
    cases row : doc.children quote with
    | nil =>
      rw [mended.others quote notLink, row] at children
      cases children
    | cons first old =>
      rcases mended.row_start wf notLink row with ⟨_, row'⟩ | ⟨made, member, _, _, row'⟩
      · obtain ⟨rfl, rfl⟩ := List.cons_eq_cons.mp (children.symm.trans row')
        exact ⟨old, ⟨kind, parent, row, text⟩, rfl⟩
      · -- A paragraph is no link.
        exact absurd (List.cons_eq_cons.mp (row'.symm.trans children)).1
          (paragraphNotLink made member)
  · rintro ⟨old, ⟨kind, parent, row, text⟩, rfl⟩
    obtain ⟨notTaken, _, notLink⟩ := mended.apart_of_kind (Or.inl kind)
    obtain ⟨firstNotTaken, _, _⟩ := mended.apart_of_kind (Or.inr text)
    refine ⟨kinds ▸ kind, (mended.parent_iff wf).mpr (Or.inr ⟨parent, notTaken, ?_⟩), ?_,
      kinds ▸ text⟩
    · -- The root is no link, since a link has a parent.
      intro made member same
      obtain ⟨_, _, _, _, link⟩ := (mended.occurs made member).parents wf
      exact wf.ne_root link same
    · rcases mended.row_start wf notLink row with ⟨_, row'⟩ | ⟨made, member, _, split, _⟩
      · exact row'
      · obtain ⟨isLeft, _⟩ := List.cons_eq_cons.mp (row.symm.trans split)
        exact absurd (mem_takenBy.mpr ⟨made, member, Or.inl isLeft.symm⟩) firstNotTaken

omit wf in
/-- Repairs change neither which nodes are content nor what markers nodes hold. -/
theorem reads_same : (∀ row, hasContent other row = hasContent doc row) ∧
    ∀ id, markerAt? other id = markerAt? doc id :=
  ⟨fun _ => Alert.hasContent_congr fun id _ => congrFun mended.nodes.kind id, fun id =>
    Alert.markerAt?_congr mended.nodes.source (congrFun mended.nodes.span id)⟩

/-- A quote that is marked once repairs are made, and was not, has a late marker. -/
theorem late_of_marked (unmarked : Alert.process doc quote = none)
    (marked : Marked other quote paragraph blocks alert) :
    ∃ repair ∈ repairs, ∃ old rest, Late doc quote paragraph old repair rest := by
  obtain ⟨content, markers⟩ := mended.reads_same
  obtain ⟨quoted', marker, rest, row, filled, found⟩ :=
    (marked_iff_marker mended.wellFormed).mp marked
  obtain ⟨old, quoted, rfl⟩ := (mended.quoted_iff wf).mp quoted'
  obtain ⟨_, _, notLink⟩ := mended.apart_of_kind (Or.inr quoted.text)
  have split : doc.children quote = [paragraph] ++ old := quoted.children
  rw [content, content, mended.hasContent_filter wf split] at filled
  rw [markers] at found
  cases before : doc.children paragraph with
  | nil =>
    rw [mended.others paragraph notLink, before] at row
    cases row
  | cons first more =>
    -- The marker was the first node already, or it is the link of a repair that stood there.
    rcases mended.row_start wf notLink before with ⟨_, row'⟩ | ⟨made, member, more, split', row'⟩
    · obtain ⟨rfl, rfl⟩ := List.cons_eq_cons.mp (row.symm.trans row')
      have split' : doc.children paragraph = [marker] ++ more := before
      rw [mended.hasContent_filter wf split'] at filled
      have marked := (marked_iff_marker wf).mpr ⟨quoted, marker, more, before, filled, found⟩
      have answer := (Alert.isSome_process_iff wf).mpr ⟨paragraph, old, alert, marked⟩
      rw [unmarked] at answer
      cases answer
    · obtain ⟨rfl, rfl⟩ := List.cons_eq_cons.mp (row.symm.trans row')
      have split'' : doc.children paragraph =
          [made.left, made.image, made.right, made.link] ++ more := split'
      rw [mended.hasContent_filter wf split''] at filled
      exact ⟨made, member, old, more,
        { quoted := quoted
          row := split'
          fits := (mended.occurs made member).fits
          content := filled
          marker := Option.isSome_of_mem found
          unmarked := unmarked }⟩

/-- A quote with a late marker is marked once the repair before that marker is made. -/
theorem marked_of_late (member : repair ∈ repairs)
    (late : Late doc quote paragraph blocks repair rest) :
    ∃ alert, Marked other quote paragraph (blocks.filter fun id => id ∉ takenBy repairs) alert := by
  obtain ⟨content, markers⟩ := mended.reads_same
  have quoted := late.quoted
  obtain ⟨_, _, notLink⟩ := mended.apart_of_kind (Or.inr quoted.text)
  obtain ⟨alert, found⟩ := Option.isSome_iff_exists.mp late.marker
  refine ⟨alert, (marked_iff_marker mended.wellFormed).mpr
    ⟨(mended.quoted_iff wf).mpr ⟨blocks, quoted, rfl⟩, repair.link,
      rest.filter fun id => id ∉ takenBy repairs, ?_, ?_, by rw [markers, found]⟩⟩
  · -- Of the repair at the start of the row only the link stays.
    rw [mended.others paragraph notLink, late.row]
    exact mended.filter_repair member rest
  · have split : doc.children quote = [paragraph] ++ blocks := quoted.children
    have split' : doc.children paragraph =
        [repair.left, repair.image, repair.right, repair.link] ++ rest := late.row
    rw [content, content, mended.hasContent_filter wf split, mended.hasContent_filter wf split']
    exact late.content

/-- A quote that is not marked is marked once repairs are made exactly if one of them is that of a
late marker. -/
theorem marked_iff_late (unmarked : Alert.process doc quote = none) :
    (∃ paragraph blocks alert, Marked other quote paragraph blocks alert) ↔
      ∃ repair ∈ repairs, ∃ paragraph blocks rest,
        Late doc quote paragraph blocks repair rest := by
  constructor
  · rintro ⟨paragraph, _, _, marked⟩
    obtain ⟨repair, member, old, rest, late⟩ := mended.late_of_marked wf unmarked marked
    exact ⟨repair, member, paragraph, old, rest, late⟩
  · rintro ⟨repair, member, paragraph, blocks, rest, late⟩
    obtain ⟨alert, marked⟩ := mended.marked_of_late wf member late
    exact ⟨paragraph, _, alert, marked⟩

end ImageLink.Mended

end MarkdownTree
