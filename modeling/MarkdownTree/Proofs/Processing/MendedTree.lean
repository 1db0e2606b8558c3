import MarkdownTree.Proofs.Processing.Mended
import MarkdownTree.Proofs.Tree.Shape

/-! Mending trees: the repairs of a whole tree as a function on trees, and the mended documents in
which the tree is what that function makes of it. -/

namespace MarkdownTree

/-- The node at the top of a tree. -/
def Tree.top : Tree → NodeId
  | .node id _ => id

/-- A tree that is read off a document has at its top the node where it was read. -/
@[simp] theorem Document.top_tree (doc : Document) (id : NodeId) : (doc.tree id).top = id := by
  unfold tree
  cases doc.size <;> rfl

namespace ImageLink

mutual

/-- A tree with the rows at all levels below its top mended. -/
def mend (kind : NodeId → Kind) : Tree → Tree
  | .node id below => .node id (mendRow kind below)
termination_by structural tree => tree

/-- A row mended from left to right: four nodes that fit become the link with the image below it,
and every other node stays in place. -/
def mendRow (kind : NodeId → Kind) : List Tree → List Tree
  | left :: image :: right :: link :: rest =>
    if Repair.Fits ⟨left.top, image.top, right.top, link.top⟩ kind then
      .node link.top [mend kind image] :: mendRow kind rest
    else mend kind left :: mendRow kind (image :: right :: link :: rest)
  | tree :: rest => mend kind tree :: mendRow kind rest
  | [] => []
termination_by structural row => row

end

/-- Where no four nodes that fit start, the first node of a row stays in place. -/
theorem mendRow_cons {kind : NodeId → Kind} {tree : Tree} {row : List Tree}
    (none : ∀ image right link rest, row = image :: right :: link :: rest →
      ¬ Repair.Fits ⟨tree.top, image.top, right.top, link.top⟩ kind) :
    mendRow kind (tree :: row) = mend kind tree :: mendRow kind row := by
  match row with
  | [] => rfl
  | [_] => rfl
  | [_, _] => rfl
  | image :: right :: link :: rest =>
    rw [mendRow.eq_1, if_neg (none image right link rest rfl)]

variable {doc other : Document} {repairs : List Repair} {repair : Repair} {node : NodeId}

/-- A repair to be made along with others: its image is in the tree, and none of the others drops
it. -/
structure Due (doc : Document) (repairs : List Repair) (repair : Repair) : Prop where
  attached : doc.isAttached repair.image
  occurs : Occurs doc repair
  kept : ∀ made ∈ repairs, ¬ Drops doc made repair.image

namespace Mended

variable (wf : doc.WellFormed) (mended : Mended doc repairs other)
include wf mended

/-- A node of a row that stands after a kept one is kept, unless a repair starts there. -/
theorem kept_of_row {done rest : List NodeId} {first : NodeId}
    (split : doc.children node = done ++ first :: rest)
    (last : ∀ id ∈ done.getLast?, id ∉ takenBy repairs)
    (none : ∀ image right link more, rest = image :: right :: link :: more →
      ¬ Repair.Fits ⟨first, image, right, link⟩ doc.kind) :
    first ∉ takenBy repairs ∧ ∀ made ∈ repairs, made.link ≠ first := by
  have links := wf.linked
  have before := (links.of_split split).2.1
  -- What stands before a node of a repair is taken by it, so only the left bracket is in question.
  have afterTaken : ∀ {id}, doc.next id = some first → id ∉ takenBy repairs := fun link =>
    last _ (before.symm.trans ((wf.mirror _ _).mp link))
  refine ⟨fun isTaken => ?_, fun made member same => ?_⟩
  · obtain ⟨made, member, same | same | same⟩ := mem_takenBy.mp isTaken
    · -- After the left bracket the other nodes of the repair follow.
      have occurs := mended.occurs made member
      obtain ⟨image, right, link⟩ := occurs.following wf
      rw [right, link, same, links.following_eq split] at image
      exact none _ _ _ _ image (same ▸ occurs.fits)
    · refine afterTaken (same ▸ (mended.occurs made member).opens) ?_
      exact mem_takenBy.mpr ⟨made, member, Or.inl rfl⟩
    · refine afterTaken (same ▸ (mended.occurs made member).closes) ?_
      exact mem_takenBy.mpr ⟨made, member, Or.inr (Or.inl rfl)⟩
  · refine afterTaken (same ▸ (mended.occurs made member).leads) ?_
    exact mem_takenBy.mpr ⟨made, member, Or.inr (Or.inr rfl)⟩

omit wf in
/-- Of a row that starts with the nodes of a repair, the link and what is kept behind it stay. -/
theorem filter_repair (member : repair ∈ repairs) (rest : List NodeId) :
    ((repair.taken ++ repair.link :: rest).filter fun id => id ∉ takenBy repairs) =
      repair.link :: rest.filter fun id => id ∉ takenBy repairs := by
  have gone : ∀ id ∈ repair.taken, id ∈ takenBy repairs := fun id here =>
    List.mem_flatMap.mpr ⟨repair, member, here⟩
  rw [List.filter_append, List.filter_eq_nil_iff.mpr fun id here => by simpa using gone id here,
    List.nil_append, List.filter_cons_of_pos]
  simpa using mended.link_not_mem (mended.occurs repair member).fits

omit wf in
/-- Below the link of a repair there is the tree of its image alone. -/
theorem tree_link (member : repair ∈ repairs) :
    other.tree repair.link = .node repair.link [other.tree repair.image] := by
  rw [mended.wellFormed.tree_eq, mended.link repair member, List.map_singleton]

/-- Where all repairs of a row are made, what is left of the row is the row mended, if that is so of
the trees of its nodes. -/
theorem row_mended (attached : other.isAttached node)
    (notLink : ∀ made ∈ repairs, made.link ≠ node)
    (all : ∀ repair, Occurs doc repair → repair.image ∈ doc.children node → repair ∈ repairs)
    (below : ∀ child ∈ doc.children node, other.isAttached child →
      (∀ made ∈ repairs, made.link ≠ child) → other.tree child = mend doc.kind (doc.tree child))
    (rest done : List NodeId) (split : doc.children node = done ++ rest)
    (last : ∀ id ∈ done.getLast?, id ∉ takenBy repairs) :
    (rest.filter fun id => id ∉ takenBy repairs).map other.tree =
      mendRow doc.kind (rest.map doc.tree) := by
  have links := wf.linked
  -- The induction is on the length, since a repair uses up four nodes of the row.
  induction size : rest.length using Nat.strongRecOn generalizing rest done with
  | ind size ih =>
    subst size
    by_cases starts : ∃ left image right link more,
        rest = left :: image :: right :: link :: more ∧
          Repair.Fits ⟨left, image, right, link⟩ doc.kind
    · obtain ⟨left, image, right, link, more, rfl, fits⟩ := starts
      have split' := split
      rw [List.append_cons] at split'
      have opens := (links.of_split split).2.2
      have closes := (links.of_split split').2.2
      rw [List.append_cons] at split'
      have leads := (links.of_split split').2.2
      -- The four nodes stand side by side, so this is one of the repairs that are made.
      have inRow : image ∈ doc.children node := by simp [split]
      have member := all ⟨left, image, right, link⟩ ⟨fits, opens, closes, leads⟩ inRow
      have front : ((left :: image :: right :: link :: more).filter fun id =>
          id ∉ takenBy repairs) = link :: more.filter fun id => id ∉ takenBy repairs :=
        mended.filter_repair member more
      -- The image is mended where it is now, since it is no link itself.
      have imageMended := below image inRow
        (mended.isAttached_image wf attached notLink member inRow) fun made here same =>
          (fits.place_ne (mended.occurs made here).fits).2.2.2.2.1 same.symm
      have linkTree : other.tree link = .node link [mend doc.kind (doc.tree image)] :=
        imageMended ▸ mended.tree_link member
      have more := ih more.length (by simp only [List.length_cons]; omega) more
        (done ++ [left, image, right, link]) (by simp [split])
        (by simpa using mended.link_not_mem fits) rfl
      rw [front, List.map_cons, more, linkTree]
      simp only [List.map_cons, mendRow.eq_1, Document.top_tree, if_pos fits]
    · cases rest with
      | nil => rfl
      | cons first rest =>
        have none : ∀ image right link more, rest = image :: right :: link :: more →
            ¬ Repair.Fits ⟨first, image, right, link⟩ doc.kind :=
          fun _ _ _ _ same fits => starts ⟨first, _, _, _, _, congrArg _ same, fits⟩
        obtain ⟨kept, noLink⟩ := mended.kept_of_row wf split last none
        have member : first ∈ doc.children node := by simp [split]
        have mended' := below first member
          (mended.isAttached_child wf attached notLink member kept) noLink
        have rest' := ih rest.length (by simp only [List.length_cons]; omega) rest
          (done ++ [first]) (by simp [split]) (by simpa using kept) rfl
        rw [List.filter_cons_of_pos (by simpa using kept), List.map_cons, List.map_cons, mended',
          rest', mendRow_cons]
        -- Nor does a repair start there in the row of trees.
        intro image right link more row
        obtain ⟨image', row', split', rfl, toRight⟩ := List.map_eq_cons_iff.mp row
        obtain ⟨right', row'', rfl, rfl, toLink⟩ := List.map_eq_cons_iff.mp toRight
        obtain ⟨link', more', rfl, rfl, _⟩ := List.map_eq_cons_iff.mp toLink
        simpa using none image' right' link' more' split'

/-- Where all repairs that are due are made, each tree of the mended document is the old one
mended. -/
theorem tree_mended (all : ∀ repair, Due doc repairs repair → repair ∈ repairs)
    (attached : other.isAttached node) (notLink : ∀ made ∈ repairs, made.link ≠ node) :
    other.tree node = mend doc.kind (doc.tree node) := by
  induction node using wf.child_induction with
  | step node ih =>
    obtain ⟨hangs, kept⟩ := (mended.isAttached_iff wf).mp attached
    -- No repair drops an image of this row, or it would drop the node above as well.
    have due : ∀ repair, Occurs doc repair → repair.image ∈ doc.children node →
        repair ∈ repairs := by
      intro repair occurs inRow
      have above := wf.linked.parent.mpr inRow
      refine all repair ⟨wf.isWithin_child inRow hangs, occurs, fun made member drops => ?_⟩
      have apart := occurs.fits.place_ne (mended.occurs made member).fits
      refine (kept made member).2 ?_
      rcases drops with within | ⟨_, within⟩
      · exact Or.inl (wf.isWithin_above above apart.2.2.2.1.symm within)
      · refine Or.inr ⟨(notLink made member).symm, ?_⟩
        exact wf.isWithin_above above apart.2.2.2.2.1.symm within
    rw [mended.wellFormed.tree_eq, wf.tree_eq, mend, mended.others node notLink,
      mended.row_mended wf attached notLink due ih (doc.children node) [] rfl (by simp)]

end Mended

end ImageLink

end MarkdownTree
