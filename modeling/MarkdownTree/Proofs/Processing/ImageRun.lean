import MarkdownTree.Proofs.Processing.MendedTree
import MarkdownTree.Proofs.Processing.Reachable

/-! Whole walks for bracketed images: the tree that is walked is mended, level by level, by repairs
that were all there at the start. -/

namespace MarkdownTree.ImageLink

variable {doc next : Document} {repairs : List Repair} {repair : Repair} {seen : List NodeId}
  {journal : Journal} {progress : Progress} {node : NodeId}

/-- A walk that has seen these images so far, and has made these repairs and nothing else. -/
structure Done (doc : Document) (journal : Journal) (seen : List NodeId) (repairs : List Repair)
    (progress : Progress) : Prop where
  mended : Mended doc repairs progress.doc
  refusal : progress.refusal = none
  patched : progress.patched = repairs.length
  journal : progress.journal = journal ++ repairs.flatMap Repair.changes
  /-- The repairs are made in the order in which the images are seen, -/
  order : (repairs.map Repair.image).Sublist seen
  /-- and of the images seen, those are repaired that no repair drops. -/
  due : ∀ repair, repair.image ∈ seen → Occurs doc repair →
    (repair ∈ repairs ↔ ∀ made ∈ repairs, ¬ Drops doc made repair.image)

/-- A repair drops no image that comes before its own, nor its own. -/
theorem Occurs.not_drops (wf : doc.WellFormed) (occurs : Occurs doc repair) {image : NodeId}
    (before : doc.Precedes image repair.image) : ¬ Drops doc repair image := by
  obtain ⟨_, right, link⟩ := occurs.following wf
  have behind : repair.right ∈ doc.following repair.image ∧
      repair.link ∈ doc.following repair.image := by
    simp [right, link]
  rintro (within | ⟨_, within⟩)
  · exact before _ _ behind.1 within (wf.isWithin_self _)
  · exact before _ _ behind.2 within (wf.isWithin_self _)

namespace Done

variable (wf : doc.WellFormed) (done : Done doc journal seen repairs progress)
include done

/-- The images of the repairs have been seen. -/
theorem seen_of_mem {made : Repair} (member : made ∈ repairs) : made.image ∈ seen :=
  done.order.subset (List.mem_map_of_mem member)

include wf

/-- The next image still hangs from the root unless a repair dropped it. -/
theorem isAttached_iff (attached : doc.isAttached node)
    (ahead : ∀ image ∈ seen, doc.Precedes image node) :
    progress.doc.isAttached node ↔ ∀ made ∈ repairs, ¬ Drops doc made node := by
  rw [done.mended.isAttached_iff wf, and_iff_right attached]
  refine forall₂_congr fun made member => and_iff_right fun within => ?_
  -- All that is within a left bracket comes before the image after it, which was seen.
  have behind : made.image ∈ doc.following made.left := by
    rw [((done.mended.occurs made member).following wf).1]
    exact List.mem_cons_self
  exact ahead _ (done.seen_of_mem member) _ _ behind (wf.isWithin_self _) within

/-- The next image stands in brackets before a link exactly if it did at the start, as long as it
hangs from the root. -/
theorem occurs_iff (image : repair.image = node) (attached : progress.doc.isAttached node)
    (fresh : node ∉ seen) (ahead : ∀ image ∈ seen, doc.Precedes image node) :
    Occurs progress.doc repair ↔ Occurs doc repair := by
  subst image
  rw [done.mended.occurs_iff wf]
  constructor
  · rintro ⟨fits, _, _, opens, closes, leads⟩
    refine ⟨fits, opens, closes, leads.resolve_right ?_⟩
    rintro ⟨made, member, beside, _⟩
    -- A repair that stands between the right bracket and the link comes later.
    have behind : made.image ∈ doc.following repair.image := by
      rw [wf.following_next closes, wf.following_next beside,
        ((done.mended.occurs made member).following wf).1]
      simp
    exact ahead _ (done.seen_of_mem member) _ _ behind (wf.isWithin_self _) (wf.isWithin_self _)
  · intro occurs
    refine ⟨occurs.fits, fun isTaken => ?_, done.mended.parent_ne_link wf attached, occurs.opens,
      occurs.closes, Or.inl occurs.leads⟩
    obtain ⟨made, member, same⟩ := done.mended.image_mem occurs.fits isTaken
    exact fresh (same ▸ done.seen_of_mem member)

/-- The walk makes the repair of the next image if that stands in brackets before a link. -/
theorem repaired (occurs : Occurs doc repair) (fresh : repair.image ∉ seen)
    (attached : progress.doc.isAttached repair.image)
    (ahead : ∀ image ∈ seen, doc.Precedes image repair.image) :
    Done doc journal (seen ++ [repair.image]) (repairs ++ [repair])
      (progress.offer processor repair.image) := by
  have wf' := done.mended.wellFormed
  have occurs' := (done.occurs_iff wf rfl attached fresh ahead).mpr occurs
  obtain ⟨parent, before, after, bracketed⟩ := occurs'.bracketed wf'
  obtain ⟨next, reshaped, applied⟩ := bracketed.apply wf'
  have answer := (process_eq_some_iff wf').mpr ⟨_, _, _, _, _, _, bracketed, rfl⟩
  have accepted : ((patch repair.image repair.left repair.right repair.link).apply progress.doc
      progress.journal).refusal = none := by rw [applied]
  have new : repair ∉ repairs := fun member => fresh (done.seen_of_mem member)
  have kept : ∀ made ∈ repairs, ¬ Drops doc made repair.image := fun made member =>
    (((done.mended.isAttached_iff wf).mp attached).2 made member).2
  rw [progress.offer_of_some answer accepted, applied]
  refine
    { mended := done.mended.repaired wf occurs new bracketed reshaped
      refusal := rfl
      patched := by simp [done.patched]
      journal := by simp [done.journal, Repair.changes]
      order := by simpa using done.order.append (List.Sublist.refl [repair.image])
      due := fun other member occurs' => ?_ }
  -- The new repair drops no image that was seen before, nor its own.
  have spares : ¬ Drops doc repair other.image := by
    refine occurs.not_drops wf ?_
    rcases List.mem_append.mp member with before | last
    · exact ahead _ before
    · exact List.mem_singleton.mp last ▸ wf.precedes_self _
  have all : (∀ made ∈ repairs ++ [repair], ¬ Drops doc made other.image) ↔
      ∀ made ∈ repairs, ¬ Drops doc made other.image := by
    simp [or_imp, forall_and, spares]
  rw [all, List.mem_append, List.mem_singleton]
  rcases List.mem_append.mp member with before | last
  · -- Of the images seen before, another one is not repaired now.
    rw [← done.due other before occurs', or_iff_left]
    exact fun same => fresh (same ▸ before)
  · have same : other = repair :=
      occurs'.unique wf occurs (Or.inr (Or.inl (List.mem_singleton.mp last)))
    exact iff_of_true (Or.inr same) (same ▸ kept)

omit wf in
/-- The walk goes past the next image if it was dropped, or does not stand in brackets. -/
theorem passed (fresh : node ∉ seen)
    (idle : ∀ repair, Occurs doc repair → repair.image = node →
      ∃ made ∈ repairs, Drops doc made node) {progress' : Progress}
    (same : progress'.doc = progress.doc) (journal' : progress'.journal = progress.journal)
    (patched : progress'.patched = progress.patched)
    (refusal : progress'.refusal = progress.refusal) :
    Done doc journal (seen ++ [node]) repairs progress' where
  -- Nothing changes but what has been seen.
  mended := same ▸ done.mended
  refusal := refusal.trans done.refusal
  patched := patched.trans done.patched
  journal := journal'.trans done.journal
  order := done.order.trans (List.sublist_append_left _ _)
  due repair member occurs := by
    rcases List.mem_append.mp member with before | last
    · exact done.due repair before occurs
    · have image := List.mem_singleton.mp last
      obtain ⟨made, here, drops⟩ := idle repair occurs image
      refine iff_of_false (fun member => ?_) fun kept => kept made here (image ▸ drops)
      exact fresh (image ▸ done.seen_of_mem member)

/-- The walk looks at the next image. -/
theorem visit (attached : doc.isAttached node) (kind : (doc.kind node).tag = .imageRef)
    (fresh : node ∉ seen) (ahead : ∀ image ∈ seen, doc.Precedes image node) :
    ∃ repairs', Done doc journal (seen ++ [node]) repairs'
      (ProcessorSet.visit [processor] progress node) := by
  have wf' := done.mended.wellFormed
  -- The walk asks about the image if it is still in the tree.
  have asked : ProcessorSet.visit [processor] progress node =
      if progress.doc.isAttached node then progress.offer processor node else progress := by
    simp [ProcessorSet.visit, ProcessorSet.offerAll, ProcessorSet.forTag, processor,
      done.mended.nodes.kind, kind, done.refusal]
  have hangs := done.isAttached_iff wf attached ahead
  rw [asked]
  by_cases inTree : progress.doc.isAttached node
  · rw [if_pos inTree]
    cases answer : process progress.doc node with
    | some made =>
      obtain ⟨repair, occurs', rfl, _⟩ := (process_eq_some_iff_occurs wf').mp answer
      have occurs := (done.occurs_iff wf rfl inTree fresh ahead).mp occurs'
      exact ⟨_, done.repaired wf occurs fresh inTree ahead⟩
    | none =>
      rw [progress.offer_of_none answer]
      refine ⟨repairs, done.passed fresh (fun repair occurs image => ?_) rfl rfl rfl rfl⟩
      -- An image in brackets would get a patch.
      have occurs' := (done.occurs_iff wf image inTree fresh ahead).mpr occurs
      rw [(process_eq_some_iff_occurs wf').mpr ⟨repair, occurs', image, rfl⟩] at answer
      cases answer
  · rw [if_neg inTree]
    refine ⟨repairs, done.passed fresh (fun repair _ _ => ?_) rfl rfl rfl rfl⟩
    rw [hangs] at inTree
    simpa using inTree

/-- The walk looks at all images, one after another in document order. -/
theorem walk (nodes : List NodeId)
    (each : ∀ id ∈ nodes, doc.isAttached id ∧ (doc.kind id).tag = .imageRef)
    (distinct : (seen ++ nodes).Nodup) (ordered : (seen ++ nodes).Pairwise doc.Precedes) :
    ∃ repairs', Done doc journal (seen ++ nodes) repairs'
      (nodes.foldl (ProcessorSet.visit [processor]) progress) := by
  induction nodes generalizing seen repairs progress with
  | nil => exact ⟨repairs, by simpa using done⟩
  | cons node rest ih =>
    obtain ⟨attached, kind⟩ := each node List.mem_cons_self
    have fresh : node ∉ seen := fun member =>
      (List.nodup_append.mp distinct).2.2 node member node List.mem_cons_self rfl
    have ahead : ∀ image ∈ seen, doc.Precedes image node := fun image member =>
      (List.pairwise_append.mp ordered).2.2 image member node List.mem_cons_self
    obtain ⟨repairs', done'⟩ := done.visit wf attached kind fresh ahead
    rw [List.append_cons] at distinct ordered ⊢
    exact ih done' (fun id member => each id (List.mem_cons_of_mem node member)) distinct ordered

end Done

/-- A whole walk makes exactly the repairs that are due. -/
theorem run_done (wf : doc.WellFormed) (journal : Journal) : ∃ repairs,
    Done doc journal (ProcessorSet.tagged doc .imageRef) repairs
      (ProcessorSet.run [processor] doc journal) ∧
    ∀ repair, repair ∈ repairs ↔ Due doc repairs repair := by
  have start : Done doc journal [] [] { doc, journal } :=
    { mended := .refl wf
      refusal := rfl
      patched := rfl
      journal := (List.append_nil journal).symm
      order := List.Sublist.refl []
      due := fun _ member => absurd member List.not_mem_nil }
  -- The walk looks at the images of the tree.
  have visited : ((doc.descendants Document.root).filter fun id =>
      ProcessorSet.handles [processor] (doc.kind id).tag) = ProcessorSet.tagged doc .imageRef := by
    refine List.filter_congr fun id _ => ?_
    simp [ProcessorSet.handles, processor, Bool.beq_eq_decide_eq]
  have images : ∀ id, id ∈ ProcessorSet.tagged doc .imageRef ↔
      doc.isAttached id ∧ (doc.kind id).tag = .imageRef := fun id => ProcessorSet.mem_tagged wf
  obtain ⟨repairs, done⟩ := start.walk wf (ProcessorSet.tagged doc .imageRef)
    (fun id member => (images id).mp member) ((wf.descendants_nodup _).filter _)
    ((wf.descendants_pairwise_precedes _).filter _)
  rw [List.nil_append] at done
  refine ⟨repairs, by rwa [ProcessorSet.run, visited],
    fun repair => ⟨fun member => ?_, fun due => ?_⟩⟩
  · have seen := done.seen_of_mem member
    have occurs := done.mended.occurs repair member
    exact ⟨((images _).mp seen).1, occurs, (done.due repair seen occurs).mp member⟩
  · have seen := (images _).mpr ⟨due.attached, due.occurs.fits.image⟩
    exact (done.due repair seen due.occurs).mpr due.kept

/--
One walk for bracketed images mends the whole tree, level by level.

The repairs made are those that are due: their images are in the tree at the start, in brackets
before a link, and no other repair drops them, be it below its link or within its right bracket.
They are made in document order, none is refused, and each is reported. Within a left bracket they
are made as well, before it goes. No node changes its kind or span.
-/
theorem images_go_into_their_links {doc : Document} (reachable : doc.Reachable)
    (journal : Journal) :
    let result := ProcessorSet.run [processor] doc journal
    result.refusal = none ∧
    result.doc.tree Document.root = mend doc.kind (doc.tree Document.root) ∧
    Document.SameNodes doc result.doc ∧
    ∃ repairs, (∀ repair, repair ∈ repairs ↔ Due doc repairs repair) ∧
      (repairs.map Repair.image).Sublist (doc.descendants Document.root) ∧
      result.patched = repairs.length ∧
      result.journal = journal ++ repairs.flatMap Repair.changes ∧
      Mended doc repairs result.doc := by
  intro result
  have wf := reachable.wellFormed
  obtain ⟨repairs, done, due⟩ := run_done wf journal
  refine ⟨done.refusal, ?_, done.mended.nodes, repairs, due,
    done.order.trans List.filter_sublist, done.patched, done.journal, done.mended⟩
  -- The root is no link, so the tree there is mended as a whole.
  refine done.mended.tree_mended wf (fun repair => (due repair).mpr)
    (done.mended.wellFormed.isWithin_self _) fun made member same => ?_
  obtain ⟨_, _, _, _, link⟩ := (done.mended.occurs made member).parents wf
  exact wf.ne_root link same

/-- An image in brackets goes into the link after it, and the text before them stays. -/
theorem image_before_link_mended :
    let doc := List.foldl Document.after (.ofSource "a [![i]][l]")
      [.create .paragraph ⟨0, 11⟩, .create (.text "a ") ⟨0, 2⟩, .create (.text "[") ⟨2, 3⟩,
        .create (.imageRef ⟨"i", ""⟩ "i") ⟨3, 7⟩, .create (.text "]") ⟨7, 8⟩,
        .create (.linkRef ⟨"l", ""⟩ "l") ⟨8, 11⟩, .move (.append Document.root 1),
        .move (.append 1 2), .move (.append 1 3), .move (.append 1 4), .move (.append 1 5),
        .move (.append 1 6)]
    let result := ProcessorSet.run [processor] doc []
    result.doc.tree Document.root = .node 0 [.node 1 [.node 2 [], .node 6 [.node 4 []]]] ∧
      result.refusal = none := by
  intro doc result
  obtain ⟨refusal, mended, _⟩ := @images_go_into_their_links doc ⟨_, _, rfl⟩ []
  exact ⟨mended, refusal⟩

/-- An image in brackets that is itself within a left bracket goes into its link, before that
bracket goes. -/
theorem image_in_left_bracket_mended :
    let doc := List.foldl Document.after (.ofSource "")
      [.create .paragraph {}, .create (.text "[") {}, .create (.imageRef ⟨"i", ""⟩ "i") {},
        .create (.text "]") {}, .create (.linkRef ⟨"l", ""⟩ "l") {}, .create (.text "[") {},
        .create (.imageRef ⟨"j", ""⟩ "j") {}, .create (.text "]") {},
        .create (.linkRef ⟨"m", ""⟩ "m") {}, .move (.append Document.root 1),
        .move (.append 1 2), .move (.append 1 3), .move (.append 1 4), .move (.append 1 5),
        .move (.append 2 6), .move (.append 2 7), .move (.append 2 8), .move (.append 2 9)]
    let result := ProcessorSet.run [processor] doc []
    ¬ ∃ repairs : List Repair, (∀ repair, repair ∈ repairs ↔
        doc.isAttached repair.image ∧ Occurs doc repair ∧
        ∀ made ∈ repairs, ¬ doc.isWithin made.left repair.image ∧
          ¬ Drops doc made repair.image) ∧
      result.patched = repairs.length ∧ result.journal = repairs.flatMap Repair.changes := by
  intro doc result found
  obtain ⟨repairs, exactly, _, journal⟩ := found
  have wf : doc.WellFormed := Document.Reachable.wellFormed ⟨_, _, rfl⟩
  -- Both images are reported as added, so there are repairs of both.
  have reported : ∀ image, ⟨.added, image⟩ ∈ result.journal →
      ∃ repair ∈ repairs, repair.image = image := by
    intro image member
    rw [journal] at member
    obtain ⟨repair, here, change⟩ := List.mem_flatMap.mp member
    exact ⟨repair, here, by simpa [Repair.changes, eq_comm] using change⟩
  obtain ⟨outer, member, image⟩ := reported 3 (by decide +kernel)
  obtain ⟨inner, member', image'⟩ := reported 7 (by decide +kernel)
  -- The one image is within the left bracket before the other.
  have left : outer.left = 2 := by
    have opens := ((exactly outer).mp member).2.1.opens
    have beside : doc.next 2 = some 3 := by decide +kernel
    exact wf.next_inj (image ▸ opens) beside
  have within : doc.isWithin outer.left inner.image := by
    rw [left, image']
    decide +kernel
  exact (((exactly inner).mp member').2.2 outer member).1 within

end MarkdownTree.ImageLink
