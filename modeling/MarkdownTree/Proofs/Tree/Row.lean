import MarkdownTree.Tree.Document
import Mathlib.Data.List.Basic
import Mathlib.Data.List.Nodup

/-! Rows of siblings as lists: which nodes stand side by side, and how that changes when one node is
taken out of a row or put into it. -/

namespace MarkdownTree

/-- In a row, `second` stands directly after `first`. -/
def Adjacent (first second : NodeId) (row : List NodeId) : Prop :=
  ∃ before after, row = before ++ first :: second :: after

/-- A row with `id` put directly before `anchor`. -/
def putBefore (anchor id : NodeId) (row : List NodeId) : List NodeId :=
  row.flatMap fun other => if other = anchor then [id, other] else [other]

variable {first second id anchor : NodeId} {row : List NodeId}

/-- Nothing stands side by side in an empty row. -/
theorem not_adjacent_nil : ¬ Adjacent first second [] := by
  rintro ⟨before, after, split⟩
  simp at split

/-- One more node at the front makes one more pair. -/
theorem adjacent_cons : Adjacent first second (id :: row) ↔
    first = id ∧ row.head? = some second ∨ Adjacent first second row := by
  constructor
  · rintro ⟨before, after, split⟩
    cases before with
    -- Nothing stands before the pair, so it starts with the node at the front.
    | nil =>
      obtain ⟨rfl, rfl⟩ := List.cons_eq_cons.mp split
      exact Or.inl ⟨rfl, rfl⟩
    -- Else the pair stands further back.
    | cons _ before => exact Or.inr ⟨before, after, (List.cons_eq_cons.mp split).2⟩
  · rintro (⟨rfl, next⟩ | ⟨before, after, rfl⟩)
    · -- The node at the front and the one after it.
      obtain ⟨after, rfl⟩ := List.head?_eq_some_iff.mp next
      exact ⟨[], after, rfl⟩
    · exact ⟨id :: before, after, rfl⟩

/-- The first of two neighbours belongs to the row. -/
theorem Adjacent.left_mem (pair : Adjacent first second row) : first ∈ row := by
  obtain ⟨before, after, rfl⟩ := pair
  simp

/-- The second of two neighbours belongs to the row. -/
theorem Adjacent.right_mem (pair : Adjacent first second row) : second ∈ row := by
  obtain ⟨before, after, rfl⟩ := pair
  simp

/-- Two neighbours are different nodes. -/
theorem Adjacent.ne (pair : Adjacent first second row) (distinct : row.Nodup) :
    first ≠ second := by
  obtain ⟨before, after, rfl⟩ := pair
  intro same
  -- The first of the two would stand in the row again after itself.
  exact (List.nodup_cons.mp (List.nodup_append.mp distinct).2.1).1 (by simp [same])

/-- Nothing stands after the last node of a row. -/
theorem Adjacent.ne_last (pair : Adjacent first second row) (distinct : row.Nodup) :
    row.getLast? ≠ some first := by
  intro last
  obtain ⟨before, after, rfl⟩ := pair
  -- The last node is one of those after the first of the two, which would then be there twice.
  have again : first ∈ second :: after := by
    rw [List.getLast?_append, List.getLast?_cons_cons] at last
    exact List.mem_of_getLast? (by simpa using last)
  exact (List.nodup_cons.mp (List.nodup_append.mp distinct).2.1).1 again

/-- Nothing stands before the first node of a row. -/
theorem Adjacent.ne_first (pair : Adjacent first second row) (distinct : row.Nodup) :
    row.head? ≠ some second := by
  intro head
  obtain ⟨before, after, rfl⟩ := pair
  -- The first node is one of those before the second of the two, which would then be there twice.
  have again : second ∈ before ++ [first] := by
    cases before <;> simp_all
  rw [List.append_cons] at distinct
  exact (List.nodup_append.mp distinct).2.2 second again second (by simp) rfl

/-- A node at the end of a row stands after the node that was last before. -/
theorem adjacent_concat : Adjacent first second (row ++ [id]) ↔
    Adjacent first second row ∨ row.getLast? = some first ∧ second = id := by
  induction row with
  -- In a row of one node there is no pair yet.
  | nil => simp [adjacent_cons, not_adjacent_nil]
  | cons head rest ih =>
    rw [List.cons_append, adjacent_cons, ih, adjacent_cons]
    -- Only when the rest is empty is its end the head itself.
    cases rest <;> grind

/-- A node taken out of a row lets its two neighbours stand side by side. -/
theorem adjacent_erase (distinct : row.Nodup) : Adjacent first second (row.erase id) ↔
    first ≠ id ∧ second ≠ id ∧
      (Adjacent first second row ∨ Adjacent first id row ∧ Adjacent id second row) := by
  induction row with
  | nil => simp [not_adjacent_nil]
  | cons head rest ih =>
    obtain ⟨fresh, distinct⟩ := List.nodup_cons.mp distinct
    -- Whatever stands side by side in the rest is in the rest, and the head is not.
    have ih := ih distinct
    have left := @Adjacent.left_mem
    have right := @Adjacent.right_mem
    by_cases same : head = id
    · -- The head goes, and it was no neighbour of two nodes of the rest.
      subst same
      rw [List.erase_cons_head, adjacent_cons, adjacent_cons, adjacent_cons]
      grind
    · -- The head stays, and may get a new neighbour when the next node is taken out.
      rw [List.erase_cons_tail (by simpa using same), adjacent_cons, ih, adjacent_cons,
        adjacent_cons, adjacent_cons]
      cases rest <;> grind [adjacent_cons, not_adjacent_nil, List.mem_of_head?]

/-- In a row of which only some nodes are kept, those stand side by side between which none is kept.
-/
theorem adjacent_filter {keep : NodeId → Bool} : Adjacent first second (row.filter keep) ↔
    ∃ before between after, row = before ++ first :: (between ++ second :: after) ∧
      keep first ∧ keep second ∧ ∀ id ∈ between, ¬ keep id := by
  constructor
  · rintro ⟨before, after, split⟩
    -- The row is cut at the two nodes, and all that is kept elsewhere stands before or after both.
    obtain ⟨front, rest, rfl, rfl, rest'⟩ := List.filter_eq_append_iff.mp split
    obtain ⟨early, late, rfl, dropped, kept, late'⟩ := List.filter_eq_cons_iff.mp rest'
    obtain ⟨between, tail, rfl, dropped', kept', rfl⟩ := List.filter_eq_cons_iff.mp late'
    exact ⟨front ++ early, between, tail, by simp, kept, kept', dropped'⟩
  · rintro ⟨before, between, after, rfl, kept, kept', dropped⟩
    refine ⟨before.filter keep, after.filter keep, ?_⟩
    have none : between.filter keep = [] := List.filter_eq_nil_iff.mpr dropped
    simp [kept, kept', none]

/-- Pairs that start in the end of a row are pairs of that end. -/
theorem adjacent_append {front : List NodeId} (distinct : (front ++ row).Nodup)
    (member : first ∈ row) : Adjacent first second (front ++ row) ↔ Adjacent first second row := by
  induction front with
  | nil => rfl
  | cons head front ih =>
    obtain ⟨fresh, distinct⟩ := List.nodup_cons.mp distinct
    -- The node at the front does not come again, so it is not the first of the two.
    have other : first ≠ head := fun same => fresh (same ▸ List.mem_append_right front member)
    rw [List.cons_append, adjacent_cons, ih distinct]
    exact or_iff_right fun here => other here.1

/-- Neighbours in a stretch of a row are neighbours in the row. -/
theorem Adjacent.of_infix {stretch : List NodeId} (pair : Adjacent first second stretch)
    (part : stretch <:+: row) : Adjacent first second row := by
  obtain ⟨before, after, rfl⟩ := pair
  obtain ⟨front, back, rfl⟩ := part
  exact ⟨front ++ before, after ++ back, by simp⟩

/-- Renaming other nodes of a row leaves two neighbours side by side. -/
theorem adjacent_map {rename : NodeId → NodeId} (one : ∀ id ∈ row, rename id = first ↔ id = first)
    (two : ∀ id ∈ row, rename id = second ↔ id = second) :
    Adjacent first second (row.map rename) ↔ Adjacent first second row := by
  induction row with
  | nil => simp
  | cons head rest ih =>
    have one' := fun id member => one id (List.mem_cons_of_mem head member)
    have two' := fun id member => two id (List.mem_cons_of_mem head member)
    -- The node after the head is renamed as well.
    have next : (rest.map rename).head? = some second ↔ rest.head? = some second := by
      cases rest with
      | nil => rfl
      | cons next rest => simpa using two' next List.mem_cons_self
    rw [List.map_cons, adjacent_cons, adjacent_cons, ih one' two', next, eq_comm,
      one head List.mem_cons_self, eq_comm]

/-- Taking out a node of a row leaves what stands before it and what stands after it. -/
theorem erase_split {before after : List NodeId} (distinct : (before ++ id :: after).Nodup) :
    (before ++ id :: after).erase id = before ++ after := by
  -- The node is not in front of itself, so the first one that is met is the right one.
  have fresh : id ∉ before := fun again =>
    (List.nodup_cons.mp (List.nodup_middle.mp distinct)).1 (List.mem_append_left after again)
  rw [List.erase_append_right _ fresh, List.erase_cons_head]

/-- Without the nodes at its front, a row is what stands after them. -/
theorem filter_front {front rest : List NodeId} (distinct : (front ++ rest).Nodup) :
    (front ++ rest).filter (fun id => id ∉ front) = rest := by
  have apart := (List.nodup_append.mp distinct).2.2
  have gone : front.filter (fun id => id ∉ front) = [] :=
    List.filter_eq_nil_iff.mpr fun id member => by simpa using member
  have stays : rest.filter (fun id => id ∉ front) = rest :=
    List.filter_eq_self.mpr fun id member => by simpa using fun here => apart id here id member rfl
  rw [List.filter_append, gone, stays, List.nil_append]

/-- Without some nodes that stand together, a row is what stands before them and after them. -/
theorem filter_middle {before middle after : List NodeId}
    (distinct : (before ++ (middle ++ after)).Nodup) :
    (before ++ (middle ++ after)).filter (fun id => id ∉ middle) = before ++ after := by
  have apart := (List.nodup_append.mp distinct).2.2
  have stays : before.filter (fun id => id ∉ middle) = before :=
    List.filter_eq_self.mpr fun id member => by
      simpa using fun here => apart id member id (List.mem_append_left _ here) rfl
  rw [List.filter_append, stays, filter_front (List.nodup_append.mp distinct).2.1]

/-- Nothing is put into an empty row. -/
@[simp] theorem putBefore_nil : putBefore anchor id [] = [] := rfl

/-- Putting a node into a longer row looks at the head first. -/
theorem putBefore_cons {head : NodeId} : putBefore anchor id (head :: row) =
    if head = anchor then id :: head :: putBefore anchor id row
    else head :: putBefore anchor id row := by
  unfold putBefore
  by_cases same : head = anchor <;> simp [same]

/-- Without the anchor nothing is put into a row. -/
theorem putBefore_of_not_mem (absent : anchor ∉ row) : putBefore anchor id row = row := by
  induction row with
  | nil => rfl
  | cons head rest ih =>
    rw [List.mem_cons, not_or] at absent
    rw [putBefore_cons, if_neg (Ne.symm absent.1), ih absent.2]

/-- In a row that holds the anchor once, the node stands directly before it. -/
theorem putBefore_split {before after : List NodeId}
    (distinct : (before ++ anchor :: after).Nodup) :
    putBefore anchor id (before ++ anchor :: after) = before ++ id :: anchor :: after := by
  induction before with
  | nil =>
    -- The anchor is at the front, and does not come again.
    rw [List.nil_append, putBefore_cons, if_pos rfl,
      putBefore_of_not_mem (List.nodup_cons.mp distinct).1]
    rfl
  | cons head rest ih =>
    -- The node at the front is not the anchor, which stands further back.
    obtain ⟨fresh, distinct⟩ := List.nodup_cons.mp distinct
    have other : head ≠ anchor := fun same => fresh (by simp [same])
    rw [List.cons_append, putBefore_cons, if_neg other, ih distinct]
    rfl

/-- Putting a node in adds that node alone, and only where the anchor stands. -/
theorem mem_putBefore {other : NodeId} :
    other ∈ putBefore anchor id row ↔ other ∈ row ∨ other = id ∧ anchor ∈ row := by
  induction row with
  | nil => simp
  | cons head rest ih =>
    -- Only at the anchor is anything added.
    rw [putBefore_cons]
    split <;> simp only [List.mem_cons, ih] <;> grind

/-- A row stays free of repetition when a new node is put in. -/
theorem nodup_putBefore (distinct : row.Nodup) (fresh : id ∉ row) :
    (putBefore anchor id row).Nodup := by
  by_cases present : anchor ∈ row
  · obtain ⟨before, after, rfl⟩ := List.append_of_mem present
    rw [putBefore_split distinct]
    -- The new node may as well stand first.
    have moved : (before ++ id :: anchor :: after).Perm (id :: (before ++ anchor :: after)) :=
      List.perm_middle
    exact moved.nodup_iff.mpr (List.nodup_cons.mpr ⟨fresh, distinct⟩)
  · -- Without the anchor the row stays as it is.
    rw [putBefore_of_not_mem present]
    exact distinct

/-- The first node of a row changes only when the anchor was first. -/
theorem head?_putBefore : (putBefore anchor id row).head? =
    if row.head? = some anchor then some id else row.head? := by
  cases row with
  | nil => simp
  | cons head rest =>
    rw [putBefore_cons]
    split <;> simp_all

/-- The last node of a row stays last. -/
theorem getLast?_putBefore : (putBefore anchor id row).getLast? = row.getLast? := by
  induction row with
  | nil => rfl
  | cons head rest ih =>
    -- Nothing is taken out, so only an empty rest stays empty.
    have empty : putBefore anchor id rest = [] ↔ rest = [] := by
      cases rest with
      | nil => simp
      | cons next more => rw [putBefore_cons]; split <;> simp
    rw [putBefore_cons]
    split <;> grind

/-- Without the anchor nothing is replaced in a row. -/
theorem map_replace_of_not_mem (absent : anchor ∉ row) :
    (row.map fun other => if other = anchor then id else other) = row := by
  refine (List.map_congr_left fun other member => if_neg ?_).trans (List.map_id row)
  intro same
  exact absent (same ▸ member)

/-- A node put before another that is then taken out stands in its place. -/
theorem erase_putBefore (distinct : row.Nodup) (different : anchor ≠ id) :
    (putBefore anchor id row).erase anchor =
      row.map fun other => if other = anchor then id else other := by
  induction row with
  | nil => rfl
  | cons head rest ih =>
    obtain ⟨fresh, distinct⟩ := List.nodup_cons.mp distinct
    rw [putBefore_cons, List.map_cons]
    by_cases same : head = anchor
    · -- The anchor does not stand in the rest, which therefore stays.
      subst same
      rw [if_pos rfl, if_pos rfl, map_replace_of_not_mem fresh, putBefore_of_not_mem fresh,
        List.erase_cons_tail (by simpa using Ne.symm different), List.erase_cons_head]
    · -- Both leave another node at the front alone.
      rw [if_neg same, if_neg same, List.erase_cons_tail (by simpa using same), ih distinct]

/-- A new node in a row stands between the anchor and the node before it. -/
theorem adjacent_putBefore (distinct : row.Nodup) (fresh : id ∉ row) :
    Adjacent first second (putBefore anchor id row) ↔
      first = id ∧ second = anchor ∧ anchor ∈ row ∨ Adjacent first anchor row ∧ second = id ∨
        Adjacent first second row ∧ second ≠ anchor := by
  induction row with
  | nil => simp [not_adjacent_nil]
  | cons head rest ih =>
    have left := @Adjacent.left_mem
    have right := @Adjacent.right_mem
    obtain ⟨new, distinct⟩ := List.nodup_cons.mp distinct
    -- The pairs at the front depend on whether the head, or the node after it, is the anchor.
    have ih := ih distinct (by grind)
    rw [putBefore_cons]
    split <;> simp only [adjacent_cons, ih, head?_putBefore, List.head?_cons] <;> grind

end MarkdownTree
