import MarkdownTree.Tree.Walk
import Mathlib.Data.List.Basic
import Mathlib.Data.List.Nodup
import Mathlib.Data.List.Perm.Subperm

/-! Following links until they end: what is met is determined, free of repetition, and found by the
bounded walk as soon as its limit is large enough. -/

namespace MarkdownTree

/-- Following `step` from `start` meets exactly these nodes, in order, and then ends. -/
def Follows (step : NodeId → Option NodeId) (start : Option NodeId) : List NodeId → Prop
  | [] => start = none
  | id :: rest => start = some id ∧ Follows step (step id) rest

namespace Follows

variable {step other : NodeId → Option NodeId} {start : Option NodeId} {nodes more : List NodeId}

/-- The first node met is where the walk starts. -/
theorem head (walk : Follows step start nodes) : nodes.head? = start := by
  cases nodes with
  | nil => exact walk.symm
  | cons id rest => exact walk.1.symm

/-- Links lead one way only, so what is met is determined. -/
theorem unique (walk : Follows step start nodes) (again : Follows step start more) :
    nodes = more := by
  induction nodes generalizing start more with
  | nil =>
    -- The walk is over at once, so the other one is too.
    have ended : start = none := walk
    have first := again.head
    rw [ended, List.head?_eq_none_iff] at first
    exact first.symm
  | cons id rest ih =>
    cases more with
    | nil =>
      -- The one walk goes on where the other one ends.
      have ended : start = none := again
      rw [walk.1] at ended
      cases ended
    | cons id' rest' =>
      -- Both meet the same node first, and go on from there.
      have same : id = id' := Option.some.inj (walk.1.symm.trans again.1)
      subst same
      rw [ih walk.2 again.2]

/-- What is met from any node on is itself a walk from that node. -/
theorem suffix {before after : List NodeId} {id : NodeId}
    (walk : Follows step start (before ++ id :: after)) : Follows step (some id) (id :: after) := by
  induction before generalizing start with
  | nil => exact ⟨rfl, walk.2⟩
  | cons first rest ih => exact ih walk.2

/-- A walk that ends meets no node twice. -/
theorem nodup (walk : Follows step start nodes) : nodes.Nodup := by
  induction nodes generalizing start with
  | nil => exact List.nodup_nil
  | cons id rest ih =>
    refine List.nodup_cons.mpr ⟨fun again => ?_, ih walk.2⟩
    -- Meeting the node again would make the walk from it a proper part of itself.
    obtain ⟨before, after, split⟩ := List.append_of_mem again
    have longer : Follows step (some id) (id :: rest) := ⟨rfl, walk.2⟩
    have shorter : Follows step (some id) (id :: after) := suffix (split ▸ walk.2)
    have same := congrArg List.length (longer.unique shorter)
    rw [split] at same
    simp only [List.length_cons, List.length_append] at same
    omega

/-- Only the links of the nodes met matter. -/
theorem congr (walk : Follows step start nodes) (same : ∀ id ∈ nodes, other id = step id) :
    Follows other start nodes := by
  induction nodes generalizing start with
  | nil => exact walk
  | cons id rest ih =>
    -- The walk starts in the same place, and goes on by the same link.
    refine ⟨walk.1, ?_⟩
    rw [same id List.mem_cons_self]
    exact ih walk.2 fun node member => same node (List.mem_cons_of_mem _ member)

/-- A walk may leave its way at one node, and end where the other way from there ends. -/
theorem reroute {before after : List NodeId} {id : NodeId}
    (walk : Follows step start (before ++ id :: after))
    (same : ∀ node ∈ before, other node = step node) (rest : Follows other (other id) more) :
    Follows other start (before ++ id :: more) := by
  induction before generalizing start with
  -- The walk leaves its way at once.
  | nil => exact ⟨walk.1, rest⟩
  | cons first before ih =>
    refine ⟨walk.1, ?_⟩
    rw [same first List.mem_cons_self]
    exact ih walk.2 fun node member => same node (List.mem_cons_of_mem _ member)

/-- The bounded walk meets them all when its limit allows it. -/
theorem follow_eq (walk : Follows step start nodes) {limit : Nat} (fits : nodes.length ≤ limit) :
    Document.follow step limit start = nodes := by
  induction nodes generalizing start limit with
  | nil =>
    have ended : start = none := walk
    cases limit <;> simp [Document.follow, ended]
  | cons id rest ih =>
    cases limit with
    -- There is no room for the node that is met.
    | zero => simp at fits
    | succ limit =>
      rw [walk.1, Document.follow, ih walk.2 (by simpa using fits)]

end Follows

/-- Different numbers below a bound are at most as many as the bound. -/
theorem length_le_of_nodup_of_lt {numbers : List Nat} {bound : Nat} (distinct : numbers.Nodup)
    (below : ∀ number ∈ numbers, number < bound) : numbers.length ≤ bound := by
  have all : numbers ⊆ List.range bound := fun number member =>
    List.mem_range.mpr (below number member)
  simpa using (distinct.subperm all).length_le

/-- A walk that meets one node, or stays below a bound, is no longer than the bound. -/
theorem Follows.length_le {step : NodeId → Option NodeId} {id : NodeId} {nodes : List NodeId}
    (walk : Follows step (some id) nodes) {bound : Nat} (positive : 0 < bound)
    (owns : ∀ node next, step node = some next → node < bound ∧ next < bound) :
    nodes.length ≤ bound := by
  cases nodes with
  | nil => exact Nat.zero_le bound
  | cons first rest =>
    cases rest with
    | nil => exact positive
    | cons second rest =>
      -- A node that has a link is below the bound, and so is every node that a link leads to.
      have later : ∀ {tail : List NodeId} {start : NodeId}, Follows step (step start) tail →
          ∀ node ∈ tail, node < bound := by
        intro tail
        induction tail with
        | nil => exact fun _ _ member => absurd member List.not_mem_nil
        | cons next tail ih =>
          intro start walk node member
          rcases List.mem_cons.mp member with same | member
          · exact same ▸ (owns start next walk.1).2
          · exact ih walk.2 node member
      refine length_le_of_nodup_of_lt walk.nodup fun node member => ?_
      rcases List.mem_cons.mp member with same | member
      · exact same ▸ (owns first second walk.2.1).1
      · exact later walk.2 node member

end MarkdownTree
