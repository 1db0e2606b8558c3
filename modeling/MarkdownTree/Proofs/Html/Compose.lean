import MarkdownTree.Html.Render
import MarkdownTree.Proofs.Tree.Shape

/-! Handlers that write step by step: through a table of such handlers every node adds its own HTML
to what is written already, whatever that is. -/

namespace MarkdownTree

/-- One step of a handler: a text is added, or another node is written. -/
inductive Writing where
  | text (piece : String)
  | node (id : NodeId)
  deriving DecidableEq, Repr

namespace Writing

/-- What is written after a step. -/
def write (render : Render) (out : String) : Writing → String
  | text piece => out ++ piece
  | node id => render id out

/-- What a step adds, if every node adds a piece. -/
def piece (pieces : NodeId → String) : Writing → String
  | text piece => piece
  | node id => pieces id

/-- Steps whose nodes each add a piece add all pieces in order. -/
theorem foldl_write {render : Render} {pieces : NodeId → String} {plan : List Writing}
    (adds : ∀ id, .node id ∈ plan → ∀ out, render id out = out ++ pieces id) (out : String) :
    plan.foldl (write render) out = out ++ String.join (plan.map (piece pieces)) := by
  induction plan generalizing out with
  | nil => rw [List.map_nil, String.join_nil, String.append_empty]; rfl
  | cons step rest ih =>
    have first : write render out step = out ++ piece pieces step := by
      cases step with
      | text piece => rfl
      | node id => exact adds id List.mem_cons_self out
    -- The other steps add their pieces to what the first one leaves.
    rw [List.foldl_cons, ih (fun id member => adds id (List.mem_cons_of_mem _ member)), first,
      List.map_cons, String.join_cons, String.append_assoc]

end Writing

namespace Handler

variable {doc : Document} {id : NodeId}

/-- A handler writes a node step by step if the steps are fixed beforehand, and the only nodes in
them are children of this one. -/
def PlansAt (handler : Handler) (doc : Document) (id : NodeId) : Prop :=
  ∃ plan : List Writing, (∀ child, .node child ∈ plan → child ∈ doc.children id) ∧
    ∀ render out, handler doc render id out = plan.foldl (Writing.write render) out

/-- A handler that writes the nodes of a document step by step: it only adds to what is written, and
it writes children only. -/
def Plans (handler : Handler) (doc : Document) : Prop :=
  ∀ id, handler.PlansAt doc id

/-- Children are written one after the other. -/
theorem plansAt_children : PlansAt Html.children doc id := by
  refine ⟨(doc.children id).map .node, by simp, fun render out => ?_⟩
  rw [List.foldl_map]
  rfl

/-- An element adds a text before the children and one after them. -/
theorem plansAt_element (opening closing : String) :
    PlansAt (Html.element opening closing) doc id := by
  refine ⟨.text opening :: ((doc.children id).map .node ++ [.text closing]), by simp,
    fun render out => ?_⟩
  rw [List.foldl_cons, List.foldl_append, List.foldl_map]
  rfl

/-- The built-in markup is written step by step. -/
theorem plans_builtin (doc : Document) : Plans Html.builtin doc := by
  intro id
  -- The markup of a kind is the children, an element around them, or a text.
  unfold PlansAt Html.builtin
  cases doc.kind id with
  | document => exact plansAt_children
  | paragraph | heading | blockQuote | alert | list | item | emphasis | strong | strikethrough
      | link | linkRef => exact plansAt_element _ _
  | codeBlock | htmlBlock | thematicBreak | text | code | inlineHtml | softBreak | hardBreak | image
      | imageRef => exact ⟨[.text _], by simp, fun _ _ => rfl⟩

/-- So is the markup of alerts. -/
theorem plans_alert (doc : Document) : Plans Html.alert doc := by
  intro id
  unfold PlansAt Html.alert
  cases doc.kind id with
  | alert => exact plansAt_element _ _
  | _ => exact plansAt_children

end Handler

namespace HandlerTable

variable {doc : Document} {table : HandlerTable}

/-- The tables that come from the standard one when tags get handlers that write a document step by
step, and when handlers are dropped. -/
inductive Planned (doc : Document) : HandlerTable → Prop where
  | standard : Planned doc standard
  | insert {table : HandlerTable} (planned : Planned doc table) (tag : Tag) {handler : Handler}
      (plans : handler.Plans doc) : Planned doc (table.insert tag handler)
  | erase {table : HandlerTable} (planned : Planned doc table) (tag : Tag) :
      Planned doc (table.erase tag)

/-- All handlers of such a table write step by step. -/
theorem Planned.entries (planned : table.Planned doc) : ∀ entry ∈ table, entry.2.Plans doc := by
  induction planned with
  | standard => simpa [HandlerTable.standard] using Handler.plans_alert doc
  | insert _ tag plans ih =>
    -- The other entries are some of those before.
    intro entry member
    rcases List.mem_cons.mp member with same | kept
    · exact same ▸ plans
    · exact ih entry (List.mem_filter.mp kept).1
  | erase _ tag ih => exact fun entry kept => ih entry (List.mem_filter.mp kept).1

/-- So every tag has a handler that writes step by step. -/
theorem Planned.get (planned : table.Planned doc) (tag : Tag) : (table.get tag).Plans doc := by
  unfold HandlerTable.get
  split
  · next found => exact planned.entries _ (List.mem_of_find?_eq_some found)
  · exact Handler.plans_builtin doc

/-- Writing nodes through the handlers of a table, which write the nodes they come to in the same
way, with no bound on how far down that goes. -/
def Renders (table : HandlerTable) (doc : Document) (render : Render) : Prop :=
  ∀ id out, render id out = table.get (doc.kind id).tag doc render id out

end HandlerTable

namespace Document.WellFormed

open HandlerTable

variable {doc : Document} {table : HandlerTable} (wf : doc.WellFormed)
include wf

/-- The line of parents of a child is longer by one. -/
theorem length_lineage_child {id child : NodeId} (member : child ∈ doc.children id) :
    (doc.lineage child).length = (doc.lineage id).length + 1 := by
  rw [wf.lineage_eq child, wf.linked.parent.mpr member]
  rfl

/-- What is written below a node does not depend on the levels that are left, as long as they cover
the lines of parents, nor on what is written already. -/
theorem write_limit (planned : table.Planned doc) (id : NodeId) {limit limit' : Nat}
    (fits : doc.size < (doc.lineage id).length + limit)
    (fits' : doc.size < (doc.lineage id).length + limit') (out : String) :
    table.write doc limit id out = out ++ table.write doc limit' id "" := by
  induction id using wf.child_induction generalizing limit limit' out with
  | step id ih =>
    -- No line is longer than the store, so there is a level left for the node itself.
    have line := wf.linked.line_length_le wf.root_stored (wf.lineage_follows id)
    obtain ⟨limit, rfl⟩ : ∃ less, limit = less + 1 := ⟨limit - 1, by omega⟩
    obtain ⟨limit', rfl⟩ : ∃ less, limit' = less + 1 := ⟨limit' - 1, by omega⟩
    obtain ⟨plan, inside, writes⟩ := planned.get (doc.kind id).tag id
    have adds : ∀ {levels : Nat}, doc.size < (doc.lineage id).length + (levels + 1) →
        ∀ child, .node child ∈ plan → ∀ out, table.write doc levels child out =
          out ++ table.write doc limit' child "" := by
      intro levels covers child member out
      have longer := wf.length_lineage_child (inside child member)
      exact ih child (inside child member) (by omega) (by omega) out
    -- Both follow the same plan, and its children add the same with whatever levels are left.
    rw [HandlerTable.write, HandlerTable.write, writes, writes, Writing.foldl_write (adds fits),
      Writing.foldl_write (adds fits'), String.empty_append]

/-- As many levels as there are nodes are enough. -/
theorem write_eq (planned : table.Planned doc) {limit : Nat} (enough : doc.size ≤ limit) (id : NodeId)
    (out : String) : table.write doc limit id out = out ++ table.renderNode doc id := by
  -- Every line of parents has the node itself, so it is covered.
  have covers : doc.size < (doc.lineage id).length + doc.size := by
    rw [wf.lineage_eq id, List.length_cons]
    omega
  exact wf.write_limit planned id (by omega) covers out

/-- The HTML of a node is what the steps of its handler add. -/
theorem renderNode_eq_plan (planned : table.Planned doc) {id : NodeId} {plan : List Writing}
    (writes : ∀ render out, table.get (doc.kind id).tag doc render id out =
      plan.foldl (Writing.write render) out) :
    table.renderNode doc id = String.join (plan.map (Writing.piece (table.renderNode doc))) := by
  -- With one level more than there are nodes the handler is read, and below it nothing changes.
  have node := wf.write_eq planned (Nat.le_succ doc.size) id ""
  rw [HandlerTable.write, writes, Writing.foldl_write fun child _ =>
    wf.write_eq planned (Nat.le_refl doc.size) child, String.empty_append,
    String.empty_append] at node
  exact node.symm

/-- Writing nodes through a table is adding the HTML of each, and there is no other way. -/
theorem renders_iff (planned : table.Planned doc) (render : Render) :
    table.Renders doc render ↔ ∀ id out, render id out = out ++ table.renderNode doc id := by
  constructor
  · -- The handler follows its plan, in which the children add their HTML.
    intro renders id
    induction id using wf.child_induction with
    | step id ih =>
      intro out
      obtain ⟨plan, inside, writes⟩ := planned.get (doc.kind id).tag id
      rw [renders, writes, Writing.foldl_write fun child member => ih child (inside child member),
        wf.renderNode_eq_plan planned writes]
  · -- Where every node adds its HTML, a plan adds what the HTML of its node is made of.
    intro adds id out
    obtain ⟨plan, _, writes⟩ := planned.get (doc.kind id).tag id
    rw [writes, Writing.foldl_write fun child _ => adds child, adds,
      wf.renderNode_eq_plan planned writes]

end Document.WellFormed

end MarkdownTree
