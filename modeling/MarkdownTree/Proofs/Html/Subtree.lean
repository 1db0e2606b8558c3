import MarkdownTree.Proofs.Html.Markup
import MarkdownTree.Proofs.Processing.Reachable
import MarkdownTree.Proofs.Tree.Labels

/-! The HTML of a subtree is told by the subtree: wherever it stands, and whatever is written before
it or around it, the same is added. -/

namespace MarkdownTree

namespace Document

variable {doc other : Document} {id id' : NodeId}

namespace WellFormed

/-- The plain text of a subtree is that of its kinds, in order. -/
theorem plainText_eq_kinds (wf : doc.WellFormed) (id : NodeId) : doc.plainText id =
    String.join ((((doc.kinds id).entries 0).map Prod.snd).map Kind.plainText) := by
  -- The entries come in document order, in which the texts are joined.
  rw [kinds, wf.map_entries, List.map_map]
  rfl

/-- Equal subtrees have the same HTML. -/
theorem renderNode_eq_of_kinds (wf : doc.WellFormed) (wf' : other.WellFormed)
    (same : doc.kinds id = other.kinds id') :
    HandlerTable.standard.renderNode doc id = HandlerTable.standard.renderNode other id' := by
  induction id using wf.child_induction generalizing id' with
  | step id ih =>
    -- An image shows the text of all that is below it, which is in the kinds as well.
    have text : doc.plainText id = other.plainText id' := by
      rw [wf.plainText_eq_kinds, wf'.plainText_eq_kinds, same]
    rw [kinds, kinds, wf.labelled_eq, wf'.labelled_eq] at same
    obtain ⟨kind, rows⟩ := Labelled.node.inj same
    rw [wf.renderNode_eq, wf'.renderNode_eq, kind, text,
      map_eq_map_of_agree (fun child member child' same => ih child member same) rows]

end WellFormed

end Document

/--
Rendering is compositional and local.

Through a table that comes from the standard one when tags get handlers that write step by step, and
when handlers are dropped, a node adds its own HTML to whatever is written already, and its children
add theirs in order. This is the only way to write nodes through the table without a bound on how
far down that goes, and as many levels as there are nodes are enough. The standard table gives equal
subtrees the same HTML, in whatever documents and wherever they stand.
-/
theorem rendering_composes {doc : Document} (reachable : doc.Reachable) :
    (∀ table : HandlerTable, table.Planned doc →
      (∀ render, table.Renders doc render ↔
        ∀ id out, render id out = out ++ table.renderNode doc id) ∧
      (∀ limit ≥ doc.size, ∀ id out,
        table.write doc limit id out = out ++ table.renderNode doc id) ∧
      ∀ render, table.Renders doc render → ∀ id out, Html.children doc render id out =
        out ++ String.join ((doc.children id).map (table.renderNode doc))) ∧
    ∀ other : Document, other.Reachable → ∀ id id', doc.kinds id = other.kinds id' →
      HandlerTable.standard.renderNode doc id = HandlerTable.standard.renderNode other id' := by
  have wf := reachable.wellFormed
  refine ⟨fun table planned => ⟨wf.renders_iff planned, ?_, ?_⟩, ?_⟩
  · exact fun limit enough id out => wf.write_eq planned enough id out
  · -- What such a rendering adds for each child is known, and the children are written in order.
    intro render renders id out
    have adds := (wf.renders_iff planned render).mp renders
    exact Html.each_eq (fun child _ => adds child) out
  · exact fun other reachable' id id' same => wf.renderNode_eq_of_kinds reachable'.wellFormed same

/-- A note with emphasis in quotation marks is written as a quote after what there is; a loose note
with the same kinds has the same HTML. -/
theorem note_written_anywhere :
    let doc := List.foldl Document.after (.ofSource "a&b") [.create (.alert .note) ⟨0, 3⟩,
      .create .emphasis ⟨0, 1⟩, .create (.text "a") ⟨0, 1⟩, .create (.image ⟨"u", "t"⟩) ⟨1, 2⟩,
      .create (.code "&b") ⟨1, 3⟩, .move (.append Document.root 1), .move (.append 1 2),
      .move (.append 2 3), .move (.append 1 4), .move (.append 4 5)]
    let other := List.foldl Document.after (.ofSource "") [.create (.code "&b") {},
      .create (.image ⟨"u", "t"⟩) {}, .create (.alert .note) {}, .create .emphasis {},
      .create (.text "a") {}, .move (.append 3 2), .move (.append 2 1), .move (.prepend 3 4),
      .move (.append 4 5)]
    let table := (HandlerTable.standard.insert .emphasis (Html.element "<q>" "</q>")).erase .alert
    table.Planned doc ∧
      (∀ render, table.Renders doc render → render 1 "<p>" =
        "<p><blockquote><q>a</q><img src=\"u\" title=\"t\" alt=\"&amp;b\"></blockquote>") ∧
      doc.kinds 1 = other.kinds 3 ∧
      HandlerTable.standard.renderNode doc 1 = HandlerTable.standard.renderNode other 3 := by
  intro doc other table
  have reachable : doc.Reachable := ⟨_, _, rfl⟩
  have reachable' : other.Reachable := ⟨_, _, rfl⟩
  have planned : table.Planned doc :=
    (HandlerTable.Planned.standard.insert _ fun _ => Handler.plansAt_element _ _).erase _
  have same : doc.kinds 1 = other.kinds 3 :=
    Labelled.entries_inj (by decide +kernel : (doc.kinds 1).entries 0 = (other.kinds 3).entries 0)
  obtain ⟨composes, equal⟩ := rendering_composes reachable
  refine ⟨planned, fun render renders => ?_, same, equal other reachable' 1 3 same⟩
  rw [((composes table planned).1 render).mp renders]
  decide +kernel

end MarkdownTree
