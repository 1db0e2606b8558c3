import MarkdownTree.Proofs.Html.Compose

/-! The HTML of a node from that of its children: the standard table has a markup for every kind,
which stands around what the children add. -/

namespace MarkdownTree

/-- The HTML of a node of this kind, with its plain text and with the HTML of its children. -/
def Kind.markup (kind : Kind) (alternative inner : String) : String :=
  match kind with
  | .document => inner
  | .paragraph => "<p>" ++ inner ++ "</p>"
  | .heading level => s!"<h{level}>" ++ inner ++ s!"</h{level}>"
  | .blockQuote => "<blockquote>" ++ inner ++ "</blockquote>"
  | .alert which => Html.alertOpening which ++ inner ++ "</div>"
  | .list start => (Html.listTags start).1 ++ inner ++ (Html.listTags start).2
  | .item => "<li>" ++ inner ++ "</li>"
  | .codeBlock info literal => Html.codeBlock info literal
  | .htmlBlock literal | .inlineHtml literal => literal
  | .thematicBreak => "<hr>"
  | .text literal => escapeHtml literal
  | .code literal => "<code>" ++ escapeHtml literal ++ "</code>"
  | .softBreak => "\n"
  | .hardBreak => "<br>"
  | .emphasis => "<em>" ++ inner ++ "</em>"
  | .strong => "<strong>" ++ inner ++ "</strong>"
  | .strikethrough => "<s>" ++ inner ++ "</s>"
  | .link target | .linkRef target _ => Html.linkTag target ++ inner ++ "</a>"
  | .image target | .imageRef target _ => Html.imageTag target alternative

namespace Html

variable {render : Render} {pieces : NodeId → String}

/-- Nodes that each add a piece add all pieces in order. -/
theorem each_eq {nodes : List NodeId}
    (adds : ∀ id ∈ nodes, ∀ out, render id out = out ++ pieces id) (out : String) :
    each render nodes out = out ++ String.join (nodes.map pieces) := by
  -- It is a plan with these nodes alone.
  have plan : each render nodes out =
      (nodes.map Writing.node).foldl (Writing.write render) out := by
    rw [List.foldl_map]
    rfl
  rw [plan, Writing.foldl_write (by simpa using adds), List.map_map]
  rfl

variable {doc : Document} {id : NodeId}

/-- An element adds its tags around the pieces of the children. -/
theorem element_eq (adds : ∀ child ∈ doc.children id, ∀ out, render child out = out ++ pieces child)
    (opening closing out : String) : element opening closing doc render id out =
      out ++ (opening ++ String.join ((doc.children id).map pieces) ++ closing) := by
  show each render (doc.children id) (out ++ opening) ++ closing = _
  rw [each_eq adds]
  simp only [String.append_assoc]

/-- Every kind adds its markup around the pieces of the children. -/
theorem standard_eq (adds : ∀ child ∈ doc.children id, ∀ out, render child out = out ++ pieces child)
    (out : String) : HandlerTable.standard.get (doc.kind id).tag doc render id out =
      out ++ (doc.kind id).markup (doc.plainText id)
        (String.join ((doc.children id).map pieces)) := by
  -- The handler of a kind is known from its tag, and its markup from the definition.
  cases kind : doc.kind id with
  | alert alert =>
    -- Alerts have a handler of their own.
    show Html.alert doc render id out = _
    simp only [Html.alert, kind]
    exact element_eq adds _ _ out
  | document =>
    show builtin doc render id out = _
    simp only [builtin, kind]
    exact each_eq adds out
  | paragraph | heading | blockQuote | list | item | emphasis | strong | strikethrough | link
      | linkRef =>
    show builtin doc render id out = _
    simp only [builtin, kind]
    exact element_eq adds _ _ out
  | codeBlock | htmlBlock | thematicBreak | text | code | inlineHtml | softBreak | hardBreak | image
      | imageRef =>
    show builtin doc render id out = _
    simp only [builtin, kind]
    rfl

end Html

namespace Document.WellFormed

variable {doc : Document} (wf : doc.WellFormed)
include wf

/-- The HTML of a subtree is the markup of its top around the HTML of the subtrees below. -/
theorem renderNode_eq (id : NodeId) : HandlerTable.standard.renderNode doc id =
    (doc.kind id).markup (doc.plainText id)
      (String.join ((doc.children id).map (HandlerTable.standard.renderNode doc))) := by
  have node := (wf.renders_iff .standard fun id out =>
    out ++ HandlerTable.standard.renderNode doc id).mpr (fun _ _ => rfl) id ""
  rw [Html.standard_eq fun child _ out => rfl, String.empty_append] at node
  exact String.empty_append.symm.trans node

end Document.WellFormed

end MarkdownTree
