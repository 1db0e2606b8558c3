import MarkdownTree.Tree.Walk
import MarkdownTree.Text.Quoted

/-! Outlines: a subtree as text, one node a line, indented by depth. -/

namespace MarkdownTree

/-- The fields of a kind that its line shows, after the tag. -/
def Kind.shownFields : Kind → String
  | .heading level => s!" {level}"
  | .alert mark => " " ++ mark.name
  | .list (some start) => s!" {start}"
  | .codeBlock info literal => " " ++ quoted info ++ " " ++ quoted literal
  | .htmlBlock literal | .text literal | .code literal | .inlineHtml literal =>
    " " ++ quoted literal
  | .link target | .image target => " " ++ quoted target.url
  -- A label is shown bare, as it stands in the source.
  | .linkRef _ label | .imageRef _ label => " [" ++ label ++ "]"
  | _ => ""

/-- The line of a node of this kind at a depth. -/
def Kind.outlineLine (depth : Nat) (kind : Kind) : String :=
  String.ofList (List.replicate (2 * depth) ' ') ++ kind.tag.name ++ kind.shownFields ++ "\n"

namespace Document

/-- The outline of a subtree whose top stands at `depth`, down to `limit` levels. -/
def outlineFrom (doc : Document) : (limit depth : Nat) → NodeId → String
  | 0, _, _ => ""
  | limit + 1, depth, id =>
    (doc.kind id).outlineLine depth ++
      String.join ((doc.children id).map (doc.outlineFrom limit (depth + 1)))

/-- The outline of a subtree. -/
def outline (doc : Document) (id : NodeId) : String :=
  -- A chain of children never repeats a node, so the store's size bounds its length.
  doc.outlineFrom doc.size 0 id

end Document

end MarkdownTree
