import MarkdownTree.Html.Escape
import MarkdownTree.Text.Blank
import MarkdownTree.Tree.Walk

/-! Rendering to HTML through a table of handlers, one for each tag that has its own. -/

namespace MarkdownTree

/-- Adds the HTML of a node to what is written already. -/
abbrev Render := NodeId → String → String

/-- How a node is written, given the way in which other nodes are. -/
abbrev Handler := Document → Render → Render

namespace Html

/-- Writes nodes one after the other. -/
def each (render : Render) (nodes : List NodeId) (out : String) : String :=
  nodes.foldl (fun out id => render id out) out

/-- Writes the children of a node. -/
def children : Handler := fun doc render id out =>
  each render (doc.children id) out

/-- Writes the children of a node between an opening and a closing tag. -/
def element (opening closing : String) : Handler := fun doc render id out =>
  children doc render id (out ++ opening) ++ closing

/-- The title attribute; an empty title has none. -/
def titleAttribute (title : String) : String :=
  if title.isEmpty then "" else " title=\"" ++ escapeHtml title ++ "\""

/-- A code block; the first word of its info text names the language. -/
def codeBlock (info literal : String) : String :=
  let opening := match firstWord? info with
    | some language => "<pre><code class=\"language-" ++ escapeHtml language ++ "\">"
    | none => "<pre><code>"
  opening ++ escapeHtml literal ++ "</code></pre>"

/-- The opening and closing tag of a list; a start at one is not written. -/
def listTags : Option Nat → String × String
  | none => ("<ul>", "</ul>")
  | some 1 => ("<ol>", "</ol>")
  | some start => (s!"<ol start=\"{start}\">", "</ol>")

/-- The opening tag of a link. -/
def linkTag (target : Target) : String :=
  "<a href=\"" ++ escapeHtml target.url ++ "\"" ++ titleAttribute target.title ++ ">"

/-- An image, with its plain text in place of the picture. -/
def imageTag (target : Target) (alternative : String) : String :=
  "<img src=\"" ++ escapeHtml target.url ++ "\"" ++ titleAttribute target.title
    ++ " alt=\"" ++ escapeHtml alternative ++ "\">"

/-- The built-in markup of every kind. -/
def builtin : Handler := fun doc render id out =>
  match doc.kind id with
  | .document => children doc render id out
  | .paragraph => element "<p>" "</p>" doc render id out
  | .heading level => element s!"<h{level}>" s!"</h{level}>" doc render id out
  -- Without a handler of its own an alert is the block quote it was.
  | .blockQuote | .alert _ => element "<blockquote>" "</blockquote>" doc render id out
  | .list start => element (listTags start).1 (listTags start).2 doc render id out
  | .item => element "<li>" "</li>" doc render id out
  | .codeBlock info literal => out ++ codeBlock info literal
  | .htmlBlock literal | .inlineHtml literal => out ++ literal
  | .thematicBreak => out ++ "<hr>"
  | .text literal => out ++ escapeHtml literal
  | .code literal => out ++ ("<code>" ++ escapeHtml literal ++ "</code>")
  | .softBreak => out ++ "\n"
  | .hardBreak => out ++ "<br>"
  | .emphasis => element "<em>" "</em>" doc render id out
  | .strong => element "<strong>" "</strong>" doc render id out
  | .strikethrough => element "<s>" "</s>" doc render id out
  | .link target | .linkRef target _ => element (linkTag target) "</a>" doc render id out
  | .image target | .imageRef target _ => out ++ imageTag target (doc.plainText id)

/-- The opening of an alert, with its title. -/
def alertOpening (alert : AlertKind) : String :=
  "<div class=\"markdown-alert markdown-alert-" ++ alert.title
    ++ "\"><p class=\"markdown-alert-title\">" ++ alert.title ++ "</p>"

/-- The markup of an alert: a titled container. Of other nodes only the children are written. -/
def alert : Handler := fun doc render id out =>
  match doc.kind id with
  | .alert alert => element (alertOpening alert) "</div>" doc render id out
  | _ => children doc render id out

end Html

/-- The handlers of some tags; all others have the built-in one. -/
abbrev HandlerTable := List (Tag × Handler)

namespace HandlerTable

/-- The table with the alert handler alone. -/
def standard : HandlerTable :=
  [(.alert, Html.alert)]

/-- Drops the handler of a tag. -/
def erase (table : HandlerTable) (tag : Tag) : HandlerTable :=
  List.filter (fun entry => entry.1 != tag) table

/-- Gives a tag another handler. -/
def insert (table : HandlerTable) (tag : Tag) (handler : Handler) : HandlerTable :=
  (tag, handler) :: table.erase tag

/-- The handler of a tag. -/
def get (table : HandlerTable) (tag : Tag) : Handler :=
  match table.find? fun entry => entry.1 == tag with
  | some (_, handler) => handler
  | none => Html.builtin

/-- Writes a node through its handler, down to `limit` levels. -/
def write (table : HandlerTable) (doc : Document) : (limit : Nat) → Render
  | 0, _, out => out
  | limit + 1, id, out => table.get (doc.kind id).tag doc (table.write doc limit) id out

/-- The HTML of a subtree. -/
def renderNode (table : HandlerTable) (doc : Document) (id : NodeId) : String :=
  -- A chain of children never repeats a node, so the store's size bounds its length.
  table.write doc doc.size id ""

/-- The HTML of a document. -/
def render (table : HandlerTable) (doc : Document) : String :=
  table.renderNode doc Document.root

end HandlerTable

end MarkdownTree
