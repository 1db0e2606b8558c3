import MarkdownTree.Build.Event
import MarkdownTree.Tree.Move

/-! Building a document from events. -/

namespace MarkdownTree

/-- A document under construction and the containers still open. -/
structure Builder where
  doc : Document
  /-- Open containers, innermost first; an unmodelled one has no node. -/
  spine : List (Option NodeId)
  deriving DecidableEq, Repr

namespace Builder

/-- An empty document over its source, with nothing open. -/
def ofSource (source : String) : Builder :=
  { doc := .ofSource source, spine := [] }

/-- The node that the next one goes under: the innermost open node, else the root. -/
def parent (builder : Builder) : NodeId :=
  (builder.spine.findSome? id).getD Document.root

/-- Adds a node at the end of the innermost open one. -/
def add (builder : Builder) (kind : Kind) (span : Span) : Builder × NodeId :=
  let (doc, id) := builder.doc.create kind span
  -- A new node is linked without a check: it is not the root and nothing is below it.
  ({ builder with doc := doc.linkLast builder.parent id }, id)

/-- Adds a node that nothing goes under. -/
def addLeaf (builder : Builder) (kind : Kind) (span : Span) : Builder :=
  (builder.add kind span).1

/-- Text goes to the literal of an open code block, else it continues a text node that ends where it
starts. -/
def text (builder : Builder) (literal : String) (span : Span) : Builder :=
  let parent := builder.parent
  match builder.doc.kind parent with
  | .codeBlock info sofar =>
    { builder with doc := builder.doc.setKind parent (.codeBlock info (sofar ++ literal)) }
  | _ =>
    match builder.doc.lastChild parent with
    | some last =>
      match builder.doc.kind last with
      | .text sofar =>
        if (builder.doc.span last).stop = span.start then
          { builder with
            doc := (builder.doc.setKind last (.text (sofar ++ literal))).setStop last span.stop }
        else
          builder.addLeaf (.text literal) span
      | _ => builder.addLeaf (.text literal) span
    | none => builder.addLeaf (.text literal) span

/-- Raw HTML goes to the literal of an open HTML block, else it is a node of its own. -/
def html (builder : Builder) (literal : String) (span : Span) : Builder :=
  let parent := builder.parent
  match builder.doc.kind parent with
  | .htmlBlock sofar =>
    { builder with doc := builder.doc.setKind parent (.htmlBlock (sofar ++ literal)) }
  | _ => builder.addLeaf (.inlineHtml literal) span

/-- Takes in one event. -/
def push (builder : Builder) (spanned : SpannedEvent) : Builder :=
  match spanned.event with
  | .start container =>
    match container.kind? with
    | some kind =>
      let (builder, id) := builder.add kind spanned.span
      { builder with spine := some id :: builder.spine }
    | none => { builder with spine := none :: builder.spine }
  | .stop => { builder with spine := builder.spine.tail }
  | .text literal => builder.text literal spanned.span
  | .code literal => builder.addLeaf (.code literal) spanned.span
  | .html literal => builder.html literal spanned.span
  | .softBreak => builder.addLeaf .softBreak spanned.span
  | .hardBreak => builder.addLeaf .hardBreak spanned.span
  | .rule => builder.addLeaf .thematicBreak spanned.span
  | .unmodelled => builder

end Builder

/-- The document that events tell. -/
def Document.ofEvents (source : String) (events : List SpannedEvent) : Document :=
  (events.foldl Builder.push (.ofSource source)).doc

end MarkdownTree
