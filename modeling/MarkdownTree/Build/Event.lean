import MarkdownTree.Tree.Kind
import MarkdownTree.Tree.Span

/-! Events: a document told from start to end, each with the range of the source it comes from. -/

namespace MarkdownTree

/-- How a link is written. -/
inductive LinkForm where
  | inline
  | reference
  | referenceUnknown
  | collapsed
  | collapsedUnknown
  | shortcut
  | shortcutUnknown
  | autolink
  | email
  | wikilink
  deriving DecidableEq, Repr

/-- Whether the target of a link comes from a definition. -/
def LinkForm.isDefined : LinkForm → Bool
  | reference | collapsed | shortcut => true
  | _ => false

/-- What an opening event opens. -/
inductive Container where
  | paragraph
  | heading (level : Nat)
  | blockQuote
  /-- A code block; a fenced one has an info text, possibly empty. -/
  | codeBlock (info : Option String)
  | htmlBlock
  | list (start : Option Nat)
  | item
  | emphasis
  | strong
  | strikethrough
  | link (form : LinkForm) (target : Target) (label : String)
  | image (form : LinkForm) (target : Target) (label : String)
  /-- A container that the tree does not model: a footnote definition; a definition list, a title or
  a definition in it; a table, its head, a row or a cell; a superscript or a subscript; a block of
  metadata. Its content goes to the container around it. -/
  | unmodelled
  deriving DecidableEq, Repr

/-- The kind of the node made for a container, if the tree models it. -/
def Container.kind? : Container → Option Kind
  | paragraph => some .paragraph
  | heading level => some (.heading level)
  | blockQuote => some .blockQuote
  | codeBlock info => some (.codeBlock (info.getD "") "")
  | htmlBlock => some (.htmlBlock "")
  | list start => some (.list start)
  | item => some .item
  | emphasis => some .emphasis
  | strong => some .strong
  | strikethrough => some .strikethrough
  | link form target label =>
    some (if form.isDefined then .linkRef target label else .link target)
  | image form target label =>
    some (if form.isDefined then .imageRef target label else .image target)
  | unmodelled => none

/-- One step of the telling. -/
inductive Event where
  | start (container : Container)
  /-- The end of the innermost open container, whichever it is. -/
  | stop
  | text (literal : String)
  | code (literal : String)
  | html (literal : String)
  | softBreak
  | hardBreak
  | rule
  /-- Something that the tree does not model, without content of its own: a reference to a footnote,
  inline or display math, or the marker of a task in a list. -/
  | unmodelled
  deriving DecidableEq, Repr

/-- An event and its range. -/
structure SpannedEvent where
  event : Event
  span : Span
  deriving DecidableEq, Repr

end MarkdownTree
