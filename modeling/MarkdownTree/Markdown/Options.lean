/-! Extensions of the Markdown syntax that can be switched on. -/

namespace MarkdownTree.Markdown

/-- Which extensions a parse recognises; the plain syntax is always recognised. -/
structure Options where
  tables : Bool := false
  footnotes : Bool := false
  strikethrough : Bool := false
  taskLists : Bool := false
  math : Bool := false
  /-- A block between lines of three dashes at the start of a line of its own. -/
  metadata : Bool := false
  definitionLists : Bool := false
  superscript : Bool := false
  subscript : Bool := false
  wikilinks : Bool := false
  deriving DecidableEq, Repr

/-- What a parse recognises unless it is told otherwise. -/
def Options.standard : Options :=
  { strikethrough := true }

end MarkdownTree.Markdown
