import MarkdownTree.Build.Builder
import MarkdownTree.Markdown.Telling

/-! Reading Markdown: from source text to a document. -/

namespace MarkdownTree

/-- The document that a Markdown text stands for. -/
def Document.ofMarkdown (options : Markdown.Options) (source : String) : Document :=
  .ofEvents source (Markdown.events options source)

end MarkdownTree
