import MarkdownTree.Build.Event
import MarkdownTree.Markdown.Window

/-! Inline content: the inside of a paragraph, with its links and emphasis. -/

namespace MarkdownTree.Markdown

/-- A piece of inline content and the part of the source that it covers. -/
inductive Inline where
  | text (span : Span) (literal : String)
  | softBreak (span : Span)
  | hardBreak (span : Span) (backslash : Bool)
  | code (span : Span) (literal : String)
  | html (span : Span) (literal : String)
  /-- A run of a character that may still open or close an emphasis. -/
  | delimiter (span : Span) (c : Char) (canOpen canClose : Bool)
  /-- A link, an image, or an emphasis. -/
  | inside (container : Container) (span : Span) (children : List Inline)
  | unmodelled (span : Span)
  deriving Repr

namespace Inline

/-- The part of the source that a piece covers. -/
def span : Inline → Span
  | text span _ | softBreak span | hardBreak span _ | code span _ | html span _
  | delimiter span _ _ _ | inside _ span _ | unmodelled span => span

/-- A piece that loses the source before an offset; text in place of the source stays whole. -/
def startingAt (w : Window) (start : Nat) : Inline → Inline
  | text span literal =>
    text ⟨start, span.stop⟩
      (if literal = w.text span.start span.stop then w.text start span.stop else literal)
  | softBreak span => softBreak ⟨start, span.stop⟩
  | hardBreak span backslash => hardBreak ⟨start, span.stop⟩ backslash
  | code span literal => code ⟨start, span.stop⟩ literal
  | html span literal => html ⟨start, span.stop⟩ literal
  | delimiter span c canOpen canClose => delimiter ⟨start, span.stop⟩ c canOpen canClose
  | inside container span children => inside container ⟨start, span.stop⟩ children
  | unmodelled span => unmodelled ⟨start, span.stop⟩

/-- Whether a piece may still open or close an emphasis. -/
def isDelimiter : Inline → Bool
  | delimiter _ _ _ _ => true
  | _ => false

/-- The events of a piece and of what is in it. -/
def events : Inline → List SpannedEvent
  | text span literal => [⟨.text literal, span⟩]
  | softBreak span => [⟨.softBreak, span⟩]
  | hardBreak span _ => [⟨.hardBreak, span⟩]
  | code span literal => [⟨.code literal, span⟩]
  | html span literal => [⟨.html literal, span⟩]
  | delimiter span c _ _ =>
    [⟨.text (String.ofList (List.replicate (span.stop - span.start) c)), span⟩]
  | inside container span children =>
    ⟨.start container, span⟩ :: (children.flatMap events ++ [⟨.stop, span⟩])
  | unmodelled span => [⟨.unmodelled, span⟩]

end Inline

end MarkdownTree.Markdown
