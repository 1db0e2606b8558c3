/-! Text in HTML: the five characters with a meaning of their own are written as entities. -/

namespace MarkdownTree

/-- How one character is written. -/
def escapedChar : Char → List Char
  | '&' => "&amp;".toList
  | '<' => "&lt;".toList
  | '>' => "&gt;".toList
  | '"' => "&quot;".toList
  | '\'' => "&#x27;".toList
  | c => [c]

/-- A text fit for content and for attribute values. -/
def escapeHtml (text : String) : String :=
  String.ofList (text.toList.flatMap escapedChar)

end MarkdownTree
