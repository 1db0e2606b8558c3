import MarkdownTree.Markdown.Block
import MarkdownTree.Markdown.Link

/-! Passages: the text of one block, in which code, links and references are read. -/

namespace MarkdownTree.Markdown

/-- What the content of a block is read in. -/
structure Passage where
  /-- The source up to the end of the block. -/
  window : Window
  options : Options
  /-- The containers around the block, outermost first. -/
  containers : List ContainerKind
  inTable : Bool := false
  definitions : Definitions
  /-- The folded labels of the footnotes. -/
  footnotes : List String

/-- A label where it is used. -/
inductive LabelUse where
  | link (label : String)
  | footnote (label : String)
  deriving Repr

/-- How the link goes on whose text ends with a closing bracket. -/
inductive Reference where
  /-- A label follows in brackets, up to `stop`. -/
  | full (stop : Nat) (label : String)
  /-- Empty brackets follow: the text is the label. -/
  | collapsed
  /-- No label follows: the text is the label. -/
  | shortcut
  deriving Repr

namespace Passage

/-- The text of code between two offsets: line ends are spaces, and a space at each end is left out.
-/
def codeText (passage : Passage) (start stop : Nat) : String :=
  let w := passage.window.upTo stop
  let chars := (go w (stop + 1) "" start start).toList
  if chars.head? = some ' ' && chars.getLast? = some ' ' && chars.any (· ≠ ' ') then
    String.ofList (chars.drop 1).dropLast
  else
    String.ofList chars
where
  go (w : Window) : (limit : Nat) → String → (mark i : Nat) → String
    | 0, text, _, _ => text
    | limit + 1, text, mark, i =>
      if w.stop ≤ i then text ++ w.text mark w.stop
      else if w.has i '\n' || w.has i '\r' then
        let next := w.afterMarks passage.containers (i + 1)
        go w limit (text ++ w.text mark i ++ " ") next next
      else if passage.inTable && w.hasAll i ['\\', '|'] then
        go w limit (text ++ w.text mark i ++ "|") (i + 2) (i + 2)
      else
        go w limit text mark (i + 1)

/-- Passes white space with at most one line end. -/
def skipSpace (passage : Passage) (i : Nat) : Nat :=
  let w := passage.window
  let first := w.skipBlanks i
  match w.lineEnd? first with
  | some line => w.skipBlanks (w.afterMarks passage.containers line)
  | none => first

/-- The title of a link: the offset after it and its text; `rest` are the tokens from before it on.
-/
def title? (passage : Passage) (rest : List Token) (i : Nat) : Option (Nat × String) :=
  let w := passage.window
  if w.has i '"' then go w '"' '"' (w.stop + 1) "" (i + 1) (i + 1)
  else if w.has i '\'' then go w '\'' '\'' (w.stop + 1) "" (i + 1) (i + 1)
  else if w.has i '(' then go w '(' ')' (w.stop + 1) "" (i + 1) (i + 1)
  else none
where
  go (w : Window) (opening closing : Char) : (limit : Nat) → String → (mark i : Nat) →
      Option (Nat × String)
    | 0, _, _, _ => none
    | limit + 1, title, mark, i =>
      if w.stop ≤ i then none
      else if w.has i closing then some (i + 1, title ++ w.text mark i)
      else if w.has i opening then none
      else
        let line := if w.has i '\n' || w.has i '\r' then
            (rest.find? fun token => i + 1 < token.stop).filter fun token => i < token.start
          else none
        match line with
        | some token =>
          go w opening closing limit (title ++ w.text mark i ++ "\n") token.start token.start
        | none =>
          match if w.has i '&' then w.entity? i else none with
          | some (after, value) =>
            go w opening closing limit (title ++ w.text mark i ++ value) after after
          | none =>
            if passage.inTable && w.hasAll i ['\\', '\\', '|'] then
              let bar := if isPunctByte (w.get (i + 3)) then i + 3 else i + 2
              go w opening closing limit (title ++ w.text mark i) bar (bar + 1)
            else if w.has i '\\' && isPunctByte (w.get (i + 1)) then
              go w opening closing limit (title ++ w.text mark i) (i + 1) (i + 2)
            else
              go w opening closing limit title mark (i + 1)

/-- The target in parentheses that starts here, and the offset after it. -/
def inlineTarget? (passage : Passage) (rest : List Token) (i : Nat) : Option (Nat × Target) := do
  let w := passage.window
  guard (w.has i '(')
  let (stop, url) ← w.destination? 32 (passage.skipSpace (i + 1))
  let first := passage.skipSpace stop
  let (stop, title) := match passage.title? rest first with
    | some (after, title) => (passage.skipSpace after, title)
    | none => (first, "")
  guard (w.has stop ')')
  return (stop + 1, ⟨unescape passage.inTable url, title⟩)

/-- The label in brackets that starts here and ends before `bound`, and the offset after it. -/
def labelUse? (passage : Passage) (bound i : Nat) : Option (Nat × LabelUse) := do
  let w := passage.window.upTo bound
  guard (w.has i '[')
  if passage.options.footnotes && w.has (i + 1) '^' && !w.has (i + 2) ']' then
    let (stop, label) ← w.label? passage.inTable (fun _ => none) (i + 2)
    return (stop, .footnote label)
  else
    let onLine (line : Nat) : Option Nat := some (w.afterMarks passage.containers line)
    let (stop, label) ← w.label? passage.inTable onLine (i + 1)
    return (stop, .link label)

/-- How a link goes on before the tokens that are left. -/
def reference (passage : Passage) : List Token → Reference
  | [] => .shortcut
  | next :: _ =>
    if passage.window.hasAll next.start ['[', ']'] then .collapsed
    else match passage.labelUse? passage.window.stop next.start with
      | some (stop, .link label) => .full stop label
      | _ => .shortcut

end Passage

end MarkdownTree.Markdown
