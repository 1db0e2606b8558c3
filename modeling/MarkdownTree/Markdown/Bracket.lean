import MarkdownTree.Markdown.Emphasis

/-! Brackets that are open while the content of a block is read. -/

namespace MarkdownTree.Markdown

/-- What an opening bracket may start. -/
inductive BracketForm where
  | link
  | image
  /-- A link was made after it, so it is only text. -/
  | disabled
  /-- It belongs to a link already. -/
  | spent
  deriving DecidableEq, Repr

/-- An opening bracket and the content after it. -/
structure Bracket where
  start : Nat
  stop : Nat
  form : BracketForm
  /-- The content after the bracket, last first. -/
  inside : List Inline := []

/-- Two opening brackets in a row. -/
structure DoubleBracket where
  start : Nat
  form : BracketForm

/-- Content while its brackets are matched. -/
structure Brackets where
  /-- The content before the first open bracket, last first. -/
  before : List Inline := []
  /-- Open brackets, innermost first. -/
  opened : List Bracket := []
  /-- Open double brackets, innermost first. -/
  doubles : List DoubleBracket := []
  /-- How many bytes of targets may still be taken from definitions. -/
  allowance : Nat

/-- The source text between two offsets. -/
def Window.inlineText (w : Window) (start stop : Nat) : Inline :=
  .text ⟨start, stop⟩ (w.text start stop)

namespace Brackets

/-- Adds a piece at the end. -/
def add (brackets : Brackets) (inline : Inline) : Brackets :=
  match brackets.opened with
  | bracket :: outer =>
    { brackets with opened := { bracket with inside := inline :: bracket.inside } :: outer }
  | [] => { brackets with before := inline :: brackets.before }

/-- Adds pieces at the end, the last first. -/
def addAll (brackets : Brackets) (content : List Inline) : Brackets :=
  match brackets.opened with
  | bracket :: outer =>
    { brackets with opened := { bracket with inside := content ++ bracket.inside } :: outer }
  | [] => { brackets with before := content ++ brackets.before }

/-- Opens a bracket. -/
def enter (brackets : Brackets) (start stop : Nat) (form : BracketForm) : Brackets :=
  { brackets with opened := { start, stop, form } :: brackets.opened }

/-- A bracket that nothing closes and the content after it, last first. -/
def asText (w : Window) (bracket : Bracket) : List Inline :=
  if bracket.form = .spent then bracket.inside
  else bracket.inside ++ [w.inlineText bracket.start bracket.stop]

/-- Takes no bracket as the start of a link any more. -/
def close (w : Window) (brackets : Brackets) : Brackets :=
  { brackets with
    before := brackets.opened.flatMap (asText w) ++ brackets.before
    opened := [] }

/-- Links hold no links: no open bracket can start one any more. -/
def disableLinks (brackets : Brackets) : Brackets :=
  { brackets with
    opened := brackets.opened.map fun bracket =>
      { bracket with form := disabled bracket.form }
    doubles := brackets.doubles.map fun double => { double with form := disabled double.form } }
where
  disabled : BracketForm → BracketForm
    | .link => .disabled
    | form => form

/-- Takes out the content from an offset on, last first; brackets opened there become `spent`. -/
def takeFrom (w : Window) (brackets : Brackets) (start : Nat) : Brackets × List Inline :=
  let later := brackets.opened.takeWhile fun bracket => start ≤ bracket.start
  let outer := brackets.opened.dropWhile fun bracket => start ≤ bracket.start
  let isLater (inline : Inline) : Bool := start ≤ inline.span.start
  let taken := later.flatMap (asText w)
  let spent := later.map fun bracket => { bracket with form := .spent, inside := [] }
  match outer with
  | bracket :: rest =>
    ({ brackets with
        opened := spent ++ { bracket with inside := bracket.inside.dropWhile isLater } :: rest },
      taken ++ bracket.inside.takeWhile isLater)
  | [] =>
    ({ brackets with opened := spent, before := brackets.before.dropWhile isLater },
      taken ++ brackets.before.takeWhile isLater)

end Brackets

end MarkdownTree.Markdown
