import MarkdownTree.Markdown.OpenBlocks

/-! Blocks whose lines are taken as they are: code, raw HTML and metadata. -/

namespace MarkdownTree.Markdown

/-- Lines that are taken as they are, and where reading goes on after them. -/
structure VerbatimLines where
  pieces : List SpannedEvent
  stop : Nat
  next : Nat
  /-- Whether blank lines follow that do not belong to the block. -/
  blankAfter : Bool := false

namespace Window

/-- White space in place of the rest of a tab. -/
def spareColumns (columns start : Nat) : List SpannedEvent :=
  if columns = 0 then []
  else [⟨.text (String.ofList (List.replicate columns ' ')), ⟨start, start⟩⟩]

/-- A stretch of a line, if it is not empty. -/
def stretch (w : Window) (tell : String → Event) (start stop : Nat) : List SpannedEvent :=
  if start < stop then [⟨tell (w.text start stop), ⟨start, stop⟩⟩] else []

/-- A line as it is, except that its end is a single line feed. -/
def verbatimLine (w : Window) (tell : String → Event) (columns start stop : Nat) :
    List SpannedEvent :=
  spareColumns columns start ++
    if 2 ≤ stop && w.has (stop - 2) '\r' then
      w.stretch tell start (stop - 2) ++ w.stretch tell (stop - 1) stop
    else
      w.stretch tell start stop

/-- The lines of an indented code block, without blank lines at its end. -/
def indentedCode (w : Window) (containers : List ContainerKind) (start columns : Nat) :
    VerbatimLines :=
  go (w.stop + 1) [] ⟨[], start, start, false⟩ start columns
where
  /-- All lines are in `pieces`; in `kept` are those up to the last that is not blank. -/
  go : (limit : Nat) → (pieces : List SpannedEvent) → (kept : VerbatimLines) →
      (line columns : Nat) → VerbatimLines
    | 0, _, kept, _, _ => kept
    | limit + 1, pieces, kept, line, columns =>
      let next := w.nextLine line
      let pieces := pieces ++ w.verbatimLine .text columns line next
      let kept := if kept.blankAfter then { kept with next }
        else { kept with pieces, stop := next, next }
      let (cursor, count) := ContainerKind.follow w (.atLine next) containers
      let (inside, found) := cursor.skip w 4
      if count < containers.length || !(found || inside.atLineEnd w) || w.stop ≤ inside.pos then
        kept
      else
        go limit pieces { kept with blankAfter := (w.blankLine? inside.pos).isSome } inside.pos
          inside.spare

/-- The lines of a fenced code block; its own indentation is taken off them. -/
def fencedCode (w : Window) (containers : List ContainerKind) (indent : Nat) (fence : Char)
    (length line : Nat) : VerbatimLines :=
  go (w.stop + 1) [] line
where
  go : (limit : Nat) → List SpannedEvent → (line : Nat) → VerbatimLines
    | 0, pieces, line => ⟨pieces, line, line, false⟩
    | limit + 1, pieces, line =>
      let (cursor, count) := ContainerKind.follow w (.atLine line) containers
      if count < containers.length then ⟨pieces, line, line, false⟩
      else
        let inside := (cursor.skip w indent).1
        let (mark, deep) := inside.skip w (4 - indent)
        match if deep then none else w.closingFence? fence length mark.pos with
        | some stop => ⟨pieces, stop, w.afterBlankLine stop, false⟩
        | none =>
          let next := w.nextLine inside.pos
          go limit (pieces ++ w.verbatimLine .text inside.spare inside.pos next) next

/-- The lines of a metadata block. -/
def metadata (w : Window) (containers : List ContainerKind) (line : Nat) : VerbatimLines :=
  go (w.stop + 1) [] line
where
  go : (limit : Nat) → List SpannedEvent → (line : Nat) → VerbatimLines
    | 0, pieces, line => ⟨pieces, line, line, false⟩
    | limit + 1, pieces, line =>
      let (cursor, count) := ContainerKind.follow w (.atLine line) containers
      if count < containers.length || w.stop ≤ line then
        ⟨pieces, line, w.afterBlankLine line, false⟩
      else
        match w.metadataEnd? line with
        | some stop => ⟨pieces, stop, w.afterBlankLine stop, false⟩
        | none =>
          let next := w.nextLine cursor.pos
          go limit (pieces ++ w.verbatimLine .text cursor.spare cursor.pos next) next

/-- The lines of an HTML block that goes on to the line with a closing text. -/
def htmlUntil (w : Window) (containers : List ContainerKind) (closing : String)
    (columns start : Nat) : VerbatimLines :=
  go (w.stop + 1) [] columns start
where
  go : (limit : Nat) → List SpannedEvent → (columns line : Nat) → VerbatimLines
    | 0, pieces, _, line => ⟨pieces, line, line, false⟩
    | limit + 1, pieces, columns, line =>
      let next := w.nextLine line
      let pieces := pieces ++ w.verbatimLine .html columns line next
      let (cursor, count) := ContainerKind.follow w (.atLine next) containers
      if count < containers.length
          || ((w.upTo next).after? closing.toList (w.stop + 1) line).isSome then
        ⟨pieces, next, next, false⟩
      else if w.stop ≤ cursor.pos then ⟨pieces, cursor.pos, next, false⟩
      else go limit pieces cursor.spare cursor.pos

/-- The lines of an HTML block that goes on to a blank line. -/
def htmlToBlank (w : Window) (containers : List ContainerKind) (columns start : Nat) :
    VerbatimLines :=
  go (w.stop + 1) [] columns start
where
  go : (limit : Nat) → List SpannedEvent → (columns line : Nat) → VerbatimLines
    | 0, pieces, _, line => ⟨pieces, line, line, false⟩
    | limit + 1, pieces, columns, line =>
      let next := w.nextLine line
      let pieces := pieces ++ w.verbatimLine .html columns line next
      let (cursor, count) := ContainerKind.follow w (.atLine next) containers
      if count < containers.length || cursor.atLineEnd w then ⟨pieces, next, next, false⟩
      else if w.stop ≤ cursor.pos || (w.blankLine? cursor.pos).isSome then
        ⟨pieces, cursor.pos, next, false⟩
      else go limit pieces cursor.spare cursor.pos

end Window

end MarkdownTree.Markdown
