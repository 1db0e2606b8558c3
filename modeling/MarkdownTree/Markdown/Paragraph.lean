import MarkdownTree.Markdown.Link
import MarkdownTree.Markdown.OpenBlocks

/-! Paragraphs and what becomes of them: headings, tables, and definitions of links. -/

namespace MarkdownTree.Markdown

namespace Setting

/-- The label of a footnote whose text starts here, and the offset after its colon. -/
def footnoteMark? (setting : Setting) (i : Nat) : Option (Nat × String) := do
  let w := setting.window
  guard (setting.options.footnotes && w.hasAll i ['[', '^'])
  let (after, label) ← w.label? false (fun _ => none) (i + 2)
  guard (w.has after ':')
  return (after + 1, label)

/-- Whether a line starts a block that ends a paragraph before it, tables apart. -/
def interruptsText (setting : Setting) (free : Bool) (i : Nat) : Bool :=
  let w := setting.window
  (w.lineEnd? i).isSome || (w.rule? i).isSome || (w.headingLevel? i).isSome
    || (w.fence? i).isSome || w.has i '>' || w.interruptingItem free i
    || (w.has i '<' && ((w.htmlBlockEnd? i).isSome || w.startsBlockElement i))
    || (setting.footnoteMark? i).isSome

/-- Whether a line is the head of a table. -/
def startsTable (setting : Setting) (containers : List ContainerKind) (i : Nat) : Bool :=
  let w := setting.window
  setting.options.tables && w.has i '|' &&
    match countBars w (w.stop + 1) 0 i i with
    | some (bars, lastBar, next) => (setting.table? containers i next bars lastBar).isSome
    | none => false
where
  /-- The number of bars in a line, the last of them, and the start of the next line. -/
  countBars (w : Window) : (limit bars lastBar i : Nat) → Option (Nat × Nat × Nat)
    | 0, _, _, _ => none
    | limit + 1, bars, lastBar, i =>
      if w.stop ≤ i then none
      else match w.lineEnd? i with
        | some next => some (bars, lastBar, next)
        | none =>
          if w.has i '|' then countBars w limit (bars + 1) i (i + 1)
          else if w.has i '\\' && w.has (i + 1) '|' then countBars w limit bars lastBar (i + 2)
          else countBars w limit bars lastBar (i + 1)

/-- Whether a line ends a paragraph before it; `current` if it continues all its containers. -/
def interrupts (setting : Setting) (containers : List ContainerKind) (current : Bool) (i : Nat) :
    Bool :=
  setting.interruptsText (!current) i || setting.startsTable containers i
    || (setting.options.definitionLists && (current || containers.any ContainerKind.isDefinition)
      && setting.window.has i ':')

/-! Headings -/

/-- Moves the end of the last token. -/
def endingAt (tokens : Array Token) (stop : Nat) : Array Token :=
  tokens.modify (tokens.size - 1) fun token => { token with stop }

/-- The backslash of a line break that breaks nothing is text. -/
def withBackslash (tokens : Array Token) : LineEnd → Array Token
  | .break ⟨start, _, .hardBreak true⟩ => tokens.push ⟨start, start + 1, .text⟩
  | _ => tokens

/-- The end of a heading's text, without the number signs that close it. -/
def headingTextEnd (setting : Setting) (start stop : Nat) : Nat :=
  let w := setting.window
  let limit := stop - w.countBack (fun b => b == 0x0a || b == 0x0d || b == 0x20) start stop
  let signs := limit - w.countBack (· == '#'.toUInt8) start limit
  if signs = start then start
  else
    let blanks := w.countBack (· == 0x20) start signs
    if 0 < blanks then signs - blanks else limit

/-- The heading that starts here with number signs, and the offset after it. -/
def heading (setting : Setting) (containers : List ContainerKind) (level start : Nat) :
    Block × Nat :=
  let w := setting.window
  match w.lineEnd? (start + level) with
  | some next => (.heading level ⟨start, next⟩ [], next)
  | none =>
    let first := w.skipBlanks (start + level)
    let (line, next, ending) := setting.readLine containers .text #[] {} first
    let tokens := withBackslash line.tokens ending
    let stop := setting.headingTextEnd first next
    let tokens := if stop = first then tokens.pop else endingAt tokens stop
    (.heading level ⟨start, next⟩ tokens.toList, next)

/-! Tables -/

/-- The cells of a row, at most `columns` of them, and the offset after it; none if it has none. -/
def row? (setting : Setting) (containers : List ContainerKind) (columns start : Nat) :
    Option (List Cell × Nat) :=
  go (setting.window.stop + 1) [] start
where
  go : (limit : Nat) → List Cell → (i : Nat) → Option (List Cell × Nat)
    | 0, _, _ => none
    | limit + 1, cells, i =>
      let w := setting.window
      let start := w.skipBlanks (if w.has i '|' then i + 1 else i)
      match w.lineEnd? start with
      | some next => if cells.isEmpty then none else some (cells.reverse.take columns, next)
      | none =>
        let (line, stop, _) := setting.readLine containers .cell #[] {} start
        go limit (⟨stop, line.tokens.toList⟩ :: cells) stop

/-- The rows of a table from a line on, and the offset after them. -/
def rows (setting : Setting) (containers : List ContainerKind) (columns : Nat) :
    (limit : Nat) → (cells : List Cell) → (line : Nat) → List Cell × Nat
  | 0, cells, line => (cells, line)
  | limit + 1, cells, line =>
    let w := setting.window
    let (cursor, count) := ContainerKind.follow w (.atLine line) containers
    let inside := (cursor.skipAll w).pos
    if count < containers.length || setting.interruptsText true inside then (cells, line)
    else match setting.row? containers columns inside with
      | some (more, next) => setting.rows containers columns limit (cells ++ more) next
      | none => (cells, line)

/-- The table whose head and first row start at these offsets, and the offset after it. -/
def table (setting : Setting) (containers : List ContainerKind) (columns start body : Nat) :
    Block × Nat :=
  let head := ((setting.row? containers columns start).map Prod.fst).getD []
  let (cells, next) := setting.rows containers columns (setting.window.stop + 1) head body
  (.table ⟨start, next⟩ cells, next)

/-! Paragraphs -/

/-- The paragraph that starts here, or what it turns out to be, and the offset after it. -/
def paragraph (setting : Setting) (containers : List ContainerKind) (role : ParagraphRole)
    (box : Option Token) (start : Nat) : Block × Nat :=
  go (setting.window.stop + 1) box.toArray {} start
where
  go : (limit : Nat) → Array Token → Braces → (i : Nat) → Block × Nat
    | 0, tokens, _, i => (.paragraph role ⟨start, i⟩ tokens.toList, i)
    | limit + 1, tokens, braces, i =>
      let w := setting.window
      let bars := if setting.options.tables && i = start then .tableHead else .text
      let (line, next, ending) := setting.readLine containers bars tokens braces i
      match ending with
      | .table columns => setting.table containers columns start next
      | _ =>
        let (cursor, count) := ContainerKind.follow w (.atLine next) containers
        let current := count == containers.length
        let (inside, indented) := cursor.skip w 4
        match if current && !indented then w.underline? inside.pos else none with
        | some (level, after) =>
          let closed := withBackslash #[] ending
          let tokens := if closed.isEmpty then trimmed line.tokens else line.tokens
          (.heading level ⟨start, after⟩ (tokens ++ closed).toList, after)
        | none =>
          let rest := inside.skipAll w
          if (!indented && setting.interrupts containers current inside.pos)
              || rest.atLineEnd w then
            (.paragraph role ⟨start, next⟩ (withBackslash line.tokens ending).toList, next)
          else
            let tokens := match ending with
              | .break token => line.tokens.push token
              | _ => line.tokens
            go limit tokens line.braces rest.pos
  /-- The text of a heading has no white space at its end. -/
  trimmed (tokens : Array Token) : Array Token :=
    match tokens.back? with
    | none => tokens
    | some token =>
      endingAt tokens (token.stop - setting.window.countBack isBlankByte start token.stop)

/-! Definitions of links -/

/-- Where the text of a line starts that goes on with a definition. -/
def definitionLine? (setting : Setting) (containers : List ContainerKind) (line : Nat) :
    Option Nat :=
  let w := setting.window
  let (cursor, count) := ContainerKind.follow w (.atLine line) containers
  let current := count == containers.length
  if setting.interrupts containers current cursor.pos
      || (current && (w.underline? cursor.pos).isSome) then none
  else some cursor.pos

/-- Passes white space with at most one line end; also says whether there was one. -/
def definitionSpace? (setting : Setting) (containers : List ContainerKind) (i : Nat) :
    Option (Nat × Bool) := do
  let w := setting.window
  let first := w.skipBlanks i
  match w.lineEnd? first with
  | none => return (first, false)
  | some line =>
    let (cursor, count) := ContainerKind.follow w (.atLine line) containers
    let current := count == containers.length
    let (inside, indented) := cursor.skip w 4
    guard (indented || !(setting.interrupts containers current inside.pos
      || (current && (w.underline? inside.pos).isSome)))
    let second := w.skipBlanks inside.pos
    guard (w.lineEnd? second).isNone
    return (second, true)

/-- A title in quotes or parentheses: the offset after it and its text, with the marks of containers
taken out. -/
def definitionTitle? (setting : Setting) (containers : List ContainerKind) (i : Nat) :
    Option (Nat × String) :=
  let w := setting.window
  if w.has i '"' then go '"' (w.stop + 1) "" (i + 1) (i + 1)
  else if w.has i '\'' then go '\'' (w.stop + 1) "" (i + 1) (i + 1)
  else if w.has i '(' then go ')' (w.stop + 1) "" (i + 1) (i + 1)
  else none
where
  go (closing : Char) : (limit : Nat) → String → (mark i : Nat) → Option (Nat × String)
    | 0, _, _, _ => none
    | limit + 1, title, mark, i =>
      let w := setting.window
      if w.stop ≤ i || (closing = ')' && w.has i '(') then none
      else if w.has i closing then some (i + 1, title ++ w.text mark i)
      else match w.lineEnd? i with
        | some line =>
          let inside := w.afterMarks containers line
          if (w.blankLine? inside).isSome then none
          else go closing limit (title ++ w.text mark i ++ "\n") inside inside
        | none =>
          let escaped := w.has i '\\' && (w.lineEnd? (i + 1)).isNone
          go closing limit title mark (if escaped then i + 2 else i + 1)

/-- The title after a destination that ends at `i`, if it is one: nothing may follow it on its line.
-/
def titleAfter (setting : Setting) (containers : List ContainerKind) (i : Nat) :
    Option (Nat × String) :=
  let w := setting.window
  match setting.definitionSpace? containers i with
  | none => some (i, "")
  | some (first, newLine) =>
    -- A title that fails on a line of its own is no part of the definition.
    let bare := if newLine then some (i, "") else none
    if first = i then none
    else match setting.definitionTitle? containers first with
      | some (after, title) =>
        if (w.blankLine? after).isSome then some (after, unescape false title) else bare
      | none => bare

/-- The definition that starts here: the offset after it, the label, and where it leads. -/
def definition? (setting : Setting) (containers : List ContainerKind) (i : Nat) :
    Option (Nat × String × Target) := do
  let w := setting.window
  guard (w.has i '[')
  let (after, label) ← w.label? false (setting.definitionLine? containers) (i + 1)
  guard (w.has after ':')
  let (first, _) ← setting.definitionSpace? containers (after + 1)
  let (stop, url) ← w.destination? 1 first
  guard (first < stop)
  let (stop, title) ← setting.titleAfter containers stop
  return (stop, label, ⟨unescape false url, title⟩)

end Setting

end MarkdownTree.Markdown
