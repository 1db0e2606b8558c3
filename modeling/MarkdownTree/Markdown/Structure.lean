import MarkdownTree.Markdown.Paragraph
import MarkdownTree.Markdown.Verbatim

/-! The blocks of a source, found line by line. -/

namespace MarkdownTree.Markdown

namespace OpenBlocks

/-- Opens the footnote whose mark starts here; also gives the start of its text. -/
def openFootnote? (setting : Setting) (blocks : OpenBlocks) (start : Nat) :
    Option (OpenBlocks × Nat) := do
  let (after, label) ← setting.footnoteMark? start
  let blocks := blocks.leaveList start
  let blocks := if blocks.innermost? == some .footnote then blocks.leave start else blocks
  return ({ blocks with footnotes := foldCase label :: blocks.footnotes }.enter .footnote start,
    setting.window.skipBlanks after)

/-- Notes that the first line of an item has nothing on it. -/
def noteEmptyItem (blocks : OpenBlocks) (next : Nat) : OpenBlocks :=
  { blocks with emptyItem := some next }

/-- Opens the definition list that a paragraph before a definition starts, or goes on with one. -/
def continueDefinitions? (blocks : OpenBlocks) : Option OpenBlocks :=
  match blocks.siblings with
  | .paragraph .plain span tokens :: before =>
    let blocks := (blocks.setSiblings before).enter (.definitionList true) span.start
    some (blocks.add (.paragraph .title span tokens))
  | .paragraph .maybeTitle span tokens :: before =>
    some (blocks.setSiblings (.paragraph .title span tokens :: before))
  | .container (.definition indent) span children :: before =>
    some (blocks.setSiblings (.container (.definition indent) span children :: before))
  | _ => none

/-- Opens a definition after a title or another definition. -/
def openDefinition (blocks : OpenBlocks) (start indent : Nat) : OpenBlocks :=
  let blocks := match blocks.innermost? with
    | some (.definitionList _) =>
      if blocks.blankBefore then
        { blocks.setInnermost (.definitionList false) with blankBefore := false }
      else blocks
    | _ => blocks
  blocks.enter (.definition indent) start

/-- The containers that a line opens, and where its own text starts; a line with an empty item ends
there. -/
inductive Opened where
  | text (blocks : OpenBlocks) (start : Nat) (cursor : Cursor)
  | nothing (blocks : OpenBlocks) (next : Nat)

/-- Opens an item; the box of a task in front of its text waits for a paragraph. -/
def openItem (setting : Setting) (blocks : OpenBlocks) (start : Nat) (item : Cursor.ItemStart) :
    OpenBlocks × Cursor × Option Nat :=
  let w := setting.window
  let blocks := (blocks.continueList start item.mark item.number).enter (.item item.indent) start
  match w.blankLine? item.inside.pos with
  | some next => (blocks.noteEmptyItem next, item.inside, some next)
  | none =>
    match if setting.options.taskLists then item.inside.taskBox? w else none with
    | none => (blocks, item.inside, none)
    | some inside =>
      let box : Token := ⟨item.inside.pos, inside.pos, .task⟩
      match w.blankLine? inside.pos with
      | some next =>
        ((blocks.add (.paragraph .tight ⟨box.start, box.stop⟩ [box])).noteEmptyItem next,
          inside, some next)
      | none => ({ blocks with box := some box }, inside, none)

/-- Opens containers as long as a line has marks of new ones; the line's text starts at `start`. -/
def openAll (setting : Setting) : (limit : Nat) → OpenBlocks → (start : Nat) → Cursor → Opened
  | 0, blocks, start, cursor => .text blocks start cursor
  | limit + 1, blocks, start, cursor =>
    let w := setting.window
    let (inside, outer) := cursor.skipUpTo w 4
    let place := inside.pos
    if 4 ≤ outer then .text blocks start cursor
    else match blocks.openFootnote? setting place with
    | some (blocks, after) => openAll setting limit blocks after (.atLine after)
    | none =>
      match inside.item? w outer with
      | some item =>
        match blocks.openItem setting (place - outer) item with
        | (blocks, _, some next) => .nothing blocks next
        | (blocks, cursor, none) => openAll setting limit blocks start cursor
      | none =>
        let definition := if setting.options.definitionLists then
            match blocks.continueDefinitions?, inside.definition? w outer with
            | some blocks, some (indent, cursor) => some (blocks, indent, cursor)
            | _, _ => none
          else none
        match definition with
        | some (blocks, indent, cursor) =>
          let blocks := blocks.openDefinition (place - outer) indent
          match w.blankLine? cursor.pos with
          | some next => .nothing (blocks.noteEmptyItem next) next
          | none => openAll setting limit blocks start cursor
        | none =>
          match inside.quoteMark? w with
          | some cursor =>
            openAll setting limit ((blocks.leaveList start).enter .quote place) start cursor
          | none => .text blocks start cursor

/-- Adds a block of lines that are taken as they are. -/
def addVerbatim (blocks : OpenBlocks) (container : Container) (start : Nat)
    (lines : VerbatimLines) : OpenBlocks × Nat :=
  (blocks.add (.verbatim container ⟨start, lines.stop⟩ lines.pieces), lines.next)

/-- The text of a fence after its characters. -/
def fenceInfo (w : Window) (start next : Nat) : String :=
  let first := w.skipBlanks start
  unescape false (w.text first (next - w.countBack isSpaceByte first next))

/-- Adds the paragraph that starts at `i`, or what it turns out to be. -/
def addParagraph (setting : Setting) (blocks : OpenBlocks) (i : Nat) : OpenBlocks × Nat :=
  let titled := match blocks.innermost?, blocks.siblings with
    | some (.definitionList _), [] => true
    | some (.definitionList _), .container (.definition _) _ _ :: _ => true
    | _, _ => false
  -- Blank lines between a definition and the next title do not make their list loose.
  let blocks := if titled then { blocks with blankBefore := false } else blocks.leaveList i
  let role := if titled then .maybeTitle else .plain
  let (block, next) := setting.paragraph blocks.kinds role blocks.box i
  ({ blocks with box := none }.add block, next)

/-- Takes in the definitions of links that follow each other from `i` on in the line at `start`, and
adds the paragraph after them. They count as a part of it: a line goes on with it unless it is blank
or starts another block. -/
def addText (setting : Setting) : (limit : Nat) → OpenBlocks → (start i : Nat) → OpenBlocks × Nat
  | 0, blocks, _, i => blocks.addParagraph setting i
  | limit + 1, blocks, start, i =>
    match setting.definition? blocks.kinds i with
    | none => blocks.addParagraph setting i
    | some (stop, label, target) =>
      let w := setting.window
      let definitions := blocks.definitions.insertIfNew (foldCase label) target
      let blocks := { blocks with definitions }
      let line := w.afterBlankLine stop
      let (cursor, count) := ContainerKind.follow w (.atLine line) blocks.kinds
      let (inside, indented) := cursor.skip w 4
      let text := inside.skipAll w
      let current := count == blocks.kinds.length
      if text.atLineEnd w || (!indented && setting.interrupts blocks.kinds current inside.pos) then
        (blocks.leaveList start, line)
      else
        addText setting limit blocks line text.pos

/-- Adds the block that starts `indent` columns after the containers of its line, at `i`. -/
def addBlock (setting : Setting) (blocks : OpenBlocks) (start i indent spare : Nat) :
    OpenBlocks × Nat :=
  let w := setting.window
  let clear := blocks.leaveList start
  let columns := max spare indent
  let html := if w.has i '<' then w.htmlBlockEnd? i else none
  if indent = 0 && setting.options.metadata && w.startsMetadata i then
    clear.addVerbatim .unmodelled i (w.metadata clear.kinds (w.nextLine i))
  else if let some closing := html then
    clear.addVerbatim .htmlBlock i (w.htmlUntil clear.kinds closing columns i)
  else if w.has i '<' && (w.startsBlockElement i || w.startsLoneTag i) then
    clear.addVerbatim .htmlBlock i (w.htmlToBlank clear.kinds columns i)
  else if let some next := w.rule? i then
    (clear.add (.rule ⟨i, next⟩), next)
  else if let some level := w.headingLevel? i then
    let (block, next) := setting.heading clear.kinds level i
    (clear.add block, next)
  else if let some (fence, length) := w.fence? i then
    let next := w.nextLine i
    clear.addVerbatim (.codeBlock (some (fenceInfo w (i + length) next))) i
      (w.fencedCode clear.kinds indent fence length next)
  else
    blocks.addText setting (w.stop + 1) start i

/-- Reads the block or the blank line that starts with the line at `line`. -/
def readBlock (setting : Setting) (blocks : OpenBlocks) (line : Nat) : OpenBlocks × Nat :=
  let w := setting.window
  let (cursor, count) := ContainerKind.follow w (.atLine line) blocks.kinds
  match openAll setting (w.stop + 1) (blocks.leaveTo count line) line cursor with
  | .nothing blocks next => (blocks, next)
  | .text blocks start cursor =>
    match w.blankLine? cursor.pos with
    | some next => (blocks.noteBlank, next)
    | none =>
      let (inside, indent) := cursor.skipUpTo w 4
      if indent = 4 then
        let blocks := { blocks.leaveList start with blankBefore := false }
        let lines := w.indentedCode blocks.kinds inside.pos inside.spare
        let blocks := { blocks with blankBefore := lines.blankAfter }
        blocks.addVerbatim (.codeBlock none) inside.pos lines
      else
        blocks.addBlock setting start inside.pos indent cursor.spare

/-- Reads all blocks from a line on. -/
def readAll (setting : Setting) : (limit : Nat) → OpenBlocks → (line : Nat) → OpenBlocks
  | 0, blocks, line => blocks.leaveTo 0 line
  | limit + 1, blocks, line =>
    if setting.window.stop ≤ line then blocks.leaveTo 0 line
    else
      let (blocks, next) := blocks.readBlock setting line
      readAll setting limit blocks next

end OpenBlocks

/-- The blocks of a source. -/
def Blocks.ofSetting (setting : Setting) : Blocks :=
  -- Every block takes up at least one byte.
  let read := OpenBlocks.readAll setting (setting.window.stop + 1) {} 0
  { blocks := read.done.reverse, definitions := read.definitions, footnotes := read.footnotes }

end MarkdownTree.Markdown
