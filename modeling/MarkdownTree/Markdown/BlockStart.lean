import MarkdownTree.Markdown.Container
import MarkdownTree.Markdown.HtmlTag

/-! The marks with which blocks start, each looked for where the indentation of a line ends. -/

namespace MarkdownTree.Markdown

namespace Window

/-- A thematic break: three or more of one mark with white space between; where its line ends. -/
def rule? (w : Window) (i : Nat) : Option Nat :=
  if w.has i '*' then marks '*' (w.stop + 1) 0 i
  else if w.has i '-' then marks '-' (w.stop + 1) 0 i
  else if w.has i '_' then marks '_' (w.stop + 1) 0 i
  else none
where
  marks (c : Char) : (limit count i : Nat) → Option Nat
    | 0, _, _ => none
    | limit + 1, count, i =>
      match w.lineEnd? i with
      | some stop => if 3 ≤ count then some stop else none
      | none =>
        if w.has i c then marks c limit (count + 1) (i + 1)
        else if w.has i ' ' || w.has i '\t' then marks c limit count (i + 1)
        else none

/-- The level of a heading that starts with number signs. -/
def headingLevel? (w : Window) (i : Nat) : Option Nat :=
  let level := w.runLength i '#'
  if 1 ≤ level && level ≤ 6 && (w.stop ≤ i + level || isSpaceByte (w.get (i + level))) then
    some level
  else
    none

/-- The line under a heading: its level, and where the line ends. -/
def underline? (w : Window) (i : Nat) : Option (Nat × Nat) :=
  if w.has i '=' then (w.blankLine? (i + w.runLength i '=')).map fun stop => (1, stop)
  else if w.has i '-' then (w.blankLine? (i + w.runLength i '-')).map fun stop => (2, stop)
  else none

/-- The fence of a code block: its character and length. -/
def fence? (w : Window) (i : Nat) : Option (Char × Nat) :=
  let ticks := w.runLength i '`'
  let tildes := w.runLength i '~'
  if 3 ≤ tildes then some ('~', tildes)
  else if 3 ≤ ticks then
    -- A backtick later in the line makes it a code span.
    let line := i + ticks
    let stop := w.skipWhile (fun b => b != '`'.toUInt8 && b != '\n'.toUInt8) line
    if w.has stop '`' then none else some ('`', ticks)
  else none

/-- The end of a fence that closes one of this character and length. -/
def closingFence? (w : Window) (c : Char) (length i : Nat) : Option Nat :=
  if w.stop ≤ i then some i
  else if w.runLength i c < length then none
  else
    let stop := w.skipWhile (· == 0x20) (i + w.runLength i c)
    (w.lineEnd? stop).map fun _ => stop

/-- The mark of a list item: its character, its number, and the offset after it. -/
def itemMark? (w : Window) (i : Nat) : Option (Char × Nat × Nat) :=
  if w.has i '-' then some ('-', 0, i + 1)
  else if w.has i '+' then some ('+', 0, i + 1)
  else if w.has i '*' then some ('*', 0, i + 1)
  else
    let digits := w.skipWhile isDigitByte i
    if i < digits && digits ≤ i + 9 then
      if w.has digits '.' then some ('.', w.number 10 i digits, digits + 1)
      else if w.has digits ')' then some (')', w.number 10 i digits, digits + 1)
      else none
    else none

/-- Whether a list item may start here in the middle of a paragraph. -/
def interruptingItem (w : Window) (free : Bool) (i : Nat) : Bool :=
  match w.itemMark? i with
  | none => false
  | some (c, number, after) =>
    (w.has after ' ' || w.has after '\t' || (w.lineEnd? after).isSome)
      && (free || ((c != '.' && c != ')' || number == 1) && !empty after))
where
  /-- An item is empty if nothing follows it on its line and on the next. -/
  empty (after : Nat) : Bool :=
    match w.blankLine? after with
    | some line => (w.blankLine? line).isSome
    | none => false

/-- The end of the line that closes a metadata block. -/
def metadataEnd? (w : Window) (i : Nat) : Option Nat :=
  if w.runLength i '-' == 3 || w.runLength i '.' == 3 then
    let stop := w.skipWhile (· == 0x20) (i + 3)
    (w.lineEnd? stop).map fun _ => stop
  else none

/-- Whether a closing line of a metadata block follows. -/
def metadataCloses (w : Window) : (limit line : Nat) → Bool
  | 0, _ => false
  | limit + 1, line =>
    (w.metadataEnd? line).isSome || (line < w.stop && w.metadataCloses limit (w.nextLine line))

/-- Whether a metadata block starts here: the line after its fence is not blank, and another one
closes it. -/
def startsMetadata (w : Window) (i : Nat) : Bool :=
  let rest := w.skipWhile (fun b => b == 0x20 || b == 0x09 || b == 0x0c || b == 0x0d) (i + 3)
  let line := w.nextLine i
  w.runLength i '-' == 3 && (w.lineEnd? rest).isSome
    && (w.metadataEnd? line).isNone && (w.blankLine? line).isNone
    && w.metadataCloses w.stop (w.nextLine line)

end Window

namespace Cursor

/-- A list mark with white space or a line end after it. -/
structure ItemStart where
  mark : Char
  number : Nat
  /-- The indentation that continues the item. -/
  indent : Nat
  /-- The start of the item's own text. -/
  inside : Cursor

/-- The start of an item's text, `width` columns in, less white space that starts a code block. -/
def itemText (w : Window) (cursor : Cursor) (width : Nat) : Cursor × Nat :=
  if (w.blankLine? cursor.pos).isSome then (cursor, width)
  else
    let (inside, more) := cursor.skipUpTo w 4
    if more < 4 then (inside, width + more) else (cursor, width)

/-- The list item that starts here, `outer` columns in; a thematic break comes first. -/
def item? (w : Window) (cursor : Cursor) (outer : Nat) : Option ItemStart := do
  let (mark, number, after) ← w.itemMark? cursor.pos
  guard (w.rule? cursor.pos).isNone
  let (spaced, found) := { cursor with pos := after }.skip w 1
  guard (found || spaced.atLineEnd w)
  let (inside, indent) := spaced.itemText w (outer + 1 + (after - cursor.pos))
  return { mark, number, indent, inside }

/-- The definition that starts here, `outer` columns in: its indentation and the start of its text.
-/
def definition? (w : Window) (cursor : Cursor) (outer : Nat) : Option (Nat × Cursor) := do
  let (spaced, found) := (← cursor.char? w ':').skip w 1
  guard (found || spaced.atLineEnd w)
  let (inside, indent) := spaced.itemText w (outer + 2)
  return (indent, inside)

/-- The box of a task before a list item's text. -/
def taskBox? (w : Window) (cursor : Cursor) : Option Cursor := do
  let opened ← (cursor.skipUpTo w 3).1.char? w '['
  guard (isBlankByte (w.get opened.pos) || w.has opened.pos 'x' || w.has opened.pos 'X')
  let closed ← { opened with pos := opened.pos + 1 }.char? w ']'
  guard (isBlankByte (w.get closed.pos))
  return closed

end Cursor

end MarkdownTree.Markdown
