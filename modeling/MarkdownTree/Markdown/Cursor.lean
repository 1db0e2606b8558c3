import MarkdownTree.Markdown.Window

/-! A reader at the start of a line, where tabs reach to the next column divisible by four. -/

namespace MarkdownTree.Markdown

/-- A place in the indentation of a line. -/
structure Cursor where
  /-- The next byte. -/
  pos : Nat
  /-- Where columns are counted from. -/
  origin : Nat
  /-- Columns of the last tab that are not used up. -/
  spare : Nat := 0

namespace Cursor

/-- The start of a line. -/
def atLine (pos : Nat) : Cursor :=
  { pos, origin := pos }

/-- Uses up to `columns` columns of white space; also says how many were missing. -/
def takeColumns (w : Window) (cursor : Cursor) (columns : Nat) : Cursor × Nat :=
  let used := min cursor.spare columns
  go columns { cursor with spare := cursor.spare - used } (columns - used)
where
  /-- Every step uses at least one of the `missing` columns. -/
  go : (limit : Nat) → Cursor → (missing : Nat) → Cursor × Nat
    | 0, cursor, missing => (cursor, missing)
    | limit + 1, cursor, missing =>
      if missing = 0 then (cursor, 0)
      else if w.has cursor.pos ' ' then
        go limit { cursor with pos := cursor.pos + 1 } (missing - 1)
      else if w.has cursor.pos '\t' then
        let width := 4 - (cursor.pos - cursor.origin) % 4
        let used := min width missing
        go limit { pos := cursor.pos + 1, origin := cursor.pos + 1, spare := width - used }
          (missing - used)
      else
        (cursor, missing)

/-- Uses `columns` columns of white space, as far as they are there, and says whether they are. -/
def skip (w : Window) (cursor : Cursor) (columns : Nat) : Cursor × Bool :=
  let (cursor, missing) := cursor.takeColumns w columns
  (cursor, missing == 0)

/-- Uses at most `columns` columns of white space and says how many there were. -/
def skipUpTo (w : Window) (cursor : Cursor) (columns : Nat) : Cursor × Nat :=
  let (cursor, missing) := cursor.takeColumns w columns
  (cursor, columns - missing)

/-- Passes all spaces and tabs. -/
def skipAll (w : Window) (cursor : Cursor) : Cursor :=
  { cursor with pos := w.skipWhile (fun b => b == 0x20 || b == 0x09) cursor.pos, spare := 0 }

/-- Whether the line ends here. -/
def atLineEnd (w : Window) (cursor : Cursor) : Bool :=
  w.stop ≤ cursor.pos || w.has cursor.pos '\n' || w.has cursor.pos '\r'

/-- Passes one character. -/
def char? (w : Window) (cursor : Cursor) (c : Char) : Option Cursor :=
  if w.has cursor.pos c then some { cursor with pos := cursor.pos + 1 } else none

/-- Passes the mark of a block quote and a column of white space after it. -/
def quoteMark? (w : Window) (cursor : Cursor) : Option Cursor :=
  (cursor.char? w '>').map fun cursor => (cursor.skip w 1).1

end Cursor

end MarkdownTree.Markdown
