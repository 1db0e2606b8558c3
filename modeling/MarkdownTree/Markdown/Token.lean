import MarkdownTree.Markdown.BlockStart
import MarkdownTree.Markdown.Entity
import MarkdownTree.Markdown.Options

/-! Tokens: the lines of a paragraph cut at every mark that may have a meaning. -/

namespace MarkdownTree.Markdown

/-- What a token may be; only the tokens after it tell what it is. -/
inductive Mark where
  /-- The source text itself. -/
  | text
  /-- Other text in place of the source. -/
  | replaced (text : String)
  | softBreak
  /-- A line break, written with a backslash or with spaces. -/
  | hardBreak (backslash : Bool)
  /-- A run of one character that may open or close an emphasis. -/
  | delimiter (c : Char) (canOpen canClose : Bool)
  /-- A run of backticks, maybe after a backslash. -/
  | ticks (count : Nat) (escaped : Bool)
  /-- A dollar sign, within braces of this number. -/
  | dollar (canOpen canClose : Bool) (braces : Nat)
  | angle
  | linkOpen
  | imageOpen
  /-- A closing bracket; one that ended a label before cannot be a reference of its own. -/
  | linkClose (mayRefer : Bool)
  /-- The box of a task. -/
  | task
  deriving DecidableEq, Repr, Inhabited

/-- A mark and its range in the source. -/
structure Token where
  start : Nat
  stop : Nat
  mark : Mark
  deriving DecidableEq, Repr, Inhabited

/-- Braces opened and not closed, each with a number of its own. -/
structure Braces where
  opened : List Nat := []
  next : Nat := 0

namespace Braces

/-- How deep braces are told apart. -/
def deepest : Nat := 25

/-- The number that stands for no braces. -/
def outside : Nat := 255

/-- The number of the innermost braces. -/
def current (braces : Braces) : Nat :=
  braces.opened.headD outside

/-- One more brace; beyond the depth limit they are only counted. -/
def enter (braces : Braces) : Braces :=
  if braces.opened.length = deepest then
    { opened := braces.next :: braces.opened, next := deepest }
  else if deepest < braces.opened.length then
    { braces with next := braces.next + 1 }
  else
    { opened := braces.next :: braces.opened, next := braces.next + 1 }

/-- The end of the innermost braces. -/
def leave (braces : Braces) : Braces :=
  if deepest < braces.opened.length && deepest < braces.next then
    { braces with next := braces.next - 1 }
  else
    { braces with opened := braces.opened.tail }

end Braces

/-- What a vertical bar means in a line. -/
inductive Bars where
  | text
  /-- The line is the head of a table if the next line is its delimiter row. -/
  | tableHead
  /-- The line is a row of a table. -/
  | cell
  deriving DecidableEq, Repr

/-- How a line ends. -/
inductive LineEnd where
  /-- Nothing comes after it: the end of the text, or of a cell. -/
  | cut
  | break (token : Token)
  /-- It turned out to be the head of a table of this many columns. -/
  | table (columns : Nat)
  deriving Repr

/-- What stays the same while the blocks of a source are read. -/
structure Setting where
  window : Window
  options : Options

/-- A line while it is read. -/
structure LineReader where
  tokens : Array Token
  braces : Braces
  /-- The start of the text after the last token. -/
  mark : Nat
  bars : Nat := 0
  lastBar : Nat := 0

namespace LineReader

/-- Adds the text before an offset, if there is any. -/
def close (reader : LineReader) (stop : Nat) : LineReader :=
  if reader.mark < stop then
    { reader with tokens := reader.tokens.push ⟨reader.mark, stop, .text⟩, mark := stop }
  else
    reader

/-- Adds the text before a token, and the token. -/
def add (reader : LineReader) (start stop : Nat) (mark : Mark) : LineReader :=
  let reader := reader.close start
  { reader with tokens := reader.tokens.push ⟨start, stop, mark⟩, mark := stop }

end LineReader

namespace Window

/-- The end of a table's delimiter row and its number of columns. -/
def delimiterRow? (w : Window) (i : Nat) : Option (Nat × Nat) :=
  let start := w.skipWhile (fun b => b == 0x20 || b == 0x09) i
  if 3 < start - i || w.stop ≤ start then none
  else
    let bar := w.has start '|'
    cells bar w.stop 0 bar false true false (if bar then start + 1 else start)
where
  /-- `hyphen` is about the whole row and `filled` about the current cell. -/
  cells (leading : Bool) : (limit columns : Nat) → (bar hyphen fresh filled : Bool) → (i : Nat) →
      Option (Nat × Nat)
    | 0, _, _, _, _, _, _ => none
    | limit + 1, columns, bar, hyphen, fresh, filled, i =>
      match w.lineEnd? i with
      | some stop =>
        if bar && hyphen then some (stop, if fresh then columns else columns + 1) else none
      | none =>
        if w.has i ' ' then cells leading limit columns bar hyphen fresh filled (i + 1)
        else if w.has i ':' then cells leading limit columns bar hyphen false filled (i + 1)
        else if w.has i '-' then cells leading limit columns bar true false true (i + 1)
        else if w.has i '|' && filled then
          cells leading limit (columns + 1) true hyphen true false (i + 1)
        else none

/-- The number of columns of a table's head with this many bars, the last one at `lastBar`. -/
def headColumns (w : Window) (start bars lastBar : Nat) : Nat :=
  let inner := if w.has (w.skipBlanks start) '|' then bars - 1 else bars
  if (w.blankLine? (lastBar + 1)).isSome then inner else inner + 1

/-- Whether a bar before an offset parts two cells. -/
def barBefore (w : Window) (i : Nat) : Bool :=
  0 < i && w.has (i - 1) '|' && !(1 < i && w.has (i - 2) '\\')

end Window

namespace Setting

/-- Whether a run of a delimiter may open an emphasis, in a line that starts at `line`. -/
def canOpen (setting : Setting) (bars : Bars) (line start stop : Nat) (c : Char) : Bool :=
  let w := setting.window
  match w.charAt? stop, w.charBefore? start with
  | none, _ => false
  | some next, before =>
    if isBlank next then false
    else match if start ≤ line then none else before with
      | none => true
      | some before =>
        if bars = .cell && w.barBefore start then true
        else if bars = .cell && next = '|' then false
        else if c = '*' && !isPunctuation next then true
        else if c = '~' && 1 < stop - start then true
        else if c = '~' && before = '~' && !isPunctuation next then true
        else isBlank before || isPunctuation before

/-- Whether a run of a delimiter may close an emphasis, in a line that starts at `line`. -/
def canClose (setting : Setting) (bars : Bars) (line start stop : Nat) (c : Char) : Bool :=
  let w := setting.window
  match if start ≤ line then none else w.charBefore? start, w.charAt? stop with
  | none, _ => false
  | some before, next =>
    if isBlank before then false
    else match next with
      | none => true
      | some next =>
        if bars = .cell && w.barBefore start then false
        else if bars = .cell && next = '|' then true
        else if (c = '*' || (c = '~' && 1 < stop - start)) && !isPunctuation before then true
        else if c = '~' && before = '~' then true
        else isBlank next || isPunctuation next

/-- Whether a character is read as a delimiter. -/
def isDelimiter (setting : Setting) (c : Char) : Bool :=
  c = '*' || c = '_'
    || (c = '~' && (setting.options.strikethrough || setting.options.subscript))
    || (c = '^' && setting.options.superscript)

/-- The columns of the table whose head is the line that ends before `next`, and the end of its
delimiter row. -/
def table? (setting : Setting) (containers : List ContainerKind) (line next bars lastBar : Nat) :
    Option (Nat × Nat) := do
  let w := setting.window
  let (cursor, count) := ContainerKind.follow w (.atLine next) containers
  guard (count = containers.length)
  let (stop, columns) ← w.delimiterRow? cursor.pos
  guard (columns = w.headColumns line bars lastBar)
  return (stop, columns)

/-- Reads a run of a delimiter. -/
def readDelimiter (setting : Setting) (bars : Bars) (line : Nat) (reader : LineReader) (c : Char)
    (i : Nat) : LineReader × Nat :=
  let stop := i + setting.window.runLength i c
  let canOpen := setting.canOpen bars line i stop c
  let canClose := setting.canClose bars line i stop c
  let fits := (c ≠ '~' || stop - i ≤ 2) && (c ≠ '^' || stop - i = 1)
  if (canOpen || canClose) && fits then (reader.add i stop (.delimiter c canOpen canClose), stop)
  else (reader, stop)

/-- Reads a backslash: before punctuation it makes the next character text. -/
def readBackslash (setting : Setting) (reader : LineReader) (i : Nat) : LineReader × Nat :=
  let w := setting.window
  if !isPunctByte (w.get (i + 1)) then (reader, i + 1)
  else if w.has (i + 1) '`' then
    let stop := i + 1 + w.runLength (i + 1) '`'
    ({ reader.close i with mark := i + 1 }.add (i + 1) stop (.ticks (stop - (i + 1)) true), stop)
  else
    ({ reader.close i with mark := i + 1 }, i + 2)

/-- Reads the end of a line. -/
def readLineEnd (setting : Setting) (containers : List ContainerKind) (bars : Bars) (line : Nat)
    (reader : LineReader) (i next : Nat) : LineReader × Nat × LineEnd :=
  let w := setting.window
  let slashes := w.countBack (· == '\\'.toUInt8) 0 i
  let blanks := w.countBack isBlankByte 0 i
  if slashes % 2 = 1 && next < w.stop then
    (reader.close (i - 1), next, .break ⟨i - 1, next, .hardBreak true⟩)
  else
    let table := if bars = .tableHead && 0 < reader.bars then
        setting.table? containers line next reader.bars reader.lastBar
      else none
    match table with
    | some (stop, columns) => (reader, stop, .table columns)
    | none =>
      if 2 ≤ blanks then
        (reader.close (i - blanks), next, .break ⟨i - blanks, next, .hardBreak false⟩)
      else
        (reader.close (i - blanks), next, .break ⟨i, next, .softBreak⟩)

/-- Reads a mark of one character. -/
def readMark (setting : Setting) (bars : Bars) (line : Nat) (reader : LineReader) (c : Char)
    (i : Nat) : LineReader × Nat :=
  let w := setting.window
  if c = '\\' then setting.readBackslash reader i
  else if setting.isDelimiter c then setting.readDelimiter bars line reader c i
  else if c = '`' then
    let stop := i + w.runLength i '`'
    (reader.add i stop (.ticks (stop - i) false), stop)
  else if c = '<' && !w.has (i + 1) '\\' then (reader.add i (i + 1) .angle, i + 1)
  else if c = '!' && w.has (i + 1) '[' then (reader.add i (i + 2) .imageOpen, i + 2)
  else if c = '[' then (reader.add i (i + 1) .linkOpen, i + 1)
  else if c = ']' then (reader.add i (i + 1) (.linkClose true), i + 1)
  else if c = '&' then
    match w.entity? i with
    | some (stop, value) => (reader.add i stop (.replaced value), stop)
    | none => (reader, i + 1)
  else if c = '|' then ({ reader with bars := reader.bars + 1, lastBar := i }, i + 1)
  else if c = '$' && setting.options.math then
    let canOpen := (w.charAt? (i + 1)).any fun next => !isBlank next
    let canClose := line < i && (w.charBefore? i).any fun before => !isBlank before
    (reader.add i (i + 1) (.dollar canOpen canClose reader.braces.current), i + 1)
  else if c = '{' && setting.options.math then
    ({ reader with braces := reader.braces.enter }, i + 1)
  else if c = '}' && setting.options.math then
    ({ reader with braces := reader.braces.leave }, i + 1)
  else (reader, i + 1)

/-- Reads a line or a cell up to its end. -/
def readOn (setting : Setting) (containers : List ContainerKind) (bars : Bars) (line : Nat) :
    (limit : Nat) → LineReader → (i : Nat) → LineReader × Nat × LineEnd
  | 0, reader, i => (reader, i, .cut)
  | limit + 1, reader, i =>
    let w := setting.window
    if w.stop ≤ i || (bars = .cell && (w.has i '|' || w.has i '\n' || w.has i '\r')) then
      let blanks := w.countBack isBlankByte reader.mark i
      (reader.close (i - blanks), i, .cut)
    else match w.lineEnd? i with
      | some next => setting.readLineEnd containers bars line reader i next
      | none =>
        let b := w.get i
        if isPunctByte b then
          let (reader, next) := setting.readMark bars line reader (Char.ofNat b.toNat) i
          setting.readOn containers bars line limit reader next
        else
          setting.readOn containers bars line limit reader (i + 1)

/-- Reads the line or cell that starts at an offset, after tokens read before. -/
def readLine (setting : Setting) (containers : List ContainerKind) (bars : Bars)
    (tokens : Array Token) (braces : Braces) (start : Nat) : LineReader × Nat × LineEnd :=
  setting.readOn containers bars start (setting.window.stop + 1)
    { tokens, braces, mark := start, lastBar := start } start

end Setting

end MarkdownTree.Markdown
