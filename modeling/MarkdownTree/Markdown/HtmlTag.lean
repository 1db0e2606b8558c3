import MarkdownTree.Markdown.Window
import MarkdownTree.Tree.Span

/-! Raw HTML: tags with attributes, comments, declarations and the like, and the starts of HTML
blocks. -/

namespace MarkdownTree.Markdown

/-- A place in a tag, and the ranges passed that do not belong to it, last first. -/
structure TagReader where
  pos : Nat
  cuts : List Span := []

/-- Where the text of the next line starts, for tags that may go on there. -/
abbrev LineContinuation := Option (Nat → Nat)

namespace TagReader

/-- Passes a line end and the marks at the start of the next line. -/
def newLine? (onLine : LineContinuation) (reader : TagReader) (line : Nat) : Option TagReader := do
  let inside := (← onLine) line
  if line < inside then some ⟨inside, ⟨line, inside⟩ :: reader.cuts⟩
  else some { reader with pos := line }

/-- Passes white space, line ends included. -/
def spaces? (w : Window) (onLine : LineContinuation) : (limit : Nat) → TagReader → Option TagReader
  | 0, reader => some reader
  | limit + 1, reader =>
    if w.stop ≤ reader.pos || !isSpaceByte (w.get reader.pos) then some reader
    else match w.lineEnd? reader.pos with
      | some line => do spaces? w onLine limit (← reader.newLine? onLine line)
      | none => spaces? w onLine limit { reader with pos := reader.pos + 1 }

/-- Passes the rest of a quoted value. -/
def quoted? (w : Window) (onLine : LineContinuation) (quote : Char) :
    (limit : Nat) → TagReader → Option TagReader
  | 0, _ => none
  | limit + 1, reader =>
    if w.stop ≤ reader.pos then none
    else if w.has reader.pos quote then some { reader with pos := reader.pos + 1 }
    else match w.lineEnd? reader.pos with
      | some line => do quoted? w onLine quote limit (← reader.newLine? onLine line)
      | none => quoted? w onLine quote limit { reader with pos := reader.pos + 1 }

/-- The bytes of a value without quotes. -/
def isBareByte (b : UInt8) : Bool :=
  !("'\" =><`\n\r".toList.any fun c => c.toUInt8 == b)

/-- Passes the value of an attribute. -/
def value? (w : Window) (onLine : LineContinuation) (reader : TagReader) : Option TagReader :=
  let inside := { reader with pos := reader.pos + 1 }
  if w.has reader.pos '"' then quoted? w onLine '"' w.stop inside
  else if w.has reader.pos '\'' then quoted? w onLine '\'' w.stop inside
  else
    let stop := w.skipWhile isBareByte reader.pos
    if reader.pos < stop then some { reader with pos := stop } else none

/-- Passes an attribute; white space after its name is passed only before an equals sign. -/
def attribute? (w : Window) (onLine : LineContinuation) (reader : TagReader) :
    Option TagReader := do
  let first := w.get reader.pos
  guard (isAlphaByte first || first == '_'.toUInt8 || first == ':'.toUInt8)
  let name := w.skipWhile (fun b => isAlnumByte b
    || b == '_'.toUInt8 || b == '.'.toUInt8 || b == ':'.toUInt8 || b == '-'.toUInt8) reader.pos
  let named := { reader with pos := name }
  let sign ← named.spaces? w onLine w.stop
  if w.has sign.pos '=' then
    let before ← { sign with pos := sign.pos + 1 }.spaces? w onLine w.stop
    before.value? w onLine
  else
    return named

/-- Passes attributes, each after white space, up to the end of the tag. -/
def attributes? (w : Window) (onLine : LineContinuation) :
    (limit : Nat) → TagReader → Option TagReader
  | 0, _ => none
  | limit + 1, reader => do
    let spaced ← reader.spaces? w onLine w.stop
    if w.has spaced.pos '/' || w.has spaced.pos '>' then return spaced
    guard (reader.pos < spaced.pos)
    attributes? w onLine limit (← spaced.attribute? w onLine)

end TagReader

namespace Window

/-- An opening or closing tag from its `<` on. -/
def tag? (w : Window) (onLine : LineContinuation) (i : Nat) : Option TagReader := do
  let closing := w.has (i + 1) '/'
  let start := if closing then i + 2 else i + 1
  guard (isAlphaByte (w.get start))
  let name := w.skipWhile (fun b => isAlnumByte b || b == '-'.toUInt8) start
  let reader ← if closing then some { pos := name }
    else TagReader.attributes? w onLine w.stop { pos := name }
  let stop := w.skipBlanks reader.pos
  let stop := if !closing && w.has stop '/' then stop + 1 else stop
  guard (w.has stop '>')
  return { reader with pos := stop + 1 }

/-- The offset after the next occurrence of a run of characters from `i` on. -/
def after? (w : Window) (run : List Char) : (limit i : Nat) → Option Nat
  | 0, _ => none
  | limit + 1, i =>
    if w.stop ≤ i then none
    else if w.hasAll i run then some (i + run.length)
    else w.after? run limit (i + 1)

/-- A comment, a section of character data or a declaration, after its `<!`. -/
def markedSection? (w : Window) (i : Nat) : Option Nat :=
  if w.has i '-' then
    if !w.has (i + 1) '-' then none
    else if w.has (i + 2) '>' then some (i + 3)
    else if w.hasAll (i + 2) ['-', '>'] then some (i + 4)
    else w.after? ['-', '-', '>'] w.stop (i + 2)
  else if w.hasAll i "[CDATA[".toList then
    -- Only the first run of brackets can close the section.
    let bracket := w.skipWhile (· != ']'.toUInt8) (i + 7)
    let stop := w.skipWhile (· == ']'.toUInt8) bracket
    if bracket < stop && w.has stop '>' then some (stop + 1) else none
  else if isAlphaByte (w.get i) then
    let stop := w.skipWhile (· != '>'.toUInt8) i
    if w.has stop '>' then some (stop + 1) else none
  else
    none

/-- Raw HTML within a paragraph, from its `<` on. -/
def inlineHtml? (w : Window) (onLine : Nat → Nat) (i : Nat) : Option TagReader :=
  if w.has (i + 1) '!' then (w.markedSection? (i + 2)).map fun pos => { pos }
  else if w.has (i + 1) '?' then (w.after? ['?', '>'] w.stop (i + 2)).map fun pos => { pos }
  else w.tag? (some onLine) i

/-- The text between two offsets without the ranges cut out of it, last first. -/
def textWithout (w : Window) (start stop : Nat) : List Span → String
  | [] => w.text start stop
  | cut :: before => w.textWithout start cut.start before ++ w.text cut.stop stop

/-! Starts of HTML blocks -/

/-- Whether a word, given in small letters, starts here in any case. -/
def hasWord (w : Window) (i : Nat) : List Char → Bool
  | [] => true
  | c :: rest =>
    i < w.stop && lowerByte (w.get i) == c.toUInt8 && w.hasWord (i + 1) rest

/-- The text that ends an HTML block which starts with this `<`, if it goes on to such a text. -/
def htmlBlockEnd? (w : Window) (i : Nat) : Option String :=
  let verbatim := ["pre", "style", "script", "textarea"].find? fun name =>
    let after := i + 1 + name.length
    w.hasWord (i + 1) name.toList
      && (w.stop ≤ after || isSpaceByte (w.get after) || w.has after '>')
  match verbatim with
  | some name => some ("</" ++ name ++ ">")
  | none =>
    if w.hasAll (i + 1) ['!', '-', '-'] then some "-->"
    else if w.has (i + 1) '?' then some "?>"
    else if w.hasAll (i + 1) "![CDATA[".toList then some "]]>"
    else if w.has (i + 1) '!' && isAlphaByte (w.get (i + 2)) then some ">"
    else none

/-- The elements whose tags start an HTML block that a blank line ends. -/
def blockElements : List String :=
  ["address", "article", "aside", "base", "basefont", "blockquote", "body", "caption", "center",
    "col", "colgroup", "dd", "details", "dialog", "dir", "div", "dl", "dt", "fieldset",
    "figcaption", "figure", "footer", "form", "frame", "frameset", "h1", "h2", "h3", "h4", "h5",
    "h6", "head", "header", "hr", "html", "iframe", "legend", "li", "link", "main", "menu",
    "menuitem", "nav", "noframes", "ol", "optgroup", "option", "p", "param", "search", "section",
    "summary", "table", "tbody", "td", "tfoot", "th", "thead", "title", "tr", "track", "ul"]

/-- Whether the tag of a block element starts with this `<`. -/
def startsBlockElement (w : Window) (i : Nat) : Bool :=
  let start := if w.has (i + 1) '/' then i + 2 else i + 1
  let stop := w.skipWhile isAlnumByte start
  blockElements.any (fun name => name.length == stop - start && w.hasWord start name.toList)
    && (w.stop ≤ stop || w.has stop ' ' || w.has stop '\t' || w.has stop '\r' || w.has stop '\n'
      || w.has stop '>' || w.hasAll stop ['/', '>'])

/-- Whether a complete tag starts with this `<` and stands alone on its line. -/
def startsLoneTag (w : Window) (i : Nat) : Bool :=
  (w.tag? none i).any fun reader => (w.blankLine? reader.pos).isSome

end Window

end MarkdownTree.Markdown
