import MarkdownTree.Markdown.Window

/-! The parts that links are written with: labels and destinations. -/

namespace MarkdownTree.Markdown

/-- Where reading a label goes on in the next line, if it may. -/
abbrev LabelContinuation := Nat → Option Nat

/-- A label while it is read. -/
structure LabelReader where
  pos : Nat
  /-- The start of the text not copied to `label` yet. -/
  mark : Nat
  label : String := ""
  /-- How much of the greatest size allowed is used up. -/
  weight : Nat := 0
  isBlank : Bool := true

namespace LabelReader

/-- Passes white space, with at most one line end in it; also measures it. -/
def spaces? (w : Window) (onLine : LabelContinuation) :
    (limit : Nat) → (pos width : Nat) → (newLine : Bool) → Option (Nat × Nat)
  | 0, pos, width, _ => some (pos, width)
  | limit + 1, pos, width, newLine =>
    if w.stop ≤ pos || !isSpaceByte (w.get pos) then some (pos, width)
    else match w.lineEnd? pos with
      | some line => do
        guard (!newLine)
        spaces? w onLine limit (← onLine line) (width + 2) true
      | none => spaces? w onLine limit (pos + 1) (width + if w.has pos ' ' then 1 else 2) newLine

/-- Removes ASCII white space from both ends of a text. -/
def trim (text : String) : String :=
  let blank (c : Char) : Bool := c.toNat < 128 && isSpaceByte c.toUInt8
  String.ofList ((text.toList.dropWhile blank).reverse.dropWhile blank).reverse

/-- Reads up to the closing bracket: the offset after it and the label, each white space in it a
single space. -/
def finish? (w : Window) (inTable : Bool) (onLine : LabelContinuation) :
    (limit : Nat) → LabelReader → Option (Nat × String)
  | 0, _ => none
  | limit + 1, reader =>
    let i := reader.pos
    if 1000 ≤ reader.weight || w.stop ≤ i || w.has i '[' then none
    else if w.has i ']' then
      if reader.isBlank then none
      else some (i + 1, trim (reader.label ++ w.text reader.mark i))
    else if inTable && w.hasAll i ['\\', '|'] then
      finish? w inTable onLine limit
        { pos := i + 2, mark := i + 1, label := reader.label ++ w.text reader.mark i
          weight := reader.weight + 2, isBlank := false }
    else if w.has i '\\' then
      finish? w inTable onLine limit
        { reader with pos := i + 2, weight := reader.weight + 2, isBlank := false }
    else if isSpaceByte (w.get i) then
      match spaces? w onLine w.stop i 0 false with
      | none => none
      | some (after, width) =>
        if 1 < width then
          finish? w inTable onLine limit
            { reader with
              pos := after, mark := after, label := reader.label ++ w.text reader.mark i ++ " "
              weight := reader.weight + (after - i) }
        else
          finish? w inTable onLine limit { reader with pos := after, weight := reader.weight + 1 }
    else
      finish? w inTable onLine limit
        { reader with
          pos := i + 1, isBlank := false
          -- Only the bytes of characters beyond ASCII weigh something by themselves.
          weight := if w.get i < 0x80 then reader.weight else reader.weight + 1 }

end LabelReader

namespace Window

/-- The label whose text starts at an offset, after its opening bracket. -/
def label? (w : Window) (inTable : Bool) (onLine : LabelContinuation) (i : Nat) :
    Option (Nat × String) :=
  LabelReader.finish? w inTable onLine (w.stop + 1) { pos := i, mark := i }

/-- A destination in angle brackets, after the opening one: the offset after it and its text. -/
def bracketedDestination? (w : Window) (start : Nat) : (limit i : Nat) → Option (Nat × String)
  | 0, _ => none
  | limit + 1, i =>
    if w.stop ≤ i || w.has i '\n' || w.has i '\r' || w.has i '<' then none
    else if w.has i '>' then some (i + 1, w.text start i)
    else if w.has i '\\' && isPunctByte (w.get (i + 1)) then
      w.bracketedDestination? start limit (i + 2)
    else w.bracketedDestination? start limit (i + 1)

/-- The end of a destination without angle brackets, whose parentheses balance and nest `most` deep.
-/
def bareDestinationEnd? (w : Window) (most : Nat) : (limit depth i : Nat) → Option Nat
  | 0, _, _ => none
  | limit + 1, depth, i =>
    if w.stop ≤ i || w.get i ≤ 0x20 then if depth = 0 then some i else none
    else if w.has i '(' then
      if most < depth then none else w.bareDestinationEnd? most limit (depth + 1) (i + 1)
    else if w.has i ')' then
      if depth = 0 then some i else w.bareDestinationEnd? most limit (depth - 1) (i + 1)
    else if w.has i '\\' && isPunctByte (w.get (i + 1)) then
      w.bareDestinationEnd? most limit depth (i + 2)
    else w.bareDestinationEnd? most limit depth (i + 1)

/-- The destination of a link: the offset after it and its text. -/
def destination? (w : Window) (most i : Nat) : Option (Nat × String) :=
  if w.has i '<' then w.bracketedDestination? (i + 1) (w.stop + 1) (i + 1)
  else (w.bareDestinationEnd? most (w.stop + 1) 0 i).map fun stop => (stop, w.text i stop)

end Window

end MarkdownTree.Markdown
