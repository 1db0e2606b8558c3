import Std.Data.HashMap
import MarkdownTree.Markdown.EntityNames
import MarkdownTree.Markdown.Window

/-! Character references: `&name;`, `&#decimal;` and `&#xhexadecimal;`. -/

namespace MarkdownTree.Markdown

/-- The number written in a text of hexadecimal digits. -/
def hexNumber (text : String) : Nat :=
  let w := Window.ofText text
  w.number 16 0 w.stop

/-- What the names of the list stand for. -/
def entities : Std.HashMap String String :=
  collect (entityLines.flatMap (·.splitOn " ")) {}
where
  /-- Names and code points are listed in turn. -/
  collect : List String → Std.HashMap String String → Std.HashMap String String
    | name :: codes :: rest, found =>
      let value := (codes.splitOn ",").map fun code => Char.ofNat (hexNumber code)
      collect rest (found.insert name (String.ofList value))
    | _, found => found

/-- The character of a number; zero and numbers of no character give the replacement character. -/
def charOfReference (code : Nat) : Char :=
  if code ≠ 0 ∧ (Char.ofNat code).toNat = code then Char.ofNat code else '\uFFFD'

/-- The numeric reference whose digits start at an offset: where it ends and its value. -/
def Window.numericEntity? (w : Window) (base limit : Nat) (p : UInt8 → Bool) (i : Nat) :
    Option (Nat × String) :=
  let digits := min (w.skipWhile p i) (i + limit)
  if i < digits && w.has digits ';' then
    some (digits + 1, String.singleton (charOfReference (w.number base i digits)))
  else
    none

/-- The character reference that starts with the `&` at an offset: where it ends and its value. -/
def Window.entity? (w : Window) (i : Nat) : Option (Nat × String) :=
  if w.has (i + 1) '#' then
    if w.has (i + 2) 'x' || w.has (i + 2) 'X' then w.numericEntity? 16 6 isHexByte (i + 3)
    else w.numericEntity? 10 7 isDigitByte (i + 2)
  else
    let name := w.skipWhile isAlnumByte (i + 1)
    if w.has name ';' then (entities[w.text (i + 1) name]?).map fun value => (name + 1, value)
    else none

/-- A text with its character references and backslash escapes replaced by what they stand for. -/
def unescape (inTable : Bool) (text : String) : String :=
  let w := Window.ofText text
  go w w.stop 0 0 ""
where
  /-- Reads from `i`; the text from `mark` on is not copied yet. -/
  go (w : Window) : (limit mark i : Nat) → String → String
    | 0, mark, _, out => out ++ w.text mark w.stop
    | limit + 1, mark, i, out =>
      if w.stop ≤ i then out ++ w.text mark w.stop
      -- Within tables the backslash before a bar belongs to the table.
      else if inTable && w.hasAll i ['\\', '\\', '|'] then
        go w limit (i + 2) (i + 3) (out ++ w.text mark i)
      else if w.has i '\\' && isPunctByte (w.get (i + 1)) then
        go w limit (i + 1) (i + 2) (out ++ w.text mark i)
      else if w.has i '&' then
        match w.entity? i with
        | some (after, value) => go w limit after after (out ++ w.text mark i ++ value)
        | none => go w limit mark (i + 1) out
      else if w.has i '\r' then
        go w limit (i + 1) (i + 1) (out ++ w.text mark i)
      else
        go w limit mark (i + 1) out

end MarkdownTree.Markdown
