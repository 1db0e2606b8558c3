import MarkdownTree.Markdown.Inline
import MarkdownTree.Markdown.Options
import MarkdownTree.Markdown.Window

/-! Emphasis: runs of delimiters are paired, the innermost first. -/

namespace MarkdownTree.Markdown

/-- A run of delimiters that may still be closed, and the content after it. -/
structure Opener where
  start : Nat
  stop : Nat
  c : Char
  /-- How many delimiters are left. -/
  count : Nat
  /-- How many there were at first. -/
  length : Nat
  /-- Whether the run could also close an emphasis. -/
  both : Bool
  /-- The content after the run, last first. -/
  inside : List Inline := []

/-- The content of a paragraph while delimiters are paired. -/
structure Pairing where
  /-- The content before the first opener, last first. -/
  before : List Inline := []
  /-- The runs that may still be closed, last first. -/
  openers : List Opener := []
  /-- For each sort of closing run, how many of the first openers are known not to fit it. -/
  skipped : Array Nat := Array.replicate 10 0

namespace Pairing

/-- Adds content at the end. -/
def add (pairing : Pairing) (inline : Inline) : Pairing :=
  match pairing.openers with
  | opener :: outer =>
    { pairing with openers := { opener with inside := inline :: opener.inside } :: outer }
  | [] => { pairing with before := inline :: pairing.before }

/-- The source text under a part of a run. -/
def delimiterText (w : Window) (start stop : Nat) : Inline :=
  .text ⟨start, stop⟩ (w.text start stop)

/-- The content of an opener that is not closed, and the opener as text before it, last first. -/
def asText (w : Window) (opener : Opener) : List Inline :=
  opener.inside ++ [delimiterText w opener.start opener.stop]

/-- The sort of a closing run that fits only what runs of its length modulo three fit. -/
def lengthSort (c : Char) (length : Nat) : Nat :=
  if c = '_' then 6 + length % 3
  else if c = '*' then 2 + length % 3
  else if c = '^' then 9
  else 5

/-- The sort of a closing run that cannot open, if there is one of its own. -/
def closingSort? (c : Char) (both : Bool) : Option Nat :=
  if both then none else if c = '_' then some 0 else if c = '*' then some 1 else none

/-- How many of the first openers a closing run need not be compared with. -/
def skips (pairing : Pairing) (c : Char) (length : Nat) (both : Bool) : Nat :=
  let byLength := pairing.skipped.getD (lengthSort c length) 0
  let skipped := match closingSort? c both with
    | some sort => min byLength (pairing.skipped.getD sort 0)
    | none => byLength
  min pairing.openers.length skipped

/-- Notes that a closing run fits no opener. -/
def noteUnfit (pairing : Pairing) (c : Char) (length : Nat) (both : Bool) : Pairing :=
  let count := pairing.openers.length
  let skipped := match closingSort? c both with
    | some sort =>
      let own := pairing.skipped.setIfInBounds sort count
      if c = '_' then own else own.setIfInBounds (lengthSort c length) count
    | none => pairing.skipped.setIfInBounds (lengthSort c length) count
  { pairing with skipped }

/-- Whether a closing run fits an opener. -/
def fits (c : Char) (length : Nat) (both : Bool) (opener : Opener) : Bool :=
  opener.c = c
    && (!(c = '~' || c = '^') || length = opener.length)
    && ((!both && !opener.both) || (length + opener.length) % 3 != 0 || length % 3 == 0)

/-- Takes out the last opener that a closing run fits; openers after it become text in its content.
-/
def takeOpener? (w : Window) (pairing : Pairing) (c : Char) (length : Nat) (both : Bool) :
    Option (Opener × Pairing) :=
  let candidates := pairing.openers.take (pairing.openers.length - pairing.skips c length both)
  match candidates.findIdx? (fits c length both) with
  | none => none
  | some place =>
    match pairing.openers.drop place with
    | [] => none
    | opener :: outer =>
      let later := (pairing.openers.take place).flatMap (asText w)
      some ({ opener with inside := later ++ opener.inside },
        { pairing with
          openers := outer
          skipped := pairing.skipped.map fun count => min count outer.length })

/-- What a pair of one or two delimiters stands for. -/
def style (options : Options) (c : Char) (two : Bool) : Container :=
  if c = '~' then
    if two || !options.subscript then
      if options.strikethrough then .strikethrough else .unmodelled
    else .unmodelled
  else if c = '^' then .unmodelled
  else if two then .strong
  else .emphasis

/-- Content wrapped in `count` pairs of delimiters, two at a time from the inside out. -/
def wrap (options : Options) (c : Char) : (count start stop : Nat) → List Inline → List Inline
  | 0, _, _, content => content
  | 1, start, stop, content => [.inside (style options c false) ⟨start - 1, stop + 1⟩ content]
  | count + 2, start, stop, content =>
    wrap options c count (start - 2) (stop + 2)
      [.inside (style options c true) ⟨start - 2, stop + 2⟩ content]

/-- Closes as many delimiters of a run as fit openers; gives how many are left from `start` on. -/
def closeAll (w : Window) (options : Options) (c : Char) (length : Nat) (both : Bool) :
    (limit : Nat) → Pairing → (start count : Nat) → Pairing × Nat × Nat
  | 0, pairing, start, count => (pairing, start, count)
  | limit + 1, pairing, start, count =>
    if count = 0 then (pairing, start, 0)
    else match takeOpener? w pairing c length both with
      | none => (pairing.noteUnfit c length both, start, count)
      | some (opener, outer) =>
        let used := min count opener.count
        let left := opener.count - used
        let inner := opener.start + opener.count
        let wrapped := wrap options c used inner start opener.inside.reverse
        let outer := if left = 0 then outer
          else { outer with openers :=
            { opener with count := left, stop := opener.start + left, inside := [] }
              :: outer.openers }
        closeAll w options c length both limit (wrapped.foldl add outer) (start + used)
          (count - used)

/-- Takes in the next piece of content. -/
def push (w : Window) (options : Options) (pairing : Pairing) : Inline → Pairing
  | .delimiter span c canOpen canClose =>
    let length := w.runLength span.start c
    let both := canOpen && canClose
    let (pairing, start, count) := if canClose then
        closeAll w options c length both length pairing span.start length
      else (pairing, span.start, length)
    if count = 0 then pairing
    else if canOpen then
      { pairing with openers :=
        { start, stop := span.stop, c, count, length, both } :: pairing.openers }
    else pairing.add (delimiterText w start span.stop)
  | inline => pairing.add inline

/-- A line break at the end of the content breaks nothing. -/
def endBreak : Inline → Inline
  | .hardBreak span true => .text span "\\"
  | .hardBreak span false => .softBreak span
  | inline => inline

end Pairing

/-- Content with its delimiters paired; those that are left over are text. -/
def emphasize (w : Window) (options : Options) (content : List Inline) : List Inline :=
  if content.any Inline.isDelimiter then
    let pairing := content.foldl (Pairing.push w options) {}
    let paired := pairing.openers.flatMap (Pairing.asText w) ++ pairing.before
    match paired with
    | last :: rest => (Pairing.endBreak last :: rest).reverse
    | [] => []
  else
    content

end MarkdownTree.Markdown
