/-! Cutting text at byte offsets; a cut is only possible between two characters. -/

namespace MarkdownTree

/-- The characters left after `count` bytes, or nothing when that offset is inside a character or
past the end. -/
def dropBytes : Nat → List Char → Option (List Char)
  | 0, chars => some chars
  | _ + 1, [] => none
  | count + 1, c :: chars =>
    -- A character is dropped whole or not at all.
    if c.utf8Size ≤ count + 1 then dropBytes (count + 1 - c.utf8Size) chars else none
termination_by _ chars => chars.length

/-- The characters that fill exactly the first `count` bytes, or nothing when no run of whole
characters does. -/
def takeBytes : Nat → List Char → Option (List Char)
  | 0, _ => some []
  | _ + 1, [] => none
  | count + 1, c :: chars =>
    if c.utf8Size ≤ count + 1 then (takeBytes (count + 1 - c.utf8Size) chars).map (c :: ·) else none
termination_by _ chars => chars.length

/-- The text between two byte offsets; none when they are inverted, past the end, or split a
character. -/
def slice? (text : String) (start stop : Nat) : Option String :=
  if start ≤ stop then
    ((dropBytes start text.toList).bind (takeBytes (stop - start))).map String.ofList
  else
    none

end MarkdownTree
