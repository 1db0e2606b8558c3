import MarkdownTree.Text.CharRanges

/-! Unicode white space. -/

namespace MarkdownTree

/-- The characters with the property White_Space. -/
def whiteSpace : CharRanges where
  bounds := #[
  0x9, 0xe, 0x20, 0x21, 0x85, 0x86, 0xa0, 0xa1,
  0x1680, 0x1681, 0x2000, 0x200b, 0x2028, 0x202a, 0x202f, 0x2030,
  0x205f, 0x2060, 0x3000, 0x3001]

/-- Whether a character separates words. -/
def isBlank (c : Char) : Bool :=
  whiteSpace.contains c

/-- The first word of a text, if it has one. -/
def firstWord? (text : String) : Option String :=
  let word := (text.toList.dropWhile isBlank).takeWhile fun c => !isBlank c
  if word.isEmpty then none else some (String.ofList word)

end MarkdownTree
