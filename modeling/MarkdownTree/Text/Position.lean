/-! Lines and columns of byte offsets in a text. -/

namespace MarkdownTree

/-- A place in a text, both numbers counted from zero. -/
structure Position where
  /-- Line feeds before the place. -/
  line : Nat
  /-- Characters between the start of the line and the place. -/
  column : Nat
  deriving DecidableEq, Repr

/-- What is known about the start of the line that is being read. -/
structure Position.Reading where
  /-- Line feeds read so far. -/
  line : Nat := 0
  /-- Characters read since the last of them. -/
  column : Nat := 0
  /-- Bytes read since the last of them. -/
  bytes : Nat := 0

/-- One more character; only a line feed ends a line. -/
def Position.Reading.advance (reading : Reading) (c : Char) : Reading :=
  if c = '\n' then ⟨reading.line + 1, 0, 0⟩
  else ⟨reading.line, reading.column + 1, reading.bytes + c.utf8Size⟩

/-- The position `offset` bytes into `chars`, after `reading`. -/
def Position.ofChars (reading : Reading) (offset : Nat) : List Char → Position
  | [] => ⟨reading.line, reading.column⟩
  | c :: chars =>
    if offset = 0 then
      ⟨reading.line, reading.column⟩
    else if offset < c.utf8Size then
      -- Inside a character there is no count of characters, so the column counts bytes.
      ⟨reading.line, reading.bytes + offset⟩
    else
      ofChars (reading.advance c) (offset - c.utf8Size) chars

/-- The position of a byte offset; an offset past the end stands for the end. -/
def Position.ofOffset (text : String) (offset : Nat) : Position :=
  Position.ofChars {} offset text.toList

end MarkdownTree
