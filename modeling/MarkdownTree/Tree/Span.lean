/-! Byte ranges of the source. -/

namespace MarkdownTree

/-- A byte range, start included and stop excluded; it may be inverted or run past the source. -/
structure Span where
  start : Nat := 0
  stop : Nat := 0
  deriving DecidableEq, Repr, Inhabited

/-- Whether the range holds no byte because its ends meet. -/
def Span.isEmpty (span : Span) : Bool :=
  span.start == span.stop

/-- Number of bytes in the range; none when it is inverted. -/
def Span.length? (span : Span) : Option Nat :=
  if span.start ≤ span.stop then some (span.stop - span.start) else none

end MarkdownTree
