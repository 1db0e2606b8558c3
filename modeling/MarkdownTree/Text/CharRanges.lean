/-! Sets of characters given by ranges. -/

namespace MarkdownTree

/-- A set of characters, given by the code points at which membership changes. -/
structure CharRanges where
  /-- Ascending; the set holds the characters from the first bound up to the second, and so on. -/
  bounds : Array Nat

namespace CharRanges

/-- How many of `bounds` are at most `value`, when all below `low` are and none from `high` on is.
-/
def countUpTo (bounds : Array Nat) (value low high : Nat) : Nat :=
  if low < high then
    let middle := (low + high) / 2
    if bounds.getD middle 0 ≤ value then countUpTo bounds value (middle + 1) high
    else countUpTo bounds value low middle
  else
    low
termination_by high - low

/-- Membership; an odd number of changes up to the character leaves it inside. -/
def contains (set : CharRanges) (c : Char) : Bool :=
  countUpTo set.bounds c.toNat 0 set.bounds.size % 2 == 1

end CharRanges

end MarkdownTree
