import MarkdownTree.Text.Position

/-! Faults of a TOML text: all that is told about one is its place. -/

namespace MarkdownTree.Toml

/-- A fault, by how many characters stand before it. -/
structure Fault where
  place : Nat
  deriving DecidableEq, Repr

/-- The line and the column of a fault; past the end, columns are counted on from the last
character. -/
def Fault.position (fault : Fault) (text : String) : Position :=
  let chars := text.toList
  let place := min fault.place (chars.length - 1)
  let beyond := fault.place - place
  let before := chars.take place
  let current := (before.reverse.takeWhile (· ≠ '\n')).reverse
  -- Before a character of several bytes a column counts bytes instead of characters.
  let wide := beyond = 0 && chars[place]?.any fun c => 1 < c.utf8Size
  let column := if wide then (String.ofList current).utf8ByteSize else current.length
  { line := before.count '\n', column := column + beyond }

/-- The result of reading a TOML text or a part of it. -/
abbrev Checked (α : Type) : Type :=
  Except Fault α

/-- A fault at a place. -/
def faultAt {α : Type} (place : Nat) : Checked α :=
  .error ⟨place⟩

/-- A fault at a place, if a condition does not hold. -/
def demand (condition : Bool) (place : Nat) : Checked Unit :=
  if condition then .ok () else faultAt place

end MarkdownTree.Toml
