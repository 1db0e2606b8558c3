import MarkdownTree.Toml.Value

/-! Which processors are switched on or off, as a configuration file says it. -/

namespace MarkdownTree

/-- For each processor whether it is switched on or off, or nothing. -/
structure Flags where
  alerts : Option Bool := none
  imageLinks : Option Bool := none
  deriving DecidableEq, Repr

namespace Flags

open Toml

mutual

/-- A value that nothing is known about may hold anything except numbers that are too large. -/
def skipValue : Value → Checked Unit
  | .scalar start (.number false) => faultAt start
  | .scalar _ _ => .ok ()
  | .array _ _ items => skipItems items
  | .table _ _ entries => skipEntries entries

/-- Skips values one after another. -/
def skipItems : List Value → Checked Unit
  | [] => .ok ()
  | item :: rest => do
    skipValue item
    skipItems rest

/-- Skips the values of entries one after another. -/
def skipEntries : List (String × Value) → Checked Unit
  | [] => .ok ()
  | (_, value) :: rest => do
    skipValue value
    skipEntries rest

end

/-- A truth value. -/
def truth : Value → Checked Bool
  | .scalar _ (.boolean value) => .ok value
  | value => faultAt value.start

/-- Takes in an entry of the table of flags. -/
def addEntry (flags : Flags) : String × Value → Checked Flags
  | ("alerts", value) => do return { flags with alerts := some (← truth value) }
  | ("image_ref_links", value) => do return { flags with imageLinks := some (← truth value) }
  | (_, value) => do
    skipValue value
    return flags

/-- The flags in a table, or one after another in an array. -/
def ofValue : Value → Checked Flags
  | .table _ _ entries => entries.foldlM addEntry {}
  | .array _ _ [] => .ok {}
  | .array _ _ [alerts] => do return { alerts := some (← truth alerts) }
  | .array _ _ (alerts :: imageLinks :: _) => do
    return { alerts := some (← truth alerts), imageLinks := some (← truth imageLinks) }
  -- A date is read as a table without known entries.
  | .scalar _ .date => .ok {}
  | .scalar start _ => faultAt start

/-- Takes in an entry of the outermost table. -/
def addTable (flags : Flags) : String × Value → Checked Flags
  | ("extensions", value) => ofValue value
  | (_, value) => do
    skipValue value
    return flags

/-- The flags that a text of TOML sets, or the position of its first fault. -/
def parse (text : String) : Except Position Flags :=
  let read : Checked Flags := do
    (← Toml.parse text).foldlM addTable {}
  read.mapError fun fault => fault.position text

end Flags

end MarkdownTree
