import MarkdownTree.Toml.Scalar
import MarkdownTree.Toml.Statement

/-! Values of a TOML text, and the tables that its keys lead to. -/

namespace MarkdownTree.Toml

/-- How a table came to be, which decides how it may be added to. -/
inductive TableForm where
  /-- It has a header of its own, or is the outermost table. -/
  | defined
  /-- Only a header of a table within it names it. -/
  | implied
  /-- Keys with dots made it. -/
  | dotted
  /-- It is written in braces. -/
  | braced
  deriving DecidableEq, Repr

/-- A value and the place where it starts. -/
inductive Value where
  | scalar (start : Nat) (scalar : Scalar)
  /-- An array; headers in two pairs of brackets make one of tables that they can add to. -/
  | array (start : Nat) (ofTables : Bool) (items : List Value)
  | table (start : Nat) (form : TableForm) (entries : List (String × Value))
  deriving Repr

/-- What stands in a table, in the order of the code points of its keys. -/
abbrev Entries : Type :=
  List (String × Value)

/-- A key and the place where it starts. -/
structure Key where
  text : String
  start : Nat
  deriving Repr

/-- The keys that tokens write. -/
def Key.ofTokens (tokens : List Token) : Checked (List Key) :=
  tokens.mapM fun token => do return ⟨← token.keyText, token.start⟩

namespace Value

/-- Where a value starts. -/
def start : Value → Nat
  | scalar start _ | array start _ _ | table start _ _ => start

end Value

namespace Entries

/-- Adds an entry at its place, or changes it if it is there. -/
def set (key : String) (value : Value) : Entries → Entries
  | [] => [(key, value)]
  | (other, old) :: rest =>
    if other = key then (key, value) :: rest
    else if key < other then (key, value) :: (other, old) :: rest
    else (other, old) :: set key value rest

/-- Changes the table that keys lead to from a table of some form on, and makes the tables that are
missing. -/
def change (dotted : Bool) (act : TableForm → Entries → Checked Entries) :
    TableForm → List Key → Entries → Checked Entries
  | form, [], entries => act form entries
  | _, key :: path, entries =>
    match entries.lookup key.text with
    | none => do
      let form := if dotted then .dotted else .implied
      return entries.set key.text (.table key.start form (← change dotted act form path []))
    | some (.table start form inner) => do
      demand (form ≠ .braced && (!dotted || form ≠ .defined)) key.start
      return entries.set key.text (.table start form (← change dotted act form path inner))
    | some (.array start true items) =>
      match items.reverse with
      | .table first form inner :: before => do
        let last := .table first form (← change dotted act form path inner)
        return entries.set key.text (.array start true (before.reverse ++ [last]))
      | _ => faultAt key.start
    | some _ => faultAt key.start

/-- The table that keys lead to, if all tables on the way are there. -/
def find? : List Key → Entries → Option Entries
  | [], entries => some entries
  | key :: path, entries =>
    match entries.lookup key.text with
    | some (.table _ form inner) => if form = .braced then none else find? path inner
    | some (.array _ true items) =>
      match items.getLast? with
      | some (.table _ _ inner) => find? path inner
      | _ => none
    | _ => none

/-- Adds the value of an assignment to a table of some form; nothing may be there yet. -/
def assign (form : TableForm) (entries : Entries) (keys : List Key) (value : Value) :
    Checked Entries :=
  match keys.reverse with
  | [] => .ok entries
  | key :: before =>
    let path := before.reverse
    change true (fun form inner => do
      -- Keys with dots add only to tables that such keys made.
      demand ((path.isEmpty || form = .dotted) && (inner.lookup key.text).isNone) key.start
      return inner.set key.text value) form path entries

end Entries

namespace Value

mutual

/-- The value that is written. -/
def ofWritten : Written → Checked Value
  | .scalar token => do return .scalar token.start (← Scalar.ofToken token)
  | .array start items => do return .array start false (← ofItems items)
  | .table start pairs => do return .table start .braced (← ofPairs [] pairs)

/-- The values that are written one after another. -/
def ofItems : List Written → Checked (List Value)
  | [] => .ok []
  | item :: rest => do return (← ofWritten item) :: (← ofItems rest)

/-- The entries that assignments in braces add. -/
def ofPairs (entries : Entries) : List (List Token × Written) → Checked Entries
  | [] => .ok entries
  | (keys, value) :: rest => do
    let keys ← Key.ofTokens keys
    let value ← ofWritten value
    ofPairs (← entries.assign .braced keys value) rest

end

end Value

/-- The table that a header starts. -/
structure Header where
  start : Nat
  inArray : Bool
  /-- The keys of the tables around it. -/
  path : List Key
  key : Key
  deriving Repr

/-- A text's tables while its statements are read. -/
structure Reader where
  /-- The outermost table, without the table that is being read. -/
  root : Entries := []
  header : Option Header := none
  /-- The entries of the table that is being read. -/
  current : Entries := []

namespace Reader

/-- Puts the table that was read into the outermost one. -/
def finish (reader : Reader) : Checked Entries :=
  match reader.header with
  | none => .ok reader.current
  | some header =>
    let table := Value.table header.start .defined reader.current
    let key := header.key.text
    Entries.change false (fun _ entries =>
      if header.inArray then
        match entries.lookup key with
        | none => .ok (entries.set key (.array header.start true [table]))
        | some (.array start true items) =>
          .ok (entries.set key (.array start true (items ++ [table])))
        | some _ => faultAt header.key.start
      else .ok (entries.set key table)) .defined header.path reader.root

/-- Starts the table of a header; only one that is implied so far may be there already. -/
def open' (root : Entries) (header : Header) : Checked Reader :=
  if header.inArray then .ok { root, header }
  else
    match (root.find? header.path).bind (List.lookup header.key.text) with
    | none => .ok { root, header }
    | some (.table _ .implied inner) => .ok { root, header, current := inner }
    | some _ => faultAt header.key.start

/-- Takes in a statement. -/
def push (reader : Reader) : Statement → Checked Reader
  | .header start inArray tokens => do
    let root ← reader.finish
    let keys ← Key.ofTokens tokens
    match keys.reverse with
    | [] => return { root }
    | key :: before => open' root { start, inArray, path := before.reverse, key }
  | .assignment tokens value => do
    let keys ← Key.ofTokens tokens
    let value ← Value.ofWritten value
    return { reader with current := ← reader.current.assign .defined keys value }

end Reader

/-- The entries of the outermost table of a text. -/
def parse (text : String) : Checked Entries := do
  let statements ← Statement.ofText text
  let reader ← statements.foldlM Reader.push ({} : Reader)
  reader.finish

end MarkdownTree.Toml
