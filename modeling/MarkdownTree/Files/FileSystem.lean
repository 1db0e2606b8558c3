/-! Files: what stands at the places of a file system, and how paths lead there. -/

namespace MarkdownTree

/-- A place in a file system: the names on the way from it up to the root. -/
abbrev Place : Type :=
  List String

namespace Place

/-- The path from the root to a place. -/
def path (place : Place) : String :=
  "/".intercalate place.reverse

/-- One part of a path further. -/
def step (place : Place) (part : String) : Place :=
  if part = "." then place else if part = ".." then place.tail else part :: place

/-- A place and the places around it, the nearest first. -/
def around : Place → List Place
  | [] => [[]]
  | name :: outer => (name :: outer) :: around outer

/-- The places that parts of a path lead through. -/
def trail (here : Place) : List String → List Place
  | [] => [here]
  | part :: rest => here :: trail (here.step part) rest

end Place

/-- The parts of a path. -/
def Path.parts (path : String) : List String :=
  ((path.toList.splitOn '/').map String.ofList).filter (· ≠ "")

/-- The place at which a path starts, seen from a directory. -/
def Path.start (here : Place) (path : String) : Place :=
  if path.startsWith "/" then [] else here

/-- Why a file cannot be read or written. -/
inductive FileError where
  | missing
  | notDirectory
  | isDirectory
  | denied
  | notText
  deriving DecidableEq, Repr

/-- The words of a system for an error. -/
def FileError.message : FileError → String
  | missing => "No such file or directory (os error 2)"
  | notDirectory => "Not a directory (os error 20)"
  | isDirectory => "Is a directory (os error 21)"
  | denied => "Permission denied (os error 13)"
  | notText => "stream did not contain valid UTF-8"

/-- What may stand at a place. -/
inductive Entry where
  | directory
  | file (content : ByteArray)
  /-- A file that cannot be read, and why. -/
  | unreadable (error : FileError)
  /-- What is neither a directory nor a regular file, as a device or a pipe is, and what reading it
  gives. -/
  | special (content : Except FileError ByteArray)

/-- What stands at every place. -/
structure FileSystem where
  entry? : Place → Option Entry

namespace Entry

/-- Whether an entry is a regular file, which it may be without being readable. -/
def isRegular : Entry → Bool
  | file _ | unreadable _ => true
  | directory | special _ => false

/-- What reading an entry gives. -/
def content : Entry → Except FileError ByteArray
  | directory => .error .isDirectory
  | file content => .ok content
  | unreadable error => .error error
  | special content => content

/-- The text of an entry. -/
def text (entry : Entry) : Except FileError String := do
  (String.fromUTF8? (← entry.content)).elim (.error .notText) .ok

end Entry

namespace FileSystem

/-- Whether a regular file stands at a place. -/
def isFile (files : FileSystem) (place : Place) : Bool :=
  (files.entry? place).any Entry.isRegular

/-- The place that parts of a path lead to: nothing need stand there, but directories on the way. -/
def walk (files : FileSystem) (here : Place) : List String → Except FileError Place
  | [] => .ok here
  | part :: rest =>
    match files.entry? here with
    | none => .error .missing
    | some .directory => files.walk (here.step part) rest
    | some _ => .error .notDirectory

/-- What stands where a path leads to; only in directories a path goes on after a slash. -/
def entryAt (files : FileSystem) (here : Place) (path : String) : Except FileError Entry := do
  if path.isEmpty then throw .missing
  let inside := if path.endsWith "/" then ["."] else []
  let place ← files.walk (Path.start here path) (Path.parts path ++ inside)
  (files.entry? place).elim (.error .missing) .ok

/-- The text of the file that a path leads to. -/
def readText (files : FileSystem) (here : Place) (path : String) : Except FileError String := do
  (← files.entryAt here path).text

/-- The place of the file that a path leads to, for writing; the file need not be there yet. -/
def target (files : FileSystem) (here : Place) (path : String) : Except FileError Place := do
  if path.isEmpty then throw .missing
  let place ← files.walk (Path.start here path) (Path.parts path)
  match files.entry? place with
  | some .directory => throw .isDirectory
  -- A slash at the end asks for a directory, whatever stands there.
  | _ => if path.endsWith "/" then throw .isDirectory else return place

end FileSystem

end MarkdownTree
