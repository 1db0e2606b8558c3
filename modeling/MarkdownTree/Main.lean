import MarkdownTree.Command.Run

/-! The program: it looks at the files a command line is about, does what is asked, and prints. -/

namespace MarkdownTree.Command

/-- What stands at a place now; the content is read of entries of some types only. -/
def lookAt (reads : IO.FS.FileType → Bool) (place : Place) : IO (Option Entry) := do
  let path := (← IO.currentDir) / ("/" ++ place.path)
  if !(← path.pathExists) then
    return none
  let type := (← path.metadata).type
  if type == .dir then
    return some .directory
  let regular := type == .file
  try
    let content ← if reads type then IO.FS.readBinFile path else pure ByteArray.empty
    return some (if regular then .file content else .special (.ok content))
  catch
    | .permissionDenied .. =>
      return some (if regular then .unreadable .denied else .special (.error .denied))
    | error => throw error

/-- What stands at places now, paired with them. -/
def lookAtAll (reads : IO.FS.FileType → Bool) (places : List Place) :
    IO (List (Place × Option Entry)) :=
  places.mapM fun place => do return (place, ← lookAt reads place)

/-- The files around the program, as far as a request looks at them. -/
def look (request : Request) : IO Surroundings := do
  let here := ((← IO.currentDir).toString.splitOn "/").filter (· ≠ "") |>.reverse
  let sources ← lookAtAll (fun _ => true) (request.sources here)
  -- A pipe in the place of a configuration file is passed by, and must not be waited for.
  let searched ← lookAtAll (· == .file) (request.searched here)
  let targets ← lookAtAll (fun _ => false) (request.targets here)
  let stdin ← if request.readsStdin then (← IO.getStdin).readBinToEnd else pure ByteArray.empty
  let seen := sources ++ searched ++ targets
  return { files := ⟨fun place => (seen.lookup place).join⟩, here, stdin }

end MarkdownTree.Command

open MarkdownTree.Command

/-- Runs a command line. -/
def main (arguments : List String) : IO UInt32 := do
  let request := (Request.ofArguments arguments).toOption.getD .version
  let outcome := run (← look request) arguments
  if let some (place, text) := outcome.written then
    IO.FS.writeFile ("/" ++ place.path) text
  IO.print outcome.stdout
  IO.eprint outcome.stderr
  return outcome.code.toUInt32
