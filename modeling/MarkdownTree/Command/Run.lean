import MarkdownTree.Command.Arguments
import MarkdownTree.Config.Load
import MarkdownTree.Html.Render
import MarkdownTree.Markdown.Parse
import MarkdownTree.Processing.Standard
import MarkdownTree.Tree.Outline

/-! Doing what a command line asks for: what is printed, what is written, and how it ends. -/

namespace MarkdownTree

/-- The processors that a configuration switches on. -/
def Config.processors (config : Config) : ProcessorSet :=
  (if config.alerts then [Alert.processor] else [])
    ++ (if config.imageLinks then [ImageLink.processor] else [])

/-- The handlers for the nodes that a configuration lets occur. -/
def Config.handlers (config : Config) : HandlerTable :=
  if config.alerts then HandlerTable.standard else HandlerTable.standard.erase .alert

namespace Command

/-- How a command ends: its code, its texts, and the file that it writes. -/
structure Outcome where
  code : Nat := 0
  stdout : String := ""
  stderr : String := ""
  written : Option (Place × String) := none
  deriving DecidableEq, Repr

/-- Why a command fails. -/
inductive Failure where
  | config (error : ConfigError)
  | unreadable (path : String) (error : FileError)
  | unwritable (error : FileError)
  deriving DecidableEq, Repr

/-- The words for a failure. -/
def Failure.message : Failure → String
  | config error => error.message
  | unreadable path error => "Cannot read " ++ path ++ ": " ++ error.message
  | unwritable error => error.message

/-- Where a command runs. -/
structure Surroundings where
  files : FileSystem
  here : Place
  stdin : ByteArray

/-- Whether a path means the standard input: one dash, with nothing but slashes and dots after it.
-/
def isStdin (path : String) : Bool :=
  match path.splitOn "/" with
  | first :: rest => first == "-" && rest.all fun part => part == "" || part == "."
  | [] => false

namespace Surroundings

/-- The configuration that holds. -/
def config (around : Surroundings) (path? : Option String) (overrides : Flags) :
    Except Failure Config :=
  (Config.load Flags.parse around.files around.here path? overrides).mapError .config

/-- The text of an input. -/
def input (around : Surroundings) (path : String) : Except Failure String :=
  let text :=
    if isStdin path then (Entry.file around.stdin).text
    else around.files.readText around.here path
  text.mapError (.unreadable path)

/-- The document that an input tells. -/
def document (around : Surroundings) (path : String) : Except Failure Document := do
  return .ofMarkdown Markdown.Options.standard (← around.input path)

/-- Tells a text: to the standard output, or into a file. -/
def tell (around : Surroundings) (text : String) : Option String → Except Failure Outcome
  | none => .ok { stdout := text }
  | some path => do
    let place ← (around.files.target around.here path).mapError .unwritable
    return { stderr := "Wrote " ++ path ++ "\n", written := some (place, text) }

end Surroundings

/-- The page of a document, with what a configuration switches on. -/
def page (config : Config) (doc : Document) : String :=
  config.handlers.render (config.processors.run doc []).doc ++ "\n"

/-- The tree of a document as it was read. -/
def showRaw (doc : Document) : Outcome :=
  { stdout := doc.outline Document.root, stderr := "Parsed tree\n" }

/-- The tree of a document after the processors ran, and what they changed. -/
def showProcessed (config : Config) (doc : Document) : Outcome :=
  let progress := config.processors.run doc []
  { stdout := progress.doc.outline Document.root ++ progress.journal.listing progress.doc
    stderr := "Processed tree\n"
      ++ if progress.journal.isEmpty then "No changes\n" else "Changes\n" }

namespace Request

/-- Does what is asked for. The configuration is read before the input. -/
def run (around : Surroundings) : Request → Except Failure Outcome
  | help topic => .ok { stdout := topic.page }
  | version => .ok { stdout := "mdfix 0.1.0\n" }
  | render input config? output? overrides => do
    let config ← around.config config? overrides
    around.tell (page config (← around.document input)) output?
  | tree input config? raw => do
    let config ← around.config config? {}
    let doc ← around.document input
    return if raw then showRaw doc else showProcessed config doc

/-- Whether the standard input is read. -/
def readsStdin : Request → Bool
  | render input _ _ _ | tree input _ _ => isStdin input
  | _ => false

/-- The places that a path leads through. -/
def trail (here : Place) (path : String) : List Place :=
  (Path.start here path).trail (Path.parts path)

/-- The places that the ways to what is read lead through. -/
def sources (here : Place) : Request → List Place
  | render input config? _ _ | tree input config? _ =>
    trail here input ++ config?.elim [] (trail here)
  | _ => []

/-- The places at which a configuration file is looked for. -/
def searched (here : Place) : Request → List Place
  | render _ none _ _ | tree _ none _ => Config.candidates here
  | _ => []

/-- The places that the way to the written file leads through. -/
def targets (here : Place) : Request → List Place
  | render _ _ (some output) _ => trail here output
  | _ => []

end Request

/-- How a command line ends. -/
def run (around : Surroundings) (arguments : List String) : Outcome :=
  match Request.ofArguments arguments with
  | .error error => { code := 2, stderr := error.message }
  | .ok request =>
    match request.run around with
    | .error failure => { code := 1, stderr := "Error: " ++ failure.message ++ "\n" }
    | .ok outcome => outcome

end Command

end MarkdownTree
