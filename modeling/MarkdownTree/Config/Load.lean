import MarkdownTree.Config.Flags
import MarkdownTree.Files.FileSystem

/-! Finding the configuration file that holds for a directory, and reading it. -/

namespace MarkdownTree

/-- Where a configuration was read. -/
inductive ConfigSource where
  /-- A path that was asked for. -/
  | given (path : String)
  /-- A file that was found in the directory or in one around it. -/
  | found (place : Place)
  deriving DecidableEq, Repr

/-- Which processors run, and the file that says it. -/
structure Config where
  alerts : Bool
  imageLinks : Bool
  source : Option ConfigSource
  deriving DecidableEq, Repr

/-- Why there is no configuration. -/
inductive ConfigError where
  | notFound (path : String)
  | unreadable (error : FileError)
  | invalid (position : Position)
  deriving DecidableEq, Repr

/-- The words for an error; lines and columns are told from one on. -/
def ConfigError.message : ConfigError → String
  | notFound path => "Configuration file not found: " ++ path
  | unreadable error => "I/O error: " ++ error.message
  | invalid position =>
    "TOML parse error: TOML parse error at line " ++ toString (position.line + 1)
      ++ ", column " ++ toString (position.column + 1)

namespace Config

/-- The name of configuration files. -/
def fileName : String := "mdfix.toml"

/-- The places of the configuration files that hold for a directory, the nearest first. -/
def candidates (here : Place) : List Place :=
  here.around.map fun directory => fileName :: directory

/-- The configuration file in a directory or in the nearest one around it. -/
def discover (files : FileSystem) (here : Place) : Option Place :=
  (candidates here).find? files.isFile

/-- The configuration that flags set; a processor that no flag is about runs. -/
def ofFlags (overrides file : Flags) (source : Option ConfigSource) : Config where
  alerts := (overrides.alerts <|> file.alerts).getD true
  imageLinks := (overrides.imageLinks <|> file.imageLinks).getD true
  source

/-- The configuration in a file. -/
def ofEntry (parse : String → Except Position Flags) (overrides : Flags) (source : ConfigSource)
    (entry : Entry) : Except ConfigError Config := do
  let text ← entry.text.mapError .unreadable
  let file ← (parse text).mapError .invalid
  return ofFlags overrides file source

/-- The configuration that holds in a directory: of the file asked for, else of the nearest one. -/
def load (parse : String → Except Position Flags) (files : FileSystem) (here : Place)
    (path? : Option String) (overrides : Flags) : Except ConfigError Config :=
  match path? with
  | some path =>
    match files.entryAt here path with
    | .error _ => .error (.notFound path)
    | .ok entry => ofEntry parse overrides (.given path) entry
  | none =>
    match discover files here with
    | none => .ok (ofFlags overrides {} none)
    | some place =>
      match files.entry? place with
      | none => .error (.unreadable .missing)
      | some entry => ofEntry parse overrides (.found place) entry

end Config

end MarkdownTree
