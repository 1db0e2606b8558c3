import MarkdownTree.Command.Setting

/-! The pages of help. -/

namespace MarkdownTree.Command

/-- What a page of help is about. -/
inductive Topic where
  | program
  | verb (verb : Verb)
  | help
  deriving DecidableEq, Repr

namespace Help

/-- Rows of two columns, the first as wide as its widest cell. -/
def table (rows : List (String × String)) : String :=
  let width := (rows.map fun row => row.1.length).foldl max 0
  String.join (rows.map fun row =>
    "  " ++ row.1.pushn ' ' (width - row.1.length) ++ "  " ++ row.2 ++ "\n")

/-- A page: what it is about, how to write it, and tables under their titles. -/
def page (about usage : String) (tables : List (String × List (String × String))) : String :=
  about ++ "\n\nUsage: mdfix " ++ usage ++ "\n"
    ++ String.join (tables.map fun rows => "\n" ++ rows.1 ++ ":\n" ++ table rows.2)

/-- The row of a setting; words stand below each other whether or not a letter goes before. -/
def settingRow (setting : Setting) : String × String :=
  let letter := setting.letter.elim "    " fun letter => "-" ++ letter.toString ++ ", "
  let value := setting.value.elim "" fun value => " <" ++ value ++ ">"
  (letter ++ "--" ++ setting.word ++ value, setting.about)

/-- What the page about help itself is about. -/
def about : String :=
  "Print this message or the help of the given subcommand(s)"

end Help

/-- The page of help on a topic. -/
def Topic.page : Topic → String
  | .program =>
    let commands := Verb.all.map (fun verb => (verb.name, verb.about)) ++ [("help", Help.about)]
    Help.page "Markdown alert and image-link post-processor - CLI" "<COMMAND>"
      [("Commands", commands),
        ("Options", [Help.settingRow .help, ("-V, --version", "Print version")])]
  | .verb subject =>
    Help.page subject.about (subject.name ++ " [OPTIONS] <INPUT>")
      [("Arguments", [("<INPUT>", subject.inputAbout)]),
        ("Options", subject.settings.map Help.settingRow)]
  | .help =>
    Help.page Help.about "help [COMMAND]..."
      [("Arguments", [("[COMMAND]...", "Print help for the subcommand(s)")])]

end MarkdownTree.Command
