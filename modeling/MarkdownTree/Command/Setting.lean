/-! What a command line may ask for: the verbs, and what can be set for each. -/

namespace MarkdownTree.Command

/-- What can be set for a verb. -/
inductive Setting where
  | output
  | config
  | noAlerts
  | noImageLinks
  | raw
  | verbose
  | help
  deriving DecidableEq, Repr

namespace Setting

/-- The word for a setting, written after two dashes. -/
def word : Setting → String
  | output => "output"
  | config => "config"
  | noAlerts => "no-alerts"
  | noImageLinks => "no-image-ref-fix"
  | raw => "raw"
  | verbose => "verbose"
  | help => "help"

/-- The letter for a setting, written after one dash. -/
def letter : Setting → Option Char
  | output => some 'o'
  | config => some 'c'
  | verbose => some 'v'
  | help => some 'h'
  | _ => none

/-- The name of the value that a setting takes. -/
def value : Setting → Option String
  | output => some "OUTPUT"
  | config => some "CONFIG"
  | _ => none

/-- What a setting does. -/
def about : Setting → String
  | output => "Write HTML to this file instead of stdout"
  | config => "Path to configuration file (default: auto-discover mdfix.toml)"
  | noAlerts => "Disable the alert rewrite"
  | noImageLinks => "Disable the image reference link repair"
  | raw => "Print the tree as parsed, before post-processing"
  | verbose => "Enable verbose output"
  | help => "Print help"

end Setting

/-- What can be done with a document. -/
inductive Verb where
  | render
  | tree
  deriving DecidableEq, Repr

namespace Verb

/-- Every verb, in the order in which help lists them. -/
def all : List Verb :=
  [render, tree]

/-- The word for a verb. -/
def name : Verb → String
  | render => "render"
  | tree => "tree"

/-- What a verb does. -/
def about : Verb → String
  | render => "Render a markdown file to HTML"
  | tree => "Print the document tree after post-processing"

/-- What the input of a verb is. -/
def inputAbout : Verb → String
  | render => "Markdown file to render (`-` for stdin)"
  | tree => "Markdown file to inspect (`-` for stdin)"

/-- What can be set for a verb, in the order in which help lists it. -/
def settings : Verb → List Setting
  | render => [.output, .config, .noAlerts, .noImageLinks, .verbose, .help]
  | tree => [.config, .raw, .verbose, .help]

/-- The verb of a word. -/
def ofName? (name : String) : Option Verb :=
  all.find? fun verb => verb.name == name

/-- The setting that a word means for a verb. -/
def settingOfWord? (verb : Verb) (word : String) : Option Setting :=
  verb.settings.find? fun setting => setting.word == word

/-- The setting that a letter means for a verb. -/
def settingOfLetter? (verb : Verb) (letter : Char) : Option Setting :=
  verb.settings.find? fun setting => setting.letter == some letter

end Verb

end MarkdownTree.Command
