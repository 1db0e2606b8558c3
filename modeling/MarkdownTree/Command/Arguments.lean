import MarkdownTree.Command.Help
import MarkdownTree.Config.Flags

/-! Reading command lines: arguments are taken from left to right up to the first mistake. -/

namespace MarkdownTree.Command

/-- Mistakes in a command line. -/
inductive UsageError where
  | noCommand
  | unknownCommand (word : String)
  | unknown (argument : String)
  | missingValue (setting : Setting)
  | emptyValue (setting : Setting)
  | unwantedValue (setting : Setting)
  | repeated (setting : Setting)
  | missingInput
  | emptyInput
  | secondInput (path : String)
  deriving DecidableEq, Repr

/-- What is said about a mistake; without any command the page of help is. -/
def UsageError.message : UsageError → String
  | noCommand => Topic.program.page
  | unknownCommand word => "error: there is no command '" ++ word ++ "'\n"
  | unknown argument => "error: there is no option '" ++ argument ++ "'\n"
  | missingValue setting => "error: '--" ++ setting.word ++ "' lacks a value\n"
  | emptyValue setting => "error: the value of '--" ++ setting.word ++ "' is empty\n"
  | unwantedValue setting => "error: '--" ++ setting.word ++ "' takes no value\n"
  | repeated setting => "error: '--" ++ setting.word ++ "' is given twice\n"
  | missingInput => "error: '<INPUT>' is missing\n"
  | emptyInput => "error: '<INPUT>' is empty\n"
  | secondInput path => "error: '" ++ path ++ "' is one input too many\n"

/-- Why a command line is not read on. -/
inductive Halt where
  | help
  | mistake (error : UsageError)
  deriving DecidableEq, Repr

/-- What was given for a verb. -/
structure Given where
  switches : List Setting := []
  values : List (Setting × String) := []
  input : Option String := none
  deriving DecidableEq, Repr

namespace Given

/-- Whether a setting was switched on. -/
def has (given : Given) (setting : Setting) : Bool :=
  given.switches.contains setting

/-- The value given for a setting. -/
def value? (given : Given) (setting : Setting) : Option String :=
  given.values.lookup setting

/-- Switches a setting on, once only; asking for help ends everything. -/
def switch (given : Given) (setting : Setting) : Except Halt Given :=
  if setting = .help then .error .help
  else if given.has setting then .error (.mistake (.repeated setting))
  else .ok { given with switches := given.switches ++ [setting] }

/-- Gives a setting its value, once only. -/
def set (given : Given) (setting : Setting) (value : String) : Except Halt Given :=
  if value.isEmpty then .error (.mistake (.emptyValue setting))
  else if (given.value? setting).isSome then .error (.mistake (.repeated setting))
  else .ok { given with values := given.values ++ [(setting, value)] }

/-- Takes in the input, of which there is one. -/
def setInput (given : Given) (path : String) : Except Halt Given :=
  if given.input.isSome then .error (.mistake (.secondInput path))
  else if path.isEmpty then .error (.mistake .emptyInput)
  else .ok { given with input := some path }

end Given

/-- What the next argument is read as. -/
inductive Expecting where
  | anything
  | value (setting : Setting)
  | input
  deriving DecidableEq, Repr

/-- How far a command line has been read. -/
structure Reading where
  given : Given := {}
  expecting : Expecting := .anything
  deriving DecidableEq, Repr

namespace Reading

/-- Reads a word with the value that may follow it after `=`. -/
def word (verb : Verb) (given : Given) (letters : List Char) : Except Halt Reading :=
  let name := String.ofList (letters.takeWhile (· ≠ '='))
  match verb.settingOfWord? name with
  | none => .error (.mistake (.unknown ("--" ++ name)))
  | some setting =>
    match setting.value, letters.dropWhile (· ≠ '=') with
    | some _, _ :: value => do return { given := ← given.set setting (String.ofList value) }
    | some _, [] => .ok { given, expecting := .value setting }
    | none, _ :: _ => .error (.mistake (.unwantedValue setting))
    | none, [] => do return { given := ← given.switch setting }

/-- Reads letters; what follows a letter that takes a value is the value, an `=` between left out.
-/
def cluster (verb : Verb) (given : Given) : List Char → Except Halt Reading
  | [] => .ok { given }
  | letter :: rest =>
    match verb.settingOfLetter? letter with
    | none => .error (.mistake (.unknown ("-" ++ letter.toString)))
    | some setting =>
      match setting.value, rest with
      | none, _ => do cluster verb (← given.switch setting) rest
      | some _, [] => .ok { given, expecting := .value setting }
      | some _, '=' :: value => do return { given := ← given.set setting (String.ofList value) }
      | some _, _ => do return { given := ← given.set setting (String.ofList rest) }

/-- Reads one argument. After `--` everything is input, and one dash alone is no option. -/
def step (verb : Verb) (reading : Reading) (argument : String) : Except Halt Reading :=
  match reading.expecting, argument.toList with
  | .input, _ => do return { reading with given := ← reading.given.setInput argument }
  | .value setting, '-' :: _ :: _ => .error (.mistake (.missingValue setting))
  | .value setting, _ => do return { given := ← reading.given.set setting argument }
  | .anything, ['-', '-'] => .ok { reading with expecting := .input }
  | .anything, '-' :: '-' :: letters => word verb reading.given letters
  | .anything, '-' :: letter :: rest => cluster verb reading.given (letter :: rest)
  | .anything, _ => do return { reading with given := ← reading.given.setInput argument }

/-- What was given once no argument is left. -/
def finish (reading : Reading) : Except Halt Given :=
  match reading.expecting with
  | .value setting => .error (.mistake (.missingValue setting))
  | _ => .ok reading.given

end Reading

/-- What was given for a verb by the arguments after it. -/
def Verb.read (verb : Verb) (arguments : List String) : Except Halt Given := do
  (← arguments.foldlM (Reading.step verb) {}).finish

/-- What a command line asks for. -/
inductive Request where
  | help (topic : Topic)
  | version
  | render (input : String) (config output : Option String) (overrides : Flags)
  | tree (input : String) (config : Option String) (raw : Bool)
  deriving DecidableEq, Repr

namespace Request

/-- What a verb is asked to do with an input. -/
def ofGiven (given : Given) (input : String) : Verb → Request
  | .render =>
    let off (setting : Setting) := if given.has setting then some false else none
    .render input (given.value? .config) (given.value? .output)
      { alerts := off .noAlerts, imageLinks := off .noImageLinks }
  | .tree => .tree input (given.value? .config) (given.has .raw)

/-- What a verb with its arguments asks for. -/
def ofVerb (verb : Verb) (arguments : List String) : Except UsageError Request :=
  match verb.read arguments with
  | .error .help => .ok (.help (.verb verb))
  | .error (.mistake error) => .error error
  | .ok given =>
    match given.input with
    | none => .error .missingInput
    | some input => .ok (ofGiven given input verb)

/-- The page of help that words ask for. -/
def ofTopic : List String → Except UsageError Request
  | [] => .ok (.help .program)
  | ["help"] => .ok (.help .help)
  | [word] => (Verb.ofName? word).elim (.error (.unknownCommand word)) fun verb =>
    .ok (.help (.verb verb))
  | _ :: word :: _ => .error (.unknownCommand word)

/-- What a command line asks for. -/
def ofArguments : List String → Except UsageError Request
  | [] => .error .noCommand
  | "help" :: words => ofTopic words
  | word :: rest =>
    match Verb.ofName? word with
    | some verb => ofVerb verb rest
    | none =>
      if word = "--help" || word.startsWith "-h" then .ok (.help .program)
      else if word = "--version" || word.startsWith "-V" then .ok .version
      else .error (.unknownCommand word)

end Request

end MarkdownTree.Command
