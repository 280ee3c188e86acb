import CommandChain.Shell.Basic
import CommandChain.Text.Literal

/-!
# Options of the command line

The table of options: how each is spelled, whether it takes a value, and what it is for.
-/

namespace CommandChain

/-- An option of the command line. -/
inductive CommandOption where
  | help
  | command
  | prompt
  | trace
  | capture
  deriving DecidableEq

namespace CommandOption

/-- All options, in the order in which they are listed. -/
def all : List CommandOption :=
  [.help, .command, .prompt, .trace, .capture]

/-- The spellings of an option. A short one has one dash and one letter, a long one has two
dashes. -/
def names : CommandOption → List Text
  | .help => [Text.ofString "-h", Text.ofString "--help"]
  | .command => [Text.ofString "-c"]
  | .prompt => [Text.ofString "--prompt"]
  | .trace => [Text.ofString "-x", Text.ofString "--trace"]
  | .capture => [Text.ofString "--capture"]

/-- What an option's value is called, if it takes one. -/
def valueName? : CommandOption → Option Text
  | .command => some (Text.ofString "COMMAND")
  | .prompt => some (Text.ofString "PROMPT")
  | _ => none

/-- The option takes a value. -/
def takesValue (option : CommandOption) : Bool :=
  option.valueName?.isSome

/-- What an option is for. -/
def purpose : CommandOption → Text
  | .help => Text.ofString "show this help message and exit"
  | .command => Text.ofString "Run COMMAND and exit with the last command's exit code."
  | .prompt =>
      Text.ofString "Prompt shown when standard output is a terminal (default: " ++
        defaultPrompt.literal ++ Text.ofString ")."
  | .trace => Text.ofString "Print each command to standard error before running it."
  | .capture =>
      Text.ofString "Capture each command's output and replay it once the command has exited, " ++
        Text.ofString "instead of letting it write directly."

/-- Every spelling with its option, in the order of the list. -/
def spellings : List (Text × CommandOption) :=
  all.flatMap fun option => option.names.map fun name => (name, option)

/-- The option with a given spelling. -/
def ofName? (name : Text) : Option CommandOption :=
  (spellings.find? fun spelling => spelling.1 == name).map Prod.snd

/-- An option as it is named in a complaint. -/
def displayName (option : CommandOption) : Text :=
  Text.joinWith [.char '/'] option.names

theorem mem_all (option : CommandOption) : option ∈ all := by
  cases option <;> simp [all]

/-- Every spelling of an option is found. -/
theorem ofName?_of_mem {option : CommandOption} {name : Text} (isName : name ∈ option.names) :
    ofName? name = some option := by
  revert isName name
  cases option <;> decide

end CommandOption

end CommandChain
