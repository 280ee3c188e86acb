import CommandChain.Options.Help
import CommandChain.Options.Settings
import CommandChain.Process.Child
import CommandChain.Shell.ReadLoop

/-!
# The command line

The command line program reads its settings from the arguments. With a command it runs that as one
line, else it reads lines from its input. What reaches the standard streams is what the shell writes
and what its children write to the streams that they share with it, in the order of the events.
-/

namespace CommandChain

/-- How the program ends. -/
inductive ProgramEnd where
  | returned (code : Int)
  /-- at once, while the arguments are read -/
  | stopped (code : Int)
  /-- with a fault, since its command was removed from the arguments -/
  | withoutCommand
  deriving DecidableEq

/-- A finished run of the program. -/
structure Report where
  ending : ProgramEnd
  output : List UInt8 := []
  errors : List UInt8 := []
  deriving DecidableEq

/-- The writes of an event to the standard streams. -/
def Event.writes : Event Child → List Write
  | .wait child _ => child.passedWrites
  | event =>
      [{ channel := .output
         bytes := (event.outputText ++ event.terminalText).withStraysVisible.bytes },
        { channel := .errors, bytes := event.diagnosticText.withStraysVisible.bytes }]

namespace CommandLine

/-- The code of a run that fails for a reason of its own. -/
def failureCode : Int :=
  1

/-- The code for wrong arguments. -/
def usageCode : Int :=
  2

/-- The code of an end. -/
def codeOfEnd : ProgramEnd → Int
  | .returned code => code
  | .stopped code => code
  | .withoutCommand => failureCode

/-- The last name in the path of a program. -/
def programName (path : Text) : Text :=
  (path.reverse.takeWhile (· != FileTree.slash)).reverse

/-- What is printed where there are no settings, and the code. -/
def reportOfStop (program : Text) : ReadingStop → Report
  | .help => { ending := .stopped 0, output := (Help.help program).bytes }
  | .usage error =>
      { ending := .stopped usageCode, errors := (Help.complaint program error).bytes }

/-- What arguments lead to before anything runs: settings, or the report of a program that ends at
once. -/
def settingsOrReport (program : Text) (arguments : List Text) : Except Report Settings :=
  (Settings.ofArguments arguments).mapError (reportOfStop program)

/-- The shell that settings ask for, on a system. -/
def shellOf {state : Type} (system : System state) (settings : Settings) : Shell state Child :=
  { processes := childLayer system settings.capture
    tracing := settings.trace
    prompt := settings.prompt.toText }

/-- The text of an input: its lines all end with newlines, and undecodable bytes are kept. -/
def inputText (input : List UInt8) : Text :=
  (Text.ofBytes input).unifyLineEnds

/-- What settings make the shell do. Where the command was removed from the arguments, that is
nothing. -/
def actionOf {state : Type} (system : System state) (settings : Settings) (input : List UInt8) :
    Action state Child Int :=
  let shell := shellOf system settings
  match settings.command with
  | some (.text command) => shell.runLine command
  | some .removed => pure failureCode
  | none => do
      let ended ← shell.readLoop { input := inputText input }
      pure ended.code

/-- The code of an outcome. -/
def codeOfOutcome : Outcome Int → Int
  | .returned code => code
  | .exited code => code
  | .failed _ => failureCode
  | .interrupted => Shell.interruptedCode

/-- The report of an execution. -/
def reportOfExecution {state : Type} (execution : Execution state Child Int) : Report :=
  let writes := execution.events.flatMap Event.writes
  { ending := .returned (codeOfOutcome execution.outcome)
    output := Write.contentOf .output writes
    errors := Write.contentOf .errors writes }

/-- Runs the program on the small file tree. Where the shell reads lines itself, it has read all of
the input before a child could. -/
def run (path : Text) (arguments : List Text) (input : List UInt8) : Report :=
  match settingsOrReport (programName path) arguments with
  | .error report => report
  | .ok settings =>
      let offset := if settings.command.isSome then 0 else input.length
      let action := actionOf (treeSystem settings.capture) settings input
      let report := reportOfExecution (action (Files.given input offset))
      if settings.command = some .removed then { report with ending := .withoutCommand }
      else report

end CommandLine

end CommandChain
