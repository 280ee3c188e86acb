import CommandChain.Element
import CommandChain.Process.ExitStatus
import CommandChain.Text.Lines
import CommandChain.Text.Utf8

/-!
# Events

What happens while lines are run, in order: calls of the process layer and of builtins together
with their answers, text written to the shell's streams, and the reads of the interactive loop.
-/

namespace CommandChain

/-- How a builtin ends. -/
inductive BuiltinEnding where
  | returned (code : Int)
  | exited (code : Int)
  | interrupted
  deriving DecidableEq

/-- The answer of a builtin: what it wrote to the diagnostics stream, and how it ended. -/
structure BuiltinReply where
  diagnostics : Text := []
  ending : BuiltinEnding
  deriving DecidableEq

/-- A process could not be started. -/
structure SpawnFailure where
  binary : Text
  reason : Text
  deriving DecidableEq

/-- The text of a failed start. -/
def SpawnFailure.message (failure : SpawnFailure) : Text :=
  failure.binary ++ Text.ofString ": " ++ failure.reason

/-- A line that the shell itself writes to the diagnostics stream. -/
inductive Diagnostic where
  /-- a command is about to run -/
  | running (command : Command)
  /-- a command could not be started -/
  | spawnFailed (failure : SpawnFailure)
  /-- a chain was abandoned -/
  | syntaxError (error : ShellError)
  deriving DecidableEq

/-- The text of a diagnostic, with the newline that ends it. -/
def Diagnostic.text : Diagnostic → Text
  | .running command => Text.ofString "Running: " ++ command.display ++ [Text.newline]
  | .spawnFailed failure => Text.ofString "chain-shell: " ++ failure.message ++ [Text.newline]
  | .syntaxError error =>
      Text.ofString "chain-shell: syntax error: " ++ error.message ++ [Text.newline]

/-- The streams to which a line's evaluation writes. -/
inductive Stream where
  | output
  | diagnostics
  deriving DecidableEq

/-- What a read of the interactive loop finds. -/
inductive ReadAnswer where
  | line (text : Text)
  | interrupted
  | endOfInput
  deriving DecidableEq

/-- One thing that happens while lines are run. -/
inductive Event (handle : Type) where
  /-- the process layer was asked to start a command -/
  | spawn (command : Command) (answer : Except SpawnFailure handle)
  /-- the process layer was asked to await a process; no status means that the wait was
  interrupted -/
  | wait (process : handle) (answer : Option ExitStatus)
  /-- a builtin was called -/
  | builtin (command : Command) (reply : BuiltinReply)
  /-- the shell wrote a diagnostic -/
  | diagnostic (message : Diagnostic)
  /-- captured output was replayed -/
  | replay (stream : Stream) (text : Text)
  /-- the loop tried to read a line -/
  | read (answer : ReadAnswer)
  /-- the loop wrote to its own terminal -/
  | terminal (text : Text)

namespace Event

variable {handle : Type}

/-- What an event writes to the output stream. -/
def outputText : Event handle → Text
  | .replay .output text => text
  | _ => []

/-- What an event writes to the diagnostics stream. -/
def diagnosticText : Event handle → Text
  | .builtin _ reply => reply.diagnostics
  | .diagnostic message => message.text
  | .replay .diagnostics text => text
  | _ => []

/-- What an event writes to the terminal of the loop. -/
def terminalText : Event handle → Text
  | .terminal text => text
  | _ => []

end Event

end CommandChain
