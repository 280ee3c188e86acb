import CommandChain.Builtin
import CommandChain.Execution

/-!
# The shell

A shell has a process layer, a table of builtins, a trace switch and a prompt. The process layer is
any machine that answers a request to start a command with a handle or a failure, and a request to
await a handle with an exit status or an interrupt.
-/

namespace CommandChain

/-- What starts and awaits processes. -/
structure ProcessLayer (state handle : Type) where
  /-- starts a command, given its name and arguments -/
  spawn : Text → List Text → state → Except SpawnFailure handle × state
  /-- awaits a process; no status means that the wait was interrupted -/
  wait : handle → state → Option ExitStatus × state

/-- The prompt of a shell that is given none. -/
def defaultPrompt : Text :=
  Text.ofString "> "

/-- A shell. -/
structure Shell (state handle : Type) where
  processes : ProcessLayer state handle
  builtins : BuiltinTable state := standardBuiltins
  tracing : Bool := false
  prompt : Text := defaultPrompt

/-- What a command leaves behind: the code with which it ended, or nothing but the fact that it
could not be started. -/
inductive CommandResult where
  | ended (code : Int)
  | notStarted
  deriving DecidableEq

namespace CommandResult

/-- The code of a command that could not be started. -/
def notStartedCode : Int :=
  127

/-- The code that a result gives to its chain. -/
def code : CommandResult → Int
  | .ended code => code
  | .notStarted => notStartedCode

/-- The status on which an operator can act. A command that could not be started has none. -/
def status? : CommandResult → Option Bool
  | .ended code => some (isSuccessCode code)
  | .notStarted => none

end CommandResult

end CommandChain
