import CommandChain.Shell.Basic

/-!
# Running one command

A command that names a builtin is run by it. Any other command is started by the process layer and
awaited at once, and what was captured of its output is replayed before anything else happens.
-/

namespace CommandChain

variable {state handle : Type}

namespace Shell

/-- Replays captured bytes on a stream. Nothing is written where nothing was captured. -/
def replay (stream : Stream) : Option (List UInt8) → Action state handle Unit
  | none => pure ()
  | some [] => pure ()
  | some (first :: rest) => Action.emit (.replay stream (Text.ofBytesReplacing (first :: rest)))

/-- Runs a builtin. -/
def runBuiltin (builtin : Builtin state) (command : Command) :
    Action state handle CommandResult := do
  let reply ← Action.ask (builtin command.arguments) (Event.builtin command)
  match reply.ending with
  | .returned code => pure (.ended code)
  | .exited code => Action.finish (.exited code)
  | .interrupted => Action.finish .interrupted

/-- Awaits a process and replays what it wrote, regular output first. -/
def awaitProcess (shell : Shell state handle) (process : handle) :
    Action state handle CommandResult := do
  let answer ← Action.ask (shell.processes.wait process) (Event.wait process)
  match answer with
  | none => Action.finish .interrupted
  | some status => do
      replay .output status.output
      replay .diagnostics status.errors
      pure (.ended status.code)

/-- Starts a command and awaits it. A command that cannot be started is reported and leaves no
status. -/
def runProcess (shell : Shell state handle) (command : Command) :
    Action state handle CommandResult := do
  let answer ←
    Action.ask (shell.processes.spawn command.binary command.arguments) (Event.spawn command)
  match answer with
  | .error failure => do
      Action.emit (.diagnostic (.spawnFailed failure))
      pure .notStarted
  | .ok process => shell.awaitProcess process

/-- Runs a command, after announcing it if the shell traces. -/
def runCommand (shell : Shell state handle) (command : Command) :
    Action state handle CommandResult := do
  Action.emitIf shell.tracing (.diagnostic (.running command))
  match shell.builtins command.binary with
  | some builtin => runBuiltin builtin command
  | none => shell.runProcess command

end Shell

end CommandChain
