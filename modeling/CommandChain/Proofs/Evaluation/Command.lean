import CommandChain.Shell.RunCommand

/-!
# The run of one command

There are four ways in which a command can be run: by a builtin, by a process that cannot be
started, by a process whose wait is interrupted, and by a process that ends. `CommandRun` lists them
with the whole execution of each, and `runCommand_spec` says that there is no other. What holds of
every command is derived from it by cases.
-/

namespace CommandChain

variable {state handle value : Type}

namespace Action

theorem emitIf_bind_apply (wanted : Bool) (event : Event handle)
    (onward : Unit → Action state handle value) (initial : state) :
    (emitIf wanted event >>= onward) initial =
      ⟨(onward () initial).outcome, (if wanted then [event] else []) ++ (onward () initial).events,
        (onward () initial).final⟩ := by
  cases wanted with
  | true => rfl
  | false => rfl

theorem ask_bind_apply {answer : Type} (question : state → answer × state)
    (record : answer → Event handle) (onward : answer → Action state handle value)
    (initial : state) :
    (ask question record >>= onward) initial =
      ⟨(onward (question initial).1 (question initial).2).outcome,
        record (question initial).1 :: (onward (question initial).1 (question initial).2).events,
        (onward (question initial).1 (question initial).2).final⟩ :=
  rfl

end Action

/-- How a builtin's ending ends its command. -/
def BuiltinEnding.outcome : BuiltinEnding → Outcome CommandResult
  | .returned code => .returned (.ended code)
  | .exited code => .exited code
  | .interrupted => .interrupted

/-- The events that replay captured bytes on a stream. -/
def replayEvents (stream : Stream) : Option (List UInt8) → List (Event handle)
  | none => []
  | some [] => []
  | some (first :: rest) => [.replay stream (Text.ofBytesReplacing (first :: rest))]

namespace Shell

variable (shell : Shell state handle)

/-- The event that announces a command, if the shell traces. -/
def announcement (command : Command) : List (Event handle) :=
  if shell.tracing then [.diagnostic (.running command)] else []

/-- The executions of a command from a state. -/
inductive CommandRun (command : Command) (initial : state) :
    Execution state handle CommandResult → Prop
  /-- a builtin answers -/
  | builtin {builtin : Builtin state} {reply : BuiltinReply} {after : state}
      (named : shell.builtins command.binary = some builtin)
      (answered : builtin command.arguments initial = (reply, after)) :
      CommandRun command initial
        ⟨reply.ending.outcome, shell.announcement command ++ [.builtin command reply], after⟩
  /-- the process cannot be started -/
  | refused {failure : SpawnFailure} {after : state}
      (noBuiltin : shell.builtins command.binary = none)
      (answered :
        shell.processes.spawn command.binary command.arguments initial = (.error failure, after)) :
      CommandRun command initial
        ⟨.returned .notStarted,
          shell.announcement command ++
            [.spawn command (.error failure), .diagnostic (.spawnFailed failure)],
          after⟩
  /-- the wait for the process is interrupted -/
  | interrupted {process : handle} {started after : state}
      (noBuiltin : shell.builtins command.binary = none)
      (answered :
        shell.processes.spawn command.binary command.arguments initial = (.ok process, started))
      (awaited : shell.processes.wait process started = (none, after)) :
      CommandRun command initial
        ⟨.interrupted,
          shell.announcement command ++ [.spawn command (.ok process), .wait process none], after⟩
  /-- the process ends, and what was captured of its output is replayed -/
  | ended {process : handle} {started after : state} {status : ExitStatus}
      (noBuiltin : shell.builtins command.binary = none)
      (answered :
        shell.processes.spawn command.binary command.arguments initial = (.ok process, started))
      (awaited : shell.processes.wait process started = (some status, after)) :
      CommandRun command initial
        ⟨.returned (.ended status.code),
          shell.announcement command ++
            (.spawn command (.ok process) :: .wait process (some status) ::
              (replayEvents .output status.output ++ replayEvents .diagnostics status.errors)),
          after⟩

theorem replay_apply (stream : Stream) (bytes : Option (List UInt8)) (initial : state) :
    (replay stream bytes : Action state handle Unit) initial =
      ⟨.returned (), replayEvents stream bytes, initial⟩ := by
  match bytes with
  | none => rfl
  | some [] => rfl
  | some (first :: rest) => rfl

theorem runBuiltin_apply {builtin : Builtin state} {command : Command} {initial after : state}
    {reply : BuiltinReply} (answered : builtin command.arguments initial = (reply, after)) :
    (runBuiltin builtin command : Action state handle CommandResult) initial =
      ⟨reply.ending.outcome, [.builtin command reply], after⟩ := by
  unfold runBuiltin
  rw [Action.ask_bind_apply, answered]
  cases ended : reply.ending with
  | returned code => rfl
  | exited code => rfl
  | interrupted => rfl

theorem awaitProcess_of_interrupted {process : handle} {started after : state}
    (awaited : shell.processes.wait process started = (none, after)) :
    shell.awaitProcess process started = ⟨.interrupted, [.wait process none], after⟩ := by
  unfold awaitProcess
  rw [Action.ask_bind_apply, awaited]
  rfl

theorem awaitProcess_of_ended {process : handle} {started after : state} {status : ExitStatus}
    (awaited : shell.processes.wait process started = (some status, after)) :
    shell.awaitProcess process started =
      ⟨.returned (.ended status.code),
        .wait process (some status) ::
          (replayEvents .output status.output ++ replayEvents .diagnostics status.errors),
        after⟩ := by
  unfold awaitProcess
  rw [Action.ask_bind_apply, awaited]
  simp only [Action.bind_apply, replay_apply, Execution.follow, Action.pure_apply, List.append_nil]

/-- Every command is run in one of the four ways. -/
theorem runCommand_spec (command : Command) (initial : state) :
    shell.CommandRun command initial (shell.runCommand command initial) := by
  unfold runCommand
  rw [Action.emitIf_bind_apply]
  cases named : shell.builtins command.binary with
  | some builtin =>
      cases answered : builtin command.arguments initial with
      | mk reply after =>
          simp only [runBuiltin_apply answered]
          exact .builtin named answered
  | none =>
      simp only [runProcess, Action.ask_bind_apply]
      cases answered : shell.processes.spawn command.binary command.arguments initial with
      | mk answer started =>
          cases answer with
          | error failure => exact .refused named answered
          | ok process =>
              cases awaited : shell.processes.wait process started with
              | mk status? after =>
                  cases status? with
                  | none =>
                      simp only [shell.awaitProcess_of_interrupted awaited]
                      exact .interrupted named answered awaited
                  | some status =>
                      simp only [shell.awaitProcess_of_ended awaited]
                      exact .ended named answered awaited

end Shell

end CommandChain
