import CommandChain.Proofs.Evaluation.Chains
import CommandChain.Proofs.Evaluation.Tracing

/-!
# What a line writes

The two streams of a line are told from the answers of builtins and processes alone. `Shell.errorsOf`
and `Shell.outputOf` say what one command writes, `Shell.errorsOfChain` what a chain does; a line
writes that, command by command and chain by chain, and nothing else.
-/

namespace CommandChain

open CommandChain.Action

variable {state handle value : Type}

/-! ## Items with the states that they start from -/

namespace Action

variable {item : Type} (action : item → Action state handle value)

/-- Items in order, each with the state from which its action is run. -/
def withStarts : List item → state → List (item × state)
  | [], _ => []
  | first :: later, initial =>
      (first, initial) :: withStarts later (action first initial).final

theorem withStarts_append :
    ∀ (first later : List item) (initial : state),
      withStarts action (first ++ later) initial =
        withStarts action first initial ++
          withStarts action later (stateAfter (first.map action) initial)
  | [], _, _ => rfl
  | head :: rest, later, initial =>
      congrArg ((head, initial) :: ·) (withStarts_append rest later (action head initial).final)

theorem runEach_eq_map_withStarts :
    ∀ (items : List item) (initial : state),
      runEach (items.map action) initial =
        (withStarts action items initial).map fun start => action start.1 start.2
  | [], _ => rfl
  | first :: later, initial =>
      congrArg (action first initial :: ·)
        (runEach_eq_map_withStarts later (action first initial).final)

end Action

/-! ## Texts of a log -/

/-- What an event writes to a stream. -/
def Event.textOn : Stream → Event handle → Text
  | .output => Event.outputText
  | .diagnostics => Event.diagnosticText

/-- What a log writes to a stream. -/
def writtenOn (stream : Stream) (log : List (Event handle)) : Text :=
  log.flatMap (Event.textOn stream)

theorem writtenOn_append (stream : Stream) (log more : List (Event handle)) :
    writtenOn stream (log ++ more) = writtenOn stream log ++ writtenOn stream more :=
  List.flatMap_append

theorem writtenOn_replayEvents (stream : Stream) (bytes : Option (List UInt8)) :
    writtenOn stream (replayEvents stream bytes : List (Event handle)) =
      Text.ofBytesReplacing (bytes.getD []) := by
  match bytes with
  | none => exact Text.ofBytesReplacing_nil.symm
  | some [] => exact Text.ofBytesReplacing_nil.symm
  | some (first :: rest) =>
      cases stream with
      | output => exact List.flatMap_singleton _ _
      | diagnostics => exact List.flatMap_singleton _ _

theorem writtenOn_replayEvents_of_ne {stream other : Stream} (different : stream ≠ other)
    (bytes : Option (List UInt8)) :
    writtenOn stream (replayEvents other bytes : List (Event handle)) = [] := by
  match bytes with
  | none => rfl
  | some [] => rfl
  | some (first :: rest) =>
      cases stream with
      | output =>
          cases other with
          | output => exact absurd rfl different
          | diagnostics => rfl
      | diagnostics =>
          cases other with
          | output => rfl
          | diagnostics => exact absurd rfl different

namespace Shell

variable (shell : Shell state handle)

/-! ## One command -/

/-- What a command writes to the diagnostics stream when it is run from a state: if the shell traces,
its announcement; then what its builtin wrote, or why it could not be started, or what was captured
of its errors. -/
def errorsOf (command : Command) (initial : state) : Text :=
  (if shell.tracing then Text.ofString "Running: " ++ command.display ++ [Text.newline] else []) ++
    match shell.builtins command.binary with
    | some builtin => (builtin command.arguments initial).1.diagnostics
    | none =>
        match shell.processes.spawn command.binary command.arguments initial with
        | (.error failure, _) =>
            Text.ofString "chain-shell: " ++ failure.binary ++ Text.ofString ": " ++
              failure.reason ++ [Text.newline]
        | (.ok process, started) =>
            match (shell.processes.wait process started).1 with
            | none => []
            | some status => Text.ofBytesReplacing (status.errors.getD [])

/-- What a command writes to the output stream when it is run from a state: what was captured of its
output. -/
def outputOf (command : Command) (initial : state) : Text :=
  match shell.builtins command.binary with
  | some _ => []
  | none =>
      match shell.processes.spawn command.binary command.arguments initial with
      | (.error _, _) => []
      | (.ok process, started) =>
          match (shell.processes.wait process started).1 with
          | none => []
          | some status => Text.ofBytesReplacing (status.output.getD [])

/-- What a command writes to a stream. -/
def textOf : Stream → Command → state → Text
  | .output => shell.outputOf
  | .diagnostics => shell.errorsOf

theorem writtenOn_output_announcement (command : Command) :
    writtenOn .output (shell.announcement command) = [] := by
  unfold announcement
  split <;> rfl

theorem writtenOn_diagnostics_announcement (command : Command) :
    writtenOn .diagnostics (shell.announcement command) =
      if shell.tracing then Text.ofString "Running: " ++ command.display ++ [Text.newline]
      else [] := by
  unfold announcement
  split
  · exact List.flatMap_singleton _ _
  · rfl

theorem writtenOn_diagnostics_runCommand (command : Command) (initial : state) :
    writtenOn .diagnostics (shell.runCommand command initial).events =
      shell.errorsOf command initial := by
  have run := shell.runCommand_spec command initial
  generalize shell.runCommand command initial = execution at run ⊢
  unfold errorsOf
  cases run with
  | builtin named answered =>
      simp only [writtenOn_append, writtenOn_diagnostics_announcement, named, answered]
      exact congrArg _ (List.flatMap_singleton _ _)
  | refused noBuiltin answered =>
      simp only [writtenOn_append, writtenOn_diagnostics_announcement, noBuiltin, answered]
      simp [writtenOn, Event.textOn, Event.diagnosticText, Diagnostic.text, SpawnFailure.message]
  | interrupted noBuiltin answered awaited =>
      simp only [writtenOn_append, writtenOn_diagnostics_announcement, noBuiltin, answered, awaited]
      rfl
  | @ended process _ _ status noBuiltin answered awaited =>
      simp only [writtenOn_append, writtenOn_diagnostics_announcement, noBuiltin, answered, awaited]
      apply congrArg
      show writtenOn .diagnostics (replayEvents .output status.output ++
        replayEvents .diagnostics status.errors) = _
      have different : Stream.diagnostics ≠ .output := by decide
      rw [writtenOn_append, writtenOn_replayEvents_of_ne different, writtenOn_replayEvents,
        List.nil_append]

theorem writtenOn_output_runCommand (command : Command) (initial : state) :
    writtenOn .output (shell.runCommand command initial).events =
      shell.outputOf command initial := by
  have run := shell.runCommand_spec command initial
  generalize shell.runCommand command initial = execution at run ⊢
  unfold outputOf
  cases run with
  | builtin named answered =>
      simp only [writtenOn_append, writtenOn_output_announcement, named]
      rfl
  | refused noBuiltin answered =>
      simp only [writtenOn_append, writtenOn_output_announcement, noBuiltin, answered]
      rfl
  | interrupted noBuiltin answered awaited =>
      simp only [writtenOn_append, writtenOn_output_announcement, noBuiltin, answered, awaited]
      rfl
  | @ended process _ _ status noBuiltin answered awaited =>
      simp only [writtenOn_append, writtenOn_output_announcement, noBuiltin, answered, awaited]
      show writtenOn .output (replayEvents .output status.output ++
        replayEvents .diagnostics status.errors) = _
      have different : Stream.output ≠ .diagnostics := by decide
      rw [writtenOn_append, writtenOn_replayEvents_of_ne different, writtenOn_replayEvents,
        List.append_nil]

theorem writtenOn_runCommand (stream : Stream) (command : Command) (initial : state) :
    writtenOn stream (shell.runCommand command initial).events =
      shell.textOf stream command initial := by
  cases stream with
  | output => exact shell.writtenOn_output_runCommand command initial
  | diagnostics => exact shell.writtenOn_diagnostics_runCommand command initial

/-! ## Commands one after another -/

/-- What commands write to a stream when they are run one after another. -/
def textOfCommands (stream : Stream) (commands : List Command) (initial : state) : Text :=
  (withStarts shell.runCommand commands initial).flatMap fun start =>
    shell.textOf stream start.1 start.2

theorem textOfCommands_append (stream : Stream) (first later : List Command) (initial : state) :
    shell.textOfCommands stream (first ++ later) initial =
      shell.textOfCommands stream first initial ++
        shell.textOfCommands stream later (stateAfter (first.map shell.runCommand) initial) := by
  simp only [textOfCommands, withStarts_append, List.flatMap_append]

theorem writtenOn_eventsOfCommands (stream : Stream) (elements : List Element) (initial : state) :
    writtenOn stream (shell.eventsOfCommands elements initial) =
      shell.textOfCommands stream (commandsOf elements) initial := by
  simp only [writtenOn, eventsOfCommands, commandRuns, runEach_eq_map_withStarts, textOfCommands,
    List.flatMap_map, List.flatMap_assoc]
  congr 1
  funext start
  exact shell.writtenOn_runCommand stream start.1 start.2

/-- An execution that runs the commands that it executes one after another and writes nothing but
what they write. -/
structure RunsCommands (initial : state) (run : Execution state handle value) : Prop where
  final : run.final = stateAfter ((executedCommands run.events).map shell.runCommand) initial
  written : ∀ stream,
    writtenOn stream run.events =
      shell.textOfCommands stream (executedCommands run.events) initial

theorem runsCommands_runElements (elements : List Element) (initial : state) :
    shell.RunsCommands initial (shell.runElements elements initial) := by
  have ofCommands (ran : List Element) (outcome : Outcome Int) :
      shell.RunsCommands initial
        ⟨outcome, shell.eventsOfCommands ran initial, shell.worldBehind ran initial⟩ :=
    { final := by
        rw [executedCommands_eventsOfCommands]
        rfl
      written := by
        intro stream
        rw [executedCommands_eventsOfCommands, writtenOn_eventsOfCommands] }
  rcases shell.passes_or_exists_first_stop elements initial with
    passes | ⟨before, element, later, outcome, rfl, passes, stops⟩
  · rw [shell.runElements_of_passes passes]
    exact ofCommands elements _
  · rw [shell.runElements_of_stops passes stops]
    exact ofCommands (before ++ [element]) outcome

end Shell

/-! ## Chains one after another -/

/-- What a line writes about a chain that ended in the given way: one line, if an operand was
missing. -/
def Outcome.complaint : Outcome Int → Text
  | .failed (.missingOperand connective) =>
      Text.ofString "chain-shell: syntax error: " ++ Text.ofString "no command result before '" ++
        connective.literal ++ [.char '\'', Text.newline]
  | _ => []

namespace Shell

variable (shell : Shell state handle)

/-- What a chain writes to the diagnostics stream when it is run from a state: what its commands
write, and the complaint about a missing operand. -/
def errorsOfChain (chain : Chain) (initial : state) : Text :=
  let run := shell.runChain chain initial
  shell.textOfCommands .diagnostics (executedCommands run.events) initial ++ run.outcome.complaint

theorem executedCommands_report (outcome : Outcome Int) :
    executedCommands (outcome.report : List (Event handle)) = [] := by
  cases outcome <;> rfl

theorem writtenOn_output_report (outcome : Outcome Int) :
    writtenOn .output (outcome.report : List (Event handle)) = [] := by
  cases outcome <;> rfl

theorem writtenOn_diagnostics_report (chain : Chain) (initial : state) :
    writtenOn .diagnostics ((shell.runChain chain initial).outcome.report : List (Event handle)) =
      (shell.runChain chain initial).outcome.complaint := by
  cases ended : (shell.runChain chain initial).outcome with
  | failed error =>
      obtain ⟨connective, rfl⟩ := shell.failsOnlyWith_runChain chain initial error ended
      simp [writtenOn, Outcome.report, Outcome.complaint, Event.textOn, Event.diagnosticText,
        Diagnostic.text, ShellError.message]
  | _ => rfl

theorem writtenOn_diagnostics_eventsOfChains (chains : List Chain) (initial : state) :
    writtenOn .diagnostics (shell.eventsOfChains chains initial) =
      (withStarts shell.runChain chains initial).flatMap fun start =>
        shell.errorsOfChain start.1 start.2 := by
  simp only [writtenOn, eventsOfChains, chainRuns, runEach_eq_map_withStarts, List.flatMap_map,
    List.flatMap_assoc]
  congr 1
  funext start
  have chainWrites := (shell.runsCommands_runElements start.1.elements start.2).written .diagnostics
  have reported := shell.writtenOn_diagnostics_report start.1 start.2
  show writtenOn .diagnostics ((shell.runChain start.1 start.2).events ++ _) = _
  rw [writtenOn_append, reported]
  exact congrArg (· ++ _) chainWrites

/-- Chains one after another are commands one after another, as far as the output goes. -/
theorem output_eventsOfChains :
    ∀ (chains : List Chain) (initial : state),
      shell.worldBehindChains chains initial =
          stateAfter ((executedCommands (shell.eventsOfChains chains initial)).map shell.runCommand)
            initial ∧
        writtenOn .output (shell.eventsOfChains chains initial) =
          shell.textOfCommands .output (executedCommands (shell.eventsOfChains chains initial))
            initial
  | [], _ => ⟨rfl, rfl⟩
  | chain :: rest, initial => by
      have chainRuns := shell.runsCommands_runElements chain.elements initial
      have chainEvents :
          shell.eventsOfChains (chain :: rest) initial =
            ((shell.runElements chain.elements initial).events ++
              (shell.runElements chain.elements initial).outcome.report) ++
              shell.eventsOfChains rest (shell.runElements chain.elements initial).final := rfl
      obtain ⟨restFinal, restWrites⟩ :=
        output_eventsOfChains rest (shell.runElements chain.elements initial).final
      rw [chainEvents, executedCommands_append, executedCommands_append, executedCommands_report,
        List.append_nil, List.map_append, stateAfter_append, textOfCommands_append,
        writtenOn_append, writtenOn_append, writtenOn_output_report, List.append_nil,
        chainRuns.written, ← chainRuns.final]
      exact ⟨restFinal, congrArg _ restWrites⟩

theorem executedCommands_eventsOfChains (chains : List Chain) (initial : state) :
    executedCommands (shell.eventsOfChains chains initial) =
      (withStarts shell.runChain chains initial).flatMap fun start =>
        executedCommands (shell.runChain start.1 start.2).events := by
  simp only [executedCommands, eventsOfChains, chainRuns, runEach_eq_map_withStarts,
    List.flatMap_map, List.filterMap_flatMap]
  congr 1
  funext start
  show executedCommands ((shell.runChain start.1 start.2).events ++ _) = _
  rw [executedCommands_append, executedCommands_report, List.append_nil]
  rfl

/-- Every failure is reported once, and nothing else is written. What a line writes to the
diagnostics stream is, chain by chain, what the commands that were executed write, in order, and a
complaint where the chain ended for lack of an operand. What it writes to the output stream is what
was captured of the commands that were executed, in order. Tracing only adds the announcements. -/
theorem failures_reported_once (line : Text) (initial : state) :
    let whole := shell.runLine line initial
    (∃ ran left, parseLine line = .ok (ran ++ left) ∧
        (left ≠ [] → whole.outcome.endsLine = true) ∧
        (executedCommands whole.events =
          (withStarts shell.runChain ran initial).flatMap fun start =>
            executedCommands (shell.runChain start.1 start.2).events) ∧
        writtenOn .diagnostics whole.events =
          (withStarts shell.runChain ran initial).flatMap fun start =>
            shell.errorsOfChain start.1 start.2) ∧
      (writtenOn .output whole.events =
        (withStarts shell.runCommand (executedCommands whole.events) initial).flatMap fun start =>
          shell.outputOf start.1 start.2) ∧
      (let traced := { shell with tracing := true }.runLine line initial
       let plain := { shell with tracing := false }.runLine line initial
       plain.events = withoutAnnouncements traced.events ∧ plain.outcome = traced.outcome ∧
         plain.final = traced.final) := by
  simp only
  obtain ⟨ran, left, isRead, ended, events, _⟩ := shell.exists_chains_of_runLine line initial
  refine ⟨⟨ran, left, isRead, ended, ?_, ?_⟩, ?_, ?_⟩
  · rw [events, executedCommands_eventsOfChains]
  · rw [events, writtenOn_diagnostics_eventsOfChains]
  · rw [events]
    exact (shell.output_eventsOfChains ran initial).2
  · have unannounced := { shell with tracing := true }.unannounced_runLine line initial
    have sameRun :
        { shell with tracing := false }.runLine line initial =
          ({ shell with tracing := true }.runLine line initial).unannounced := unannounced.symm
    rw [sameRun]
    exact ⟨rfl, rfl, rfl⟩

end Shell

end CommandChain
