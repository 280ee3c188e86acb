import CommandChain.Proofs.Evaluation.Recovery
import CommandChain.Session

/-!
# Where a chain stops

The commands of a chain are run one after another, each from the state that the one before it left,
up to the first element that stops the chain. `Shell.Stops` says which elements do, from nothing but
the runs of the commands before them: a connective that decides against the rest, a connective
without a status to act on, a semicolon, and a command that exits or is interrupted.

Elements of which none stops the chain only bring evaluation to the next element
(`evaluate_append_of_passes`), and one that stops it makes the rest irrelevant
(`runElements_of_stops`).
-/

namespace CommandChain

open CommandChain.Action

variable {state handle value : Type}

/-! ## Actions one after another -/

namespace Action

/-- The state that actions leave that are run one after another. -/
def stateAfter (actions : List (Action state handle value)) (initial : state) : state :=
  actions.foldl (fun reached action => (action reached).final) initial

theorem stateAfter_append (first later : List (Action state handle value)) (initial : state) :
    stateAfter (first ++ later) initial = stateAfter later (stateAfter first initial) :=
  List.foldl_append

theorem runEach_append :
    ∀ (first later : List (Action state handle value)) (initial : state),
      runEach (first ++ later) initial =
        runEach first initial ++ runEach later (stateAfter first initial)
  | [], _, _ => rfl
  | action :: rest, later, initial =>
      congrArg (action initial :: ·) (runEach_append rest later (action initial).final)

end Action

/-! ## Commands in logs -/

/-- The command that an event executes: a builtin is called, or a process is asked for. -/
def Event.executed? : Event handle → Option Command
  | .spawn command _ => some command
  | .builtin command _ => some command
  | _ => none

/-- The commands that were executed, in order and as often as they were. -/
def executedCommands (log : List (Event handle)) : List Command :=
  log.filterMap Event.executed?

theorem executedCommands_append (log more : List (Event handle)) :
    executedCommands (log ++ more) = executedCommands log ++ executedCommands more :=
  List.filterMap_append

theorem executedCommands_isPrefix {log longer : List (Event handle)} (isPrefix : log <+: longer) :
    executedCommands log <+: executedCommands longer :=
  isPrefix.filterMap Event.executed?

/-- The result that an outcome returns. -/
def Outcome.result? : Outcome value → Option value
  | .returned result => some result
  | _ => none

namespace Shell

variable (shell : Shell state handle)

theorem executedCommands_announcement (command : Command) :
    executedCommands (shell.announcement command) = [] := by
  unfold announcement
  split <;> rfl

theorem executedCommands_replayEvents (stream : Stream) (bytes : Option (List UInt8)) :
    executedCommands (replayEvents stream bytes : List (Event handle)) = [] := by
  match bytes with
  | none => rfl
  | some [] => rfl
  | some (_ :: _) => rfl

theorem executedCommands_runCommand (command : Command) (initial : state) :
    executedCommands (shell.runCommand command initial).events = [command] := by
  have run := shell.runCommand_spec command initial
  generalize shell.runCommand command initial = execution at run ⊢
  cases run with
  | builtin named answered =>
      rw [executedCommands_append, executedCommands_announcement]
      rfl
  | refused noBuiltin answered =>
      rw [executedCommands_append, executedCommands_announcement]
      rfl
  | interrupted noBuiltin answered awaited =>
      rw [executedCommands_append, executedCommands_announcement]
      rfl
  | @ended process _ _ status noBuiltin answered awaited =>
      rw [executedCommands_append, executedCommands_announcement]
      show command :: executedCommands (replayEvents .output status.output ++
        replayEvents .diagnostics status.errors) = [command]
      rw [executedCommands_append, executedCommands_replayEvents, executedCommands_replayEvents]
      rfl

/-! ## The commands before an element -/

/-- The runs of the commands among elements, each from the state that the one before it left. -/
def commandRuns (elements : List Element) (initial : state) :
    List (Execution state handle CommandResult) :=
  runEach ((commandsOf elements).map shell.runCommand) initial

/-- The state that the commands among elements leave. -/
def worldBehind (elements : List Element) (initial : state) : state :=
  stateAfter ((commandsOf elements).map shell.runCommand) initial

/-- What happens while the commands among elements are run. -/
def eventsOfCommands (elements : List Element) (initial : state) : List (Event handle) :=
  (shell.commandRuns elements initial).flatMap Execution.events

/-- The result of the last command among elements. -/
def lastResult? (elements : List Element) (initial : state) : Option CommandResult :=
  (shell.commandRuns elements initial).getLast?.bind fun run => run.outcome.result?

/-- The status that elements leave to an operator behind them: that of the command just before it.
Behind an operator there is none. -/
def statusBehind (elements : List Element) (initial : state) : Option Bool :=
  if elements.getLast?.any Element.isCommand then
    (shell.lastResult? elements initial).bind CommandResult.status?
  else none

/-- The code that elements leave: that of their last command, or zero without one. -/
def codeBehind (elements : List Element) (initial : state) : Int :=
  ((shell.lastResult? elements initial).map CommandResult.code).getD 0

/-- How far a chain has come behind elements that do not stop it. -/
def progressBehind (elements : List Element) (initial : state) : Progress :=
  ⟨shell.statusBehind elements initial, shell.codeBehind elements initial⟩

/-- The ways in which an element stops its chain, given the elements before it, and how the chain
ends. -/
inductive Stops (before : List Element) (initial : state) : Element → Outcome Int → Prop
  /-- a conjunction is reached after a failure -/
  | conjunction (failed : shell.statusBehind before initial = some false) :
      Stops before initial (.operator (.connect .and))
        (.returned (shell.codeBehind before initial))
  /-- a disjunction is reached after a success -/
  | disjunction (succeeded : shell.statusBehind before initial = some true) :
      Stops before initial (.operator (.connect .or))
        (.returned (shell.codeBehind before initial))
  /-- a connective is reached with no status -/
  | missingOperand (connective : Connective)
      (nothingWaits : shell.statusBehind before initial = none) :
      Stops before initial (.operator (.connect connective)) (.failed (.missingOperand connective))
  /-- a semicolon is reached -/
  | sequence : Stops before initial (.operator .sequence) (.failed .misplacedSequence)
  /-- a command exits -/
  | exit {command : Command} {code : Int}
      (exited :
        (shell.runCommand command (shell.worldBehind before initial)).outcome = .exited code) :
      Stops before initial (.command command) (.exited code)
  /-- a command is interrupted -/
  | interrupt {command : Command}
      (interrupted :
        (shell.runCommand command (shell.worldBehind before initial)).outcome = .interrupted) :
      Stops before initial (.command command) .interrupted

/-- None of the elements stops the chain. -/
def Passes (elements : List Element) (initial : state) : Prop :=
  ∀ earlier element later outcome, elements = earlier ++ element :: later →
    ¬ shell.Stops earlier initial element outcome

/-! ## One more element -/

section Snoc

variable {before : List Element} {initial : state}

theorem commandRuns_append (first later : List Element) (initial : state) :
    shell.commandRuns (first ++ later) initial =
      shell.commandRuns first initial ++
        shell.commandRuns later (shell.worldBehind first initial) := by
  simp only [commandRuns, worldBehind, commandsOf_append, List.map_append, runEach_append]

theorem worldBehind_append (first later : List Element) (initial : state) :
    shell.worldBehind (first ++ later) initial =
      shell.worldBehind later (shell.worldBehind first initial) := by
  simp only [worldBehind, commandsOf_append, List.map_append, stateAfter_append]

theorem eventsOfCommands_append (first later : List Element) (initial : state) :
    shell.eventsOfCommands (first ++ later) initial =
      shell.eventsOfCommands first initial ++
        shell.eventsOfCommands later (shell.worldBehind first initial) := by
  rw [eventsOfCommands, commandRuns_append, List.flatMap_append]
  rfl

theorem eventsOfCommands_command (command : Command) (initial : state) :
    shell.eventsOfCommands [.command command] initial =
      (shell.runCommand command initial).events :=
  List.flatMap_singleton _ _

theorem progressBehind_append_command {command : Command} {result : CommandResult}
    (returned :
      (shell.runCommand command (shell.worldBehind before initial)).outcome = .returned result) :
    shell.progressBehind (before ++ [.command command]) initial = Progress.after result := by
  have last : shell.lastResult? (before ++ [.command command]) initial = some result := by
    rw [lastResult?, commandRuns_append]
    show (shell.commandRuns before initial ++
      [shell.runCommand command (shell.worldBehind before initial)]).getLast?.bind _ = some result
    rw [List.getLast?_concat, Option.bind_some, returned]
    rfl
  simp [progressBehind, statusBehind, codeBehind, last, Element.isCommand, Progress.after]

theorem progressBehind_append_operator (operator : Operator) :
    shell.progressBehind (before ++ [.operator operator]) initial =
      (shell.progressBehind before initial).taken := by
  have sameRuns :
      shell.commandRuns (before ++ [.operator operator]) initial =
        shell.commandRuns before initial := by
    rw [commandRuns_append]
    exact List.append_nil _
  simp [progressBehind, statusBehind, codeBehind, lastResult?, sameRuns, Element.isCommand,
    Progress.taken]

theorem evaluate_connective_of_goesOn {progress : Progress} {connective : Connective}
    {succeeded : Bool} (waits : progress.status = some succeeded)
    (goesOn : connective.endsAfter succeeded = false) (later : List Element) :
    shell.evaluate progress (.operator (.connect connective) :: later) =
      shell.evaluate progress.taken later := by
  simp [evaluate, waits, goesOn]

theorem evaluate_connective_of_ends {progress : Progress} {connective : Connective}
    {succeeded : Bool} (waits : progress.status = some succeeded)
    (ends : connective.endsAfter succeeded = true) (later : List Element) :
    shell.evaluate progress (.operator (.connect connective) :: later) = pure progress.code := by
  simp [evaluate, waits, ends]

/-- A connective that stops no chain finds a status that lets the chain go on. -/
theorem exists_status_of_not_stops {connective : Connective}
    (goesOn : ∀ outcome, ¬ shell.Stops before initial (.operator (.connect connective)) outcome) :
    ∃ succeeded, shell.statusBehind before initial = some succeeded ∧
      connective.endsAfter succeeded = false := by
  cases waits : shell.statusBehind before initial with
  | none => exact absurd (.missingOperand connective waits) (goesOn _)
  | some succeeded =>
      refine ⟨succeeded, rfl, ?_⟩
      cases connective with
      | and =>
          cases succeeded with
          | true => rfl
          | false => exact absurd (.conjunction waits) (goesOn _)
      | or =>
          cases succeeded with
          | true => exact absurd (.disjunction waits) (goesOn _)
          | false => rfl

theorem exists_result_of_not_stops {command : Command}
    (goesOn : ∀ outcome, ¬ shell.Stops before initial (.command command) outcome) :
    ∃ result,
      (shell.runCommand command (shell.worldBehind before initial)).outcome = .returned result := by
  have neverFails : FailsOnlyWith (fun _ => False) (shell.runCommand command) :=
    shell.failsOnlyWith_runCommand command
  rcases neverFails.ending (shell.worldBehind before initial) with
    returned | ⟨code, exited⟩ | interrupted
  · exact returned
  · exact absurd (.exit exited) (goesOn _)
  · exact absurd (.interrupt interrupted) (goesOn _)

theorem evaluate_of_not_stops {element : Element}
    (goesOn : ∀ outcome, ¬ shell.Stops before initial element outcome) (later : List Element) :
    shell.evaluate (shell.progressBehind before initial) (element :: later)
        (shell.worldBehind before initial) =
      let onward := shell.evaluate (shell.progressBehind (before ++ [element]) initial) later
        (shell.worldBehind (before ++ [element]) initial)
      ⟨onward.outcome,
        shell.eventsOfCommands [element] (shell.worldBehind before initial) ++ onward.events,
        onward.final⟩ := by
  cases element with
  | command command =>
      obtain ⟨result, returned⟩ := shell.exists_result_of_not_stops goesOn
      rw [shell.progressBehind_append_command returned, worldBehind_append, evaluate, bind_apply,
        Execution.follow_of_returned returned, eventsOfCommands_command]
      rfl
  | operator operator =>
      cases operator with
      | sequence => exact absurd .sequence (goesOn _)
      | connect connective =>
          obtain ⟨succeeded, waits, goesOnAfter⟩ := shell.exists_status_of_not_stops goesOn
          rw [shell.progressBehind_append_operator, worldBehind_append]
          exact
            congrFun (shell.evaluate_connective_of_goesOn waits goesOnAfter later)
              (shell.worldBehind before initial)

theorem evaluate_of_stops {element : Element} {outcome : Outcome Int}
    (stops : shell.Stops before initial element outcome) (later : List Element) :
    shell.evaluate (shell.progressBehind before initial) (element :: later)
        (shell.worldBehind before initial) =
      ⟨outcome, shell.eventsOfCommands [element] (shell.worldBehind before initial),
        shell.worldBehind [element] (shell.worldBehind before initial)⟩ := by
  cases stops with
  | conjunction failed =>
      rw [shell.evaluate_connective_of_ends failed rfl]
      rfl
  | disjunction succeeded =>
      rw [shell.evaluate_connective_of_ends succeeded rfl]
      rfl
  | missingOperand connective nothingWaits =>
      have noStatus : (shell.progressBehind before initial).status = none := nothingWaits
      simp only [evaluate, noStatus]
      rfl
  | sequence => rfl
  | exit exited =>
      rw [evaluate, bind_apply, Execution.follow, exited, eventsOfCommands_command]
      rfl
  | interrupt interrupted =>
      rw [evaluate, bind_apply, Execution.follow, interrupted, eventsOfCommands_command]
      rfl

end Snoc

/-! ## Elements that stop nothing -/

variable {shell} in
theorem Passes.of_append {first later : List Element} {initial : state}
    (passes : shell.Passes (first ++ later) initial) : shell.Passes first initial := by
  intro earlier element rest outcome equality
  apply passes earlier element (rest ++ later) outcome
  rw [equality, List.append_assoc, List.cons_append]

theorem passes_nil (initial : state) : shell.Passes [] initial := by
  intro earlier element later outcome equality
  exact absurd equality.symm (by simp)

variable {shell} in
theorem Passes.snoc {before : List Element} {initial : state} {element : Element}
    (passes : shell.Passes before initial)
    (goesOn : ∀ outcome, ¬ shell.Stops before initial element outcome) :
    shell.Passes (before ++ [element]) initial := by
  intro earlier other later outcome equality
  rcases List.eq_nil_or_concat later with rfl | ⟨rest, last, rfl⟩
  · obtain ⟨rfl, same⟩ := List.append_inj' equality rfl
    cases same
    exact goesOn outcome
  · rw [List.concat_eq_append, ← List.cons_append, ← List.append_assoc] at equality
    exact passes earlier other rest outcome (List.append_inj' equality rfl).1

/-- Elements that do not stop the chain bring evaluation to what follows them: their commands are
run, one after another. -/
theorem evaluate_append_of_passes {before : List Element} {initial : state}
    (passes : shell.Passes before initial) (later : List Element) :
    shell.runElements (before ++ later) initial =
      let onward := shell.evaluate (shell.progressBehind before initial) later
        (shell.worldBehind before initial)
      ⟨onward.outcome, shell.eventsOfCommands before initial ++ onward.events, onward.final⟩ := by
  -- The next element always stands behind all others, so the induction is from the end.
  induction before using List.reverseRecOn generalizing later with
  | nil => rfl
  | append_singleton earlier element inductionHypothesis =>
      have goesOn : ∀ outcome, ¬ shell.Stops earlier initial element outcome := fun outcome =>
        passes earlier element [] outcome rfl
      rw [List.append_assoc, inductionHypothesis passes.of_append]
      simp only [List.singleton_append, shell.evaluate_of_not_stops goesOn,
        eventsOfCommands_append, List.append_assoc]

/-- Elements of which none stops the chain run all their commands, and return. -/
theorem runElements_of_passes {elements : List Element} {initial : state}
    (passes : shell.Passes elements initial) :
    shell.runElements elements initial =
      ⟨.returned (shell.codeBehind elements initial), shell.eventsOfCommands elements initial,
        shell.worldBehind elements initial⟩ := by
  have whole := shell.evaluate_append_of_passes passes []
  rw [List.append_nil] at whole
  rw [whole]
  simp [evaluate, pure_apply, progressBehind]

/-- The first element that stops the chain ends it, whatever follows. -/
theorem runElements_of_stops {before : List Element} {initial : state} {element : Element}
    {outcome : Outcome Int} (passes : shell.Passes before initial)
    (stops : shell.Stops before initial element outcome) (later : List Element) :
    shell.runElements (before ++ element :: later) initial =
      ⟨outcome, shell.eventsOfCommands (before ++ [element]) initial,
        shell.worldBehind (before ++ [element]) initial⟩ := by
  rw [shell.evaluate_append_of_passes passes, shell.evaluate_of_stops stops,
    eventsOfCommands_append, worldBehind_append]

/-- Among elements either none stops the chain, or there is a first that does. -/
theorem passes_or_exists_first_stop (elements : List Element) (initial : state) :
    shell.Passes elements initial ∨
      ∃ before element later outcome, elements = before ++ element :: later ∧
        shell.Passes before initial ∧ shell.Stops before initial element outcome := by
  induction elements using List.reverseRecOn with
  | nil => exact Or.inl (shell.passes_nil initial)
  | append_singleton earlier element inductionHypothesis =>
      rcases inductionHypothesis with
        passes | ⟨before, first, later, outcome, rfl, passes, stops⟩
      · by_cases stops : ∃ outcome, shell.Stops earlier initial element outcome
        · obtain ⟨outcome, stops⟩ := stops
          exact Or.inr ⟨earlier, element, [], outcome, rfl, passes, stops⟩
        · exact Or.inl (passes.snoc (not_exists.1 stops))
      · exact Or.inr ⟨before, first, later ++ [element], outcome, by simp, passes, stops⟩

theorem executedCommands_eventsOfCommands (elements : List Element) (initial : state) :
    executedCommands (shell.eventsOfCommands elements initial) = commandsOf elements := by
  unfold eventsOfCommands commandRuns
  generalize commandsOf elements = commands
  induction commands generalizing initial with
  | nil => rfl
  | cons command later inductionHypothesis =>
      rw [List.map_cons, runEach, List.flatMap_cons, executedCommands_append,
        executedCommands_runCommand, inductionHypothesis]
      rfl

end Shell

end CommandChain
