import CommandChain.Proofs.Evaluation.Stop

/-!
# The prefix of a chain that is run

A chain runs a prefix of its commands, each exactly once: those before the first element that stops
it, and that element if it is a command. `Shell.RunsPrefix` says so of an evaluation of any elements,
together with what the chain returns and with the effects that it has.
-/

namespace CommandChain

open CommandChain.Action

variable {state handle : Type}

namespace Shell

variable (shell : Shell state handle)

/-! ## Codes of commands -/

/-- The codes that a command can give to its chain: the code with which it ended, or 127 if its
process could not be started. -/
inductive GivesCode (command : Command) (initial : state) : Int → Prop
  | ended {code : Int}
      (ended : (shell.runCommand command initial).outcome = .returned (.ended code)) :
      GivesCode command initial code
  | notStarted {failure : SpawnFailure} (noBuiltin : shell.builtins command.binary = none)
      (refused :
        (shell.processes.spawn command.binary command.arguments initial).1 = .error failure) :
      GivesCode command initial 127

/-- A command that returns without a status was refused by the process layer. -/
theorem exists_refusal_of_notStarted {command : Command} {initial : state}
    (returned : (shell.runCommand command initial).outcome = .returned .notStarted) :
    shell.builtins command.binary = none ∧
      ∃ failure,
        (shell.processes.spawn command.binary command.arguments initial).1 = .error failure := by
  have run := shell.runCommand_spec command initial
  generalize shell.runCommand command initial = execution at run returned
  cases run with
  | @builtin _ reply _ named answered =>
      cases reply with
      | mk diagnostics ending => cases ending <;> cases returned
  | @refused failure _ noBuiltin answered => exact ⟨noBuiltin, failure, by rw [answered]⟩
  | interrupted noBuiltin answered awaited => cases returned
  | ended noBuiltin answered awaited => cases returned

theorem givesCode_of_returned {command : Command} {initial : state} {result : CommandResult}
    (returned : (shell.runCommand command initial).outcome = .returned result) :
    shell.GivesCode command initial result.code := by
  cases result with
  | ended code => exact .ended returned
  | notStarted =>
      obtain ⟨noBuiltin, failure, refused⟩ := shell.exists_refusal_of_notStarted returned
      exact .notStarted noBuiltin refused

/-- The code behind elements that stop nothing is that of their last command. -/
theorem givesCode_codeBehind {elements : List Element} {initial : state}
    (passes : shell.Passes elements initial) :
    (commandsOf elements = [] ∧ shell.codeBehind elements initial = 0) ∨
      ∃ earlier command, commandsOf elements = earlier ++ [command] ∧
        shell.GivesCode command (stateAfter (earlier.map shell.runCommand) initial)
          (shell.codeBehind elements initial) := by
  induction elements using List.reverseRecOn with
  | nil => exact Or.inl ⟨rfl, rfl⟩
  | append_singleton earlier element inductionHypothesis =>
      rw [commandsOf_append]
      cases element with
      | operator operator =>
          have sameCode :
              shell.codeBehind (earlier ++ [.operator operator]) initial =
                shell.codeBehind earlier initial :=
            congrArg Progress.code (shell.progressBehind_append_operator operator)
          rw [sameCode]
          show (commandsOf earlier ++ [] = [] ∧ _) ∨ ∃ before last, commandsOf earlier ++ [] = _ ∧ _
          rw [List.append_nil]
          exact inductionHypothesis passes.of_append
      | command command =>
          obtain ⟨result, returned⟩ :=
            shell.exists_result_of_not_stops fun outcome => passes earlier _ [] outcome rfl
          have lastCode :
              shell.codeBehind (earlier ++ [.command command]) initial = result.code :=
            congrArg Progress.code (shell.progressBehind_append_command returned)
          rw [lastCode]
          exact
            Or.inr ⟨commandsOf earlier, command, rfl, shell.givesCode_of_returned returned⟩

/-! ## A chain as a whole -/

/-- An evaluation of elements that runs a prefix of their commands: `before` are the elements before
the first that stops the chain, and `stop?` is that element, if there is one. -/
structure RunsPrefix (elements : List Element) (initial : state) (before : List Element)
    (stop? : Option Element) (whole : Execution state handle Int) : Prop where
  /-- the stopping element follows the elements before it, and without one these are all -/
  cut : (stop? = none ∧ elements = before) ∨
    ∃ element later, stop? = some element ∧ elements = before ++ element :: later
  /-- none of the elements before stops the chain -/
  noneBefore : shell.Passes before initial
  /-- the chain ends as the stopping element ends it -/
  stops : ∀ element ∈ stop?, shell.Stops before initial element whole.outcome
  /-- without a stopping element the chain returns -/
  returns : stop? = none → ∃ code, whole.outcome = .returned code
  /-- the commands that are executed are those up to the stopping element, which are the first of
  all, each once and in order -/
  executed : executedCommands whole.events = commandsOf (before ++ stop?.toList) ∧
    ∃ count, executedCommands whole.events = (commandsOf elements).take count
  /-- a code that is returned is that of the last command executed, or zero if there was none -/
  code : ∀ code, whole.outcome = .returned code →
    (executedCommands whole.events = [] ∧ code = 0) ∨
      ∃ earlier command, executedCommands whole.events = earlier ++ [command] ∧
        shell.GivesCode command (stateAfter (earlier.map shell.runCommand) initial) code
  /-- the elements before have the effects that they have alone, which are those of their commands
  run one after another; only a command that stops the chain adds effects of its own -/
  effects :
    let alone := shell.runElements before initial
    (∃ code, alone.outcome = .returned code) ∧
      alone.events = shell.eventsOfCommands before initial ∧
      (∀ command, stop? = some (.command command) →
        whole.events = alone.events ++ (shell.runCommand command alone.final).events ∧
          whole.final = (shell.runCommand command alone.final).final) ∧
      ((∀ command, stop? ≠ some (.command command)) →
        whole.events = alone.events ∧ whole.final = alone.final)

variable {shell} in
/-- A chain is only stopped with a code by a connective, and with the code so far. -/
theorem Stops.of_returned {before : List Element} {initial : state} {element : Element}
    {outcome : Outcome Int} {code : Int} (stops : shell.Stops before initial element outcome)
    (returned : outcome = .returned code) :
    element.command? = none ∧ code = shell.codeBehind before initial := by
  cases stops with
  | conjunction failed =>
      cases returned
      exact ⟨rfl, rfl⟩
  | disjunction succeeded =>
      cases returned
      exact ⟨rfl, rfl⟩
  | missingOperand connective nothingWaits => cases returned
  | sequence => cases returned
  | exit exited => cases returned
  | interrupt interrupted => cases returned

theorem commandsOf_of_not_command {element : Element} (notCommand : element.command? = none) :
    commandsOf [element] = [] :=
  List.filterMap_cons_none notCommand

theorem runsPrefix_of_passes {elements : List Element} {initial : state}
    (passes : shell.Passes elements initial) :
    shell.RunsPrefix elements initial elements none (shell.runElements elements initial) := by
  rw [shell.runElements_of_passes passes]
  exact
    { cut := Or.inl ⟨rfl, rfl⟩
      noneBefore := passes
      stops := by simp
      returns := fun _ => ⟨_, rfl⟩
      executed := by
        rw [executedCommands_eventsOfCommands, Option.toList_none, List.append_nil]
        exact ⟨rfl, _, List.take_length.symm⟩
      code := by
        intro code returned
        cases returned
        rw [executedCommands_eventsOfCommands]
        exact shell.givesCode_codeBehind passes
      effects := by
        rw [shell.runElements_of_passes passes]
        exact ⟨⟨_, rfl⟩, rfl, by simp, fun _ => ⟨rfl, rfl⟩⟩ }

theorem runsPrefix_of_stops {before later : List Element} {element : Element} {initial : state}
    {outcome : Outcome Int} (passes : shell.Passes before initial)
    (stops : shell.Stops before initial element outcome) :
    shell.RunsPrefix (before ++ element :: later) initial before (some element)
      (shell.runElements (before ++ element :: later) initial) := by
  rw [shell.runElements_of_stops passes stops]
  exact
    { cut := Or.inr ⟨element, later, rfl, rfl⟩
      noneBefore := passes
      stops := by simp [stops]
      returns := by simp
      executed := by
        have split :
            commandsOf (before ++ element :: later) =
              commandsOf (before ++ [element]) ++ commandsOf later := by
          rw [← commandsOf_append, ← List.append_cons]
        rw [executedCommands_eventsOfCommands, split]
        exact ⟨rfl, _, List.take_left.symm⟩
      code := by
        intro code returned
        obtain ⟨notCommand, rfl⟩ := stops.of_returned returned
        rw [executedCommands_eventsOfCommands, commandsOf_append,
          commandsOf_of_not_command notCommand, List.append_nil]
        exact shell.givesCode_codeBehind passes
      effects := by
        rw [shell.runElements_of_passes passes, eventsOfCommands_append, worldBehind_append]
        refine ⟨⟨_, rfl⟩, rfl, ?_, ?_⟩
        · intro command isCommand
          cases isCommand
          exact ⟨congrArg _ (shell.eventsOfCommands_command command _), rfl⟩
        · intro notCommand
          cases element with
          | command command => exact absurd rfl (notCommand command)
          | operator operator => exact ⟨List.append_nil _, rfl⟩ }

/-- A chain runs a prefix of its commands, each exactly once and from the state that the one before
it left: those before the first element that stops the chain, and that element if it is a command
itself. It ends as that element ends it, and otherwise returns. The code that it returns is that of
the last command that was executed. -/
theorem chain_runs_prefix (elements : List Element) (initial : state) :
    ∃ before stop?,
      shell.RunsPrefix elements initial before stop? (shell.runElements elements initial) := by
  rcases shell.passes_or_exists_first_stop elements initial with
    passes | ⟨before, element, later, outcome, rfl, passes, stops⟩
  · exact ⟨elements, none, shell.runsPrefix_of_passes passes⟩
  · exact ⟨before, some element, shell.runsPrefix_of_stops passes stops⟩

end Shell

end CommandChain
