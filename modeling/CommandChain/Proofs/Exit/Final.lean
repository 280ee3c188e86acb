import CommandChain.Proofs.Evaluation.Chains
import CommandChain.Proofs.Evaluation.ShortCircuit
import CommandChain.Proofs.Loop.Reading

/-!
# The exit is final

With the standard builtins a line exits if and only if its evaluation reaches an `exit` with at most
one argument. Nothing happens after that: not in the chain, not in the line, and not in the read loop,
which leaves the lines that follow unread. An `exit` with more arguments is a command that fails.

The way down is by the places where a chain or a line stops (`Shell.ReachesCommand`). An exit is the
one ending that each of the three levels hands on as it is.
-/

namespace CommandChain

open CommandChain.Action

variable {state handle : Type}

/-! ## Arguments of an exit -/

/-- The code with which `exit` ends the shell: zero without argument, the integer that its one
argument writes, or two where that writes none. -/
inductive ExitsWith : List Text → Int → Prop
  | noArgument : ExitsWith [] 0
  | numeral {argument : Text} {code : Int} (writes : argument.toInteger? = some code) :
      ExitsWith [argument] code
  | noNumeral {argument : Text} (writesNone : argument.toInteger? = none) : ExitsWith [argument] 2

theorem exists_exitsWith {arguments : List Text} (few : arguments.length ≤ 1) :
    ∃ code, ExitsWith arguments code := by
  match arguments, few with
  | [], _ => exact ⟨0, .noArgument⟩
  | [argument], _ =>
      cases writes : argument.toInteger? with
      | none => exact ⟨2, .noNumeral writes⟩
      | some code => exact ⟨code, .numeral writes⟩

theorem ExitsWith.length_le {arguments : List Text} {code : Int}
    (exits : ExitsWith arguments code) : arguments.length ≤ 1 := by
  cases exits with
  | noArgument => exact Nat.zero_le 1
  | numeral writes => exact Nat.le_refl 1
  | noNumeral writesNone => exact Nat.le_refl 1

theorem exitReply_ending_iff {arguments : List Text} {code : Int} :
    (exitReply arguments).ending = .exited code ↔ ExitsWith arguments code := by
  constructor
  · intro exits
    match arguments, exits with
    | [], rfl => exact .noArgument
    | [argument], exits =>
        simp only [exitReply] at exits
        split at exits
        · cases exits
          exact .numeral ‹_›
        · cases exits
          exact .noNumeral ‹_›
  · intro exits
    cases exits with
    | noArgument => rfl
    | numeral writes => simp only [exitReply, writes]
    | noNumeral writesNone => simp only [exitReply, writesNone]

/-- The answer of an `exit` with too many arguments: one line, and the code of a failure. -/
theorem exitReply_of_many {arguments : List Text} (many : 2 ≤ arguments.length) :
    exitReply arguments =
      { diagnostics := Text.ofString "exit: too many arguments" ++ [Text.newline]
        ending := .returned 1 } := by
  match arguments, many with
  | _ :: _ :: _, _ => rfl

namespace Shell

variable (shell : Shell state handle)

/-! ## Reaching a command -/

/-- The evaluation of a line reaches a command, in the given state and after the given log: the
chains before that of the command do not end the line, and no element before the command stops its
chain. -/
def ReachesCommand (line : Text) (initial : state) (command : Command) (reached : state)
    (log : List (Event handle)) : Prop :=
  ∃ earlier chain later before after,
    parseLine line = .ok (earlier ++ chain :: later) ∧
      shell.ChainsPass earlier initial ∧
      chain.elements = before ++ .command command :: after ∧
      shell.Passes before (shell.worldBehindChains earlier initial) ∧
      reached = shell.worldBehind before (shell.worldBehindChains earlier initial) ∧
      log = shell.eventsOfChains earlier initial ++
        shell.eventsOfCommands before (shell.worldBehindChains earlier initial)

/-- The evaluation of a line reaches an `exit` that has at most one argument. -/
def ReachesExit (line : Text) (initial : state) (command : Command) (reached : state)
    (log : List (Event handle)) : Prop :=
  shell.ReachesCommand line initial command reached log ∧ command.binary = exitName ∧
    command.arguments.length ≤ 1

/-- What happens when an `exit` is run: it is announced, and it answers. -/
def exitEvents (command : Command) : List (Event handle) :=
  shell.announcement command ++ [.builtin command (exitReply command.arguments)]

section Lines

variable {line : Text} {initial reached : state} {command : Command} {log : List (Event handle)}
  {code : Int}

/-- A command that exits ends the line that reaches it, and its events are the last. -/
theorem runLine_of_reaches_exit
    (reaches : shell.ReachesCommand line initial command reached log)
    (exits : (shell.runCommand command reached).outcome = .exited code) :
    shell.runLine line initial =
      ⟨.exited code, log ++ (shell.runCommand command reached).events,
        (shell.runCommand command reached).final⟩ := by
  obtain ⟨earlier, chain, later, before, after, isRead, pass, cut, passes, rfl, rfl⟩ := reaches
  have chainRun := shell.runElements_of_stops passes (.exit exits) after
  rw [← cut] at chainRun
  have chainExits :
      (shell.runChain chain (shell.worldBehindChains earlier initial)).outcome = .exited code :=
    congrArg Execution.outcome chainRun
  have chainEnds :
      (shell.runChain chain (shell.worldBehindChains earlier initial)).outcome.endsLine = true := by
    rw [chainExits]
    rfl
  simp only [runLine, isRead]
  rw [shell.runChains_of_endsLine pass chainEnds]
  simp only [runChain, chainRun, eventsOfCommands_append, eventsOfCommands_command,
    worldBehind_append, List.append_assoc]
  rfl

theorem exists_reached_of_exited (exited : (shell.runLine line initial).outcome = .exited code) :
    ∃ command reached log, shell.ReachesCommand line initial command reached log ∧
      (shell.runCommand command reached).outcome = .exited code := by
  have isRead := parseLine_eq_readChains line
  simp only [runLine, isRead] at exited
  rcases shell.chainsPass_or_exists_first_end (readChains line) initial with
    pass | ⟨earlier, chain, later, cut, pass, ends⟩
  · -- A line of which no chain ends it returns.
    obtain ⟨last, lineRun⟩ := shell.runChains_append_of_pass pass 0 []
    rw [List.append_nil] at lineRun
    rw [lineRun] at exited
    cases exited
  · rw [cut, shell.runChains_of_endsLine pass ends] at exited
    have chainExited :
        (shell.runElements chain.elements (shell.worldBehindChains earlier initial)).outcome =
          .exited code := exited
    rcases shell.passes_or_exists_first_stop chain.elements
        (shell.worldBehindChains earlier initial) with
      passes | ⟨before, element, after, outcome, chainCut, passes, stops⟩
    · rw [shell.runElements_of_passes passes] at chainExited
      cases chainExited
    · rw [chainCut, shell.runElements_of_stops passes stops] at chainExited
      cases chainExited
      cases stops with
      | @exit command _ exits =>
          rw [cut] at isRead
          exact
            ⟨command, _, _,
              ⟨earlier, chain, later, before, after, isRead, pass, chainCut, passes, rfl, rfl⟩,
              exits⟩

end Lines

/-! ## The read loop -/

/-- A line that exits ends the loop, if no line before it does, whichever reads are interrupted. -/
theorem loop_of_exited (isTerminal : Bool) (interruptedReads : List Nat) (number : Nat)
    (lines : List Text) (code : Int) (initial : state) {earlier later : List Text} {line : Text}
    {exitCode : Int} (cut : lines = earlier ++ line :: later)
    (noneBefore :
      ∀ run ∈ runEach (earlier.map shell.runLine) initial, ∀ other, run.outcome ≠ .exited other)
    (exited :
      (shell.runLine line (stateAfter (earlier.map shell.runLine) initial)).outcome =
        .exited exitCode) :
    let last := shell.runLine line (stateAfter (earlier.map shell.runLine) initial)
    ∃ log,
      shell.loop isTerminal code (readsFrom interruptedReads number lines) initial =
        ⟨.returned ⟨exitCode, later.flatten⟩, log ++ last.events, last.final⟩ := by
  simp only
  induction number, lines using readsFrom.induct interruptedReads
    generalizing code initial earlier with
  | case1 number lines isInterrupted inductionHypothesis =>
      obtain ⟨log, looped⟩ := inductionHypothesis code initial cut noneBefore exited
      rw [readsFrom.eq_def, dif_pos isInterrupted, loop_interrupted_cons, looped]
      exact ⟨_, by rw [List.append_assoc]⟩
  | case2 number notInterrupted => exact absurd cut.symm (by simp)
  | case3 number notInterrupted first rest inductionHypothesis =>
      rw [readsFrom.eq_def, dif_neg notInterrupted]
      cases earlier with
      | nil =>
          obtain ⟨rfl, rfl⟩ := List.cons.inj cut
          have exitedHere : (shell.runLine first initial).outcome = .exited exitCode := exited
          simp only [shell.loop_line_cons_of_exited exitedHere, flatMap_consumed_readsFrom]
          refine ⟨shell.asking isTerminal ++ [.read (.line first)], ?_⟩
          simp [Turn.events, exitedHere, stateAfter]
      | cons before others =>
          obtain ⟨rfl, restCut⟩ := List.cons.inj cut
          obtain ⟨goesOn, othersGoOn⟩ := List.forall_mem_cons.1 noneBefore
          rcases shell.exits_or_loopCode first initial with
            ⟨other, exitedBefore⟩ | ⟨_, next, remembered⟩
          · exact absurd exitedBefore (goesOn other)
          · obtain ⟨log, looped⟩ :=
              inductionHypothesis next (shell.runLine first initial).final restCut othersGoOn exited
            simp only [shell.loop_line_cons goesOn remembered, looped]
            exact ⟨_, by rw [List.append_assoc]; rfl⟩

/-! ## Commands that fail -/

/-- A command that does nothing but answer as a builtin, and counts as a failure with code one: a
conjunction behind it ends the chain, and behind a disjunction the chain goes on. -/
structure OnlyFails (command : Command) (reply : BuiltinReply) : Prop where
  run : ∀ initial : state,
    shell.runCommand command initial =
      ⟨.returned (.ended 1), shell.announcement command ++ [.builtin command reply], initial⟩
  conjunction : ∀ (before later : List Element) (initial : state), shell.Passes before initial →
    let alone := shell.runElements before initial
    shell.runElements (before ++ .command command :: .operator (.connect .and) :: later) initial =
      ⟨.returned 1, alone.events ++ (shell.runCommand command alone.final).events, alone.final⟩
  disjunction : ∀ (before later : List Element) (initial : state), shell.Passes before initial →
    later ≠ [] →
    let alone := shell.runElements before initial
    let onward := shell.runElements later alone.final
    shell.runElements (before ++ .command command :: .operator (.connect .or) :: later) initial =
      ⟨onward.outcome,
        alone.events ++ ((shell.runCommand command alone.final).events ++ onward.events),
        onward.final⟩
  lastDisjunction : ∀ (before : List Element) (initial : state), shell.Passes before initial →
    let alone := shell.runElements before initial
    shell.runElements (before ++ [.command command, .operator (.connect .or)]) initial =
      ⟨.returned 1, alone.events ++ (shell.runCommand command alone.final).events, alone.final⟩

/-- A command behind elements that stop nothing is run, and decides about what follows it. -/
theorem runElements_of_returned {before : List Element} {initial : state} {command : Command}
    {result : CommandResult} (passes : shell.Passes before initial)
    (returned :
      (shell.runCommand command (shell.worldBehind before initial)).outcome = .returned result)
    (later : List Element) :
    let run := shell.runCommand command (shell.worldBehind before initial)
    let onward := shell.evaluate (Progress.after result) later run.final
    shell.runElements (before ++ .command command :: later) initial =
      ⟨onward.outcome, shell.eventsOfCommands before initial ++ (run.events ++ onward.events),
        onward.final⟩ := by
  simp only
  rw [shell.evaluate_append_of_passes passes, evaluate, bind_apply,
    Execution.follow_of_returned returned]

theorem onlyFails_of_run {command : Command} {reply : BuiltinReply}
    (run : ∀ initial : state,
      shell.runCommand command initial =
        ⟨.returned (.ended 1), shell.announcement command ++ [.builtin command reply], initial⟩) :
    shell.OnlyFails command reply := by
  have returned (initial : state) :
      (shell.runCommand command initial).outcome = .returned (.ended 1) := by
    rw [run]
  have sameState (initial : state) : (shell.runCommand command initial).final = initial := by
    rw [run]
  have stopsConjunction : Connective.and.endsAfter (isSuccessCode 1) = true := rfl
  have passesDisjunction : Connective.or.endsAfter (isSuccessCode 1) = false := rfl
  have nothingLeft :
      shell.evaluate (Progress.after (.ended 1)) [.operator (.connect .or)] = pure 1 := by
    have waits : (Progress.after (.ended 1)).status = some (isSuccessCode 1) := rfl
    rw [shell.evaluate_connective_of_goesOn waits passesDisjunction]
    rfl
  refine ⟨run, ?_, ?_, ?_⟩
  · intro before later initial passes
    simp only [shell.runElements_of_passes passes,
      shell.runElements_of_returned passes (returned _), sameState,
      shell.evaluate_of_endsAfter stopsConjunction, pure_apply, List.append_nil]
  · intro before later initial passes nonempty
    simp only [shell.runElements_of_passes passes,
      shell.runElements_of_returned passes (returned _), sameState,
      shell.evaluate_of_not_endsAfter passesDisjunction nonempty]
  · intro before initial passes
    simp only [shell.runElements_of_passes passes,
      shell.runElements_of_returned passes (returned _), sameState,
      nothingLeft, pure_apply, List.append_nil]

/-! ## The standard builtins -/

section Standard

variable {shell} (standard : shell.builtins = standardBuiltins) {command : Command}

include standard

theorem runCommand_exitName (named : command.binary = exitName) (initial : state) :
    shell.runCommand command initial =
      ⟨(exitReply command.arguments).ending.outcome,
        shell.announcement command ++ [.builtin command (exitReply command.arguments)],
        initial⟩ := by
  have isExit : shell.builtins command.binary = some Builtin.exit := by
    rw [standard, named, standardBuiltins_exitName]
  have run := shell.runCommand_spec command initial
  generalize shell.runCommand command initial = execution at run ⊢
  cases run with
  | builtin isBuiltin answered =>
      rw [isExit] at isBuiltin
      cases isBuiltin
      cases answered
      rfl
  | refused noBuiltin answered =>
      rw [isExit] at noBuiltin
      cases noBuiltin
  | interrupted noBuiltin answered awaited =>
      rw [isExit] at noBuiltin
      cases noBuiltin
  | ended noBuiltin answered awaited =>
      rw [isExit] at noBuiltin
      cases noBuiltin

theorem not_exited_of_ne_exitName (otherName : command.binary ≠ exitName) (initial : state)
    (code : Int) : (shell.runCommand command initial).outcome ≠ .exited code := by
  have noBuiltin : shell.builtins command.binary = none := by
    rw [standard, standardBuiltins_of_ne otherName]
  have run := shell.runCommand_spec command initial
  generalize shell.runCommand command initial = execution at run ⊢
  cases run with
  | builtin isBuiltin answered =>
      rw [noBuiltin] at isBuiltin
      cases isBuiltin
  | refused _ answered => exact nofun
  | interrupted _ answered awaited => exact nofun
  | ended _ answered awaited => exact nofun

theorem exited_iff {initial : state} {code : Int} :
    (shell.runCommand command initial).outcome = .exited code ↔
      command.binary = exitName ∧ ExitsWith command.arguments code := by
  by_cases named : command.binary = exitName
  · have sameEnding :
        (exitReply command.arguments).ending.outcome = .exited code ↔
          (exitReply command.arguments).ending = .exited code := by
      cases (exitReply command.arguments).ending <;> simp [BuiltinEnding.outcome]
    rw [runCommand_exitName standard named]
    simp only [sameEnding, exitReply_ending_iff, named, true_and]
  · exact
      iff_of_false (not_exited_of_ne_exitName standard named initial code) fun both =>
        named both.1

theorem runLine_of_reaches_exitName {line : Text} {initial reached : state}
    {log : List (Event handle)} {code : Int}
    (reaches : shell.ReachesCommand line initial command reached log)
    (named : command.binary = exitName) (exits : ExitsWith command.arguments code) :
    shell.runLine line initial =
      ⟨.exited code, log ++ shell.exitEvents command, reached⟩ := by
  have exited : (shell.runCommand command reached).outcome = .exited code :=
    (exited_iff standard).2 ⟨named, exits⟩
  rw [shell.runLine_of_reaches_exit reaches exited, runCommand_exitName standard named]
  rfl

theorem onlyFails_of_many (named : command.binary = exitName)
    (many : 2 ≤ command.arguments.length) :
    shell.OnlyFails command
      { diagnostics := Text.ofString "exit: too many arguments" ++ [Text.newline]
        ending := .returned 1 } := by
  apply shell.onlyFails_of_run
  intro initial
  rw [runCommand_exitName standard named, exitReply_of_many many]
  rfl

end Standard

/-- The exit is final, and the only way out. With the standard builtins, a line exits if and only if
its evaluation reaches an `exit` with at most one argument, and with the code that the argument
writes. That command is the last thing that happens in the line; it is also the last thing that
happens in a read loop, which returns its code and leaves the following lines unread. An `exit` with
more arguments writes one line, starts nothing and fails with code one, so a conjunction behind it
ends the chain and a disjunction goes on. -/
theorem exit_is_final (processes : ProcessLayer state handle) (tracing : Bool) (prompt : Text) :
    let shell : Shell state handle :=
      { processes := processes, tracing := tracing, prompt := prompt }
    (∀ (line : Text) (initial : state) (code : Int),
        (shell.runLine line initial).outcome = .exited code ↔
          ∃ command reached log, shell.ReachesExit line initial command reached log ∧
            ExitsWith command.arguments code) ∧
      (∀ (line : Text) (initial : state) (command : Command) (reached : state)
          (log : List (Event handle)),
        shell.ReachesExit line initial command reached log →
        ∃ code, ExitsWith command.arguments code ∧
          shell.runLine line initial =
            ⟨.exited code, log ++ shell.exitEvents command, reached⟩) ∧
      (∀ (source : ReadSource) (initial : state) (earlier later : List Text) (line : Text)
          (command : Command) (reached : state) (log : List (Event handle)),
        source.input.lines = earlier ++ line :: later →
        (∀ run ∈ runEach (earlier.map shell.runLine) initial,
          ∀ other, run.outcome ≠ .exited other) →
        shell.ReachesExit line (stateAfter (earlier.map shell.runLine) initial) command reached
          log →
        ∃ code before, ExitsWith command.arguments code ∧
          shell.readLoop source initial =
            ⟨.returned ⟨code, later.flatten⟩, before ++ (log ++ shell.exitEvents command),
              reached⟩) ∧
      (∀ command : Command, command.binary = exitName → 2 ≤ command.arguments.length →
        shell.OnlyFails command
          { diagnostics := Text.ofString "exit: too many arguments" ++ [Text.newline]
            ending := .returned 1 }) := by
  intro shell
  have standard : shell.builtins = standardBuiltins := rfl
  refine ⟨?_, ?_, ?_, ?_⟩
  · intro line initial code
    constructor
    · intro exited
      obtain ⟨command, reached, log, reaches, commandExits⟩ := shell.exists_reached_of_exited exited
      obtain ⟨named, exits⟩ := (exited_iff standard).1 commandExits
      exact ⟨command, reached, log, ⟨reaches, named, exits.length_le⟩, exits⟩
    · rintro ⟨command, reached, log, ⟨reaches, named, _⟩, exits⟩
      rw [runLine_of_reaches_exitName standard reaches named exits]
  · rintro line initial command reached log ⟨reaches, named, few⟩
    obtain ⟨code, exits⟩ := exists_exitsWith few
    exact ⟨code, exits, runLine_of_reaches_exitName standard reaches named exits⟩
  · rintro source initial earlier later line command reached log cut noneBefore
      ⟨reaches, named, few⟩
    obtain ⟨code, exits⟩ := exists_exitsWith few
    have lineRun := runLine_of_reaches_exitName standard reaches named exits
    have exited :
        (shell.runLine line (stateAfter (earlier.map shell.runLine) initial)).outcome =
          .exited code := by
      rw [lineRun]
    obtain ⟨before, looped⟩ :=
      shell.loop_of_exited source.isTerminal source.interruptedReads 0 source.input.lines 0 initial
        cut noneBefore exited
    rw [lineRun] at looped
    exact ⟨code, before, exits, looped⟩
  · intro command named many
    exact onlyFails_of_many standard named many

end Shell

end CommandChain
