import CommandChain.CommandLine
import CommandChain.Proofs.Evaluation.Recoding
import CommandChain.Proofs.Evaluation.Replay
import CommandChain.Proofs.Evaluation.Returned

/-!
# Raw statuses of children

The shell of the command line reports a child by a code that is made from its raw status. Only the
raw status zero is reported as zero, so each connective decides as it would on the raw statuses
themselves: the shell is the recoded form of one that reports them as they are
(`shellOf_eq_recoded`). A child that a signal ended has failed, and no line returns a negative code.
-/

namespace CommandChain

open CommandChain.Action

variable {state : Type}

/-! ## Reporting raw statuses -/

namespace ExitStatus

theorem codeOfRaw_neg {signal : Int} (positive : 0 < signal) :
    codeOfRaw (-signal) = 128 + signal := by
  have negative : -signal < 0 := by omega
  rw [codeOfRaw, if_pos negative]
  omega

theorem isSuccessCode_codeOfRaw (raw : Int) :
    isSuccessCode (codeOfRaw raw) = decide (raw = 0) := by
  by_cases isZero : raw = 0
  · rw [isZero]
    rfl
  · have notZero : codeOfRaw raw ≠ 0 := by
      intro becomes
      exact isZero ((codeOfRaw_eq_zero_iff raw).1 becomes)
    rw [isSuccessCode, beq_eq_false_iff_ne.2 notZero, decide_eq_false isZero]

end ExitStatus

/-- The status of a child with its raw status for a code. -/
def Child.rawExitStatus (child : Child) : ExitStatus :=
  { child.exitStatus with code := child.run.rawStatus }

theorem Child.code_exitStatus (child : Child) :
    child.exitStatus.code = ExitStatus.codeOfRaw child.run.rawStatus := by
  unfold Child.exitStatus
  split
  · rfl
  · rfl

theorem Child.exitStatus_eq_recoded (child : Child) :
    child.exitStatus = child.rawExitStatus.recoded ExitStatus.codeOfRaw := by
  unfold ExitStatus.recoded rawExitStatus
  rw [← child.code_exitStatus]

/-- The process layer of a system that reports raw statuses as they are. -/
def rawLayer (system : System state) (captures : Bool) : ProcessLayer state Child where
  spawn := (childLayer system captures).spawn
  wait child world := (some child.rawExitStatus, world)

theorem childLayer_eq_recoded (system : System state) (captures : Bool) :
    childLayer system captures = (rawLayer system captures).recoded ExitStatus.codeOfRaw := by
  have sameWait :
      (childLayer system captures).wait =
        ((rawLayer system captures).recoded ExitStatus.codeOfRaw).wait := by
    funext child world
    show (some child.exitStatus, world) = _
    rw [child.exitStatus_eq_recoded]
    rfl
  show ProcessLayer.mk _ (childLayer system captures).wait = _
  rw [sameWait]
  rfl

/-! ## Codes of the shell's own -/

theorem eq_exitName_of_standardBuiltins {name : Text} {builtin : Builtin state}
    (named : standardBuiltins name = some builtin) : name = exitName ∧ builtin = Builtin.exit := by
  by_cases isExit : name = exitName
  · rw [isExit, standardBuiltins_exitName] at named
    exact ⟨isExit, (Option.some.inj named).symm⟩
  · rw [standardBuiltins_of_ne isExit] at named
    cases named

/-- The one code that `exit` returns is that of too many arguments. -/
theorem eq_one_of_exitReply {arguments : List Text} {code : Int}
    (returned : (exitReply arguments).ending = .returned code) : code = 1 := by
  match arguments with
  | [] => cases returned
  | [argument] =>
      cases value : argument.toInteger? with
      | some number => simp [exitReply, value] at returned
      | none => simp [exitReply, value] at returned
  | _ :: _ :: _ =>
      cases returned
      rfl

theorem exitReply_not_interrupted (arguments : List Text) :
    (exitReply arguments).ending ≠ .interrupted := by
  match arguments with
  | [] => nofun
  | [argument] =>
      cases value : argument.toInteger? with
      | some number => simp [exitReply, value]
      | none => simp [exitReply, value]
  | _ :: _ :: _ => nofun

theorem isRecoding_codeOfRaw :
    IsRecoding ExitStatus.codeOfRaw (standardBuiltins : BuiltinTable state) where
  zero_iff := ExitStatus.codeOfRaw_eq_zero_iff
  notStarted := rfl
  syntaxError := rfl
  builtin := by
    intro name builtin named arguments world code returned
    obtain ⟨_, rfl⟩ := eq_exitName_of_standardBuiltins named
    rw [eq_one_of_exitReply returned]
    rfl

namespace CommandLine

/-- The shell that settings ask for, on a system whose raw statuses are reported as they are. -/
def rawShellOf (system : System state) (settings : Settings) : Shell state Child :=
  { shellOf system settings with processes := rawLayer system settings.capture }

theorem shellOf_eq_recoded (system : System state) (settings : Settings) :
    shellOf system settings = (rawShellOf system settings).recoded ExitStatus.codeOfRaw := by
  unfold shellOf
  rw [childLayer_eq_recoded]
  rfl

theorem runLine_eq_recoded (system : System state) (settings : Settings) (line : Text)
    (initial : state) :
    (shellOf system settings).runLine line initial =
      ((rawShellOf system settings).runLine line initial).recoded ExitStatus.codeOfRaw
        ExitStatus.codeOfRaw := by
  rw [shellOf_eq_recoded]
  exact Shell.recodes_runLine isRecoding_codeOfRaw line initial

section Children

variable {system : System state} {settings : Settings} {command : Command} {initial after : state}
  {run : ProgramRun}

theorem spawn_childLayer {captures : Bool} {name : Text} {arguments : List Text}
    (started : system name arguments initial = (.ok run, after)) :
    (childLayer system captures).spawn name arguments initial = (.ok ⟨run, captures⟩, after) := by
  simp only [childLayer, started]

theorem exists_run_of_spawn_childLayer {captures : Bool} {name : Text} {arguments : List Text}
    {child : Child}
    (started : (childLayer system captures).spawn name arguments initial = (.ok child, after)) :
    system name arguments initial = (.ok child.run, after) := by
  cases asked : system name arguments initial with
  | mk answer world =>
      cases answer with
      | error fault =>
          simp only [childLayer, asked] at started
          cases started
      | ok run =>
          rw [spawn_childLayer asked] at started
          cases started
          rfl

/-- Waiting for a child is never interrupted, and neither is `exit`. -/
theorem runCommand_not_interrupted (command : Command) (initial : state) :
    ((shellOf system settings).runCommand command initial).outcome ≠ .interrupted := by
  have ran := (shellOf system settings).runCommand_spec command initial
  generalize (shellOf system settings).runCommand command initial = execution at ran ⊢
  cases ran with
  | @builtin builtin reply after named answered =>
      obtain ⟨_, rfl⟩ := eq_exitName_of_standardBuiltins named
      obtain ⟨rfl, rfl⟩ := Prod.mk.inj answered
      cases replied : (exitReply command.arguments).ending with
      | interrupted => exact absurd replied (exitReply_not_interrupted command.arguments)
      | _ => nofun
  | interrupted noBuiltin answered awaited => cases awaited
  | _ => nofun

/-- A command that could give the code zero was started as a child with the raw status zero. -/
theorem rawStatus_of_givesCode_zero
    (gives : (shellOf system settings).GivesCode command initial 0) :
    command.binary ≠ exitName ∧
      ∃ run, (system command.binary command.arguments initial).1 = .ok run ∧ run.rawStatus = 0 := by
  generalize given : (0 : Int) = code at gives
  cases gives with
  | notStarted noBuiltin refused => cases given
  | ended ended =>
      subst given
      have ran := (shellOf system settings).runCommand_spec command initial
      generalize (shellOf system settings).runCommand command initial = execution at ran ended
      cases ran with
      | @builtin builtin reply after named answered =>
          obtain ⟨_, rfl⟩ := eq_exitName_of_standardBuiltins named
          obtain ⟨rfl, rfl⟩ := Prod.mk.inj answered
          cases replied : (exitReply command.arguments).ending with
          | returned code =>
              have isOne := eq_one_of_exitReply replied
              simp only [replied, BuiltinEnding.outcome, isOne] at ended
              cases ended
          | exited code =>
              simp only [replied, BuiltinEnding.outcome] at ended
              cases ended
          | interrupted =>
              simp only [replied, BuiltinEnding.outcome] at ended
              cases ended
      | refused noBuiltin answered => cases ended
      | interrupted noBuiltin answered awaited => cases ended
      | @ended child started after status noBuiltin answered awaited =>
          refine ⟨?_, ?_⟩
          · intro isExit
            have named : (standardBuiltins command.binary : Option (Builtin state)) = none :=
              noBuiltin
            rw [isExit, standardBuiltins_exitName] at named
            cases named
          · have codeIsZero : status.code = 0 :=
              CommandResult.ended.inj (Outcome.returned.inj ended)
            have isStatus : child.exitStatus = status :=
              Option.some.inj (Prod.mk.inj awaited).1
            rw [← isStatus, child.code_exitStatus, ExitStatus.codeOfRaw_eq_zero_iff] at codeIsZero
            have startedBy := exists_run_of_spawn_childLayer answered
            exact ⟨child.run, congrArg Prod.fst startedBy, codeIsZero⟩

/-! ## Lines -/

section Lines

variable {line : Text} {code : Int}

theorem code_nonneg_of_returned
    (returned : ((shellOf system settings).runLine line initial).outcome = .returned code) :
    0 ≤ code := by
  rw [runLine_eq_recoded] at returned
  cases raw : ((rawShellOf system settings).runLine line initial).outcome with
  | returned rawCode =>
      simp only [Execution.recoded, raw, Outcome.map] at returned
      cases returned
      exact ExitStatus.codeOfRaw_nonneg rawCode
  | _ =>
      simp only [Execution.recoded, raw, Outcome.map] at returned
      cases returned

/-- The last command of a line that returns zero was a child with the raw status zero. -/
theorem rawStatus_of_returned_zero
    (returned : ((shellOf system settings).runLine line initial).outcome = .returned 0) :
    parseLine line = .ok [] ∨
      ∃ before last earlier command run,
        parseLine line = .ok (before ++ [last]) ∧
          let shell := shellOf system settings
          let world := shell.worldBehindChains before initial
          executedCommands (shell.runChain last world).events = earlier ++ [command] ∧
            command.binary ≠ exitName ∧
            (system command.binary command.arguments
                (stateAfter (earlier.map shell.runCommand) world)).1 = .ok run ∧
            run.rawStatus = 0 := by
  rcases (shellOf system settings).lastChain_of_returned_zero returned with
    noChain | ⟨before, last, isLine, zero⟩
  · exact Or.inl noChain
  · obtain ⟨earlier, command, executed, gives⟩ :=
      (shellOf system settings).exists_last_of_returned last.elements_ne_nil zero
    obtain ⟨notExit, run, started, isZero⟩ := rawStatus_of_givesCode_zero gives
    exact
      Or.inr ⟨before, last, earlier, command, run, isLine, executed, notExit, started, isZero⟩

theorem returns_or_exits (system : System state) (settings : Settings) (line : Text)
    (initial : state) :
    (∃ code, ((shellOf system settings).runLine line initial).outcome = .returned code) ∨
      ∃ code, ((shellOf system settings).runLine line initial).outcome = .exited code := by
  rcases ((shellOf system settings).failsOnlyWith_runLine line).ending initial with
    returned | exited | interrupted
  · exact Or.inl returned
  · exact Or.inr exited
  · have never : ((shellOf system settings).runLine line initial).outcome ≠ .interrupted :=
      Shell.runLine_not_interrupted runCommand_not_interrupted line initial
    exact absurd interrupted never

end Lines

variable (system settings) in
/-- A connective behind a command that was started as a child decides on the raw status. -/
theorem evaluate_connective_of_child (notExit : command.binary ≠ exitName)
    (started : system command.binary command.arguments initial = (.ok run, after))
    (progress : Progress) (connective : Connective) (rest : List Element) :
    let shell := shellOf system settings
    let child : Child := ⟨run, settings.capture⟩
    let code := ExitStatus.codeOfRaw run.rawStatus
    let events := shell.eventsOfEnded command child child.exitStatus
    shell.runCommand command initial = ⟨.returned (.ended code), events, after⟩ ∧
      shell.evaluate progress (.command command :: .operator (.connect connective) :: rest)
          initial =
        if connective.endsAfter (decide (run.rawStatus = 0)) then ⟨.returned code, events, after⟩
        else
          let onward := shell.evaluate ⟨none, code⟩ rest after
          ⟨onward.outcome, events ++ onward.events, onward.final⟩ := by
  intro shell child code events
  have noBuiltin : shell.builtins command.binary = none := standardBuiltins_of_ne notExit
  have answered :
      shell.processes.spawn command.binary command.arguments initial = (.ok child, after) :=
    spawn_childLayer started
  have awaited : shell.processes.wait child after = (some child.exitStatus, after) := rfl
  have isCode : child.exitStatus.code = code := child.code_exitStatus
  have waits :
      (Progress.after (.ended child.exitStatus.code)).status =
        some (decide (run.rawStatus = 0)) := by
    show some (isSuccessCode child.exitStatus.code) = _
    rw [isCode, ExitStatus.isSuccessCode_codeOfRaw]
  constructor
  · rw [← isCode]
    exact Shell.runCommand_of_ended noBuiltin answered awaited
  · rw [Shell.evaluate_command_of_ended noBuiltin answered awaited]
    by_cases ends : connective.endsAfter (decide (run.rawStatus = 0)) = true
    · rw [if_pos ends, shell.evaluate_connective_of_ends waits ends]
      show (⟨.returned child.exitStatus.code, events ++ [], after⟩ : Execution state Child Int) = _
      rw [isCode, List.append_nil]
    · rw [if_neg ends,
        shell.evaluate_connective_of_goesOn waits (Bool.eq_false_iff.2 ends), ← isCode]
      rfl

/-- Signals are failures, and codes are never negative. On every system, a line does exactly what it
does where raw statuses are reported as they are, with each of them recoded; so a connective behind
a child decides on whether its raw status is zero. A child that a signal ended gives a code of its
own for that signal, which is no success, and what is behind it is evaluated after a disjunction
only. A line returns no negative code, and it returns zero only if it holds no chain or if the last
command that its last chain executed was a child with the raw status zero. A line that does not
return is ended by an exit, and only the code of an exit may be negative. -/
theorem signals_fail_and_no_code_is_negative (system : System state) (settings : Settings) :
    let shell := shellOf system settings
    (∀ (line : Text) (initial : state),
      shell.runLine line initial =
        ((rawShellOf system settings).runLine line initial).recoded ExitStatus.codeOfRaw
          ExitStatus.codeOfRaw) ∧
      (∀ (command : Command) (initial after : state) (run : ProgramRun),
        command.binary ≠ exitName →
        system command.binary command.arguments initial = (.ok run, after) →
        ∀ (progress : Progress) (connective : Connective) (rest : List Element),
          let child : Child := ⟨run, settings.capture⟩
          let code := ExitStatus.codeOfRaw run.rawStatus
          let events := shell.eventsOfEnded command child child.exitStatus
          shell.runCommand command initial = ⟨.returned (.ended code), events, after⟩ ∧
            shell.evaluate progress (.command command :: .operator (.connect connective) :: rest)
                initial =
              if connective.endsAfter (decide (run.rawStatus = 0)) then
                ⟨.returned code, events, after⟩
              else
                let onward := shell.evaluate ⟨none, code⟩ rest after
                ⟨onward.outcome, events ++ onward.events, onward.final⟩) ∧
      (∀ signal : Int, 0 < signal →
        ExitStatus.codeOfRaw (-signal) = 128 + signal ∧
          isSuccessCode (ExitStatus.codeOfRaw (-signal)) = false ∧
          ∀ other : Int, 0 < other →
            ExitStatus.codeOfRaw (-signal) = ExitStatus.codeOfRaw (-other) → signal = other) ∧
      ∀ (line : Text) (initial : state),
        (∃ code, (shell.runLine line initial).outcome = .returned code ∧ 0 ≤ code ∧
            (code = 0 →
              parseLine line = .ok [] ∨
                ∃ before last earlier command run,
                  parseLine line = .ok (before ++ [last]) ∧
                    let world := shell.worldBehindChains before initial
                    executedCommands (shell.runChain last world).events = earlier ++ [command] ∧
                      command.binary ≠ exitName ∧
                      (system command.binary command.arguments
                          (stateAfter (earlier.map shell.runCommand) world)).1 = .ok run ∧
                      run.rawStatus = 0)) ∨
          ∃ code, (shell.runLine line initial).outcome = .exited code := by
  intro shell
  refine ⟨runLine_eq_recoded system settings, ?_, ?_, ?_⟩
  · intro command initial after run notExit started progress connective rest
    exact
      evaluate_connective_of_child system settings notExit started progress connective rest
  · intro signal positive
    refine ⟨ExitStatus.codeOfRaw_neg positive, ?_, ?_⟩
    · rw [ExitStatus.isSuccessCode_codeOfRaw]
      exact decide_eq_false (by omega)
    · intro other otherPositive same
      rw [ExitStatus.codeOfRaw_neg positive, ExitStatus.codeOfRaw_neg otherPositive] at same
      omega
  · intro line initial
    rcases returns_or_exits system settings line initial with ⟨code, returned⟩ | exited
    · refine Or.inl ⟨code, returned, code_nonneg_of_returned returned, ?_⟩
      rintro rfl
      exact rawStatus_of_returned_zero returned
    · exact Or.inr exited

/-- Children that signal 9 ends, or that end regularly. The code of an exit may be negative. -/
theorem signals_fail_and_no_code_is_negative_of_kill :
    let killed := Text.ofString "killed"
    let system : System Unit := fun name _ world =>
      (.ok { rawStatus := if name = killed then -9 else 0 }, world)
    let shell := shellOf system {}
    let command : Command := ⟨killed, [], by decide⟩
    let child : Child := ⟨{ rawStatus := -9 }, false⟩
    let events : List (Event Child) :=
      [.spawn command (.ok child), .wait child (some { code := 137 })]
    let line := Text.ofString "killed && fine; killed || fine"
    (shell.runCommand command () = ⟨.returned (.ended 137), events, ()⟩ ∧
        shell.evaluate Progress.start
            [.command command, .operator (.connect .and), .command command] () =
          ⟨.returned 137, events, ()⟩) ∧
      (isSuccessCode (ExitStatus.codeOfRaw (-9)) = false ∧
        ExitStatus.codeOfRaw (-9) ≠ ExitStatus.codeOfRaw (-15)) ∧
      ((shell.runLine line ()).outcome = .returned 0 ∧
        ∃ code, (shell.runLine line ()).outcome = .returned code ∧ 0 ≤ code ∧
          (parseLine line = .ok [] ∨ ∃ before last, parseLine line = .ok (before ++ [last]))) ∧
      (shell.runLine (Text.ofString "exit -1") ()).outcome = .exited (-1) := by
  intro killed system shell command child events line
  obtain ⟨_, decides, signals, ending⟩ := signals_fail_and_no_code_is_negative system {}
  have isKilled : system command.binary command.arguments () = (.ok child.run, ()) := by decide
  obtain ⟨ran, decided⟩ :=
    decides command () () child.run (by decide) isKilled Progress.start .and [.command command]
  obtain ⟨_, failure, distinct⟩ := signals 9 (by decide)
  have returnsZero : (shell.runLine line ()).outcome = .returned 0 := by decide +kernel
  have exits : (shell.runLine (Text.ofString "exit -1") ()).outcome = .exited (-1) := by
    decide +kernel
  have apart : ExitStatus.codeOfRaw (-9) ≠ ExitStatus.codeOfRaw (-15) := by
    intro same
    exact absurd (distinct 15 (by decide) same) (by decide)
  refine ⟨⟨ran, decided⟩, ⟨failure, apart⟩, ⟨returnsZero, ?_⟩, exits⟩
  rcases ending line () with ⟨code, returned, nonneg, ofZero⟩ | ⟨code, exited⟩
  · have isZero : code = 0 := Outcome.returned.inj (returned.symm.trans returnsZero)
    refine ⟨code, returned, nonneg, ?_⟩
    rcases ofZero isZero with noChain | ⟨before, last, _, _, _, isLine, _⟩
    · exact Or.inl noChain
    · exact Or.inr ⟨before, last, isLine⟩
  · exact absurd (exited.symm.trans returnsZero) (by simp)

end Children

end CommandLine

end CommandChain
