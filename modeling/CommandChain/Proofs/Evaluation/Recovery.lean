import CommandChain.Proofs.Evaluation.Command
import CommandChain.Proofs.Execution
import CommandChain.Proofs.Line.Chain
import CommandChain.Shell.ReadLoop

/-!
# Recovery from errors

No error leaves the place where it is dealt with. A line is always read. A command that cannot be
started only leaves no status. The one error of a chain is a missing operand, and the line that
holds the chain reports it and goes on. So a line returns, exits or is interrupted, and the read
loop always returns.
-/

namespace CommandChain

open CommandChain.Action

variable {state handle : Type}

/-- The error of a connective that has no command result to act on. -/
def ShellError.IsMissingOperand (error : ShellError) : Prop :=
  ∃ connective, error = .missingOperand connective

namespace Shell

variable (shell : Shell state handle)

/-! ## Commands -/

/-- A command returns, exits or is interrupted. -/
theorem failsOnlyWith_runCommand {allowed : ShellError → Prop} (command : Command) :
    FailsOnlyWith allowed (shell.runCommand command) := by
  intro initial error failed
  have run := shell.runCommand_spec command initial
  generalize shell.runCommand command initial = execution at run failed
  cases run with
  | @builtin _ reply _ named answered =>
      cases reply with
      | mk diagnostics ending =>
          cases ending with
          | returned code => cases failed
          | exited code => cases failed
          | interrupted => cases failed
  | refused noBuiltin answered => cases failed
  | interrupted noBuiltin answered awaited => cases failed
  | ended noBuiltin answered awaited => cases failed

/-- A command that cannot be started returns like any other, but without a status. -/
theorem runCommand_of_spawn_error {command : Command} {initial : state} {failure : SpawnFailure}
    (noBuiltin : shell.builtins command.binary = none)
    (refused :
      (shell.processes.spawn command.binary command.arguments initial).1 = .error failure) :
    (shell.runCommand command initial).outcome = .returned .notStarted := by
  have run := shell.runCommand_spec command initial
  generalize shell.runCommand command initial = execution at run ⊢
  cases run with
  | builtin named answered =>
      rw [noBuiltin] at named
      cases named
  | refused noBuiltin answered => rfl
  | interrupted noBuiltin answered awaited =>
      rw [answered] at refused
      cases refused
  | ended noBuiltin answered awaited =>
      rw [answered] at refused
      cases refused

/-! ## Chains and lines -/

/-- Without a semicolon among them, elements fail with nothing but a missing operand. -/
theorem failsOnlyWith_evaluate :
    ∀ {elements : List Element}, Element.operator .sequence ∉ elements → ∀ progress,
      FailsOnlyWith ShellError.IsMissingOperand (shell.evaluate progress elements)
  | [], _, progress => failsOnlyWith_pure progress.code
  | .command command :: rest, noSequence, _ => by
      have restNoSequence : Element.operator .sequence ∉ rest := fun member =>
        noSequence (List.mem_cons_of_mem _ member)
      refine (shell.failsOnlyWith_runCommand command).bind ?_
      intro _ result _
      exact failsOnlyWith_evaluate restNoSequence (Progress.after result)
  | .operator .sequence :: _, noSequence, _ => absurd List.mem_cons_self noSequence
  | .operator (.connect connective) :: rest, noSequence, progress => by
      have restNoSequence : Element.operator .sequence ∉ rest := fun member =>
        noSequence (List.mem_cons_of_mem _ member)
      unfold evaluate
      split
      · apply failsOnlyWith_finish
        intro error same
        cases same
        exact ⟨connective, rfl⟩
      · split
        · exact failsOnlyWith_pure progress.code
        · exact failsOnlyWith_evaluate restNoSequence progress.taken

theorem failsOnlyWith_runChain (chain : Chain) :
    FailsOnlyWith ShellError.IsMissingOperand (shell.runChain chain) :=
  shell.failsOnlyWith_evaluate chain.sequence_not_mem Progress.start

/-- A missing operand is reported. -/
theorem runChainRecovering_of_missingOperand {chain : Chain} {initial : state}
    {connective : Connective}
    (missing : (shell.runChain chain initial).outcome = .failed (.missingOperand connective)) :
    shell.runChainRecovering chain initial =
      ⟨.returned syntaxErrorCode,
        (shell.runChain chain initial).events ++
          [.diagnostic (.syntaxError (.missingOperand connective))],
        (shell.runChain chain initial).final⟩ := by
  simp only [runChainRecovering, bind_apply, observe, Execution.follow, missing]
  rfl

/-- Any other ending of a chain is left as it is. -/
theorem runChainRecovering_of_not_missing {chain : Chain} {initial : state}
    (notMissing : ∀ connective,
      (shell.runChain chain initial).outcome ≠ .failed (.missingOperand connective)) :
    shell.runChainRecovering chain initial = shell.runChain chain initial := by
  simp only [runChainRecovering, bind_apply, observe, Execution.follow, finish, List.append_nil]

/-- The error of a chain is caught by the line that holds it. -/
theorem failsOnlyWith_runChainRecovering (chain : Chain) :
    FailsOnlyWith (fun _ => False) (shell.runChainRecovering chain) := by
  refine (failsOnlyWith_observe _).bind ?_
  intro initial outcome observed
  have ended : (shell.runChain chain initial).outcome = outcome := by
    cases observed
    rfl
  cases outcome with
  | returned code =>
      exact failsOnlyWith_finish nofun
  | failed error =>
      obtain ⟨connective, rfl⟩ := shell.failsOnlyWith_runChain chain initial error ended
      refine (failsOnlyWith_emit _).bind ?_
      intro _ _ _
      exact failsOnlyWith_pure _
  | exited code =>
      exact failsOnlyWith_finish nofun
  | interrupted =>
      exact failsOnlyWith_finish nofun

theorem failsOnlyWith_runChains :
    ∀ (chains : List Chain) (code : Int),
      FailsOnlyWith (fun _ => False) (shell.runChains code chains)
  | [], code => failsOnlyWith_pure code
  | chain :: rest, _ => by
      refine (shell.failsOnlyWith_runChainRecovering chain).bind ?_
      intro _ code _
      exact failsOnlyWith_runChains rest code

/-- No error leaves a line. -/
theorem failsOnlyWith_runLine (line : Text) :
    FailsOnlyWith (fun _ => False) (shell.runLine line) := by
  obtain ⟨chains, isRead, _⟩ := exists_parseLine line
  simp only [runLine, isRead]
  exact shell.failsOnlyWith_runChains chains 0

/-! ## The read loop -/

theorem returns_breakLine : Returns (breakLine : Action state handle Unit) :=
  returns_emit _

theorem returns_loop (isTerminal : Bool) :
    ∀ (reads : List Read) (code : Int), Returns (shell.loop isTerminal code reads)
  | [], code => by
      refine (returns_emitIf _ _).bind ?_
      intro _ _ _
      refine (returns_emit _).bind ?_
      intro _ _ _
      exact returns_pure _
  | .interrupted :: later, code => by
      refine (returns_emitIf _ _).bind ?_
      intro _ _ _
      refine (returns_emit _).bind ?_
      intro _ _ _
      refine returns_breakLine.bind ?_
      intro _ _ _
      exact returns_loop isTerminal later code
  | .line line :: later, _ => by
      refine (returns_emitIf _ _).bind ?_
      intro _ _ _
      refine (returns_emit _).bind ?_
      intro _ _ _
      refine (returns_observe _).bind ?_
      intro initial outcome observed
      have ended : (shell.runLine line initial).outcome = outcome := by
        cases observed
        rfl
      cases outcome with
      | returned code => exact returns_loop isTerminal later code
      | exited code => exact returns_pure _
      | interrupted =>
          refine returns_breakLine.bind ?_
          intro _ _ _
          exact returns_loop isTerminal later interruptedCode
      | failed error => exact absurd ended (shell.failsOnlyWith_runLine line initial error)

/-- No error is fatal. Every line is read; a command that cannot be started returns without a
status; a line returns a code, exits or is interrupted; and the read loop returns a code for every
input and all interrupted reads. -/
theorem no_error_escapes :
    (∀ line, ∃ chains, parseLine line = .ok chains) ∧
      (∀ (command : Command) (initial : state) (failure : SpawnFailure),
        shell.builtins command.binary = none →
        (shell.processes.spawn command.binary command.arguments initial).1 = .error failure →
        (shell.runCommand command initial).outcome = .returned .notStarted) ∧
      (∀ (line : Text) (initial : state),
        (∃ code, (shell.runLine line initial).outcome = .returned code) ∨
          (∃ code, (shell.runLine line initial).outcome = .exited code) ∨
          (shell.runLine line initial).outcome = .interrupted) ∧
      (∀ (source : ReadSource) (initial : state),
        ∃ ended, (shell.readLoop source initial).outcome = .returned ended) := by
  refine ⟨?_, ?_, ?_, ?_⟩
  · intro line
    obtain ⟨chains, isRead, _⟩ := exists_parseLine line
    exact ⟨chains, isRead⟩
  · intro command initial failure noBuiltin refused
    exact shell.runCommand_of_spawn_error noBuiltin refused
  · intro line
    exact (shell.failsOnlyWith_runLine line).ending
  · intro source
    exact shell.returns_loop source.isTerminal source.reads 0

end Shell

end CommandChain
