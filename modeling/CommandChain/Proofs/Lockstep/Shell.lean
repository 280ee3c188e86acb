import CommandChain.Proofs.Lockstep.Rules
import CommandChain.Session

/-!
# Shells in step

Two shells whose builtins have the same names stay in step through commands, chains, lines and read
loops, whatever they trace, prompt or replay. What one part leaves to the next is related on the two
sides: codes that are both zero or both not, and equal statuses for the operators to act on.
-/

namespace CommandChain

open CommandChain.Action

variable {leftState rightState leftHandle rightHandle : Type}

/-! ## Results that agree -/

/-- Results of a command that both report a success, both a failure, or both no start. -/
inductive SameResult : CommandResult → CommandResult → Prop
  | ended {left right : Int} (same : SameSuccess left right) :
      SameResult (.ended left) (.ended right)
  | notStarted : SameResult .notStarted .notStarted

/-- Chains that have come equally far: the same status waits for an operator. -/
structure SameProgress (left right : Progress) : Prop where
  status : left.status = right.status
  code : SameSuccess left.code right.code

theorem SameProgress.start : SameProgress Progress.start Progress.start where
  status := rfl
  code := SameSuccess.refl 0

theorem SameProgress.taken {left right : Progress} (same : SameProgress left right) :
    SameProgress left.taken right.taken where
  status := rfl
  code := same.code

theorem SameResult.after {left right : CommandResult} (same : SameResult left right) :
    SameProgress (Progress.after left) (Progress.after right) := by
  cases same with
  | ended same => exact ⟨congrArg some same.isSuccessCode_eq, same⟩
  | notStarted => exact ⟨rfl, SameSuccess.refl CommandResult.notStartedCode⟩

/-- Loops that left the same input unread. -/
structure SameLoopEnd (left right : LoopEnd) : Prop where
  unread : left.unread = right.unread
  code : SameSuccess left.code right.code

/-- Results of steps that left the same input unread. -/
structure SameStepResult (left right : StepResult) : Prop where
  unread : left.unread = right.unread
  code : SameSuccess left.code right.code

/-- Steps that run the same lines or elements. Read loops need not write to terminals alike. -/
inductive SameStep : Step → Step → Prop
  | line (text : Text) : SameStep (.line text) (.line text)
  | chain (elements : List Element) : SameStep (.chain elements) (.chain elements)
  | elements (elements : List Element) : SameStep (.elements elements) (.elements elements)
  | loop {left right : ReadSource} (input : left.input = right.input)
      (interruptedReads : left.interruptedReads = right.interruptedReads) :
      SameStep (.loop left) (.loop right)

namespace Shell

section Steps

variable {sameHandle : leftHandle → rightHandle → Prop}

/-! ## Commands -/

theorem inStep_runBuiltin (leftBuiltin : Builtin leftState) (rightBuiltin : Builtin rightState)
    (command : Command) :
    InStep sameHandle SameResult (runBuiltin leftBuiltin command)
      (runBuiltin rightBuiltin command) := by
  refine (inStep_askBuiltin command _ _).bind ?_
  intro leftReply rightReply endings
  generalize leftReply.ending = leftEnding, rightReply.ending = rightEnding at endings
  cases endings with
  | returned same => exact inStep_pure (.ended same)
  | exited code => exact inStep_finish (.exited code)
  | interrupted => exact inStep_finish .interrupted

variable {left : Shell leftState leftHandle} {right : Shell rightState rightHandle}

theorem inStep_awaitProcess {leftProcess : leftHandle} {rightProcess : rightHandle}
    (processes : sameHandle leftProcess rightProcess) :
    InStep sameHandle SameResult (left.awaitProcess leftProcess)
      (right.awaitProcess rightProcess) := by
  refine (inStep_askWait processes _ _).bind ?_
  intro leftAnswer rightAnswer answers
  cases answers with
  | interrupted => exact inStep_finish .interrupted
  | ended same =>
      refine InStep.after_quiet (isQuiet_replay .output _) (isQuiet_replay .output _) ?_
      refine InStep.after_quiet (isQuiet_replay .diagnostics _) (isQuiet_replay .diagnostics _) ?_
      exact inStep_pure (.ended same)

theorem inStep_runProcess (command : Command) :
    InStep sameHandle SameResult (left.runProcess command) (right.runProcess command) := by
  refine (inStep_askSpawn command _ _).bind ?_
  intro leftAnswer rightAnswer answers
  cases answers with
  | refused leftFailure rightFailure =>
      exact InStep.after_quiet (isQuiet_emit rfl) (isQuiet_emit rfl) (inStep_pure .notStarted)
  | started processes => exact inStep_awaitProcess processes

section SameNames

variable (sameNames : ∀ name, (left.builtins name).isSome = (right.builtins name).isSome)

include sameNames

theorem inStep_runCommand (command : Command) :
    InStep sameHandle SameResult (left.runCommand command) (right.runCommand command) := by
  refine InStep.after_quiet (isQuiet_emitIf left.tracing rfl) (isQuiet_emitIf right.tracing rfl) ?_
  have named := sameNames command.binary
  cases leftNamed : left.builtins command.binary with
  | some leftBuiltin =>
      rw [leftNamed] at named
      obtain ⟨rightBuiltin, rightNamed⟩ := Option.isSome_iff_exists.1 named.symm
      rw [rightNamed]
      exact inStep_runBuiltin leftBuiltin rightBuiltin command
  | none =>
      rw [leftNamed] at named
      rw [Option.isSome_eq_false_iff.1 named.symm |> Option.isNone_iff_eq_none.1]
      exact inStep_runProcess command

/-! ## Chains and lines -/

theorem inStep_evaluate :
    ∀ (elements : List Element) {leftProgress rightProgress : Progress},
      SameProgress leftProgress rightProgress →
        InStep sameHandle SameSuccess (left.evaluate leftProgress elements)
          (right.evaluate rightProgress elements)
  | [], _, _, same => inStep_pure same.code
  | .command command :: rest, _, _, _ =>
      (inStep_runCommand sameNames command).bind fun _ _ sameResult =>
        inStep_evaluate rest sameResult.after
  | .operator .sequence :: _, _, _, _ => inStep_finish (.failed .misplacedSequence)
  | .operator (.connect connective) :: rest, leftProgress, rightProgress, same => by
      unfold evaluate
      -- What the operator decides depends on the status alone, and the two statuses are equal.
      rw [same.status]
      cases rightProgress.status with
      | none => exact inStep_finish (.failed (.missingOperand connective))
      | some succeeded =>
          simp only
          split
          · exact inStep_pure same.code
          · exact inStep_evaluate rest same.taken

theorem inStep_runElements (elements : List Element) :
    InStep sameHandle SameSuccess (left.runElements elements) (right.runElements elements) :=
  inStep_evaluate sameNames elements SameProgress.start

theorem inStep_runChainRecovering (chain : Chain) :
    InStep sameHandle SameSuccess (left.runChainRecovering chain)
      (right.runChainRecovering chain) := by
  refine (inStep_runElements sameNames chain.elements).observe.bind ?_
  intro leftOutcome rightOutcome same
  cases same with
  | returned same => exact inStep_finish (.returned same)
  | failed error =>
      cases error with
      | missingOperand connective =>
          refine InStep.after_quiet (isQuiet_emit rfl) (isQuiet_emit rfl) ?_
          exact inStep_pure (SameSuccess.refl syntaxErrorCode)
      | _ => exact inStep_finish (.failed _)
  | exited code => exact inStep_finish (.exited code)
  | interrupted => exact inStep_finish .interrupted

theorem inStep_runChains :
    ∀ (chains : List Chain) {leftCode rightCode : Int}, SameSuccess leftCode rightCode →
      InStep sameHandle SameSuccess (left.runChains leftCode chains)
        (right.runChains rightCode chains)
  | [], _, _, same => inStep_pure same
  | chain :: rest, _, _, _ =>
      (inStep_runChainRecovering sameNames chain).bind fun _ _ same => inStep_runChains rest same

theorem inStep_runLine (line : Text) :
    InStep sameHandle SameSuccess (left.runLine line) (right.runLine line) := by
  unfold runLine
  cases parseLine line with
  | error error => exact inStep_finish (.failed error)
  | ok chains => exact inStep_runChains sameNames chains (SameSuccess.refl 0)

/-! ## The read loop -/

omit sameNames in
/-- Neither a prompt nor what a read finds is a call. -/
theorem inStep_after_read {leftNext rightNext : Type} {agree : leftNext → rightNext → Prop}
    (leftTerminal rightTerminal : Bool) (answer : ReadAnswer)
    {leftOnward : Action leftState leftHandle leftNext}
    {rightOnward : Action rightState rightHandle rightNext}
    (onward : InStep sameHandle agree leftOnward rightOnward) :
    InStep sameHandle agree
      (do
        emitIf leftTerminal (.terminal left.prompt)
        emit (.read answer)
        leftOnward)
      (do
        emitIf rightTerminal (.terminal right.prompt)
        emit (.read answer)
        rightOnward) := by
  refine InStep.after_quiet (isQuiet_emitIf leftTerminal rfl) (isQuiet_emitIf rightTerminal rfl) ?_
  exact InStep.after_quiet (isQuiet_emit rfl) (isQuiet_emit rfl) onward

theorem inStep_loop (leftTerminal rightTerminal : Bool) :
    ∀ (reads : List Read) {leftCode rightCode : Int}, SameSuccess leftCode rightCode →
      InStep sameHandle SameLoopEnd (left.loop leftTerminal leftCode reads)
        (right.loop rightTerminal rightCode reads)
  | [], _, _, same => by
      refine inStep_after_read leftTerminal rightTerminal .endOfInput ?_
      exact inStep_pure ⟨rfl, same⟩
  | .interrupted :: later, _, _, same => by
      refine inStep_after_read leftTerminal rightTerminal .interrupted ?_
      refine InStep.after_quiet (isQuiet_emit rfl) (isQuiet_emit rfl) ?_
      exact inStep_loop leftTerminal rightTerminal later same
  | .line line :: later, _, _, _ => by
      refine inStep_after_read leftTerminal rightTerminal (.line line) ?_
      refine (inStep_runLine sameNames line).observe.bind ?_
      intro leftOutcome rightOutcome sameLine
      cases sameLine with
      | returned same => exact inStep_loop leftTerminal rightTerminal later same
      | failed error => exact inStep_finish (.failed error)
      | exited code => exact inStep_pure ⟨rfl, SameSuccess.refl code⟩
      | interrupted =>
          refine InStep.after_quiet (isQuiet_emit rfl) (isQuiet_emit rfl) ?_
          exact inStep_loop leftTerminal rightTerminal later (SameSuccess.refl interruptedCode)

theorem inStep_readLoop {leftSource rightSource : ReadSource}
    (input : leftSource.input = rightSource.input)
    (interruptedReads : leftSource.interruptedReads = rightSource.interruptedReads) :
    InStep sameHandle SameLoopEnd (left.readLoop leftSource) (right.readLoop rightSource) := by
  have sameReads : leftSource.reads = rightSource.reads := by
    rw [ReadSource.reads, ReadSource.reads, input, interruptedReads]
  rw [readLoop, readLoop, sameReads]
  exact inStep_loop sameNames _ _ rightSource.reads (SameSuccess.refl 0)

/-! ## Steps -/

theorem inStep_perform {leftStep rightStep : Step} (same : SameStep leftStep rightStep) :
    InStep sameHandle SameStepResult (left.perform leftStep) (right.perform rightStep) := by
  have codeOnly {leftCode rightCode : Int} (sameCode : SameSuccess leftCode rightCode) :
      InStep sameHandle SameStepResult
        (pure { code := leftCode } : Action leftState leftHandle StepResult)
        (pure { code := rightCode } : Action rightState rightHandle StepResult) :=
    inStep_pure ⟨rfl, sameCode⟩
  cases same with
  | line text => exact (inStep_runLine sameNames text).bind fun _ _ => codeOnly
  | chain elements =>
      simp only [perform]
      cases Chain.ofElements elements with
      | error error => exact inStep_finish (.failed error)
      | ok chain => exact (inStep_runElements sameNames chain.elements).bind fun _ _ => codeOnly
  | elements elements => exact (inStep_runElements sameNames elements).bind fun _ _ => codeOnly
  | loop input interruptedReads =>
      refine (inStep_readLoop sameNames input interruptedReads).bind ?_
      intro leftEnd rightEnd sameEnd
      exact inStep_pure ⟨congrArg some sameEnd.unread, sameEnd.code⟩

end SameNames

end Steps

end Shell

end CommandChain
