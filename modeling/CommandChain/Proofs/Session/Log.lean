import CommandChain.Proofs.Evaluation.Command
import CommandChain.Proofs.Execution
import CommandChain.Session
import Mathlib.Data.List.Forall2

/-!
# The log of a session

The log of a session holds the events of its steps, one step after another, however each of them
ended. A law that can be put together from the events of single commands, and holds of every event
of the shell's own, holds of the whole log (`law_sessionLog`).
-/

namespace CommandChain

open CommandChain.Action

variable {state handle value : Type}

/-- A call of the process layer or of a builtin. Any other event is of the shell's own. -/
def Event.isCall : Event handle → Bool
  | .spawn _ _ => true
  | .wait _ _ => true
  | .builtin _ _ => true
  | _ => false

/-- A text that is written while a line is run: a diagnostic, or replayed output. -/
def Event.isNotice : Event handle → Bool
  | .diagnostic _ => true
  | .replay _ _ => true
  | _ => false

/-- An event of the shell's own: a diagnostic, a read, or a text on the terminal of the loop. -/
def Event.isOwn : Event handle → Bool
  | .diagnostic _ => true
  | .read _ => true
  | .terminal _ => true
  | _ => false

theorem Event.notCall_of_isOwn {event : Event handle} (own : event.isOwn = true) :
    event.isCall = false := by
  cases event with
  | diagnostic message => rfl
  | read answer => rfl
  | terminal text => rfl
  | _ => cases own

theorem Event.notCall_of_isNotice {event : Event handle} (notice : event.isNotice = true) :
    event.isCall = false := by
  cases event with
  | diagnostic message => rfl
  | replay stream text => rfl
  | _ => cases notice

theorem isNotice_of_mem_replayEvents {stream : Stream} {bytes : Option (List UInt8)}
    {event : Event handle} (member : event ∈ replayEvents stream bytes) :
    event.isNotice = true := by
  match bytes, member with
  | some (_ :: _), member =>
      rw [List.mem_singleton.1 member]
      rfl

theorem Shell.isNotice_of_mem_announcement {shell : Shell state handle} {command : Command}
    {event : Event handle} (member : event ∈ shell.announcement command) :
    event.isNotice = true := by
  unfold announcement at member
  split at member
  · rw [List.mem_singleton.1 member]
    rfl
  · cases member

/-- All events of a session, in order. -/
def Shell.sessionLog (shell : Shell state handle) (steps : List Step) (initial : state) :
    List (Event handle) :=
  (shell.runSession steps initial).flatMap Execution.events

/-- What holds of each step from every state holds of the steps of a session, each from the state
that the one before it left. -/
theorem Shell.forall₂_runSession (shell : Shell state handle)
    {property : Step → Execution state handle StepResult → Prop}
    (holds : ∀ step initial, property step (shell.perform step initial)) :
    ∀ (steps : List Step) (initial : state),
      List.Forall₂ property steps (shell.runSession steps initial)
  | [], _ => List.Forall₂.nil
  | step :: later, initial =>
      List.Forall₂.cons (holds step initial)
        (Shell.forall₂_runSession shell holds later (shell.perform step initial).final)

/-- A law of single logs that can be put together holds of the logs of a whole session. -/
theorem Action.IsAdditive.flatMap {law : List (Event handle) → Prop} (additive : IsAdditive law)
    {steps : List Step} {executions : List (Execution state handle value)}
    (each : List.Forall₂ (fun _ execution => law execution.events) steps executions) :
    law (executions.flatMap Execution.events) := by
  induction each with
  | nil => exact additive.nil
  | cons first _ laterLaw =>
      rw [List.flatMap_cons]
      exact additive.append first laterLaw

/-- A law that holds of each notice holds of any number of them. -/
theorem Action.IsAdditive.of_notices {law : List (Event handle) → Prop}
    (additive : IsAdditive law)
    (notices : ∀ event : Event handle, event.isNotice = true → law [event])
    {events : List (Event handle)} (allNotices : ∀ event ∈ events, event.isNotice = true) :
    law events := by
  induction events with
  | nil => exact additive.nil
  | cons first rest inductionHypothesis =>
      obtain ⟨firstNotice, restNotices⟩ := List.forall_mem_cons.1 allNotices
      exact additive.append (notices first firstNotice) (inductionHypothesis restNotices)

namespace Shell

/-- The log of a command obeys a law if its one call does: a builtin's answer, a refused start, or a
start with its wait. -/
theorem logs_runCommand {shell : Shell state handle} {law : List (Event handle) → Prop}
    (additive : IsAdditive law)
    (notices : ∀ event : Event handle, event.isNotice = true → law [event]) {command : Command}
    (builtin : ∀ reply, (shell.builtins command.binary).isSome → law [.builtin command reply])
    (refused : ∀ failure, shell.builtins command.binary = none →
      law [.spawn command (.error failure)])
    (awaited : ∀ process answer, shell.builtins command.binary = none →
      law [.spawn command (.ok process), .wait process answer]) :
    Logs law (shell.runCommand command) := by
  intro initial
  have announced : law (shell.announcement command) :=
    additive.of_notices notices fun _ => isNotice_of_mem_announcement
  have replayed (stream : Stream) (bytes : Option (List UInt8)) : law (replayEvents stream bytes) :=
    additive.of_notices notices fun _ => isNotice_of_mem_replayEvents
  have run := shell.runCommand_spec command initial
  generalize shell.runCommand command initial = execution at run ⊢
  cases run with
  | @builtin _ reply _ named answered =>
      exact additive.append announced (builtin reply (named ▸ rfl))
  | @refused failure _ noBuiltin answered =>
      apply additive.append announced
      exact additive.append (refused failure noBuiltin) (notices _ rfl)
  | interrupted noBuiltin answered waited =>
      exact additive.append announced (awaited _ none noBuiltin)
  | @ended process _ _ status noBuiltin answered waited =>
      apply additive.append announced
      apply additive.append (awaited process (some status) noBuiltin)
      exact additive.append (replayed .output status.output) (replayed .diagnostics status.errors)

section Laws

variable {shell : Shell state handle} {law : List (Event handle) → Prop}
  (additive : IsAdditive law) (commands : ∀ command, Logs law (shell.runCommand command))

include additive commands in
theorem logs_evaluate :
    ∀ (elements : List Element) (progress : Progress), Logs law (shell.evaluate progress elements)
  | [], progress => logs_pure additive progress.code
  | .command command :: rest, _ =>
      (commands command).bind additive fun result =>
        logs_evaluate rest (Progress.after result)
  | .operator .sequence :: _, _ => logs_finish additive _
  | .operator (.connect connective) :: rest, progress => by
      unfold evaluate
      split
      · exact logs_finish additive _
      · split
        · exact logs_pure additive progress.code
        · exact logs_evaluate rest progress.taken

include additive commands in
theorem logs_runElements (elements : List Element) : Logs law (shell.runElements elements) :=
  logs_evaluate additive commands elements Progress.start

section Lines

variable (reports : ∀ error, law [.diagnostic (.syntaxError error)])

include additive commands reports

theorem logs_runChainRecovering (chain : Chain) : Logs law (shell.runChainRecovering chain) := by
  have chainLogs : Logs law (shell.runChain chain) :=
    logs_runElements additive commands chain.elements
  refine chainLogs.observe.bind additive ?_
  intro outcome
  split
  · refine (logs_emit (reports _)).bind additive ?_
    intro _
    exact logs_pure additive _
  · exact logs_finish additive _

theorem logs_runChains :
    ∀ (chains : List Chain) (code : Int), Logs law (shell.runChains code chains)
  | [], code => logs_pure additive code
  | chain :: rest, _ =>
      (logs_runChainRecovering additive commands reports chain).bind additive fun code =>
        logs_runChains rest code

theorem logs_runLine (line : Text) : Logs law (shell.runLine line) := by
  unfold runLine
  split
  · exact logs_finish additive _
  · exact logs_runChains additive commands reports _ 0

end Lines

variable (own : ∀ event : Event handle, event.isOwn = true → law [event])

include additive commands own

theorem logs_loop (isTerminal : Bool) :
    ∀ (reads : List Read) (code : Int), Logs law (shell.loop isTerminal code reads)
  | [], code => by
      refine (logs_emitIf additive isTerminal (own _ rfl)).bind additive fun _ => ?_
      refine (logs_emit (own _ rfl)).bind additive fun _ => ?_
      exact logs_pure additive _
  | .interrupted :: later, code => by
      refine (logs_emitIf additive isTerminal (own _ rfl)).bind additive fun _ => ?_
      refine (logs_emit (own _ rfl)).bind additive fun _ => ?_
      refine (logs_emit (own _ rfl)).bind additive fun _ => ?_
      exact logs_loop isTerminal later code
  | .line line :: later, _ => by
      refine (logs_emitIf additive isTerminal (own _ rfl)).bind additive fun _ => ?_
      refine (logs_emit (own _ rfl)).bind additive fun _ => ?_
      have lineLogs := logs_runLine additive commands (fun _ => own _ rfl) line
      refine lineLogs.observe.bind additive fun outcome => ?_
      cases outcome with
      | returned code => exact logs_loop isTerminal later code
      | exited code => exact logs_pure additive _
      | interrupted =>
          refine (logs_emit (own _ rfl)).bind additive fun _ => ?_
          exact logs_loop isTerminal later interruptedCode
      | failed error => exact logs_finish additive _

theorem logs_perform (step : Step) : Logs law (shell.perform step) := by
  cases step with
  | line text =>
      have lineLogs := logs_runLine additive commands (fun _ => own _ rfl) text
      exact lineLogs.bind additive fun _ => logs_pure additive _
  | chain elements =>
      simp only [perform]
      cases Chain.ofElements elements with
      | error error => exact logs_finish additive _
      | ok chain =>
          exact
            (logs_runElements additive commands chain.elements).bind additive fun _ =>
              logs_pure additive _
  | elements elements =>
      exact
        (logs_runElements additive commands elements).bind additive fun _ => logs_pure additive _
  | loop source =>
      exact
        (logs_loop additive commands own source.isTerminal source.reads 0).bind additive fun _ =>
          logs_pure additive _

/-- The log of a session obeys every law that can be put together, holds of the log of each command
and holds of each event of the shell's own. -/
theorem law_sessionLog_of_own (steps : List Step) (initial : state) :
    law (shell.sessionLog steps initial) := by
  apply additive.flatMap
  apply shell.forall₂_runSession
  exact logs_perform additive commands own

omit own in
/-- It is enough that the law holds of each event that is no call. -/
theorem law_sessionLog (noCalls : ∀ event : Event handle, event.isCall = false → law [event])
    (steps : List Step) (initial : state) : law (shell.sessionLog steps initial) :=
  law_sessionLog_of_own additive commands
    (fun event own => noCalls event (Event.notCall_of_isOwn own)) steps initial

end Laws

end Shell

end CommandChain
