import CommandChain.Proofs.Evaluation.Recovery
import CommandChain.Proofs.Loop.Reading

/-!
# Exits

An exit is a builtin's answer. Whatever is run, from a single command up to a line, exits if and only
if its log holds an exit, and with that code (`ExitsAsLogged`); so a log holds at most one exit. The
read loop returns the code of the exit in its log.
-/

namespace CommandChain

open CommandChain.Action

variable {state handle value next : Type}

/-! ## Exits in a log -/

/-- The code with which a builtin exits. -/
def BuiltinEnding.exitCode? : BuiltinEnding → Option Int
  | .exited code => some code
  | _ => none

/-- The code with which an outcome exits. -/
def Outcome.exitCode? : Outcome value → Option Int
  | .exited code => some code
  | _ => none

/-- The code of the exit that an event is. -/
def Event.exitCode? : Event handle → Option Int
  | .builtin _ reply => reply.ending.exitCode?
  | _ => none

/-- The codes of the exits in a log. -/
def exitCodes (log : List (Event handle)) : List Int :=
  log.filterMap Event.exitCode?

theorem exitCodes_append (log more : List (Event handle)) :
    exitCodes (log ++ more) = exitCodes log ++ exitCodes more :=
  List.filterMap_append

theorem exitCodes_of_notices {log : List (Event handle)}
    (notices : ∀ event ∈ log, event.isNotice = true) : exitCodes log = [] := by
  rw [exitCodes, List.filterMap_eq_nil_iff]
  intro event member
  have notice := notices event member
  cases event with
  | diagnostic message => rfl
  | replay stream text => rfl
  | _ => cases notice

/-- The loop's own events are no exits. -/
theorem exitCodes_lineEvents (log : List (Event handle)) :
    exitCodes (lineEvents log) = exitCodes log := by
  rw [exitCodes, exitCodes, lineEvents, List.filterMap_filter]
  congr 1
  funext event
  cases event <;> rfl

namespace Action

/-- Whatever the start, the action exits with the exit in its log and not otherwise. -/
def ExitsAsLogged (action : Action state handle value) : Prop :=
  ∀ initial, exitCodes (action initial).events = (action initial).outcome.exitCode?.toList

theorem exitsAsLogged_pure (result : value) :
    ExitsAsLogged (pure result : Action state handle value) :=
  fun _ => rfl

theorem exitsAsLogged_fail (error : ShellError) :
    ExitsAsLogged (finish (.failed error) : Action state handle value) :=
  fun _ => rfl

theorem ExitsAsLogged.bind {action : Action state handle value}
    {onward : value → Action state handle next} (first : ExitsAsLogged action)
    (second : ∀ result, ExitsAsLogged (onward result)) : ExitsAsLogged (action >>= onward) := by
  intro initial
  have firstExits := first initial
  apply Execution.follow_induction (motive := fun whole =>
    exitCodes whole.events = whole.outcome.exitCode?.toList)
  · intro result returned
    rw [returned] at firstExits
    rw [exitCodes_append, firstExits]
    exact second result (action initial).final
  · intro error failed
    rw [failed] at firstExits
    exact firstExits
  · intro code exited
    rw [exited] at firstExits
    exact firstExits
  · intro interrupted
    rw [interrupted] at firstExits
    exact firstExits

end Action

namespace Shell

variable (shell : Shell state handle)

/-! ## Commands, chains and lines -/

theorem exitCodes_announcement (command : Command) :
    exitCodes (shell.announcement command) = [] :=
  exitCodes_of_notices fun _ => isNotice_of_mem_announcement

theorem exitsAsLogged_runCommand (command : Command) :
    ExitsAsLogged (shell.runCommand command) := by
  intro initial
  have replayed (stream : Stream) (bytes : Option (List UInt8)) :
      exitCodes (replayEvents stream bytes : List (Event handle)) = [] :=
    exitCodes_of_notices fun _ => isNotice_of_mem_replayEvents
  have run := shell.runCommand_spec command initial
  generalize shell.runCommand command initial = execution at run ⊢
  cases run with
  | @builtin _ reply _ named answered =>
      rw [exitCodes_append, exitCodes_announcement]
      cases reply with
      | mk diagnostics ending =>
          cases ending with
          | returned code => rfl
          | exited code => rfl
          | interrupted => rfl
  | refused noBuiltin answered =>
      rw [exitCodes_append, exitCodes_announcement]
      rfl
  | interrupted noBuiltin answered awaited =>
      rw [exitCodes_append, exitCodes_announcement]
      rfl
  | @ended process _ _ status noBuiltin answered awaited =>
      rw [exitCodes_append, exitCodes_announcement]
      show exitCodes (replayEvents .output status.output ++
        replayEvents .diagnostics status.errors) = []
      rw [exitCodes_append, replayed, replayed]
      rfl

theorem exitsAsLogged_evaluate :
    ∀ (elements : List Element) (progress : Progress),
      ExitsAsLogged (shell.evaluate progress elements)
  | [], progress => exitsAsLogged_pure progress.code
  | .command command :: rest, _ =>
      (shell.exitsAsLogged_runCommand command).bind fun result =>
        exitsAsLogged_evaluate rest (Progress.after result)
  | .operator .sequence :: _, _ => exitsAsLogged_fail .misplacedSequence
  | .operator (.connect connective) :: rest, progress => by
      unfold evaluate
      split
      · exact exitsAsLogged_fail _
      · split
        · exact exitsAsLogged_pure progress.code
        · exact exitsAsLogged_evaluate rest progress.taken

theorem exitsAsLogged_runChainRecovering (chain : Chain) :
    ExitsAsLogged (shell.runChainRecovering chain) := by
  intro initial
  have chainExits := shell.exitsAsLogged_evaluate chain.elements Progress.start initial
  by_cases missing :
      ∃ connective,
        (shell.runChain chain initial).outcome = .failed (.missingOperand connective)
  · obtain ⟨connective, failed⟩ := missing
    rw [shell.runChainRecovering_of_missingOperand failed, exitCodes_append]
    have noExit : exitCodes (shell.runChain chain initial).events = [] := by
      have sameExits : exitCodes (shell.runChain chain initial).events =
          (shell.runChain chain initial).outcome.exitCode?.toList := chainExits
      rw [sameExits, failed]
      rfl
    rw [noExit]
    rfl
  · rw [shell.runChainRecovering_of_not_missing fun connective failed =>
      missing ⟨connective, failed⟩]
    exact chainExits

theorem exitsAsLogged_runLine (line : Text) : ExitsAsLogged (shell.runLine line) := by
  have chainsExit :
      ∀ (chains : List Chain) (code : Int), ExitsAsLogged (shell.runChains code chains) := by
    intro chains
    induction chains with
    | nil => exact exitsAsLogged_pure
    | cons chain rest inductionHypothesis =>
        exact fun _ => (shell.exitsAsLogged_runChainRecovering chain).bind inductionHypothesis
  unfold runLine
  split
  · exact exitsAsLogged_fail _
  · exact chainsExit _ 0

/-! ## The read loop -/

theorem exitCodes_turn (isTerminal : Bool) (line : Text) (initial : state) :
    exitCodes ((Turn.line line (shell.runLine line initial)).events (shell.asking isTerminal)) =
      (shell.runLine line initial).outcome.exitCode?.toList := by
  rw [← exitCodes_lineEvents, lineEvents_line]
  exact shell.exitsAsLogged_runLine line initial

/-- A loop with an exit in its log returns the code of that exit. -/
theorem code_of_exitCodes_loop (isTerminal : Bool) :
    ∀ (reads : List Read) (code : Int) (initial : state),
      exitCodes (shell.loop isTerminal code reads initial).events = [] ∨
        ∃ exitCode unread,
          exitCodes (shell.loop isTerminal code reads initial).events = [exitCode] ∧
            (shell.loop isTerminal code reads initial).outcome = .returned ⟨exitCode, unread⟩
  | [], code, initial => by
      rw [loop_nil, ← exitCodes_lineEvents, lineEvents_append, lineEvents_asking]
      exact Or.inl rfl
  | .interrupted :: later, code, initial => by
      have noExit :
          exitCodes ((Turn.interrupted : Turn state handle).events (shell.asking isTerminal)) =
            [] := by
        rw [← exitCodes_lineEvents, lineEvents_interrupted]
        rfl
      rw [loop_interrupted_cons, exitCodes_append, noExit]
      exact code_of_exitCodes_loop isTerminal later code initial
  | .line line :: later, code, initial => by
      have lineExits := shell.exitCodes_turn isTerminal line initial
      rcases shell.exits_or_loopCode line initial with ⟨exitCode, exited⟩ | ⟨goesOn, next, remembered⟩
      · rw [exited] at lineExits
        rw [shell.loop_line_cons_of_exited exited]
        exact Or.inr ⟨exitCode, _, lineExits, rfl⟩
      · -- The line did not exit, so the exit of the log is that of the loop's later turns.
        have noExit : (shell.runLine line initial).outcome.exitCode? = none := by
          cases ended : (shell.runLine line initial).outcome with
          | exited exitCode => exact absurd ended (goesOn exitCode)
          | _ => rfl
        rw [noExit] at lineExits
        rw [shell.loop_line_cons goesOn remembered, exitCodes_append, lineExits]
        exact
          code_of_exitCodes_loop isTerminal later next (shell.runLine line initial).final

end Shell

end CommandChain
