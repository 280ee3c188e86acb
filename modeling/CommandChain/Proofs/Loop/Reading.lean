import CommandChain.Proofs.Evaluation.Recovery
import CommandChain.Proofs.Loop.Turns

/-!
# What the read loop reads

The read loop runs the lines of its input, each once and in order, until one exits or none is left.
The induction is along the reads to come, so it covers the lines and the interrupts that are left at
the same time (`exists_isLoopRun`). Interrupted reads make no difference to anything but the loop's
own events (`loop_readsFrom`).
-/

namespace CommandChain

open CommandChain.Action

variable {state handle : Type}

/-! ## Events of the loop's own -/

/-- A read, or a text on the terminal of the loop. -/
def Event.isOfLoop : Event handle → Bool
  | .read _ => true
  | .terminal _ => true
  | _ => false

/-- The part of a log that is not of the loop's own: calls, diagnostics and replayed output. -/
def lineEvents (log : List (Event handle)) : List (Event handle) :=
  log.filter fun event => !event.isOfLoop

theorem lineEvents_append (log more : List (Event handle)) :
    lineEvents (log ++ more) = lineEvents log ++ lineEvents more :=
  List.filter_append log more

theorem isAdditive_lineEvents_eq_self :
    IsAdditive fun log : List (Event handle) => lineEvents log = log where
  nil := rfl
  append := by
    intro first second firstOwn secondOwn
    rw [lineEvents_append, firstOwn, secondOwn]

namespace Shell

variable (shell : Shell state handle)

theorem lineEvents_asking (isTerminal : Bool) : lineEvents (shell.asking isTerminal) = [] := by
  cases isTerminal with
  | true => rfl
  | false => rfl

/-- A line is run without any event of the loop. -/
theorem lineEvents_runLine (line : Text) (initial : state) :
    lineEvents (shell.runLine line initial).events = (shell.runLine line initial).events := by
  have notices (event : Event handle) (notice : event.isNotice = true) :
      lineEvents [event] = [event] := by
    cases event with
    | diagnostic message => rfl
    | replay stream text => rfl
    | _ => cases notice
  refine logs_runLine isAdditive_lineEvents_eq_self ?_ (fun _ => rfl) line initial
  intro command
  refine logs_runCommand isAdditive_lineEvents_eq_self notices ?_ ?_ ?_
  · intro reply _
    rfl
  · intro failure _
    rfl
  · intro process answer _
    rfl

theorem lineEvents_interrupted (isTerminal : Bool) :
    lineEvents ((Turn.interrupted : Turn state handle).events (shell.asking isTerminal)) = [] := by
  rw [Turn.events, lineEvents_append, lineEvents_asking]
  rfl

theorem lineEvents_line (isTerminal : Bool) (line : Text) (initial : state) :
    lineEvents
        ((Turn.line line (shell.runLine line initial)).events (shell.asking isTerminal)) =
      (shell.runLine line initial).events := by
  have afterLine :
      lineEvents
          (if (shell.runLine line initial).outcome = .interrupted then
            ([.terminal [Text.newline]] : List (Event handle)) else []) = [] := by
    split <;> rfl
  rw [Turn.events, lineEvents_append, lineEvents_asking, List.nil_append]
  show lineEvents ((shell.runLine line initial).events ++ _) = _
  rw [lineEvents_append, lineEvents_runLine, afterLine, List.append_nil]

end Shell

/-! ## The reads of a loop -/

/-- What the reads take is what the lines hold, whichever reads are interrupted. -/
theorem flatMap_consumed_readsFrom (interruptedReads : List Nat) (number : Nat)
    (lines : List Text) :
    (readsFrom interruptedReads number lines).flatMap Read.consumed = lines.flatten := by
  induction number, lines using readsFrom.induct interruptedReads with
  | case1 number lines isInterrupted inductionHypothesis =>
      rw [readsFrom.eq_def, dif_pos isInterrupted]
      exact inductionHypothesis
  | case2 number notInterrupted =>
      rw [readsFrom.eq_def, dif_neg notInterrupted]
      rfl
  | case3 number notInterrupted line rest inductionHypothesis =>
      rw [readsFrom.eq_def, dif_neg notInterrupted]
      exact congrArg (line ++ ·) inductionHypothesis

theorem readsFrom_nil (number : Nat) (lines : List Text) :
    readsFrom [] number lines = lines.map .line := by
  induction lines generalizing number with
  | nil =>
      rw [readsFrom.eq_def]
      rfl
  | cons line rest inductionHypothesis =>
      rw [readsFrom.eq_def, dif_neg List.not_mem_nil]
      exact congrArg (Read.line line :: ·) (inductionHypothesis (number + 1))

namespace Shell

variable (shell : Shell state handle)

/-- A line exits, or the loop remembers a code of it: it never fails. -/
theorem exits_or_loopCode (line : Text) (initial : state) :
    (∃ exitCode, (shell.runLine line initial).outcome = .exited exitCode) ∨
      (∀ exitCode, (shell.runLine line initial).outcome ≠ .exited exitCode) ∧
        ∃ next, (shell.runLine line initial).outcome.loopCode? = some next := by
  rcases (shell.failsOnlyWith_runLine line).ending initial with
    ⟨code, returned⟩ | ⟨code, exited⟩ | interrupted
  · rw [returned]
    exact Or.inr ⟨by simp, code, rfl⟩
  · exact Or.inl ⟨code, exited⟩
  · rw [interrupted]
    exact Or.inr ⟨by simp, interruptedCode, rfl⟩

theorem exists_isLoopRun (isTerminal : Bool) (interruptedReads : List Nat) (number : Nat)
    (lines : List Text) (code : Int) (initial : state) :
    ∃ turns left,
      IsLoopRun shell isTerminal (fun later => number + later ∈ interruptedReads) lines code initial
        turns left (shell.loop isTerminal code (readsFrom interruptedReads number lines) initial) := by
  -- Reads are numbered from the first of all, and a loop run counts from its own first read.
  have shift (number : Nat) :
      (fun later => number + 1 + later ∈ interruptedReads) =
        fun later => number + (later + 1) ∈ interruptedReads := by
    funext later
    rw [Nat.add_right_comm, Nat.add_assoc]
  induction number, lines using readsFrom.induct interruptedReads generalizing code initial with
  | case1 number lines isInterrupted inductionHypothesis =>
      obtain ⟨turns, left, laterRun⟩ := inductionHypothesis code initial
      rw [shift] at laterRun
      rw [readsFrom.eq_def, dif_pos isInterrupted, loop_interrupted_cons]
      exact ⟨.interrupted :: turns, left, laterRun.interrupted_cons isInterrupted⟩
  | case2 number notInterrupted =>
      rw [readsFrom.eq_def, dif_neg notInterrupted, loop_nil]
      exact ⟨[], [], IsLoopRun.nil notInterrupted⟩
  | case3 number notInterrupted line rest inductionHypothesis =>
      rw [readsFrom.eq_def, dif_neg notInterrupted]
      rcases shell.exits_or_loopCode line initial with ⟨exitCode, exited⟩ | ⟨goesOn, next, remembered⟩
      · simp only
        rw [shell.loop_line_cons_of_exited exited, flatMap_consumed_readsFrom]
        exact ⟨_, rest, IsLoopRun.line_of_exited notInterrupted exited⟩
      · obtain ⟨turns, left, laterRun⟩ :=
          inductionHypothesis next (shell.runLine line initial).final
        rw [shift] at laterRun
        simp only
        rw [shell.loop_line_cons goesOn remembered]
        exact ⟨_, left, laterRun.line_cons notInterrupted goesOn remembered⟩

/-- Interrupted reads change neither what is run, nor the state, nor how the loop ends. -/
theorem loop_readsFrom (isTerminal : Bool) (interruptedReads : List Nat) (number : Nat)
    (lines : List Text) (code : Int) (initial : state) :
    let interrupted := shell.loop isTerminal code (readsFrom interruptedReads number lines) initial
    let plain := shell.loop isTerminal code (lines.map .line) initial
    interrupted.outcome = plain.outcome ∧ interrupted.final = plain.final ∧
      lineEvents interrupted.events = lineEvents plain.events := by
  simp only
  induction number, lines using readsFrom.induct interruptedReads generalizing code initial with
  | case1 number lines isInterrupted inductionHypothesis =>
      rw [readsFrom.eq_def, dif_pos isInterrupted, loop_interrupted_cons, lineEvents_append,
        lineEvents_interrupted, List.nil_append]
      exact inductionHypothesis code initial
  | case2 number notInterrupted =>
      rw [readsFrom.eq_def, dif_neg notInterrupted]
      exact ⟨rfl, rfl, rfl⟩
  | case3 number notInterrupted line rest inductionHypothesis =>
      have sameText : (rest.map Read.line).flatMap Read.consumed = rest.flatten := by
        rw [← readsFrom_nil 0, flatMap_consumed_readsFrom]
      rw [readsFrom.eq_def, dif_neg notInterrupted, List.map_cons]
      rcases shell.exits_or_loopCode line initial with ⟨exitCode, exited⟩ | ⟨goesOn, next, remembered⟩
      · simp only
        rw [shell.loop_line_cons_of_exited exited, shell.loop_line_cons_of_exited exited,
          flatMap_consumed_readsFrom, sameText]
        exact ⟨rfl, rfl, rfl⟩
      · obtain ⟨sameOutcome, sameFinal, sameEvents⟩ :=
          inductionHypothesis next (shell.runLine line initial).final
        simp only
        rw [shell.loop_line_cons goesOn remembered, shell.loop_line_cons goesOn remembered]
        refine ⟨sameOutcome, sameFinal, ?_⟩
        rw [lineEvents_append, lineEvents_append, sameEvents]

theorem readLoop_uninterrupted (source : ReadSource) (initial : state) :
    let looped := shell.readLoop source initial
    let plain := shell.loop source.isTerminal 0 (source.input.lines.map .line) initial
    looped.outcome = plain.outcome ∧ looped.final = plain.final ∧
      lineEvents looped.events = lineEvents plain.events :=
  shell.loop_readsFrom source.isTerminal source.interruptedReads 0 source.input.lines 0 initial

/-- The read loop runs each line once and loses no input. The input can be cut into lines in one way
only, and the loop always returns. Its turns run the first of these lines, in order and each from
the state that the line before it left, up to the first line that exits or else all of them, and it
returns the code of that exit or of the last line. What it consumed and what it left unread make up
the input, and it leaves something only if a line exits. Which reads are interrupted makes no
difference to anything that is run, to the state or to how the loop ends. -/
theorem readLoop_runs_each_line_once (source : ReadSource) (initial : state) :
    let looped := shell.readLoop source initial
    (∀ lines, source.input.lines = lines ↔ lines.flatten = source.input ∧ Text.AreLines lines) ∧
      (∃ (turns : List (Turn state handle)) (left : List Text) (ended : LoopEnd),
        IsLoopRun shell source.isTerminal (· ∈ source.interruptedReads) source.input.lines 0 initial
            turns left looped ∧
          looped.outcome = .returned ended ∧
          (turns.filterMap Turn.text?).flatten ++ ended.unread = source.input ∧
          ((∀ turn ∈ turns, ¬ turn.Exits) → ended.unread = [])) ∧
      ∀ others : List Nat,
        let other := shell.readLoop { source with interruptedReads := others } initial
        looped.outcome = other.outcome ∧ looped.final = other.final ∧
          lineEvents looped.events = lineEvents other.events := by
  intro looped
  refine ⟨fun _ => Text.lines_eq_iff, ?_, ?_⟩
  · obtain ⟨turns, left, loopRun⟩ :=
      shell.exists_isLoopRun source.isTerminal source.interruptedReads 0 source.input.lines 0 initial
    simp only [Nat.zero_add] at loopRun
    obtain ⟨ended, returned, unread, noneUnread⟩ := loopRun.ending.returns
    refine ⟨turns, left, ended, loopRun, returned, ?_, noneUnread⟩
    calc
      (turns.filterMap Turn.text?).flatten ++ ended.unread =
          (turns.filterMap Turn.text? ++ left).flatten := by rw [unread, List.flatten_append]
      _ = source.input.lines.flatten := by rw [← loopRun.linesInOrder]
      _ = source.input := Text.flatten_lines source.input
  · intro others other
    obtain ⟨outcome, final, events⟩ := shell.readLoop_uninterrupted source initial
    obtain ⟨otherOutcome, otherFinal, otherEvents⟩ :=
      shell.readLoop_uninterrupted { source with interruptedReads := others } initial
    exact
      ⟨outcome.trans otherOutcome.symm, final.trans otherFinal.symm, events.trans otherEvents.symm⟩

end Shell

end CommandChain
