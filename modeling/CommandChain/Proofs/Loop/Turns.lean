import CommandChain.Proofs.Line.Input
import CommandChain.Proofs.Session.ChainRuns

/-!
# Turns of the read loop

The read loop makes one turn after another. A turn is an interrupted read, or a line that is read
and run. `IsLoopRun` says what the loop does without saying how it goes on: which lines its turns
run and from which states, which reads are interrupted, what the whole log is and how it ends. Every
loop is such a run (`exists_isLoopRun`), by the rules for one more turn in front.
-/

namespace CommandChain

open CommandChain.Action

variable {state handle : Type}

/-! ## One turn -/

/-- The code that the loop remembers of a line that ended in the given way. -/
def Outcome.loopCode? : Outcome Int → Option Int
  | .returned code => some code
  | .exited code => some code
  | .interrupted => some Shell.interruptedCode
  | .failed _ => none

/-- A turn of the loop: a read that was interrupted, or a line with the run of it. -/
inductive Turn (state handle : Type) where
  | interrupted
  | line (text : Text) (run : Execution state handle Int)

namespace Turn

/-- The line that a turn runs. -/
def text? : Turn state handle → Option Text
  | .interrupted => none
  | .line text _ => some text

/-- The run of the line. -/
def run? : Turn state handle → Option (Execution state handle Int)
  | .interrupted => none
  | .line _ run => some run

/-- A turn whose line exits. -/
def Exits (turn : Turn state handle) : Prop :=
  ∃ text run code, turn = .line text run ∧ run.outcome = .exited code

/-- What happens in a turn, after what happens before every read. Only an interrupt is followed by a
line break on the terminal. -/
def events (asking : List (Event handle)) : Turn state handle → List (Event handle)
  | .interrupted => asking ++ [.read .interrupted, .terminal [Text.newline]]
  | .line text run =>
      asking ++ .read (.line text) ::
        (run.events ++ if run.outcome = .interrupted then [.terminal [Text.newline]] else [])

theorem not_exits_interrupted : ¬ (Turn.interrupted : Turn state handle).Exits := by
  rintro ⟨_, _, _, isLine, _⟩
  cases isLine

theorem not_exits_line {text : Text} {run : Execution state handle Int}
    (goesOn : ∀ code, run.outcome ≠ .exited code) : ¬ (Turn.line text run).Exits := by
  rintro ⟨_, _, code, isLine, exited⟩
  cases isLine
  exact goesOn code exited

end Turn

namespace Shell

variable (shell : Shell state handle)

/-- What happens before every read: the prompt, on a terminal. -/
def asking (isTerminal : Bool) : List (Event handle) :=
  if isTerminal then [.terminal shell.prompt] else []

/-! ## The loop, turn by turn -/

theorem loop_nil (isTerminal : Bool) (code : Int) (initial : state) :
    shell.loop isTerminal code [] initial =
      ⟨.returned ⟨code, []⟩, shell.asking isTerminal ++ [.read .endOfInput], initial⟩ := by
  simp only [loop, emitIf_bind_apply, emit_bind_apply]
  rfl

/-- An interrupted read is a turn of its own, and the loop goes on as if it had not been made. -/
theorem loop_interrupted_cons (isTerminal : Bool) (code : Int) (later : List Read)
    (initial : state) :
    shell.loop isTerminal code (.interrupted :: later) initial =
      ⟨(shell.loop isTerminal code later initial).outcome,
        (Turn.interrupted : Turn state handle).events (shell.asking isTerminal) ++
          (shell.loop isTerminal code later initial).events,
        (shell.loop isTerminal code later initial).final⟩ := by
  simp only [loop, breakLine, emitIf_bind_apply, emit_bind_apply, Turn.events, List.append_assoc]
  rfl

/-- A line that exits ends the loop. -/
theorem loop_line_cons_of_exited {line : Text} {initial : state} {exitCode : Int}
    (exited : (shell.runLine line initial).outcome = .exited exitCode) (isTerminal : Bool)
    (code : Int) (later : List Read) :
    shell.loop isTerminal code (.line line :: later) initial =
      ⟨.returned ⟨exitCode, later.flatMap Read.consumed⟩,
        (Turn.line line (shell.runLine line initial)).events (shell.asking isTerminal),
        (shell.runLine line initial).final⟩ := by
  simp only [loop, emitIf_bind_apply, emit_bind_apply, Turn.events, exited]
  simp only [bind_apply, observe, Execution.follow, exited]
  rfl

/-- After any other line the loop goes on, with the code of that line. -/
theorem loop_line_cons {line : Text} {initial : state} {next : Int}
    (goesOn : ∀ exitCode, (shell.runLine line initial).outcome ≠ .exited exitCode)
    (remembered : (shell.runLine line initial).outcome.loopCode? = some next) (isTerminal : Bool)
    (code : Int) (later : List Read) :
    shell.loop isTerminal code (.line line :: later) initial =
      ⟨(shell.loop isTerminal next later (shell.runLine line initial).final).outcome,
        (Turn.line line (shell.runLine line initial)).events (shell.asking isTerminal) ++
          (shell.loop isTerminal next later (shell.runLine line initial).final).events,
        (shell.loop isTerminal next later (shell.runLine line initial).final).final⟩ := by
  simp only [loop, breakLine, emitIf_bind_apply, emit_bind_apply, Turn.events]
  simp only [bind_apply, observe, Execution.follow]
  cases ended : (shell.runLine line initial).outcome with
  | returned result =>
      rw [ended] at remembered
      cases remembered
      simp [asking]
  | failed error =>
      rw [ended] at remembered
      cases remembered
  | exited exitCode => exact absurd ended (goesOn exitCode)
  | interrupted =>
      rw [ended] at remembered
      cases remembered
      simp [asking, emit_bind_apply]

end Shell

/-! ## All turns -/

/-- The code of the last of some lines, or the code from before if there is none. -/
def IsLastCode (before : Int) (runs : List (Execution state handle Int)) (code : Int) : Prop :=
  match runs.getLast? with
  | none => code = before
  | some run => run.outcome.loopCode? = some code

theorem IsLastCode.cons {before next code : Int} {run : Execution state handle Int}
    {runs : List (Execution state handle Int)} (remembered : run.outcome.loopCode? = some next)
    (ofRuns : IsLastCode next runs code) : IsLastCode before (run :: runs) code := by
  unfold IsLastCode at ofRuns ⊢
  rw [List.getLast?_cons]
  cases last : runs.getLast? with
  | none =>
      rw [last] at ofRuns
      rw [ofRuns]
      exact remembered
  | some other =>
      rw [last] at ofRuns
      exact ofRuns

section LoopRuns

variable (shell : Shell state handle) (isTerminal : Bool) (isInterrupted : Nat → Prop)

/-- How the loop ends after its turns: with the exit of its last line, or with a read that finds the
end of the input. It returns the code of the exit, or else that of the last line. -/
inductive LoopEnding (code : Int) (turns : List (Turn state handle)) (left : List Text) :
    Outcome LoopEnd → List (Event handle) → Prop
  | exit {earlier : List (Turn state handle)} {text : Text} {run : Execution state handle Int}
      {exitCode : Int} (last : turns = earlier ++ [.line text run])
      (exits : run.outcome = .exited exitCode) (noneBefore : ∀ turn ∈ earlier, ¬ turn.Exits) :
      LoopEnding code turns left (.returned ⟨exitCode, left.flatten⟩)
        (turns.flatMap (Turn.events (shell.asking isTerminal)))
  | endOfInput {last : Int} (noneExits : ∀ turn ∈ turns, ¬ turn.Exits) (allRead : left = [])
      (found : ¬ isInterrupted turns.length)
      (remembered : IsLastCode code (turns.filterMap Turn.run?) last) :
      LoopEnding code turns left (.returned ⟨last, []⟩)
        (turns.flatMap (Turn.events (shell.asking isTerminal)) ++
          (shell.asking isTerminal ++ [.read .endOfInput]))

/-- An execution of the loop on some lines, from a remembered code and a state, that makes the given
turns and does not read the lines that are left. -/
structure IsLoopRun (lines : List Text) (code : Int) (initial : state)
    (turns : List (Turn state handle)) (left : List Text)
    (looped : Execution state handle LoopEnd) : Prop where
  /-- the turns run the first lines, each once and in order -/
  linesInOrder : lines = turns.filterMap Turn.text? ++ left
  /-- each line is run from the state that the line before it left -/
  runsInOrder :
    turns.filterMap Turn.run? =
      runEach ((turns.filterMap Turn.text?).map shell.runLine) initial
  /-- a read is interrupted where it has to be -/
  interruptedReads :
    ∀ number turn, turns[number]? = some turn → (turn = .interrupted ↔ isInterrupted number)
  /-- the loop leaves the state that its last line left -/
  final : looped.final = ((turns.filterMap Turn.run?).getLast?.map Execution.final).getD initial
  /-- the log is that of the turns, and the loop ends with an exit or with the input -/
  ending : LoopEnding shell isTerminal isInterrupted code turns left looped.outcome looped.events

namespace LoopEnding

variable {shell isTerminal isInterrupted} {code : Int} {turns : List (Turn state handle)}
  {left : List Text} {outcome : Outcome LoopEnd} {events : List (Event handle)}

/-- One more turn in front, which may change the remembered code but does not exit. -/
theorem cons {turn : Turn state handle} {before : Int} (goesOn : ¬ turn.Exits)
    (remembered : ∀ last, IsLastCode code (turns.filterMap Turn.run?) last →
      IsLastCode before ((turn :: turns).filterMap Turn.run?) last)
    (laterEnding :
      LoopEnding shell isTerminal (fun number => isInterrupted (number + 1)) code turns left outcome
        events) :
    LoopEnding shell isTerminal isInterrupted before (turn :: turns) left outcome
      (turn.events (shell.asking isTerminal) ++ events) := by
  cases laterEnding with
  | @exit earlier text run _ last exits noneBefore =>
      have lastOfAll : turn :: turns = (turn :: earlier) ++ [.line text run] :=
        congrArg (turn :: ·) last
      exact .exit lastOfAll exits (List.forall_mem_cons.2 ⟨goesOn, noneBefore⟩)
  | endOfInput noneExits allRead found lastCode =>
      rw [← List.append_assoc]
      exact
        .endOfInput (List.forall_mem_cons.2 ⟨goesOn, noneExits⟩) allRead found
          (remembered _ lastCode)

/-- The loop returns, and the text that it leaves unread is that of the lines that are left. There
is none unless a line exits. -/
theorem returns
    (ending : LoopEnding shell isTerminal isInterrupted code turns left outcome events) :
    ∃ ended : LoopEnd, outcome = .returned ended ∧ ended.unread = left.flatten ∧
      ((∀ turn ∈ turns, ¬ turn.Exits) → ended.unread = []) := by
  cases ending with
  | @exit earlier text run exitCode last exits noneBefore =>
      refine ⟨_, rfl, rfl, ?_⟩
      intro noneExits
      have lastMember : .line text run ∈ turns := by
        rw [last]
        exact List.mem_append_right earlier List.mem_cons_self
      exact absurd ⟨text, run, exitCode, rfl, exits⟩ (noneExits _ lastMember)
  | endOfInput noneExits allRead found remembered =>
      subst allRead
      exact ⟨_, rfl, rfl, fun _ => rfl⟩

end LoopEnding

namespace IsLoopRun

variable {shell isTerminal isInterrupted} {lines left : List Text} {code : Int} {initial : state}
  {turns : List (Turn state handle)} {looped : Execution state handle LoopEnd}

/-- An interrupted read in front changes nothing but the log. -/
theorem interrupted_cons (now : isInterrupted 0)
    (laterRun :
      IsLoopRun shell isTerminal (fun number => isInterrupted (number + 1)) lines code initial turns
        left looped) :
    IsLoopRun shell isTerminal isInterrupted lines code initial (.interrupted :: turns) left
      ⟨looped.outcome,
        (Turn.interrupted : Turn state handle).events (shell.asking isTerminal) ++ looped.events,
        looped.final⟩ where
  linesInOrder := laterRun.linesInOrder
  runsInOrder := laterRun.runsInOrder
  interruptedReads := by
    intro number turn isTurn
    cases number with
    | zero =>
        cases isTurn
        exact iff_of_true rfl now
    | succ previous => exact laterRun.interruptedReads previous turn isTurn
  final := laterRun.final
  ending := laterRun.ending.cons Turn.not_exits_interrupted fun _ lastCode => lastCode

/-- A line in front that does not exit. -/
theorem line_cons {line : Text} {next : Int} (notNow : ¬ isInterrupted 0)
    (goesOn : ∀ exitCode, (shell.runLine line initial).outcome ≠ .exited exitCode)
    (remembered : (shell.runLine line initial).outcome.loopCode? = some next)
    (laterRun :
      IsLoopRun shell isTerminal (fun number => isInterrupted (number + 1)) lines next
        (shell.runLine line initial).final turns left looped) :
    IsLoopRun shell isTerminal isInterrupted (line :: lines) code initial
      (.line line (shell.runLine line initial) :: turns) left
      ⟨looped.outcome,
        (Turn.line line (shell.runLine line initial)).events (shell.asking isTerminal) ++
          looped.events,
        looped.final⟩ where
  linesInOrder := congrArg (line :: ·) laterRun.linesInOrder
  runsInOrder := congrArg (shell.runLine line initial :: ·) laterRun.runsInOrder
  interruptedReads := by
    intro number turn isTurn
    cases number with
    | zero =>
        cases isTurn
        exact iff_of_false (by simp) notNow
    | succ previous => exact laterRun.interruptedReads previous turn isTurn
  final := by
    show looped.final =
      ((shell.runLine line initial :: turns.filterMap Turn.run?).getLast?.map
        Execution.final).getD initial
    rw [laterRun.final, List.getLast?_cons]
    cases (turns.filterMap Turn.run?).getLast? with
    | none => rfl
    | some last => rfl
  ending := laterRun.ending.cons (Turn.not_exits_line goesOn) fun _ => IsLastCode.cons remembered

/-- A line that exits is the last. -/
theorem line_of_exited {line : Text} {exitCode : Int} (notNow : ¬ isInterrupted 0)
    (exited : (shell.runLine line initial).outcome = .exited exitCode) :
    IsLoopRun shell isTerminal isInterrupted (line :: left) code initial
      [.line line (shell.runLine line initial)] left
      ⟨.returned ⟨exitCode, left.flatten⟩,
        (Turn.line line (shell.runLine line initial)).events (shell.asking isTerminal),
        (shell.runLine line initial).final⟩ where
  linesInOrder := rfl
  runsInOrder := rfl
  interruptedReads := by
    intro number turn isTurn
    cases number with
    | zero =>
        cases isTurn
        exact iff_of_false (by simp) notNow
    | succ previous => cases isTurn
  final := rfl
  ending := by
    rw [← List.flatMap_singleton (Turn.events (shell.asking isTerminal))]
    exact .exit (List.nil_append _).symm exited (by simp)

/-- Without a line and without an interrupt, only the end of the input is found. -/
theorem nil (notNow : ¬ isInterrupted 0) :
    IsLoopRun shell isTerminal isInterrupted [] code initial [] []
      ⟨.returned ⟨code, []⟩, shell.asking isTerminal ++ [.read .endOfInput], initial⟩ where
  linesInOrder := rfl
  runsInOrder := rfl
  interruptedReads := by
    intro number turn isTurn
    cases isTurn
  final := rfl
  ending := .endOfInput (by simp) rfl notNow rfl

end IsLoopRun

end LoopRuns

end CommandChain
