import CommandChain.Process.Playbook
import CommandChain.Proofs.Loop.Reading

/-!
# What the read loop writes to its terminal

The loop writes a prompt before each read, and a line break after each read that is interrupted and
each line whose run is. The run of a line writes nothing there. So the text on the terminal is told
from the turns alone, and the prompts on it are as many as the reads.
-/

namespace CommandChain

open CommandChain.Action

variable {state handle : Type}

/-! ## The terminal in a log -/

/-- A log without reads and without texts on the terminal. -/
def IsSilent (log : List (Event handle)) : Prop :=
  ∀ event ∈ log, event.isOfLoop = false

/-- The text that an event writes to the terminal, if it does. -/
def Event.terminal? : Event handle → Option Text
  | .terminal text => some text
  | _ => none

/-- What a log writes to the terminal, one write after another. -/
def terminalWrites (log : List (Event handle)) : List Text :=
  log.filterMap Event.terminal?

/-- The writes to the terminal that stand directly before a read. -/
def promptsBeforeReads : List (Event handle) → List Text
  | [] => []
  | .terminal text :: .read _ :: later => text :: promptsBeforeReads later
  | _ :: later => promptsBeforeReads later

theorem terminalWrites_append (log more : List (Event handle)) :
    terminalWrites (log ++ more) = terminalWrites log ++ terminalWrites more :=
  List.filterMap_append

theorem terminalWrites_map_terminal (texts : List Text) :
    terminalWrites (texts.map Event.terminal : List (Event handle)) = texts := by
  induction texts with
  | nil => rfl
  | cons first later inductionHypothesis => exact congrArg (first :: ·) inductionHypothesis

theorem flatMap_terminalText (log : List (Event handle)) :
    log.flatMap Event.terminalText = (terminalWrites log).flatten := by
  induction log with
  | nil => rfl
  | cons event later inductionHypothesis =>
      rw [List.flatMap_cons, inductionHypothesis]
      cases event <;> rfl

namespace IsSilent

variable {log : List (Event handle)}

theorem terminalWrites_eq_nil (silent : IsSilent log) : terminalWrites log = [] := by
  apply List.filterMap_eq_nil_iff.2
  intro event member
  have notOfLoop := silent event member
  cases event with
  | terminal text => cases notOfLoop
  | _ => rfl

theorem promptsBeforeReads_append (silent : IsSilent log) (later : List (Event handle)) :
    promptsBeforeReads (log ++ later) = promptsBeforeReads later := by
  induction log with
  | nil => rfl
  | cons event rest inductionHypothesis =>
      obtain ⟨firstSilent, restSilent⟩ := List.forall_mem_cons.1 silent
      have skipped := inductionHypothesis restSilent
      cases event with
      | terminal text => cases firstSilent
      | read answer => cases firstSilent
      | _ => exact skipped

end IsSilent

theorem Shell.isSilent_runLine (shell : Shell state handle) (line : Text) (initial : state) :
    IsSilent (shell.runLine line initial).events := by
  intro event member
  rw [← shell.lineEvents_runLine] at member
  have notOfLoop := (List.mem_filter.1 member).2
  simpa using notOfLoop

/-! ## The terminal in a turn -/

namespace Turn

/-- What the read of a turn finds. -/
def answer : Turn state handle → ReadAnswer
  | .interrupted => .interrupted
  | .line text _ => .line text

/-- What happens while the line of a turn is run. -/
def runEvents : Turn state handle → List (Event handle)
  | .interrupted => []
  | .line _ run => run.events

/-- The read was interrupted, or the run of the line was. -/
def isInterrupted : Turn state handle → Bool
  | .interrupted => true
  | .line _ run => decide (run.outcome = .interrupted)

/-- The line break that follows an interrupt. -/
def breaks (turn : Turn state handle) : List Text :=
  if turn.isInterrupted then [[Text.newline]] else []

/-- The line of the turn exits. -/
def exits : Turn state handle → Bool
  | .interrupted => false
  | .line _ run =>
      match run.outcome with
      | .exited _ => true
      | _ => false

theorem exits_iff (turn : Turn state handle) : turn.exits = true ↔ turn.Exits := by
  constructor
  · intro exits
    cases turn with
    | interrupted => cases exits
    | line text run =>
        cases ended : run.outcome with
        | exited code => exact ⟨text, run, code, rfl, ended⟩
        | _ => simp [Turn.exits, ended] at exits
  · rintro ⟨text, run, code, rfl, ended⟩
    simp [Turn.exits, ended]

theorem any_exits_eq_false {turns : List (Turn state handle)}
    (noneExits : ∀ turn ∈ turns, ¬ turn.Exits) : turns.any Turn.exits = false := by
  rw [List.any_eq_false]
  intro turn member exits
  exact noneExits turn member (turn.exits_iff.1 exits)

theorem events_eq (asking : List (Event handle)) (turn : Turn state handle) :
    turn.events asking =
      asking ++ .read turn.answer :: (turn.runEvents ++ turn.breaks.map .terminal) := by
  cases turn with
  | interrupted => rfl
  | line text run =>
      by_cases interrupted : run.outcome = .interrupted
      · simp [events, answer, runEvents, breaks, isInterrupted, interrupted]
      · simp [events, answer, runEvents, breaks, isInterrupted, interrupted]

theorem terminalWrites_events {turn : Turn state handle} (silent : IsSilent turn.runEvents)
    (asks : List Text) :
    terminalWrites (turn.events (asks.map .terminal)) = asks ++ turn.breaks := by
  have ofRead (log : List (Event handle)) :
      terminalWrites (.read turn.answer :: log) = terminalWrites log := rfl
  rw [events_eq, terminalWrites_append, terminalWrites_map_terminal, ofRead, terminalWrites_append,
    silent.terminalWrites_eq_nil, terminalWrites_map_terminal, List.nil_append]

/-- A line break is no prompt, since another prompt or nothing at all comes next. -/
theorem promptsBeforeReads_breaks_append (turn : Turn state handle) (prompt : Text)
    {log : List (Event handle)} (next : log = [] ∨ ∃ later, log = .terminal prompt :: later) :
    promptsBeforeReads (turn.breaks.map .terminal ++ log) = promptsBeforeReads log := by
  unfold breaks
  split
  · rcases next with rfl | ⟨later, rfl⟩
    · rfl
    · rfl
  · rfl

end Turn

/-- The lines that the turns run. -/
def linesRun (turns : List (Turn state handle)) : Nat :=
  turns.countP fun turn => turn.text?.isSome

/-- The reads of the turns that are interrupted. -/
def readsInterrupted (turns : List (Turn state handle)) : Nat :=
  turns.countP fun turn => turn.text?.isNone

theorem linesRun_add_readsInterrupted (turns : List (Turn state handle)) :
    linesRun turns + readsInterrupted turns = turns.length := by
  have halves := List.length_eq_countP_add_countP (fun turn => turn.text?.isSome) (l := turns)
  have others :
      (fun turn : Turn state handle => decide ¬(turn.text?.isSome = true)) =
        fun turn => turn.text?.isNone := by
    funext turn
    cases turn with
    | interrupted => rfl
    | line text run => rfl
  rw [others] at halves
  exact halves.symm

/-! ## The terminal in a run of the loop -/

/-- What the loop does behind its turns, unless a line exits: it asks once more and finds the end. -/
def closing (asking : List (Event handle)) (turns : List (Turn state handle)) :
    List (Event handle) :=
  if turns.any Turn.exits then [] else asking ++ [.read .endOfInput]

section Turns

variable {turns : List (Turn state handle)}

theorem LoopEnding.events_eq {shell : Shell state handle} {isTerminal : Bool}
    {isInterrupted : Nat → Prop} {code : Int} {left : List Text} {outcome : Outcome LoopEnd}
    {events : List (Event handle)}
    (ending : LoopEnding shell isTerminal isInterrupted code turns left outcome events) :
    events =
      turns.flatMap (Turn.events (shell.asking isTerminal)) ++
        closing (shell.asking isTerminal) turns := by
  unfold closing
  cases ending with
  | @exit earlier text run exitCode last exits noneBefore =>
      have lastExits : turns.any Turn.exits = true := by
        rw [last, List.any_append]
        simp [Turn.exits, exits]
      rw [if_pos lastExits, List.append_nil]
  | endOfInput noneExits allRead found remembered =>
      rw [Turn.any_exits_eq_false noneExits]
      rfl

theorem terminalWrites_turns (silent : ∀ turn ∈ turns, IsSilent turn.runEvents)
    (asks : List Text) :
    terminalWrites (turns.flatMap (Turn.events (asks.map .terminal))) =
      turns.flatMap fun turn => asks ++ turn.breaks := by
  induction turns with
  | nil => rfl
  | cons first later inductionHypothesis =>
      obtain ⟨firstSilent, laterSilent⟩ := List.forall_mem_cons.1 silent
      rw [List.flatMap_cons, terminalWrites_append, Turn.terminalWrites_events firstSilent,
        inductionHypothesis laterSilent, List.flatMap_cons]

theorem terminalWrites_closing (asks : List Text) (turns : List (Turn state handle)) :
    terminalWrites (closing (asks.map .terminal) turns) =
      if turns.any Turn.exits then [] else asks := by
  unfold closing
  split
  · rfl
  · rw [terminalWrites_append, terminalWrites_map_terminal]
    exact List.append_nil asks

/-- What comes behind the prompt of a turn: the turn itself, and what follows it. -/
theorem promptsBeforeReads_turn {turn : Turn state handle} (silent : IsSilent turn.runEvents)
    {prompt : Text} {log : List (Event handle)}
    (next : log = [] ∨ ∃ later, log = .terminal prompt :: later) :
    promptsBeforeReads (turn.events [.terminal prompt] ++ log) =
      prompt :: promptsBeforeReads log := by
  have asked (events : List (Event handle)) :
      promptsBeforeReads (.terminal prompt :: .read turn.answer :: events) =
        prompt :: promptsBeforeReads events := rfl
  rw [Turn.events_eq, List.append_assoc, List.singleton_append, List.cons_append, asked,
    List.append_assoc, silent.promptsBeforeReads_append,
    turn.promptsBeforeReads_breaks_append prompt next]

theorem promptsBeforeReads_turns (silent : ∀ turn ∈ turns, IsSilent turn.runEvents)
    (prompt : Text) {log : List (Event handle)}
    (next : log = [] ∨ ∃ later, log = .terminal prompt :: later) :
    promptsBeforeReads (turns.flatMap (Turn.events [.terminal prompt]) ++ log) =
      List.replicate turns.length prompt ++ promptsBeforeReads log := by
  -- What follows a turn is empty or starts with a prompt, so its line break is never counted.
  induction turns with
  | nil => rfl
  | cons first later inductionHypothesis =>
      obtain ⟨firstSilent, laterSilent⟩ := List.forall_mem_cons.1 silent
      have laterNext :
          later.flatMap (Turn.events [.terminal prompt]) ++ log = [] ∨
            ∃ rest, later.flatMap (Turn.events [.terminal prompt]) ++ log =
              .terminal prompt :: rest := by
        cases later with
        | nil => exact next
        | cons second others =>
            rw [List.flatMap_cons, Turn.events_eq, List.append_assoc, List.append_assoc]
            exact Or.inr ⟨_, rfl⟩
      rw [List.flatMap_cons, List.append_assoc, promptsBeforeReads_turn firstSilent laterNext,
        inductionHypothesis laterSilent]
      rfl

theorem promptsBeforeReads_closing (prompt : Text) (turns : List (Turn state handle)) :
    promptsBeforeReads (closing [.terminal prompt] turns) =
      List.replicate (if turns.any Turn.exits then 0 else 1) prompt := by
  unfold closing
  split
  · rfl
  · rfl

theorem closing_next (prompt : Text) (turns : List (Turn state handle)) :
    closing [.terminal prompt] turns = [] ∨
      ∃ later, closing [.terminal prompt] turns = .terminal prompt :: later := by
  unfold closing
  split
  · exact Or.inl rfl
  · exact Or.inr ⟨_, rfl⟩

theorem flatten_flatMap_breaks (turns : List (Turn state handle)) :
    (turns.flatMap Turn.breaks).flatten =
      List.replicate (turns.countP Turn.isInterrupted) Text.newline := by
  induction turns with
  | nil => rfl
  | cons first later inductionHypothesis =>
      rw [List.flatMap_cons, List.flatten_append, inductionHypothesis, List.countP_cons]
      unfold Turn.breaks
      split
      · rw [List.replicate_succ]
        rfl
      · rfl

end Turns

theorem Action.exists_start_of_mem_runEach {value : Type}
    {run : Execution state handle value} :
    ∀ {actions : List (Action state handle value)} {initial : state},
      run ∈ runEach actions initial → ∃ action ∈ actions, ∃ world, run = action world
  | first :: later, initial, member => by
      rcases List.mem_cons.1 member with isFirst | ofLater
      · exact ⟨first, List.mem_cons_self, initial, isFirst⟩
      · obtain ⟨action, inLater, start⟩ := exists_start_of_mem_runEach ofLater
        exact ⟨action, List.mem_cons_of_mem first inLater, start⟩

theorem IsLoopRun.isSilent_runEvents {shell : Shell state handle} {isTerminal : Bool}
    {isInterrupted : Nat → Prop} {lines left : List Text} {code : Int} {initial : state}
    {turns : List (Turn state handle)} {looped : Execution state handle LoopEnd}
    (loopRun : IsLoopRun shell isTerminal isInterrupted lines code initial turns left looped) :
    ∀ turn ∈ turns, IsSilent turn.runEvents := by
  intro turn member
  cases turn with
  | interrupted => exact fun event none => absurd none List.not_mem_nil
  | line text run =>
      have inRuns : run ∈ turns.filterMap Turn.run? := List.mem_filterMap.2 ⟨_, member, rfl⟩
      rw [loopRun.runsInOrder] at inRuns
      obtain ⟨action, inActions, world, rfl⟩ := exists_start_of_mem_runEach inRuns
      obtain ⟨line, _, rfl⟩ := List.mem_map.1 inActions
      exact shell.isSilent_runLine line world

namespace Shell

variable (shell : Shell state handle)

/-- What is shown before a read: the prompt, on a terminal. -/
def prompts (isTerminal : Bool) : List Text :=
  if isTerminal then [shell.prompt] else []

theorem asking_eq (isTerminal : Bool) :
    shell.asking isTerminal = (shell.prompts isTerminal).map .terminal := by
  cases isTerminal with
  | true => rfl
  | false => rfl

/-- What the read loop writes to its terminal. Before each read it writes the prompt, if it writes
to a terminal at all. After a read that is interrupted, and after a line whose run is, it writes one
line break, and it writes nothing else. The run of a line writes nothing there. So there are as many
prompts as lines that are run and reads that are interrupted, and one more for the read that finds
the end if no line exits; and where no prompt is written, the text is one line break for each
interrupt. -/
theorem readLoop_writes_prompts_and_breaks (source : ReadSource) (initial : state) :
    let looped := shell.readLoop source initial
    let prompts : List Text := if source.isTerminal then [shell.prompt] else []
    ∃ (turns : List (Turn state handle)) (left : List Text),
      IsLoopRun shell source.isTerminal (· ∈ source.interruptedReads) source.input.lines 0 initial
          turns left looped ∧
        looped.events =
          (turns.flatMap fun turn =>
              prompts.map .terminal ++
                .read turn.answer :: (turn.runEvents ++ turn.breaks.map .terminal)) ++
            (if turns.any Turn.exits then [] else prompts.map .terminal ++ [.read .endOfInput]) ∧
        (∀ turn ∈ turns, ∀ event ∈ turn.runEvents, event.isOfLoop = false) ∧
        terminalWrites looped.events =
          (turns.flatMap fun turn => prompts ++ turn.breaks) ++
            (if turns.any Turn.exits then [] else prompts) ∧
        looped.events.flatMap Event.terminalText = (terminalWrites looped.events).flatten ∧
        (source.isTerminal = true →
          promptsBeforeReads looped.events =
            List.replicate
              (linesRun turns + readsInterrupted turns + if turns.any Turn.exits then 0 else 1)
              shell.prompt) ∧
        (source.isTerminal = false →
          looped.events.flatMap Event.terminalText =
            List.replicate (turns.countP Turn.isInterrupted) Text.newline) := by
  intro looped prompts
  obtain ⟨turns, left, loopRun⟩ :=
    shell.exists_isLoopRun source.isTerminal source.interruptedReads 0 source.input.lines 0 initial
  simp only [Nat.zero_add] at loopRun
  have asking : shell.asking source.isTerminal = prompts.map .terminal :=
    shell.asking_eq source.isTerminal
  have silent := loopRun.isSilent_runEvents
  have events : looped.events =
      turns.flatMap (Turn.events (prompts.map .terminal)) ++
        closing (prompts.map .terminal) turns := by
    rw [← asking]
    exact loopRun.ending.events_eq
  have writes : terminalWrites looped.events =
      (turns.flatMap fun turn => prompts ++ turn.breaks) ++
        if turns.any Turn.exits then [] else prompts := by
    rw [events, terminalWrites_append, terminalWrites_turns silent, terminalWrites_closing]
  refine ⟨turns, left, loopRun, ?_, silent, writes, flatMap_terminalText _, ?_, ?_⟩
  · have eachTurn :
        Turn.events (prompts.map .terminal) = fun turn : Turn state handle =>
          prompts.map .terminal ++
            .read turn.answer :: (turn.runEvents ++ turn.breaks.map .terminal) :=
      funext fun turn => turn.events_eq (prompts.map .terminal)
    rw [events, eachTurn]
    rfl
  · intro isTerminal
    have onTerminal : prompts = [shell.prompt] := if_pos isTerminal
    rw [onTerminal] at events
    rw [linesRun_add_readsInterrupted, events]
    have counted := promptsBeforeReads_turns silent shell.prompt (closing_next shell.prompt turns)
    rw [promptsBeforeReads_closing, List.replicate_append_replicate] at counted
    exact counted
  · intro notTerminal
    have offTerminal : prompts = [] := if_neg (by simp [notTerminal])
    rw [flatMap_terminalText, writes, offTerminal, ite_self, List.append_nil]
    exact flatten_flatMap_breaks turns

/-- A line whose run is interrupted, a read that is interrupted and a line that exits, read with a
terminal and without. -/
theorem readLoop_writes_prompts_and_breaks_of_interrupts :
    let shell : Shell PlaybookState PlaybookProcess :=
      { processes := Playbook.processLayer { otherwise := .interrupted } }
    let shown : ReadSource :=
      { input := Text.ofString "sleep 9\nexit\n", interruptedReads := [1], isTerminal := true }
    let piped : ReadSource := { shown with isTerminal := false }
    let shownLog := (shell.readLoop shown {}).events
    let pipedLog := (shell.readLoop piped {}).events
    (∃ turns : List (Turn PlaybookState PlaybookProcess),
        promptsBeforeReads shownLog =
          List.replicate
            (linesRun turns + readsInterrupted turns + if turns.any Turn.exits then 0 else 1)
            defaultPrompt) ∧
      shownLog.flatMap Event.terminalText = Text.ofString "> \n> \n> " ∧
      (∃ turns : List (Turn PlaybookState PlaybookProcess),
        pipedLog.flatMap Event.terminalText =
          List.replicate (turns.countP Turn.isInterrupted) Text.newline) ∧
      pipedLog.flatMap Event.terminalText = Text.ofString "\n\n" := by
  intro shell shown piped shownLog pipedLog
  obtain ⟨shownTurns, _, _, _, _, _, _, counted, _⟩ :=
    shell.readLoop_writes_prompts_and_breaks shown {}
  obtain ⟨pipedTurns, _, _, _, _, _, _, _, broken⟩ :=
    shell.readLoop_writes_prompts_and_breaks piped {}
  exact
    ⟨⟨shownTurns, counted rfl⟩, by decide +kernel, ⟨pipedTurns, broken rfl⟩, by decide +kernel⟩

end Shell

end CommandChain
