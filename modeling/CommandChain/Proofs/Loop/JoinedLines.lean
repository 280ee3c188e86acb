import CommandChain.Process.Playbook
import CommandChain.Proofs.Evaluation.Sequence
import CommandChain.Proofs.Loop.Reading

/-!
# Lines of an input and lines joined by semicolons

Lines that the read loop reads one by one are run like the one line that joins them with semicolons.
The two go through the same chains in the same order; what differs is the code that they carry. The
loop starts every line with code zero, and the joined line carries the code of the last chain over
lines that hold none. `LastCodes` says how the two codes are related after any number of lines.
-/

namespace CommandChain

open CommandChain.Action

variable {state handle : Type}

/-! ## Ends of the loop -/

/-- The loop ended with the exit of a line: it did not find the end of its input. -/
def EndsWithExit (looped : Execution state handle LoopEnd) (code : Int) : Prop :=
  (∃ unread, looped.outcome = .returned ⟨code, unread⟩) ∧ .read .endOfInput ∉ looped.events

/-- The loop ended at the end of its input. -/
def EndsWithInput (looped : Execution state handle LoopEnd) (code : Int) : Prop :=
  looped.outcome = .returned ⟨code, []⟩ ∧ .read .endOfInput ∈ looped.events

theorem EndsWithExit.not_endsWithInput {looped : Execution state handle LoopEnd} {code other : Int}
    (withExit : EndsWithExit looped code) : ¬ EndsWithInput looped other :=
  fun withInput => withExit.2 withInput.2

namespace Shell

variable (shell : Shell state handle)

theorem endOfInput_not_mem_asking (isTerminal : Bool) :
    .read .endOfInput ∉ shell.asking isTerminal := by
  cases isTerminal with
  | true => simp [asking]
  | false => simp [asking]

theorem endOfInput_not_mem_interrupted (isTerminal : Bool) :
    .read .endOfInput ∉ (Turn.interrupted : Turn state handle).events (shell.asking isTerminal) := by
  simp [Turn.events, shell.endOfInput_not_mem_asking]

theorem endOfInput_not_mem_line (isTerminal : Bool) (line : Text) (initial : state) :
    .read .endOfInput ∉
      (Turn.line line (shell.runLine line initial)).events (shell.asking isTerminal) := by
  have notInRun : .read .endOfInput ∉ (shell.runLine line initial).events := by
    rw [← lineEvents_runLine]
    simp [lineEvents, Event.isOfLoop]
  have notBehind :
      .read .endOfInput ∉
        (if (shell.runLine line initial).outcome = .interrupted then
          ([.terminal [Text.newline]] : List (Event handle)) else []) := by
    split <;> simp
  simp [Turn.events, shell.endOfInput_not_mem_asking, notInRun, notBehind]

end Shell

/-! ## Codes of the two runs -/

/-- The codes of the loop and of the joined line after some lines, given the codes before them. They
are equal if the last line holds a chain; otherwise the loop has code zero. The code of the joined
line is the one before if no line holds a chain. -/
structure LastCodes (lines : List Text) (loopBefore before loopCode code : Int) : Prop where
  ofNil : lines = [] → loopCode = loopBefore
  kept : (∀ line ∈ lines, ¬ HoldsChain line) → code = before
  same : ∀ last, lines.getLast? = some last → HoldsChain last → loopCode = code
  zero : ∀ last, lines.getLast? = some last → ¬ HoldsChain last → loopCode = 0

namespace LastCodes

theorem nil (loopBefore before : Int) : LastCodes [] loopBefore before loopBefore before where
  ofNil := fun _ => rfl
  kept := fun _ => rfl
  same := nofun
  zero := nofun

/-- One more line in front, which leaves the loop with the code `reached` and the joined line with
the code `next`. -/
theorem cons {line : Text} {rest : List Text} {loopBefore before reached next loopCode code : Int}
    (ofHolding : HoldsChain line → next = reached)
    (ofHoldingNone : ¬ HoldsChain line → reached = 0 ∧ next = before)
    (later : LastCodes rest reached next loopCode code) :
    LastCodes (line :: rest) loopBefore before loopCode code where
  ofNil := nofun
  kept := by
    intro noneHold
    obtain ⟨lineHoldsNone, restHoldNone⟩ := List.forall_mem_cons.1 noneHold
    exact (later.kept restHoldNone).trans (ofHoldingNone lineHoldsNone).2
  same := by
    intro last isLast holds
    cases rest with
    | nil =>
        cases isLast
        rw [later.ofNil rfl, later.kept (by simp), ofHolding holds]
    | cons second more =>
        rw [List.getLast?_cons_cons] at isLast
        exact later.same last isLast holds
  zero := by
    intro last isLast holdsNone
    cases rest with
    | nil =>
        cases isLast
        exact (later.ofNil rfl).trans (ofHoldingNone holdsNone).1
    | cons second more =>
        rw [List.getLast?_cons_cons] at isLast
        exact later.zero last isLast holdsNone

/-- Nothing counts of a line but its chains. -/
theorem congr {lines others : List Text} {loopBefore before loopCode code : Int}
    (sameChains : lines.map readChains = others.map readChains)
    (codes : LastCodes lines loopBefore before loopCode code) :
    LastCodes others loopBefore before loopCode code := by
  have ofLast {last : Text} (isLast : others.getLast? = some last) :
      ∃ line, lines.getLast? = some line ∧ (HoldsChain line ↔ HoldsChain last) := by
    have sameLast := congrArg List.getLast? sameChains
    rw [List.getLast?_map, List.getLast?_map, isLast] at sameLast
    obtain ⟨line, isLastLine, sameRead⟩ := Option.map_eq_some_iff.1 sameLast
    exact ⟨line, isLastLine, by rw [holdsChain_iff, holdsChain_iff, sameRead]⟩
  constructor
  · rintro rfl
    exact codes.ofNil (List.map_eq_nil_iff.1 sameChains)
  · intro noneHold
    apply codes.kept
    intro line member
    have found : readChains line ∈ others.map readChains :=
      sameChains ▸ List.mem_map_of_mem member
    obtain ⟨other, otherMember, sameRead⟩ := List.mem_map.1 found
    rw [holdsChain_iff, ← sameRead, ← holdsChain_iff]
    exact noneHold other otherMember
  · intro last isLast holds
    obtain ⟨line, isLastLine, sameHolds⟩ := ofLast isLast
    exact codes.same line isLastLine (sameHolds.2 holds)
  · intro last isLast holdsNone
    obtain ⟨line, isLastLine, sameHolds⟩ := ofLast isLast
    exact codes.zero line isLastLine fun holds => holdsNone (sameHolds.1 holds)

end LastCodes

/-! ## Agreement of the two runs -/

/-- The loop and a run of chains do the same, and they end in the same way with related codes. -/
structure Agrees (codes : Int → Int → Prop) (looped : Execution state handle LoopEnd)
    (joined : Execution state handle Int) : Prop where
  events : lineEvents looped.events = joined.events
  final : looped.final = joined.final
  ending :
    (∃ code, joined.outcome = .exited code ∧ EndsWithExit looped code) ∨
      ∃ code loopCode, joined.outcome = .returned code ∧ EndsWithInput looped loopCode ∧
        codes loopCode code

namespace Agrees

variable {codes : Int → Int → Prop} {looped : Execution state handle LoopEnd}
  {joined : Execution state handle Int}

theorem cons {turnEvents ran : List (Event handle)} (sameRun : lineEvents turnEvents = ran)
    (notFound : .read .endOfInput ∉ turnEvents) (agrees : Agrees codes looped joined) :
    Agrees codes ⟨looped.outcome, turnEvents ++ looped.events, looped.final⟩
      ⟨joined.outcome, ran ++ joined.events, joined.final⟩ where
  events := by
    rw [lineEvents_append, sameRun, agrees.events]
  final := agrees.final
  ending := by
    rcases agrees.ending with
      ⟨code, exited, returned, notReached⟩ | ⟨code, loopCode, ended, ⟨returned, reached⟩, related⟩
    · refine Or.inl ⟨code, exited, returned, ?_⟩
      exact fun member => (List.mem_append.1 member).elim notFound notReached
    · exact
        Or.inr ⟨code, loopCode, ended, ⟨returned, List.mem_append_right _ reached⟩, related⟩

theorem mono {weaker : Int → Int → Prop} (agrees : Agrees codes looped joined)
    (implied : ∀ loopCode code, codes loopCode code → weaker loopCode code) :
    Agrees weaker looped joined where
  events := agrees.events
  final := agrees.final
  ending := by
    rcases agrees.ending with exits | ⟨code, loopCode, ended, withInput, related⟩
    · exact Or.inl exits
    · exact Or.inr ⟨code, loopCode, ended, withInput, implied loopCode code related⟩

end Agrees

namespace Shell

variable (shell : Shell state handle)

/-- In a run of chains, a line that does not return is the last. -/
theorem runChains_line_of_not_returned {line : Text} {initial : state}
    (notReturned : ∀ reached, (shell.runLine line initial).outcome ≠ .returned reached)
    (code : Int) (later : List Chain) :
    shell.runChains code (readChains line ++ later) initial = shell.runLine line initial := by
  -- A line without chains always returns.
  have holds : HoldsChain line := by
    by_contra holdsNone
    rw [shell.runLine_of_not_holdsChain holdsNone] at notReturned
    exact notReturned 0 rfl
  rw [runChains_append, shell.runChains_of_holdsChain holds, bind_apply]
  exact Execution.follow_of_not_returned notReturned _

/-- A line that returns is followed by the later chains. They go on from its code if it holds a
chain, and from the code before it otherwise. -/
theorem runChains_line_of_returned {line : Text} {initial : state} {reached : Int}
    (returned : (shell.runLine line initial).outcome = .returned reached) (code : Int)
    (later : List Chain) :
    ∃ next, (HoldsChain line → next = reached) ∧
      (¬ HoldsChain line → reached = 0 ∧ next = code) ∧
        shell.runChains code (readChains line ++ later) initial =
          ⟨(shell.runChains next later (shell.runLine line initial).final).outcome,
            (shell.runLine line initial).events ++
              (shell.runChains next later (shell.runLine line initial).final).events,
            (shell.runChains next later (shell.runLine line initial).final).final⟩ := by
  rw [runChains_append, bind_apply]
  by_cases holds : HoldsChain line
  · refine ⟨reached, fun _ => rfl, fun holdsNone => absurd holds holdsNone, ?_⟩
    rw [shell.runChains_of_holdsChain holds, Execution.follow_of_returned returned]
  · rw [shell.runLine_of_not_holdsChain holds] at returned ⊢
    cases returned
    refine ⟨code, fun holdsOne => absurd holdsOne holds, fun _ => ⟨rfl, rfl⟩, ?_⟩
    rw [shell.runChains_of_not_holdsChain holds]
    rfl

/-- The loop on some lines agrees with the chains of all of them in a row, whichever reads are
interrupted, unless a line is interrupted. -/
theorem agrees_loop (isTerminal : Bool) (interruptedReads : List Nat) (number : Nat)
    (lines : List Text) (loopCode code : Int) (initial : state)
    (uninterrupted :
      (shell.runChains code (lines.flatMap readChains) initial).outcome ≠ .interrupted) :
    Agrees (LastCodes lines loopCode code)
      (shell.loop isTerminal loopCode (readsFrom interruptedReads number lines) initial)
      (shell.runChains code (lines.flatMap readChains) initial) := by
  induction number, lines using readsFrom.induct interruptedReads
    generalizing loopCode code initial with
  | case1 number lines isInterrupted inductionHypothesis =>
      rw [readsFrom.eq_def, dif_pos isInterrupted, loop_interrupted_cons]
      exact
        (inductionHypothesis loopCode code initial uninterrupted).cons
          (shell.lineEvents_interrupted isTerminal)
          (shell.endOfInput_not_mem_interrupted isTerminal)
  | case2 number notInterrupted =>
      rw [readsFrom.eq_def, dif_neg notInterrupted, loop_nil]
      exact
        { events := by
            rw [lineEvents_append, lineEvents_asking]
            rfl
          final := rfl
          ending := Or.inr ⟨code, loopCode, rfl, ⟨rfl, by simp⟩, LastCodes.nil loopCode code⟩ }
  | case3 number notInterrupted line rest inductionHypothesis =>
      rw [readsFrom.eq_def, dif_neg notInterrupted]
      rw [List.flatMap_cons] at uninterrupted ⊢
      simp only
      cases ended : (shell.runLine line initial).outcome with
      | returned reached =>
          obtain ⟨next, ofHolding, ofHoldingNone, carriedOn⟩ :=
            shell.runChains_line_of_returned ended code (rest.flatMap readChains)
          have goesOn : ∀ exitCode, (shell.runLine line initial).outcome ≠ .exited exitCode := by
            simp [ended]
          have remembered : (shell.runLine line initial).outcome.loopCode? = some reached := by
            rw [ended]
            rfl
          rw [carriedOn] at uninterrupted ⊢
          rw [shell.loop_line_cons goesOn remembered]
          have laterAgrees :=
            inductionHypothesis reached next (shell.runLine line initial).final uninterrupted
          exact
            (laterAgrees.cons (shell.lineEvents_line isTerminal line initial)
              (shell.endOfInput_not_mem_line isTerminal line initial)).mono
              fun _ _ => LastCodes.cons ofHolding ofHoldingNone
      | failed error => exact absurd ended (shell.failsOnlyWith_runLine line initial error)
      | exited exitCode =>
          rw [shell.runChains_line_of_not_returned (by simp [ended]),
            shell.loop_line_cons_of_exited ended]
          exact
            { events := shell.lineEvents_line isTerminal line initial
              final := rfl
              ending :=
                Or.inl
                  ⟨exitCode, ended, ⟨_, rfl⟩, shell.endOfInput_not_mem_line isTerminal line initial⟩ }
      | interrupted =>
          rw [shell.runChains_line_of_not_returned (by simp [ended])] at uninterrupted
          exact absurd ended uninterrupted

/-- An input that is made of some lines is read and run like the one line that joins them with
semicolons, as long as that line is not interrupted. Apart from the loop's own events, the two have
the same events and leave the same state. The loop ends with an exit exactly if the joined line does,
with the same code. Otherwise both return. The codes are equal if the last line holds a chain or no
line does, and the loop returns zero if the last line holds none. Neither interrupted reads nor a
terminal change any of this. -/
theorem readLoop_agrees_with_joined_line {lines : List Text} (source : ReadSource) (initial : state)
    (noNewline : ∀ line ∈ lines, Text.newline ∉ line) (madeOf : IsMadeOf lines source.input)
    (uninterrupted :
      (shell.runLine (Text.joinWith [Symbol.semicolon] lines) initial).outcome ≠ .interrupted) :
    let looped := shell.readLoop source initial
    let joined := shell.runLine (Text.joinWith [Symbol.semicolon] lines) initial
    lineEvents looped.events = joined.events ∧ looped.final = joined.final ∧
      (∀ code, joined.outcome = .exited code ↔ EndsWithExit looped code) ∧
      ((∃ code, joined.outcome = .exited code) ∨
        ∃ code loopCode, joined.outcome = .returned code ∧ EndsWithInput looped loopCode ∧
          (((∃ last, lines.getLast? = some last ∧ HoldsChain last) ∨
              ∀ line ∈ lines, ¬ HoldsChain line) → loopCode = code) ∧
          ((∃ last, lines.getLast? = some last ∧ ¬ HoldsChain last) → loopCode = 0)) := by
  intro looped joined
  have sameChains := map_readChains_of_isMadeOf noNewline madeOf
  have joinedRun : joined = shell.runChains 0 (source.input.lines.flatMap readChains) initial := by
    rw [List.flatMap_def, sameChains, ← List.flatMap_def, ← readChains_joinWith_semicolon,
      ← runLine_eq_runChains]
  have agrees : Agrees (LastCodes source.input.lines 0 0) looped joined := by
    rw [joinedRun]
    apply shell.agrees_loop
    rw [← joinedRun]
    exact uninterrupted
  refine ⟨agrees.events, agrees.final, ?_, ?_⟩
  · intro code
    rcases agrees.ending with
      ⟨exitCode, exited, withExit⟩ | ⟨reached, loopCode, returned, withInput, _⟩
    · constructor
      · intro alsoExited
        rw [exited] at alsoExited
        cases alsoExited
        exact withExit
      · rintro ⟨⟨unread, alsoReturned⟩, _⟩
        obtain ⟨otherUnread, loopReturned⟩ := withExit.1
        rw [alsoReturned] at loopReturned
        cases loopReturned
        exact exited
    · constructor
      · intro exited
        rw [returned] at exited
        cases exited
      · intro withExit
        exact absurd withInput withExit.not_endsWithInput
  · rcases agrees.ending with ⟨exitCode, exited, _⟩ | ⟨code, loopCode, returned, withInput, codes⟩
    · exact Or.inl ⟨exitCode, exited⟩
    · have lastCodes := codes.congr sameChains
      refine Or.inr ⟨code, loopCode, returned, withInput, ?_, ?_⟩
      · rintro (⟨last, isLast, holds⟩ | noneHold)
        · exact lastCodes.same last isLast holds
        · -- Both codes are still zero: the loop's by its last line, if there is one at all.
          rw [lastCodes.kept noneHold]
          cases isLast : lines.getLast? with
          | none => exact lastCodes.ofNil (List.getLast?_eq_none_iff.1 isLast)
          | some last => exact lastCodes.zero last isLast (noneHold last (List.mem_of_getLast? isLast))
      · rintro ⟨last, isLast, holdsNone⟩
        exact lastCodes.zero last isLast holdsNone

/-- A shell that cannot start `a` and runs anything else. -/
def refusingShell : Shell PlaybookState PlaybookProcess where
  processes := Playbook.processLayer { listed := [([.char 'a'], [.failing []])] }

/-- A refused start, a blank line, a missing operand before an exit, and a line that is not read. -/
def exitingLines : List Text :=
  [[.char 'a'], [], [.char '&', .char '&', Symbol.semicolon] ++ exitName ++ [.char ' ', .char '7'],
    [.char 'd']]

theorem readLoop_agrees_with_joined_line_of_exiting :
    (∀ line ∈ exitingLines, Text.newline ∉ line) ∧
      IsMadeOf exitingLines (Text.joinWith [Text.newline] exitingLines) ∧
      (refusingShell.runLine (Text.joinWith [Symbol.semicolon] exitingLines) {}).outcome ≠
        .interrupted ∧
      EndsWithExit
        (refusingShell.readLoop { input := Text.joinWith [Text.newline] exitingLines } {}) 7 := by
  have noNewline : ∀ line ∈ exitingLines, Text.newline ∉ line := by decide
  have madeOf : IsMadeOf exitingLines (Text.joinWith [Text.newline] exitingLines) :=
    Or.inr ⟨by decide, rfl⟩
  have exited :
      (refusingShell.runLine (Text.joinWith [Symbol.semicolon] exitingLines) {}).outcome =
        .exited 7 := by
    decide
  have uninterrupted :
      (refusingShell.runLine (Text.joinWith [Symbol.semicolon] exitingLines) {}).outcome ≠
        .interrupted := by
    simp [exited]
  obtain ⟨_, _, exits, _⟩ :=
    readLoop_agrees_with_joined_line refusingShell
      { input := Text.joinWith [Text.newline] exitingLines } {} noNewline madeOf uninterrupted
  exact ⟨noNewline, madeOf, uninterrupted, (exits 7).1 exited⟩

end Shell

end CommandChain
