import CommandChain.Proofs.Evaluation.Recovery

/-!
# Lines in a row

A semicolon cuts a line into two that are run one after the other. The reason is that a chain takes
nothing from the chains before it but the state of the outside world: chains that are run in a row
can be cut anywhere (`runChains_append`), and the code of the chains before is overwritten by the
first chain that follows (`runChains_of_ne_nil`).
-/

namespace CommandChain

variable {state handle : Type}

namespace Shell

variable (shell : Shell state handle)

theorem runLine_eq_runChains (line : Text) :
    shell.runLine line = shell.runChains 0 (readChains line) := by
  simp only [runLine, parseLine_eq_readChains]

theorem runChains_append :
    ∀ (first later : List Chain) (code : Int),
      shell.runChains code (first ++ later) =
        shell.runChains code first >>= fun reached => shell.runChains reached later
  | [], later, code => by
      rw [List.nil_append, runChains, pure_bind]
  | chain :: rest, later, code => by
      rw [List.cons_append, runChains, runChains, bind_assoc]
      apply bind_congr
      intro reached
      exact runChains_append rest later reached

theorem runChains_of_ne_nil {chains : List Chain} (nonempty : chains ≠ []) (code other : Int) :
    shell.runChains code chains = shell.runChains other chains := by
  cases chains with
  | nil => exact absurd rfl nonempty
  | cons chain rest => rfl

/-- The chains of a line that holds one are run like the line, whatever the code before. -/
theorem runChains_of_holdsChain {line : Text} (holds : HoldsChain line) (code : Int) :
    shell.runChains code (readChains line) = shell.runLine line := by
  rw [runLine_eq_runChains]
  exact shell.runChains_of_ne_nil (holdsChain_iff.1 holds) code 0

/-- A line that holds no chain changes nothing, not even the code before. -/
theorem runChains_of_not_holdsChain {line : Text} (holdsNone : ¬ HoldsChain line) (code : Int) :
    shell.runChains code (readChains line) = pure code := by
  have isEmpty : readChains line = [] := by
    rw [holdsChain_iff, not_not] at holdsNone
    exact holdsNone
  rw [isEmpty]
  rfl

theorem runLine_of_not_holdsChain {line : Text} (holdsNone : ¬ HoldsChain line) :
    shell.runLine line = pure 0 := by
  rw [runLine_eq_runChains]
  exact shell.runChains_of_not_holdsChain holdsNone 0

/-- A line that is cut by a semicolon is run as its first part, and then the chains of the second
go on from the code of the first. -/
theorem runLine_append_semicolon (before after : Text) :
    shell.runLine (before ++ Symbol.semicolon :: after) =
      shell.runLine before >>= fun code => shell.runChains code (readChains after) := by
  rw [runLine_eq_runChains, readChains_append_semicolon, runChains_append, ← runLine_eq_runChains]

/-- Two lines that are joined by a semicolon are independent. The joined line has the chains of the
first and then those of the second. It is run like the first line alone if that exits or is
interrupted; if that returns, the second line is run in the state that it left, event by event as if
it had been run alone. The code is that of the second line, or of the first if the second holds no
chain. -/
theorem joined_lines_independent (before after : Text) :
    (∃ first later, parseLine before = .ok first ∧ parseLine after = .ok later ∧
        parseLine (before ++ Symbol.semicolon :: after) = .ok (first ++ later)) ∧
      ∀ initial : state,
        let first := shell.runLine before initial
        let second := shell.runLine after first.final
        let whole := shell.runLine (before ++ Symbol.semicolon :: after) initial
        ((∃ code, first.outcome = .returned code) ∨ (∃ code, first.outcome = .exited code) ∨
            first.outcome = .interrupted) ∧
          (∀ code, first.outcome = .exited code → whole = first) ∧
          (first.outcome = .interrupted → whole = first) ∧
          ∀ code, first.outcome = .returned code →
            whole.events = first.events ++ second.events ∧ whole.final = second.final ∧
              (HoldsChain after → whole.outcome = second.outcome) ∧
              (¬ HoldsChain after → whole.outcome = .returned code) := by
  have beforeRead := parseLine_eq_readChains before
  have afterRead := parseLine_eq_readChains after
  refine ⟨⟨_, _, beforeRead, afterRead, parseLine_append_semicolon beforeRead afterRead⟩, ?_⟩
  intro initial
  simp only
  rw [runLine_append_semicolon, Action.bind_apply]
  refine ⟨(shell.failsOnlyWith_runLine before).ending initial, ?_, ?_, ?_⟩
  · intro code exited
    exact Execution.follow_of_not_returned (by simp [exited]) _
  · intro interrupted
    exact Execution.follow_of_not_returned (by simp [interrupted]) _
  · intro code returned
    rw [Execution.follow_of_returned returned]
    by_cases holds : HoldsChain after
    · rw [shell.runChains_of_holdsChain holds]
      exact ⟨rfl, rfl, fun _ => rfl, fun holdsNone => absurd holds holdsNone⟩
    · rw [shell.runChains_of_not_holdsChain holds, shell.runLine_of_not_holdsChain holds]
      exact ⟨rfl, rfl, fun holdsOne => absurd holdsOne holds, fun _ => rfl⟩

end Shell

end CommandChain
