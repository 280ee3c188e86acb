import CommandChain.Proofs.Evaluation.Sequence
import CommandChain.Proofs.Evaluation.Stop

/-!
# The chains that a line runs

A line runs its chains one after another, each from the state that the one before it left, up to the
first that exits or is interrupted. What happens is what happens in these chains, and a report after
each of them that ended in an error (`exists_chains_of_runLine`).
-/

namespace CommandChain

open CommandChain.Action

variable {state handle : Type}

namespace Outcome

/-- An ending of a chain that ends its line: an exit or an interrupt. -/
def endsLine : Outcome Int → Bool
  | .exited _ => true
  | .interrupted => true
  | _ => false

/-- What a line does after a chain that ended in the given way: it reports an error. -/
def report : Outcome Int → List (Event handle)
  | .failed error => [.diagnostic (.syntaxError error)]
  | _ => []

/-- The ending of a chain as the line sees it: an error has become a code. -/
def recovered : Outcome Int → Outcome Int
  | .failed _ => .returned Shell.syntaxErrorCode
  | other => other

theorem report_of_endsLine {outcome : Outcome Int} (ends : outcome.endsLine = true) :
    (outcome.report : List (Event handle)) = [] := by
  cases outcome with
  | exited code => rfl
  | interrupted => rfl
  | _ => cases ends

theorem recovered_of_endsLine {outcome : Outcome Int} (ends : outcome.endsLine = true) :
    outcome.recovered = outcome := by
  cases outcome with
  | exited code => rfl
  | interrupted => rfl
  | _ => cases ends

theorem exists_code_of_not_endsLine {outcome : Outcome Int} (goesOn : outcome.endsLine = false) :
    ∃ code, outcome.recovered = .returned code := by
  cases outcome with
  | returned code => exact ⟨code, rfl⟩
  | failed error => exact ⟨Shell.syntaxErrorCode, rfl⟩
  | _ => cases goesOn

end Outcome

namespace Shell

variable (shell : Shell state handle)

theorem runChainRecovering_apply (chain : Chain) (initial : state) :
    shell.runChainRecovering chain initial =
      ⟨(shell.runChain chain initial).outcome.recovered,
        (shell.runChain chain initial).events ++ (shell.runChain chain initial).outcome.report,
        (shell.runChain chain initial).final⟩ := by
  by_cases missing :
      ∃ connective,
        (shell.runChain chain initial).outcome = .failed (.missingOperand connective)
  · obtain ⟨connective, failed⟩ := missing
    rw [shell.runChainRecovering_of_missingOperand failed, failed]
    rfl
  · have notMissing := not_exists.1 missing
    rw [shell.runChainRecovering_of_not_missing notMissing]
    cases ran : shell.runChain chain initial with
    | mk outcome events final =>
        cases outcome with
        | failed error =>
            have failed : (shell.runChain chain initial).outcome = .failed error := by rw [ran]
            obtain ⟨connective, rfl⟩ := shell.failsOnlyWith_runChain chain initial error failed
            exact absurd failed (notMissing connective)
        | _ => simp [Outcome.recovered, Outcome.report]

/-! ## Chains one after another -/

/-- The runs of chains, each from the state that the one before it left. -/
def chainRuns (chains : List Chain) (initial : state) : List (Execution state handle Int) :=
  runEach (chains.map shell.runChain) initial

/-- The state that chains leave. -/
def worldBehindChains (chains : List Chain) (initial : state) : state :=
  stateAfter (chains.map shell.runChain) initial

/-- What happens while a line runs chains: what happens in each of them, and the report of it. -/
def eventsOfChains (chains : List Chain) (initial : state) : List (Event handle) :=
  (shell.chainRuns chains initial).flatMap fun run => run.events ++ run.outcome.report

/-- None of the chains ends the line. -/
def ChainsPass (chains : List Chain) (initial : state) : Prop :=
  ∀ run ∈ shell.chainRuns chains initial, run.outcome.endsLine = false

theorem worldBehindChains_append (first later : List Chain) (initial : state) :
    shell.worldBehindChains (first ++ later) initial =
      shell.worldBehindChains later (shell.worldBehindChains first initial) := by
  simp only [worldBehindChains, List.map_append, stateAfter_append]

theorem eventsOfChains_append (first later : List Chain) (initial : state) :
    shell.eventsOfChains (first ++ later) initial =
      shell.eventsOfChains first initial ++
        shell.eventsOfChains later (shell.worldBehindChains first initial) := by
  simp only [eventsOfChains, chainRuns, worldBehindChains, List.map_append, runEach_append,
    List.flatMap_append]

/-- Chains of which none ends the line bring the line to what follows them. -/
theorem runChains_append_of_pass :
    ∀ {chains : List Chain} {initial : state}, shell.ChainsPass chains initial →
      ∀ (code : Int) (later : List Chain), ∃ reached,
        shell.runChains code (chains ++ later) initial =
          let onward := shell.runChains reached later (shell.worldBehindChains chains initial)
          ⟨onward.outcome, shell.eventsOfChains chains initial ++ onward.events, onward.final⟩
  | [], _, _, code, _ => ⟨code, rfl⟩
  | chain :: rest, initial, pass, _, later => by
      obtain ⟨first, restPass⟩ := List.forall_mem_cons.1 pass
      obtain ⟨code, returned⟩ := Outcome.exists_code_of_not_endsLine first
      obtain ⟨reached, restRun⟩ := runChains_append_of_pass restPass code later
      refine ⟨reached, ?_⟩
      rw [List.cons_append, runChains, bind_apply, runChainRecovering_apply,
        Execution.follow_of_returned returned, restRun]
      simp only [eventsOfChains, chainRuns, List.map_cons, runEach, List.flatMap_cons,
        List.append_assoc]
      rfl

theorem chainsPass_nil (initial : state) : shell.ChainsPass [] initial := by
  intro run member
  cases member

/-- Among chains either none ends the line, or there is a first that does. -/
theorem chainsPass_or_exists_first_end :
    ∀ (chains : List Chain) (initial : state),
      shell.ChainsPass chains initial ∨
        ∃ before chain later, chains = before ++ chain :: later ∧
          shell.ChainsPass before initial ∧
          (shell.runChain chain (shell.worldBehindChains before initial)).outcome.endsLine = true
  | [], initial => Or.inl (shell.chainsPass_nil initial)
  | chain :: rest, initial => by
      cases ends : (shell.runChain chain initial).outcome.endsLine with
      | true => exact Or.inr ⟨[], chain, rest, rfl, shell.chainsPass_nil initial, ends⟩
      | false =>
          rcases chainsPass_or_exists_first_end rest (shell.runChain chain initial).final with
            restPass | ⟨before, last, later, rfl, beforePass, lastEnds⟩
          · exact Or.inl (List.forall_mem_cons.2 ⟨ends, restPass⟩)
          · exact
              Or.inr
                ⟨chain :: before, last, later, rfl, List.forall_mem_cons.2 ⟨ends, beforePass⟩,
                  lastEnds⟩

/-- The first chain that ends the line ends it in its own way, whatever follows. -/
theorem runChains_of_endsLine {before later : List Chain} {chain : Chain} {initial : state}
    (pass : shell.ChainsPass before initial)
    (ends :
      (shell.runChain chain (shell.worldBehindChains before initial)).outcome.endsLine = true)
    (code : Int) :
    let last := shell.runChain chain (shell.worldBehindChains before initial)
    shell.runChains code (before ++ chain :: later) initial =
      ⟨last.outcome, shell.eventsOfChains before initial ++ last.events, last.final⟩ := by
  obtain ⟨reached, wholeRun⟩ := shell.runChains_append_of_pass pass code (chain :: later)
  simp only [wholeRun]
  rw [runChains, bind_apply, runChainRecovering_apply, Outcome.recovered_of_endsLine ends,
    Outcome.report_of_endsLine ends, List.append_nil]
  cases ended : (shell.runChain chain (shell.worldBehindChains before initial)).outcome with
  | exited exitCode => rfl
  | interrupted => rfl
  | _ =>
      rw [ended] at ends
      cases ends

/-- A line runs its chains up to the first that ends it. Nothing else happens and nothing else
changes the state. -/
theorem exists_chains_of_runLine (line : Text) (initial : state) :
    ∃ ran left, parseLine line = .ok (ran ++ left) ∧
      (left ≠ [] → (shell.runLine line initial).outcome.endsLine = true) ∧
      (shell.runLine line initial).events = shell.eventsOfChains ran initial ∧
      (shell.runLine line initial).final = shell.worldBehindChains ran initial := by
  have isRead := parseLine_eq_readChains line
  rw [runLine_eq_runChains]
  rcases shell.chainsPass_or_exists_first_end (readChains line) initial with
    pass | ⟨before, chain, later, cut, pass, ends⟩
  · obtain ⟨reached, lineRun⟩ := shell.runChains_append_of_pass pass 0 []
    rw [List.append_nil] at lineRun
    refine ⟨readChains line, [], ?_, fun nonempty => absurd rfl nonempty, ?_, ?_⟩
    · rw [isRead, List.append_nil]
    · rw [lineRun]
      exact List.append_nil _
    · rw [lineRun]
      rfl
  · rw [cut] at isRead
    rw [cut, shell.runChains_of_endsLine pass ends]
    refine ⟨before ++ [chain], later, ?_, fun _ => ends, ?_, ?_⟩
    · rw [isRead, List.append_cons]
    · have lastEvents :
          shell.eventsOfChains [chain] (shell.worldBehindChains before initial) =
            (shell.runChain chain (shell.worldBehindChains before initial)).events := by
        have noReport :
            ((shell.runChain chain (shell.worldBehindChains before initial)).outcome.report :
              List (Event handle)) = [] := Outcome.report_of_endsLine ends
        simp [eventsOfChains, chainRuns, runEach, noReport]
      rw [eventsOfChains_append, lastEvents]
    · rw [worldBehindChains_append]
      rfl

end Shell

end CommandChain
