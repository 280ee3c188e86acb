import CommandChain.Proofs.Evaluation.Chains
import CommandChain.Proofs.Evaluation.Prefix

/-!
# Lines that return

A chain that returns has run a command, and its code is that of the last command that it ran. A line
that returns zero got it from its last chain, if it holds one. A line is interrupted only if one of
its commands is.
-/

namespace CommandChain

open CommandChain.Action

variable {state handle : Type}

namespace Shell

section LastCommands

variable (shell : Shell state handle)

/-- A chain that returns has run a command. -/
theorem executed_ne_nil_of_returned {elements : List Element} (nonempty : elements ≠ [])
    {initial : state} {code : Int}
    (returned : (shell.runElements elements initial).outcome = .returned code) :
    executedCommands (shell.runElements elements initial).events ≠ [] := by
  cases elements with
  | nil => exact absurd rfl nonempty
  | cons first rest =>
      cases first with
      | operator operator => cases operator <;> cases returned
      | command command =>
          have begins :
              executedCommands (shell.runCommand command initial).events <+:
                executedCommands (shell.runElements (.command command :: rest) initial).events := by
            apply executedCommands_isPrefix
            apply events_bind_induction
            · exact List.prefix_rfl
            · intro result _
              exact List.prefix_append _ _
          rw [executedCommands_runCommand] at begins
          intro none
          rw [none] at begins
          exact absurd (List.prefix_nil.1 begins) (List.cons_ne_nil _ _)

theorem exists_last_of_returned {elements : List Element} (nonempty : elements ≠ [])
    {initial : state} {code : Int}
    (returned : (shell.runElements elements initial).outcome = .returned code) :
    ∃ earlier command,
      executedCommands (shell.runElements elements initial).events = earlier ++ [command] ∧
        shell.GivesCode command (stateAfter (earlier.map shell.runCommand) initial) code := by
  have executed := shell.executed_ne_nil_of_returned nonempty returned
  rcases shell.passes_or_exists_first_stop elements initial with
    passes | ⟨before, element, later, outcome, rfl, passes, stops⟩
  · rcases (shell.runsPrefix_of_passes passes).code code returned with ⟨none, _⟩ | found
    · exact absurd none executed
    · exact found
  · rcases (shell.runsPrefix_of_stops passes stops).code code returned with ⟨none, _⟩ | found
    · exact absurd none executed
    · exact found

/-- A line that returns zero holds no chain, or the last of its chains returned zero. -/
theorem lastChain_of_returned_zero {line : Text} {initial : state}
    (returned : (shell.runLine line initial).outcome = .returned 0) :
    parseLine line = .ok [] ∨
      ∃ before last, parseLine line = .ok (before ++ [last]) ∧
        (shell.runChain last (shell.worldBehindChains before initial)).outcome = .returned 0 := by
  rw [parseLine_eq_readChains]
  rw [runLine_eq_runChains] at returned
  rcases List.eq_nil_or_concat (readChains line) with noChain | ⟨before, last, isLine⟩
  · exact Or.inl (congrArg Except.ok noChain)
  · refine Or.inr ⟨before, last, ?_, ?_⟩
    · rw [isLine, List.concat_eq_append]
    · rw [isLine, List.concat_eq_append] at returned
      rcases shell.chainsPass_or_exists_first_end (before ++ [last]) initial with
        pass | ⟨passed, chain, later, cut, pass, ends⟩
      · have beforePass : shell.ChainsPass before initial := by
          intro run member
          apply pass
          rw [chainRuns, List.map_append, runEach_append]
          exact List.mem_append_left _ member
        obtain ⟨reached, lineRun⟩ := shell.runChains_append_of_pass beforePass 0 [last]
        rw [lineRun] at returned
        simp only [runChains, bind_apply, runChainRecovering_apply] at returned
        cases ended : (shell.runChain last (shell.worldBehindChains before initial)).outcome with
        | returned code =>
            rw [ended] at returned
            exact returned
        | _ =>
            rw [ended] at returned
            cases returned
      · rw [cut, shell.runChains_of_endsLine pass ends] at returned
        simp only at returned
        rw [returned] at ends
        cases ends

end LastCommands

section Interrupts

variable {shell : Shell state handle}
  (never : ∀ command world, (shell.runCommand command world).outcome ≠ .interrupted)

include never

theorem runElements_not_interrupted (elements : List Element) (initial : state) :
    (shell.runElements elements initial).outcome ≠ .interrupted := by
  rcases shell.passes_or_exists_first_stop elements initial with
    passes | ⟨before, element, later, outcome, rfl, passes, stops⟩
  · rw [shell.runElements_of_passes passes]
    nofun
  · rw [shell.runElements_of_stops passes stops]
    intro interrupted
    cases stops with
    | interrupt wasInterrupted => exact never _ _ wasInterrupted
    | _ => cases interrupted

theorem runLine_not_interrupted (line : Text) (initial : state) :
    (shell.runLine line initial).outcome ≠ .interrupted := by
  rw [runLine_eq_runChains]
  rcases shell.chainsPass_or_exists_first_end (readChains line) initial with
    pass | ⟨before, chain, later, cut, pass, ends⟩
  · obtain ⟨reached, lineRun⟩ := shell.runChains_append_of_pass pass 0 []
    rw [List.append_nil] at lineRun
    rw [lineRun]
    nofun
  · rw [cut, shell.runChains_of_endsLine pass ends]
    exact runElements_not_interrupted never chain.elements _

end Interrupts

end Shell

end CommandChain
