import CommandChain.Process.Playbook
import CommandChain.Proofs.Evaluation.Reach

/-!
# Status and code

Evaluation carries two accounts of the last command: the status on which the next connective decides,
and the code that the chain returns. They are written apart, and a connective takes the status away
and leaves the code. Yet they never disagree (`Shell.Reaches.isConsistent`): each step past an element
leaves a pair that agrees, whatever it found.

So the connective at which a chain ends tells whether its code is zero. A conjunction stops a chain
only with the code of a failure and goes on only after a success, and a disjunction the other way
round.
-/

namespace CommandChain

variable {state handle : Type}

/-! ## Codes at a connective -/

namespace Progress

variable {progress : Progress} {connective : Connective} {succeeded : Bool}

theorem IsConsistent.code_eq_zero_iff_of_ends (consistent : progress.IsConsistent)
    (waits : progress.status = some succeeded) (ends : connective.endsAfter succeeded = true) :
    progress.code = 0 ↔ connective = .or := by
  rw [← consistent succeeded waits]
  cases connective with
  | and =>
      have failed : succeeded = false := Bool.not_eq_true' succeeded ▸ ends
      simp [failed]
  | or =>
      have isSuccess : succeeded = true := ends
      simp [isSuccess]

theorem IsConsistent.code_eq_zero_iff_of_goesOn (consistent : progress.IsConsistent)
    (waits : progress.status = some succeeded) (goesOn : connective.endsAfter succeeded = false) :
    progress.code = 0 ↔ connective = .and := by
  rw [← consistent succeeded waits]
  cases connective with
  | and =>
      have isSuccess : succeeded = true := Bool.not_eq_false' succeeded ▸ goesOn
      simp [isSuccess]
  | or =>
      have failed : succeeded = false := goesOn
      simp [failed]

end Progress

namespace Shell

variable (shell : Shell state handle)

/-- A connective stops its chain with a code: evaluation reaches it, and the chain returns the code
there, whatever follows. -/
structure ReturnsAt (initial : state) (before : List Element) (connective : Connective)
    (code : Int) : Prop where
  reached : ∃ progress world, shell.Reaches initial before progress world
  returns : ∃ events final, ∀ later,
    shell.runElements (before ++ .operator (.connect connective) :: later) initial =
      ⟨.returned code, events, final⟩

variable {shell} {initial : state} {before : List Element} {progress : Progress} {world : state}

/-! ## The invariant -/

/-- The step past an element leaves a status and a code that agree, whatever it found. -/
theorem GoesOn.isConsistent {element : Element} {further : Progress} {later : state}
    (goesOn : shell.GoesOn element progress world further later) : further.IsConsistent := by
  cases goesOn with
  | @command _ _ _ result _ => exact Progress.isConsistent_after result
  | connective _ _ => exact Progress.isConsistent_taken progress

/-- Wherever evaluation comes, the status and the code that it carries agree. -/
theorem Reaches.isConsistent (reached : shell.Reaches initial before progress world) :
    progress.IsConsistent := by
  cases reached with
  | start => exact Progress.isConsistent_start
  | next _ goesOn => exact goesOn.isConsistent

/-! ## The ways to return -/

theorem Reaches.returned (reached : shell.Reaches initial before progress world) :
    (shell.runElements before initial).outcome = .returned progress.code := by
  have whole := runElements_append_of_reaches reached []
  rw [List.append_nil] at whole
  rw [whole]
  rfl

/-- A connective that is reached stops the chain if and only if it finds a status that ends it. -/
theorem Reaches.returnsAt_iff (reached : shell.Reaches initial before progress world)
    (connective : Connective) (code : Int) :
    shell.ReturnsAt initial before connective code ↔
      code = progress.code ∧
        ∃ succeeded, progress.status = some succeeded ∧ connective.endsAfter succeeded = true := by
  constructor
  · rintro ⟨_, events, final, returns⟩
    -- A semicolon shows whether evaluation goes past the connective: it fails where it is met.
    have stopped := congrArg Execution.outcome (returns [.operator .sequence])
    rw [runElements_append_of_reaches reached] at stopped
    cases waits : progress.status with
    | none =>
        simp only [evaluate, waits] at stopped
        cases stopped
    | some succeeded =>
        cases ends : connective.endsAfter succeeded with
        | true =>
            rw [shell.evaluate_connective_of_ends waits ends] at stopped
            cases stopped
            exact ⟨rfl, succeeded, rfl, ends⟩
        | false =>
            rw [shell.evaluate_connective_of_goesOn waits ends] at stopped
            cases stopped
  · rintro ⟨rfl, succeeded, waits, ends⟩
    refine ⟨⟨progress, world, reached⟩, shell.eventsOfCommands before initial, world, ?_⟩
    intro later
    rw [runElements_append_of_reaches reached, shell.evaluate_connective_of_ends waits ends]
    simp [Action.pure_apply]

theorem ReturnsAt.code_eq_zero_iff {connective : Connective} {code : Int}
    (returns : shell.ReturnsAt initial before connective code) : code = 0 ↔ connective = .or := by
  obtain ⟨progress, world, reached⟩ := returns.reached
  obtain ⟨rfl, succeeded, waits, ends⟩ := (reached.returnsAt_iff connective code).1 returns
  exact reached.isConsistent.code_eq_zero_iff_of_ends waits ends

theorem Reaches.code_eq_zero_iff {connective : Connective}
    (reached :
      shell.Reaches initial (before ++ [.operator (.connect connective)]) progress world) :
    progress.code = 0 ↔ connective = .and := by
  obtain ⟨earlier, reachedWorld, reachedBefore, goesOn⟩ := reached.last_step
  cases goesOn with
  | connective waits passes =>
      exact reachedBefore.isConsistent.code_eq_zero_iff_of_goesOn waits passes

/-- A chain that returns is stopped by one of its connectives, or evaluation goes through all of
it. -/
theorem returnsAt_or_reaches_of_returned {elements : List Element} {code : Int}
    (returned : (shell.runElements elements initial).outcome = .returned code) :
    (∃ before connective later, elements = before ++ .operator (.connect connective) :: later ∧
        shell.ReturnsAt initial before connective code) ∨
      ∃ progress world, shell.Reaches initial elements progress world ∧ progress.code = code := by
  rcases shell.passes_or_exists_first_stop elements initial with
    passes | ⟨before, element, later, outcome, rfl, passes, stops⟩
  · rw [shell.runElements_of_passes passes] at returned
    cases returned
    exact Or.inr ⟨_, _, reaches_of_passes passes, rfl⟩
  · rw [shell.runElements_of_stops passes stops] at returned
    subst returned
    have reached := reaches_of_passes passes
    -- All other stops are failures, exits or interrupts, and none of them returns.
    cases stops with
    | conjunction failed =>
        refine Or.inl ⟨before, .and, later, rfl, ?_⟩
        exact (reached.returnsAt_iff _ _).2 ⟨rfl, false, failed, rfl⟩
    | disjunction succeeded =>
        refine Or.inl ⟨before, .or, later, rfl, ?_⟩
        exact (reached.returnsAt_iff _ _).2 ⟨rfl, true, succeeded, rfl⟩

variable (shell) in
/-- The status and the code never disagree: in every place to which evaluation comes, and from which
it goes on with what it carries there, a status that waits is a success if and only if the code is
zero. A chain that returns is stopped by a connective or gone through to its end. Where a connective
stops it, the code is zero after a disjunction and not zero after a conjunction; where the last
element is a connective that let the chain go on, it is the other way round. -/
theorem status_agrees_with_code :
    (∀ (initial : state) (before : List Element) (progress : Progress) (world : state),
        shell.Reaches initial before progress world →
        progress.IsConsistent ∧
          ∀ later, shell.runElements (before ++ later) initial =
            let onward := shell.evaluate progress later world
            ⟨onward.outcome, shell.eventsOfCommands before initial ++ onward.events,
              onward.final⟩) ∧
      (∀ (initial : state) (elements : List Element) (code : Int),
        (shell.runElements elements initial).outcome = .returned code →
        (∃ before connective later, elements = before ++ .operator (.connect connective) :: later ∧
            shell.ReturnsAt initial before connective code) ∨
          ∃ progress world, shell.Reaches initial elements progress world ∧
            progress.code = code) ∧
      (∀ (initial : state) (before : List Element) (connective : Connective) (code : Int),
        shell.ReturnsAt initial before connective code → (code = 0 ↔ connective = .or)) ∧
      (∀ (initial : state) (before : List Element) (connective : Connective) (progress : Progress)
          (world : state),
        shell.Reaches initial (before ++ [.operator (.connect connective)]) progress world →
        (shell.runElements (before ++ [.operator (.connect connective)]) initial).outcome =
            .returned progress.code ∧
          (progress.code = 0 ↔ connective = .and)) := by
  refine ⟨?_, ?_, ?_, ?_⟩
  · exact fun _ _ _ _ reached => ⟨reached.isConsistent, runElements_append_of_reaches reached⟩
  · exact fun _ _ _ returned => returnsAt_or_reaches_of_returned returned
  · exact fun _ _ _ _ returns => returns.code_eq_zero_iff
  · exact fun _ _ _ _ _ reached => ⟨reached.returned, reached.code_eq_zero_iff⟩

/-- A shell in which every command fails with code three. -/
def shellAlwaysFailing : Shell PlaybookState PlaybookProcess where
  processes := Playbook.processLayer { otherwise := .finishing { code := 3 } }

/-- A disjunction goes on after the code of a failure, and a conjunction stops with one. -/
theorem status_agrees_with_code_of_failing :
    let command : Command := ⟨[.char 'a'], [], by decide⟩
    let front : List Element := [.command command, .operator (.connect .or)]
    let before : List Element := front ++ [.command command]
    let whole : List Element := before ++ [.operator (.connect .and), .command command]
    (∃ world, shellAlwaysFailing.Reaches {} before (Progress.after (.ended 3)) world ∧
        (Progress.after (.ended 3)).IsConsistent) ∧
      ((∃ earlier connective later, whole = earlier ++ .operator (.connect connective) :: later ∧
            shellAlwaysFailing.ReturnsAt {} earlier connective 3) ∨
          ∃ progress world, shellAlwaysFailing.Reaches {} whole progress world ∧ progress.code = 3) ∧
      shellAlwaysFailing.ReturnsAt {} before .and 3 ∧
      ((3 : Int) = 0 ↔ Connective.and = .or) ∧
      (shellAlwaysFailing.runElements front {}).outcome = .returned 3 ∧
      ((3 : Int) = 0 ↔ Connective.or = .and) := by
  intro command front before whole
  obtain ⟨agrees, returnsSomewhere, stopsWith, goesOnWith⟩ := status_agrees_with_code shellAlwaysFailing
  let world := (shellAlwaysFailing.runCommand command {}).final
  have behindFirst :
      shellAlwaysFailing.Reaches {} ([] ++ [.command command]) (Progress.after (.ended 3)) world :=
    .next .start (.command rfl)
  have behindDisjunction :
      shellAlwaysFailing.Reaches {} front (Progress.after (.ended 3)).taken world :=
    .next behindFirst (.connective rfl rfl)
  have reached : shellAlwaysFailing.Reaches {} before (Progress.after (.ended 3))
      (shellAlwaysFailing.runCommand command world).final :=
    .next behindDisjunction (.command rfl)
  have stops : shellAlwaysFailing.ReturnsAt {} before .and 3 :=
    (reached.returnsAt_iff .and 3).2 ⟨rfl, false, rfl, rfl⟩
  obtain ⟨returned, frontCode⟩ := goesOnWith {} [.command command] .or _ _ behindDisjunction
  refine ⟨⟨_, reached, ?_⟩, ?_, stops, ?_, returned, frontCode⟩
  · exact (agrees {} before _ _ reached).1
  · exact returnsSomewhere {} whole 3 rfl
  · exact stopsWith {} before .and 3 stops

end Shell

end CommandChain
