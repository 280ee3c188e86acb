import CommandChain.Proofs.Evaluation.Stop

/-!
# Where an evaluation comes

An element ends the evaluation or lets it go on to the next element. `Shell.GoesOn` is the step past
one element, with what the evaluation carries and the state of the outside world on both sides.
`Shell.Reaches` is a run of such steps from the start of a chain: where the evaluation is, what it
carries there, and what the world is like.

Evaluation goes on from every place that it reaches, whatever follows there
(`runElements_append_of_reaches`). It reaches a place if and only if nothing before stops it
(`reaches_iff`), which is to say that what follows the place can make a difference
(`exists_reaches_iff`).
-/

namespace CommandChain

open CommandChain.Action

variable {state handle : Type}

namespace Shell

variable (shell : Shell state handle)

/-! ## One step -/

/-- The ways in which evaluation goes past an element: a command has returned, or a connective finds
a status that does not end the chain. -/
inductive GoesOn : Element → Progress → state → Progress → state → Prop
  | command {command : Command} {progress : Progress} {world : state} {result : CommandResult}
      (returned : (shell.runCommand command world).outcome = .returned result) :
      GoesOn (.command command) progress world (Progress.after result)
        (shell.runCommand command world).final
  | connective {connective : Connective} {progress : Progress} {world : state} {succeeded : Bool}
      (waits : progress.status = some succeeded)
      (passes : connective.endsAfter succeeded = false) :
      GoesOn (.operator (.connect connective)) progress world progress.taken world

/-- The evaluation of elements from a state comes to the place behind `before`. There it carries
`progress`, and the outside world is in the state `world`. -/
inductive Reaches (initial : state) : List Element → Progress → state → Prop
  | start : Reaches initial [] Progress.start initial
  | next {before : List Element} {element : Element} {progress further : Progress}
      {world later : state} (reached : Reaches initial before progress world)
      (goesOn : shell.GoesOn element progress world further later) :
      Reaches initial (before ++ [element]) further later

variable {shell} {initial : state} {before : List Element} {progress : Progress} {world : state}

/-- The last step of an evaluation that has gone through at least one element. -/
theorem Reaches.last_step {element : Element}
    (reached : shell.Reaches initial (before ++ [element]) progress world) :
    ∃ earlier reachedWorld, shell.Reaches initial before earlier reachedWorld ∧
      shell.GoesOn element earlier reachedWorld progress world := by
  generalize whole : before ++ [element] = through at reached
  cases reached with
  | start => simp at whole
  | next reachedBefore goesOn =>
      obtain ⟨rfl, sameElement⟩ := List.append_inj' whole rfl
      cases sameElement
      exact ⟨_, _, reachedBefore, goesOn⟩

/-! ## Reaching and stopping -/

/-- An element past which evaluation goes does not stop the chain. -/
theorem not_stops_of_goesOn {element : Element} {further : Progress} {later : state}
    (sameStatus : progress.status = shell.statusBehind before initial)
    (sameWorld : world = shell.worldBehind before initial)
    (goesOn : shell.GoesOn element progress world further later) (outcome : Outcome Int) :
    ¬ shell.Stops before initial element outcome := by
  subst sameWorld
  intro stops
  cases goesOn with
  | command returned =>
      cases stops with
      | exit exited =>
          rw [returned] at exited
          cases exited
      | interrupt interrupted =>
          rw [returned] at interrupted
          cases interrupted
  | connective waits passes =>
      rw [sameStatus] at waits
      cases stops with
      | conjunction failed =>
          rw [waits] at failed
          cases failed
          cases passes
      | disjunction succeeded =>
          rw [waits] at succeeded
          cases succeeded
          cases passes
      | missingOperand _ nothingWaits =>
          rw [waits] at nothingWaits
          cases nothingWaits

/-- What a step past an element carries on is what the elements up to it leave. -/
theorem progressBehind_of_goesOn {element : Element} {further : Progress} {later : state}
    (sameProgress : progress = shell.progressBehind before initial)
    (sameWorld : world = shell.worldBehind before initial)
    (goesOn : shell.GoesOn element progress world further later) :
    further = shell.progressBehind (before ++ [element]) initial ∧
      later = shell.worldBehind (before ++ [element]) initial := by
  subst sameProgress sameWorld
  rw [worldBehind_append]
  cases goesOn with
  | command returned => exact ⟨(shell.progressBehind_append_command returned).symm, rfl⟩
  | connective waits passes => exact ⟨(shell.progressBehind_append_operator _).symm, rfl⟩

theorem goesOn_of_not_stops {element : Element}
    (goesOn : ∀ outcome, ¬ shell.Stops before initial element outcome) :
    shell.GoesOn element (shell.progressBehind before initial) (shell.worldBehind before initial)
      (shell.progressBehind (before ++ [element]) initial)
      (shell.worldBehind (before ++ [element]) initial) := by
  rw [worldBehind_append]
  cases element with
  | command command =>
      obtain ⟨result, returned⟩ := shell.exists_result_of_not_stops goesOn
      rw [shell.progressBehind_append_command returned]
      exact .command returned
  | operator operator =>
      cases operator with
      | sequence => exact absurd .sequence (goesOn _)
      | connect connective =>
          obtain ⟨succeeded, waits, passes⟩ := shell.exists_status_of_not_stops goesOn
          rw [shell.progressBehind_append_operator]
          exact .connective waits passes

theorem reaches_of_passes (passes : shell.Passes before initial) :
    shell.Reaches initial before (shell.progressBehind before initial)
      (shell.worldBehind before initial) := by
  induction before using List.reverseRecOn with
  | nil => exact .start
  | append_singleton earlier element inductionHypothesis =>
      have goesOn : ∀ outcome, ¬ shell.Stops earlier initial element outcome := fun outcome =>
        passes earlier element [] outcome rfl
      exact (inductionHypothesis passes.of_append).next (goesOn_of_not_stops goesOn)

/-- Evaluation reaches the places before which nothing stops it, and no others. There it carries
what the commands before have left. -/
theorem reaches_iff :
    shell.Reaches initial before progress world ↔
      shell.Passes before initial ∧ progress = shell.progressBehind before initial ∧
        world = shell.worldBehind before initial := by
  constructor
  · intro reached
    induction reached with
    | start => exact ⟨shell.passes_nil initial, rfl, rfl⟩
    | next _ goesOn inductionHypothesis =>
        obtain ⟨passes, sameProgress, sameWorld⟩ := inductionHypothesis
        have sameStatus := congrArg Progress.status sameProgress
        exact
          ⟨passes.snoc (not_stops_of_goesOn sameStatus sameWorld goesOn),
            progressBehind_of_goesOn sameProgress sameWorld goesOn⟩
  · rintro ⟨passes, rfl, rfl⟩
    exact reaches_of_passes passes

/-- From a place that it reaches, evaluation goes on with whatever follows there. -/
theorem runElements_append_of_reaches (reached : shell.Reaches initial before progress world)
    (later : List Element) :
    shell.runElements (before ++ later) initial =
      let onward := shell.evaluate progress later world
      ⟨onward.outcome, shell.eventsOfCommands before initial ++ onward.events, onward.final⟩ := by
  obtain ⟨passes, rfl, rfl⟩ := reaches_iff.1 reached
  exact shell.evaluate_append_of_passes passes later

/-- Evaluation reaches the place behind some elements if and only if what follows there can make a
difference: otherwise it has ended before. -/
theorem exists_reaches_iff :
    (∃ progress world, shell.Reaches initial before progress world) ↔
      ∃ later, shell.runElements (before ++ later) initial ≠ shell.runElements before initial := by
  constructor
  · rintro ⟨progress, world, reached⟩
    -- A semicolon is met wherever it is reached, and nothing at all lets the chain return.
    refine ⟨[.operator .sequence], fun same => ?_⟩
    have alone := runElements_append_of_reaches reached []
    rw [List.append_nil] at alone
    rw [runElements_append_of_reaches reached, alone] at same
    cases congrArg Execution.outcome same
  · rintro ⟨later, differ⟩
    rcases shell.passes_or_exists_first_stop before initial with
      passes | ⟨front, element, rest, outcome, rfl, passes, stops⟩
    · exact ⟨_, _, reaches_of_passes passes⟩
    · refine absurd ?_ differ
      rw [List.append_assoc, List.cons_append, shell.runElements_of_stops passes stops,
        shell.runElements_of_stops passes stops]

end Shell

end CommandChain
