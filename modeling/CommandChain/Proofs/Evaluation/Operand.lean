import CommandChain.Process.Playbook
import CommandChain.Proofs.Evaluation.Prefix
import CommandChain.Proofs.Evaluation.Reach

/-!
# Missing operands

A connective acts on the status that the element directly before it leaves. It lacks its operand if
there is no such element, if that is an operator, or if it is a command whose process could not be
started (`Shell.LacksOperand`). Evaluation that reaches a connective fails there in exactly these
cases, and with the error of that connective; nothing that lies further back makes a difference.

The reason is that the status is written anew at every step: the step past a command overwrites what
was carried before, and the step past a connective takes it away.
-/

namespace CommandChain

open CommandChain.Action

variable {state handle : Type}

namespace Shell

variable (shell : Shell state handle)

/-- The ways in which a connective behind some elements lacks its operand. -/
inductive LacksOperand (initial : state) : List Element → Prop
  /-- it is the first element -/
  | first : LacksOperand initial []
  /-- it stands directly behind an operator -/
  | behindOperator (earlier : List Element) (operator : Operator) :
      LacksOperand initial (earlier ++ [.operator operator])
  /-- it stands directly behind a command that is no builtin and that the process layer refused -/
  | behindRefusal (earlier : List Element) {command : Command} {failure : SpawnFailure}
      (noBuiltin : shell.builtins command.binary = none)
      (refused :
        (shell.processes.spawn command.binary command.arguments
          (shell.worldBehind earlier initial)).1 = .error failure) :
      LacksOperand initial (earlier ++ [.command command])

/-- Evaluation reaches an element and fails there: it ends with the error, and in the same way
whatever follows the element. -/
structure FailsAt (initial : state) (before : List Element) (element : Element)
    (error : ShellError) : Prop where
  reached : ∃ progress world, shell.Reaches initial before progress world
  fails : ∃ events final, ∀ later,
    shell.runElements (before ++ element :: later) initial = ⟨.failed error, events, final⟩

/-- An element ends in the same way from two states. An operator always does. -/
def EndsAlike (element : Element) (world other : state) : Prop :=
  ∀ command, element = .command command →
    (shell.runCommand command world).outcome = (shell.runCommand command other).outcome

variable {shell} {initial : state} {before : List Element} {progress : Progress} {world : state}

/-! ## The status that waits -/

theorem returned_notStarted_iff {command : Command} {world : state} :
    (shell.runCommand command world).outcome = .returned .notStarted ↔
      shell.builtins command.binary = none ∧
        ∃ failure,
          (shell.processes.spawn command.binary command.arguments world).1 = .error failure := by
  constructor
  · exact shell.exists_refusal_of_notStarted
  · rintro ⟨noBuiltin, failure, refused⟩
    exact shell.runCommand_of_spawn_error noBuiltin refused

/-- Behind a command an operand is only missing if the command was refused. -/
theorem LacksOperand.refused {earlier : List Element} {command : Command}
    (lacks : shell.LacksOperand initial (earlier ++ [.command command])) :
    shell.builtins command.binary = none ∧
      ∃ failure,
        (shell.processes.spawn command.binary command.arguments
          (shell.worldBehind earlier initial)).1 = .error failure := by
  generalize whole : earlier ++ [.command command] = through at lacks
  cases lacks with
  | first => simp at whole
  | behindOperator others operator =>
      obtain ⟨_, sameElement⟩ := List.append_inj' whole rfl
      cases sameElement
  | behindRefusal others noBuiltin refused =>
      obtain ⟨rfl, sameElement⟩ := List.append_inj' whole rfl
      cases sameElement
      exact ⟨noBuiltin, _, refused⟩

/-- The status that a step leaves is that of its own command, or none after a connective. -/
theorem GoesOn.status_eq_none_iff {element : Element} {further : Progress} {later : state}
    (goesOn : shell.GoesOn element progress world further later) :
    further.status = none ↔
      ∀ command, element = .command command →
        (shell.runCommand command world).outcome = .returned .notStarted := by
  cases goesOn with
  | @command command _ _ result returned =>
      constructor
      · intro nothingWaits other same
        cases same
        cases result with
        | ended code => cases nothingWaits
        | notStarted => exact returned
      · intro notStarted
        rw [notStarted command rfl] at returned
        cases returned
        rfl
  | connective waits passes =>
      constructor
      · intro _ command same
        cases same
      · intro _
        rfl

/-- Where evaluation comes to a connective, no status waits if and only if the operand is missing. -/
theorem Reaches.status_eq_none_iff (reached : shell.Reaches initial before progress world) :
    progress.status = none ↔ shell.LacksOperand initial before := by
  cases reached with
  | start => exact ⟨fun _ => .first, fun _ => rfl⟩
  | @next earlier element carried _ reachedWorld _ reachedBefore goesOn =>
      obtain ⟨_, _, sameWorld⟩ := reaches_iff.1 reachedBefore
      rw [goesOn.status_eq_none_iff]
      constructor
      · intro notStarted
        cases element with
        | operator operator => exact .behindOperator earlier operator
        | command command =>
            obtain ⟨noBuiltin, failure, refused⟩ :=
              returned_notStarted_iff.1 (notStarted command rfl)
            rw [sameWorld] at refused
            exact .behindRefusal earlier noBuiltin refused
      · intro lacks command same
        subst same
        rw [sameWorld]
        exact returned_notStarted_iff.2 lacks.refused

/-- Steps past the same element leave the same status if its command ends in the same way. -/
theorem GoesOn.status_eq {element : Element} {other further otherFurther : Progress}
    {otherWorld later otherLater : state}
    (goesOn : shell.GoesOn element progress world further later)
    (otherGoesOn : shell.GoesOn element other otherWorld otherFurther otherLater)
    (alike : shell.EndsAlike element world otherWorld) : further.status = otherFurther.status := by
  cases goesOn with
  | @command command _ _ result returned =>
      cases otherGoesOn with
      | command otherReturned =>
          rw [alike command rfl, otherReturned] at returned
          cases returned
          rfl
  | connective waits passes =>
      cases otherGoesOn with
      | connective otherWaits otherPasses => rfl

theorem Reaches.status_eq {element : Element} {other : state} {earlier : List Element}
    {carried : Progress} {later : state}
    (reached : shell.Reaches initial (before ++ [element]) progress world)
    (otherReached : shell.Reaches other (earlier ++ [element]) carried later)
    (alike : shell.EndsAlike element (shell.worldBehind before initial)
      (shell.worldBehind earlier other)) :
    progress.status = carried.status := by
  obtain ⟨_, _, reachedBefore, goesOn⟩ := reached.last_step
  obtain ⟨_, _, otherReachedBefore, otherGoesOn⟩ := otherReached.last_step
  obtain ⟨_, _, rfl⟩ := reaches_iff.1 reachedBefore
  obtain ⟨_, _, rfl⟩ := reaches_iff.1 otherReachedBefore
  exact goesOn.status_eq otherGoesOn alike

/-! ## Failing at a connective -/

theorem Reaches.failsAt_iff (reached : shell.Reaches initial before progress world)
    (connective : Connective) (error : ShellError) :
    shell.FailsAt initial before (.operator (.connect connective)) error ↔
      error = .missingOperand connective ∧ progress.status = none := by
  constructor
  · rintro ⟨_, events, final, fails⟩
    have alone := fails []
    rw [runElements_append_of_reaches reached] at alone
    cases waits : progress.status with
    | none =>
        simp only [evaluate, waits, finish] at alone
        cases alone
        exact ⟨rfl, rfl⟩
    | some succeeded =>
        simp only [evaluate, waits] at alone
        split at alone <;> cases alone
  · rintro ⟨rfl, nothingWaits⟩
    refine ⟨⟨progress, world, reached⟩, shell.eventsOfCommands before initial, world, ?_⟩
    intro later
    rw [runElements_append_of_reaches reached]
    simp [evaluate, nothingWaits, finish]

/-- A chain that fails with a missing operand fails at one of its connectives, which it reaches. -/
theorem exists_failsAt_of_missingOperand {elements : List Element} {connective : Connective}
    (failed : (shell.runElements elements initial).outcome = .failed (.missingOperand connective)) :
    ∃ before later, elements = before ++ .operator (.connect connective) :: later ∧
      shell.FailsAt initial before (.operator (.connect connective))
        (.missingOperand connective) := by
  rcases shell.passes_or_exists_first_stop elements initial with
    passes | ⟨before, element, later, outcome, rfl, passes, stops⟩
  · rw [shell.runElements_of_passes passes] at failed
    cases failed
  · rw [shell.runElements_of_stops passes stops] at failed
    subst failed
    cases stops with
    | missingOperand _ nothingWaits =>
        have reached := reaches_of_passes passes
        exact ⟨before, later, rfl, (reached.failsAt_iff _ _).2 ⟨rfl, nothingWaits⟩⟩

/-! ## Commands and connectives in turn -/

/-- Commands that are joined by single connectives, where one more connective may follow the
last. -/
inductive Alternates : List Element → Prop
  | command (command : Command) : Alternates [.command command]
  | trailing (command : Command) (connective : Connective) :
      Alternates [.command command, .operator (.connect connective)]
  | joined (command : Command) (connective : Connective) {later : List Element}
      (alternates : Alternates later) :
      Alternates (.command command :: .operator (.connect connective) :: later)

/-- Every operator of such a chain is a connective that stands directly behind a command. -/
theorem Alternates.behind_command {elements before later : List Element} {operator : Operator}
    (alternates : Alternates elements) (cut : elements = before ++ .operator operator :: later) :
    (∃ connective, operator = .connect connective) ∧
      ∃ earlier command, before = earlier ++ [.command command] := by
  induction alternates generalizing before with
  | command command =>
      match before with
      | [] => cases cut
      | [_] => cases cut
      | _ :: _ :: _ => cases cut
  | trailing command connective =>
      match before with
      | [] => cases cut
      | [_] =>
          cases cut
          exact ⟨⟨connective, rfl⟩, [], command, rfl⟩
      | [_, _] => cases cut
      | _ :: _ :: _ :: _ => cases cut
  | @joined command connective rest _ inductionHypothesis =>
      match before with
      | [] => cases cut
      | [_] =>
          cases cut
          exact ⟨⟨connective, rfl⟩, [], command, rfl⟩
      | first :: second :: others =>
          obtain ⟨rfl, rfl, restCut⟩ : Element.command command = first ∧
              Element.operator (.connect connective) = second ∧
                rest = others ++ .operator operator :: later := by
            simpa using cut
          obtain ⟨isConnective, earlier, last, rfl⟩ := inductionHypothesis restCut
          exact ⟨isConnective, .command command :: .operator (.connect connective) :: earlier, last, rfl⟩

theorem spawn_mem_events_of_refused {command : Command} {failure : SpawnFailure}
    (noBuiltin : shell.builtins command.binary = none)
    (refused :
      (shell.processes.spawn command.binary command.arguments world).1 = .error failure) :
    Event.spawn command (.error failure) ∈ (shell.runCommand command world).events := by
  have run := shell.runCommand_spec command world
  generalize shell.runCommand command world = execution at run ⊢
  cases run with
  | builtin named answered =>
      rw [noBuiltin] at named
      cases named
  | refused _ answered =>
      rw [answered] at refused
      cases refused
      exact List.mem_append_right _ List.mem_cons_self
  | interrupted _ answered awaited =>
      rw [answered] at refused
      cases refused
  | ended _ answered awaited =>
      rw [answered] at refused
      cases refused

/-- Commands and connectives in turn never fail, unless a process could not be started. -/
theorem not_failed_of_alternates {elements : List Element} (alternates : Alternates elements)
    (noneRefused : ∀ command failure,
      Event.spawn command (.error failure) ∉ (shell.runElements elements initial).events)
    (error : ShellError) : (shell.runElements elements initial).outcome ≠ .failed error := by
  intro failed
  rcases shell.passes_or_exists_first_stop elements initial with
    passes | ⟨before, element, later, outcome, rfl, passes, stops⟩
  · rw [shell.runElements_of_passes passes] at failed
    cases failed
  · rw [shell.runElements_of_stops passes stops] at failed noneRefused
    subst failed
    cases stops with
    | sequence =>
        obtain ⟨⟨connective, isConnective⟩, _⟩ := alternates.behind_command rfl
        cases isConnective
    | missingOperand connective nothingWaits =>
        obtain ⟨_, earlier, command, rfl⟩ := alternates.behind_command rfl
        have lacks := (reaches_of_passes passes).status_eq_none_iff.1 nothingWaits
        obtain ⟨noBuiltin, failure, refused⟩ := lacks.refused
        apply noneRefused command failure
        rw [eventsOfCommands_append, eventsOfCommands_append, eventsOfCommands_command]
        exact
          List.mem_append_left _ <|
            List.mem_append_right _ (spawn_mem_events_of_refused noBuiltin refused)

variable (shell) in
/-- When an operand is missing. Evaluation reaches a place if what follows there can make a
difference. Where it reaches a connective it fails if and only if the connective is the first element,
or stands directly behind an operator or behind a command whose process was refused; the error names
that very connective. Nothing else makes a chain fail with a missing operand. So the status that an
operator finds depends on nothing but the element directly before it: in any two places behind the
same element it is the same, as long as that element ends in the same way. And a chain of commands
that are joined by single connectives does not fail, unless a process could not be started. -/
theorem missing_operand_iff :
    (∀ (initial : state) (before : List Element),
        (∃ progress world, shell.Reaches initial before progress world) ↔
          ∃ later,
            shell.runElements (before ++ later) initial ≠ shell.runElements before initial) ∧
      (∀ (initial : state) (before : List Element) (progress : Progress) (world : state),
        shell.Reaches initial before progress world →
        ∀ (connective : Connective) (error : ShellError),
          shell.FailsAt initial before (.operator (.connect connective)) error ↔
            error = .missingOperand connective ∧ shell.LacksOperand initial before) ∧
      (∀ (initial : state) (elements : List Element) (connective : Connective),
        (shell.runElements elements initial).outcome = .failed (.missingOperand connective) →
        ∃ before later, elements = before ++ .operator (.connect connective) :: later ∧
          shell.FailsAt initial before (.operator (.connect connective))
            (.missingOperand connective)) ∧
      (∀ (initial other : state) (before earlier : List Element) (element : Element)
          (progress carried : Progress) (world later : state),
        shell.Reaches initial (before ++ [element]) progress world →
        shell.Reaches other (earlier ++ [element]) carried later →
        shell.EndsAlike element (shell.worldBehind before initial)
          (shell.worldBehind earlier other) →
        progress.status = carried.status) ∧
      (∀ (initial : state) (elements : List Element), Alternates elements →
        (∀ command failure,
          Event.spawn command (.error failure) ∉ (shell.runElements elements initial).events) →
        ∀ error, (shell.runElements elements initial).outcome ≠ .failed error) := by
  refine ⟨fun _ _ => exists_reaches_iff, ?_, ?_, ?_, ?_⟩
  · intro initial before progress world reached connective error
    rw [reached.failsAt_iff, reached.status_eq_none_iff]
  · exact fun _ _ _ failed => exists_failsAt_of_missingOperand failed
  · exact fun _ _ _ _ _ _ _ _ _ reached otherReached alike =>
      reached.status_eq otherReached alike
  · exact fun _ _ alternates noneRefused => not_failed_of_alternates alternates noneRefused

/-- A shell that cannot start `a`, and runs anything else with success. -/
def shellRefusingA : Shell PlaybookState PlaybookProcess where
  processes := Playbook.processLayer { listed := [([.char 'a'], [.failing []])] }

/-- A command that was refused behind one that succeeded leaves no operand to the disjunction that
follows, although a status waited before, and the chain fails at that disjunction. With the first
command once more in its place nothing fails, and the status is that of the first time. -/
theorem missing_operand_iff_of_refused :
    let first : Command := ⟨[.char 'b'], [], by decide⟩
    let second : Command := ⟨[.char 'a'], [], by decide⟩
    let front : List Element := [.command first, .operator (.connect .and)]
    let before : List Element := front ++ [.command second]
    (∃ progress world, shellRefusingA.Reaches {} before progress world) ∧
      shellRefusingA.FailsAt {} before (.operator (.connect .or)) (.missingOperand .or) ∧
      (∃ earlier later,
        before ++ [.operator (.connect .or)] = earlier ++ .operator (.connect .or) :: later ∧
          shellRefusingA.FailsAt {} earlier (.operator (.connect .or)) (.missingOperand .or)) ∧
      (shellRefusingA.progressBehind (front ++ [.command first]) {}).status =
        (shellRefusingA.progressBehind [.command first] {}).status ∧
      ∀ error,
        (shellRefusingA.runElements (front ++ [.command first]) {}).outcome ≠ .failed error := by
  intro first second front before
  obtain ⟨-, failsIff, failsSomewhere, statusSame, alternatingNotFailed⟩ :=
    missing_operand_iff shellRefusingA
  let world := (shellRefusingA.runCommand first {}).final
  have behindFirst : shellRefusingA.Reaches {} ([] ++ [.command first])
      (Progress.after (.ended 0)) world :=
    .next .start (.command rfl)
  have behindConjunction :
      shellRefusingA.Reaches {} front (Progress.after (.ended 0)).taken world :=
    .next behindFirst (.connective rfl rfl)
  have reached :
      shellRefusingA.Reaches {} before (Progress.after .notStarted)
        (shellRefusingA.runCommand second world).final :=
    .next behindConjunction (.command rfl)
  have reachedAgain :
      shellRefusingA.Reaches {} (front ++ [.command first]) (Progress.after (.ended 0))
        (shellRefusingA.runCommand first world).final :=
    .next behindConjunction (.command rfl)
  have lacks : shellRefusingA.LacksOperand {} before := .behindRefusal front rfl rfl
  have endsAlike : shellRefusingA.EndsAlike (.command first)
      (shellRefusingA.worldBehind front {}) (shellRefusingA.worldBehind [] {}) := by
    rintro command ⟨⟩
    rfl
  have alternates : Alternates (front ++ [.command first]) :=
    .joined first .and (.command first)
  have noneRefused : ∀ command failure, Event.spawn command (.error failure) ∉
      (shellRefusingA.runElements (front ++ [.command first]) {}).events := by
    have events : (shellRefusingA.runElements (front ++ [.command first]) {}).events =
        [.spawn first (.ok ⟨0, some { code := 0 }⟩),
          .wait ⟨0, some { code := 0 }⟩ (some { code := 0 }),
          .spawn first (.ok ⟨1, some { code := 0 }⟩),
          .wait ⟨1, some { code := 0 }⟩ (some { code := 0 })] := rfl
    simp [events]
  refine ⟨⟨_, _, reached⟩, ?_, ?_, ?_, ?_⟩
  · exact (failsIff {} before _ _ reached .or _).2 ⟨rfl, lacks⟩
  · exact failsSomewhere {} _ .or rfl
  · exact statusSame {} {} front [] _ _ _ _ _ reachedAgain behindFirst endsAlike
  · exact alternatingNotFailed {} _ alternates noneRefused

end Shell

end CommandChain
