import CommandChain.Process.Playbook
import CommandChain.Proofs.Lockstep.Shell
import CommandChain.Proofs.Session.Log

/-!
# Only success steers

Nothing of what a command answers decides how a session goes on but whether it succeeded. In two
sessions with the same steps, on shells whose builtins have the same names and that are answered
alike, the same calls are made and every step ends in the same way. What is written, traced or
prompted, why a start failed and with which code a command failed play no part.
-/

namespace CommandChain

open CommandChain.Action

variable {state handle leftState rightState leftHandle rightHandle : Type}

/-! ## The codes of steps that exit -/

/-- The code of a step: the one that it returns or the one with which it exits. -/
def Outcome.stepCode? : Outcome StepResult → Option Int
  | .returned result => some result.code
  | .exited code => some code
  | _ => none

/-- A step is over when a builtin exits, with the code of that exit. -/
def EndsAsLogged (performed : Execution state handle StepResult) : Prop :=
  exitCodes performed.events = [] ∨
    ∃ code, exitCodes performed.events = [code] ∧ performed.outcome.stepCode? = some code

theorem Action.ExitsAsLogged.endsAsLogged {action : Action state handle StepResult}
    (exits : ExitsAsLogged action) (initial : state) : EndsAsLogged (action initial) := by
  have sameExits := exits initial
  unfold EndsAsLogged
  rw [sameExits]
  cases (action initial).outcome with
  | exited code => exact Or.inr ⟨code, rfl, rfl⟩
  | _ => exact Or.inl rfl

theorem Shell.endsAsLogged_perform (shell : Shell state handle) (step : Step) (initial : state) :
    EndsAsLogged (shell.perform step initial) := by
  have ofCode {action : Action state handle Int} (exits : ExitsAsLogged action) :
      EndsAsLogged ((do let code ← action; pure { code := code } : Action state handle StepResult)
        initial) :=
    (exits.bind fun _ => exitsAsLogged_pure _).endsAsLogged initial
  cases step with
  | line text => exact ofCode (shell.exitsAsLogged_runLine text)
  | chain elements =>
      simp only [perform]
      cases Chain.ofElements elements with
      | error error => exact Or.inl rfl
      | ok chain => exact ofCode (shell.exitsAsLogged_evaluate chain.elements Progress.start)
  | elements elements => exact ofCode (shell.exitsAsLogged_evaluate elements Progress.start)
  | loop source =>
      have sameEvents :=
        events_bind_pure (shell.readLoop source)
          (fun ended => ({ code := ended.code, unread := some ended.unread } : StepResult)) initial
      unfold EndsAsLogged
      simp only [perform]
      rw [sameEvents]
      rcases shell.code_of_exitCodes_loop source.isTerminal source.reads 0 initial with
        noExit | ⟨code, unread, exits, returned⟩
      · exact Or.inl noExit
      · refine Or.inr ⟨code, exits, ?_⟩
        have looped :
            (shell.readLoop source initial).outcome = .returned ⟨code, unread⟩ := returned
        rw [bind_apply, Execution.follow_of_returned looped]
        rfl

/-! ## Sessions -/

/-- Two runs of a step: the same calls are made, they exit with the same codes, and the step ends in
the same way. If it exits, it has the same code in both runs. -/
structure PerformedAlike (sameHandle : leftHandle → rightHandle → Prop)
    (left : Execution leftState leftHandle StepResult)
    (right : Execution rightState rightHandle StepResult) : Prop
    extends RanAlike sameHandle SameStepResult left right where
  exits : exitCodes left.events = exitCodes right.events
  exitCode : exitCodes left.events ≠ [] → left.outcome.stepCode? = right.outcome.stepCode?

theorem RanAlike.performedAlike {sameHandle : leftHandle → rightHandle → Prop}
    {left : Execution leftState leftHandle StepResult}
    {right : Execution rightState rightHandle StepResult}
    (ran : RanAlike sameHandle SameStepResult left right) (leftEnds : EndsAsLogged left)
    (rightEnds : EndsAsLogged right) : PerformedAlike sameHandle left right where
  toRanAlike := ran
  exits := ran.calls.exitCodes_eq
  exitCode := by
    intro exits
    have sameExits := ran.calls.exitCodes_eq
    obtain ⟨leftCode, leftExits, leftIs⟩ := leftEnds.resolve_left exits
    rw [sameExits] at exits
    obtain ⟨rightCode, rightExits, rightIs⟩ := rightEnds.resolve_left exits
    rw [leftExits, rightExits] at sameExits
    rw [leftIs, rightIs, List.head_eq_of_cons_eq sameExits]

/-- Two handles that the starts with the same number in two logs gave. -/
def StartedTogether (left : List (Event leftHandle)) (right : List (Event rightHandle))
    (leftProcess : leftHandle) (rightProcess : rightHandle) : Prop :=
  ∃ number : Nat,
    (left.filterMap Event.startAnswer?)[number]? = some (.ok leftProcess) ∧
      (right.filterMap Event.startAnswer?)[number]? = some (.ok rightProcess)

/-- Nothing has to be known of the handles themselves. -/
theorem AnsweredAlike.startedTogether {left : List (Event leftHandle)}
    {right : List (Event rightHandle)} (alike : AnsweredAlike (fun _ _ => True) left right) :
    AnsweredAlike (StartedTogether left right) left right where
  starts := by
    intro number leftAnswer rightAnswer leftFound rightFound
    cases alike.starts number leftAnswer rightAnswer leftFound rightFound with
    | refused leftFailure rightFailure => exact .refused leftFailure rightFailure
    | started _ => exact .started ⟨number, leftFound, rightFound⟩
  waits := alike.waits
  builtins := alike.builtins

namespace Shell

theorem sessionLog_cons (shell : Shell state handle) (step : Step) (later : List Step)
    (initial : state) :
    shell.sessionLog (step :: later) initial =
      (shell.perform step initial).events ++
        shell.sessionLog later (shell.perform step initial).final :=
  rfl

variable {left : Shell leftState leftHandle} {right : Shell rightState rightHandle}

theorem performedAlike_runSession {sameHandle : leftHandle → rightHandle → Prop}
    (sameNames : ∀ name, (left.builtins name).isSome = (right.builtins name).isSome)
    {leftSteps rightSteps : List Step} (sameSteps : List.Forall₂ SameStep leftSteps rightSteps) :
    ∀ (leftInitial : leftState) (rightInitial : rightState),
      AnsweredAlike sameHandle (left.sessionLog leftSteps leftInitial)
        (right.sessionLog rightSteps rightInitial) →
      SameCalls sameHandle (left.sessionLog leftSteps leftInitial)
          (right.sessionLog rightSteps rightInitial) ∧
        List.Forall₂ (PerformedAlike sameHandle) (left.runSession leftSteps leftInitial)
          (right.runSession rightSteps rightInitial) := by
  induction sameSteps with
  | nil => exact fun _ _ _ => ⟨.nil, .nil⟩
  | @cons leftStep rightStep leftLater rightLater sameStep _ inductionHypothesis =>
      intro leftInitial rightInitial alike
      rw [sessionLog_cons, sessionLog_cons] at alike ⊢
      have ran := inStep_perform sameNames sameStep leftInitial rightInitial alike.before
      obtain ⟨laterCalls, laterSteps⟩ :=
        inductionHypothesis (left.perform leftStep leftInitial).final
          (right.perform rightStep rightInitial).final (alike.behind ran.calls)
      refine ⟨ran.calls.append laterCalls, .cons ?_ laterSteps⟩
      exact
        ran.performedAlike (left.endsAsLogged_perform leftStep leftInitial)
          (right.endsAsLogged_perform rightStep rightInitial)

/-- Only success steers. Two sessions with the same steps, on shells whose builtins have the same
names and that are answered alike, make the same calls in the same order, the waits for processes
that were started together; and every step ends in the same way, with the same exits, with the same
input unread and with codes that are both zero or both not. -/
theorem only_success_steers
    (sameNames : ∀ name, (left.builtins name).isSome = (right.builtins name).isSome)
    {leftSteps rightSteps : List Step} (sameSteps : List.Forall₂ SameStep leftSteps rightSteps)
    (leftInitial : leftState) (rightInitial : rightState)
    (alike :
      AnsweredAlike (fun _ _ => True) (left.sessionLog leftSteps leftInitial)
        (right.sessionLog rightSteps rightInitial)) :
    let together :=
      StartedTogether (left.sessionLog leftSteps leftInitial)
        (right.sessionLog rightSteps rightInitial)
    SameCalls together (left.sessionLog leftSteps leftInitial)
        (right.sessionLog rightSteps rightInitial) ∧
      List.Forall₂ (PerformedAlike together) (left.runSession leftSteps leftInitial)
        (right.runSession rightSteps rightInitial) :=
  performedAlike_runSession sameNames sameSteps leftInitial rightInitial alike.startedTogether

/-- A shell that cannot start `a`, for a given reason, and in which `b` fails with a given code. -/
def failingShell (reason : Text) (code : Int) (tracing : Bool) :
    Shell PlaybookState PlaybookProcess where
  processes := Playbook.processLayer
    { listed := [([.char 'a'], [.failing reason]), ([.char 'b'], [.finishing { code := code }])] }
  tracing := tracing

/-- A refused start, and a failure that a disjunction takes up. -/
def failingLine : Text :=
  [.char 'a', Symbol.semicolon, .char 'b', .char ' ', .char '|', .char '|', .char ' ', .char 'c',
    Text.newline]

/-- A line that fails in part, and a line that exits. -/
def failingInput (isTerminal : Bool) : ReadSource where
  input := failingLine ++ exitName ++ [Text.newline]
  isTerminal := isTerminal

theorem reads_failingInput (isTerminal : Bool) :
    (failingInput isTerminal).reads = [.line failingLine, .line (exitName ++ [Text.newline])] := by
  rw [ReadSource.reads]
  exact (readsFrom_nil 0 _).trans rfl

/-- An operator without operand, and then a read loop. -/
def failingSteps (isTerminal : Bool) : List Step :=
  [.elements [.command ⟨[.char 'a'], [], by decide⟩, .operator (.connect .and)],
    .loop (failingInput isTerminal)]

theorem only_success_steers_of_failing :
    let leftLog := (failingShell [] 1 false).sessionLog (failingSteps false) {}
    let rightLog := (failingShell [.char 'x'] 2 true).sessionLog (failingSteps true) {}
    AnsweredAlike (fun _ _ => True) leftLog rightLog ∧
      SameCalls (StartedTogether leftLog rightLog) leftLog rightLog := by
  intro leftLog rightLog
  have sameSteps : List.Forall₂ SameStep (failingSteps false) (failingSteps true) :=
    .cons (.elements _) (.cons (.loop rfl rfl) .nil)
  have alike : AnsweredAlike (fun _ _ => True) leftLog rightLog := by
    simp only [leftLog, rightLog, failingSteps, sessionLog_cons, perform, readLoop,
      reads_failingInput]
    constructor
    · apply RelatedByNumber.of_forall₂
      exact
        .cons (.refused _ _)
          (.cons (.refused _ _)
            (.cons (SameStart.started trivial) (.cons (SameStart.started trivial) .nil)))
    · apply RelatedByNumber.of_forall₂
      exact .cons (SameWait.ended (by decide)) (.cons (SameWait.ended (by decide)) .nil)
    · apply RelatedByNumber.of_forall₂
      exact .cons (.exit rfl rfl) .nil
  have sameNames (name : Text) :
      ((failingShell [] 1 false).builtins name).isSome =
        ((failingShell [.char 'x'] 2 true).builtins name).isSome := rfl
  exact ⟨alike, (only_success_steers sameNames sameSteps {} {} alike).1⟩

end Shell

end CommandChain
