import CommandChain.Proofs.Evaluation.Stop
import CommandChain.Shell.RunLine

/-!
# Recoded statuses

Suppose that a process layer is changed in one way: the codes that its processes report are recoded.
If zero and nothing else becomes zero, no connective decides otherwise. The same commands are run
from the same states, and all that is left of the change is that the codes are recoded which the
lines return (`recodes_runLine`), provided that the shell's own codes stay what they are.
-/

namespace CommandChain

open CommandChain.Action

variable {state handle value next : Type}

/-- Ends in the same way, with the result changed. -/
def Outcome.map (change : value → next) : Outcome value → Outcome next
  | .returned result => .returned (change result)
  | .failed error => .failed error
  | .exited code => .exited code
  | .interrupted => .interrupted

section Recoding

variable (recode : Int → Int)

/-! ## What is recoded -/

def ExitStatus.recoded (status : ExitStatus) : ExitStatus :=
  { status with code := recode status.code }

def ProcessLayer.recoded (layer : ProcessLayer state handle) : ProcessLayer state handle where
  spawn := layer.spawn
  wait process world :=
    ((layer.wait process world).1.map (ExitStatus.recoded recode), (layer.wait process world).2)

/-- The shell whose processes report recoded statuses. -/
def Shell.recoded (shell : Shell state handle) : Shell state handle :=
  { shell with processes := shell.processes.recoded recode }

def Event.recoded : Event handle → Event handle
  | .wait process answer => .wait process (answer.map (ExitStatus.recoded recode))
  | event => event

/-- The execution with the statuses in its log recoded and its result changed. -/
def Execution.recoded (change : value → next) (run : Execution state handle value) :
    Execution state handle next :=
  ⟨run.outcome.map change, run.events.map (Event.recoded recode), run.final⟩

def CommandResult.recoded : CommandResult → CommandResult
  | .ended code => .ended (recode code)
  | .notStarted => .notStarted

def Progress.recoded (progress : Progress) : Progress :=
  { progress with code := recode progress.code }

/-! ## Actions -/

namespace Action

/-- From every state, the second action does what the first does, with statuses recoded and the
result changed. -/
def Recodes (change : value → next) (plain : Action state handle value)
    (changed : Action state handle next) : Prop :=
  ∀ initial, changed initial = (plain initial).recoded recode change

variable {recode} {change : value → next}

theorem recodes_pure (result : value) :
    Recodes recode change (pure result : Action state handle value) (pure (change result)) :=
  fun _ => rfl

theorem recodes_finish (outcome : Outcome value) :
    Recodes recode change (finish outcome : Action state handle value)
      (finish (outcome.map change)) :=
  fun _ => rfl

theorem recodes_emit {event : Event handle} (same : event.recoded recode = event) :
    Recodes recode id (emit event : Action state handle Unit) (emit event) := by
  intro initial
  show (⟨.returned (), [event], initial⟩ : Execution state handle Unit) =
    ⟨.returned (), [event.recoded recode], initial⟩
  rw [same]

theorem Recodes.observe {plain : Action state handle value} {changed : Action state handle next}
    (recodes : Recodes recode change plain changed) :
    Recodes recode (Outcome.map change) plain.observe changed.observe := by
  intro initial
  simp only [Action.observe, recodes initial]
  rfl

theorem Recodes.bind {later laterNext : Type} {plain : Action state handle value}
    {changed : Action state handle next} {changeLater : later → laterNext}
    {plainLater : value → Action state handle later}
    {changedLater : next → Action state handle laterNext}
    (first : Recodes recode change plain changed)
    (second : ∀ result,
      Recodes recode changeLater (plainLater result) (changedLater (change result))) :
    Recodes recode changeLater (plain >>= plainLater) (changed >>= changedLater) := by
  intro initial
  rw [bind_apply, bind_apply, first initial]
  cases ran : plain initial with
  | mk outcome events final =>
      cases outcome with
      | returned result =>
          have onward := second result final
          simp only [Execution.follow, Execution.recoded, Outcome.map, List.map_append, onward]
      | failed error => rfl
      | exited code => rfl
      | interrupted => rfl

theorem recodes_replay (stream : Stream) (bytes : Option (List UInt8)) :
    Recodes recode id (Shell.replay stream bytes : Action state handle Unit)
      (Shell.replay stream bytes) := by
  match bytes with
  | none => exact recodes_pure ()
  | some [] => exact recodes_pure ()
  | some (first :: rest) => exact recodes_emit rfl

theorem recodes_emitIf (wanted : Bool) {event : Event handle}
    (same : event.recoded recode = event) :
    Recodes recode id (emitIf wanted event : Action state handle Unit) (emitIf wanted event) := by
  cases wanted with
  | true => exact recodes_emit same
  | false => exact recodes_pure ()

/-- A question to which both sides get the same answer. -/
theorem recodes_ask {question : state → value × state} {record : value → Event handle}
    (same : ∀ answer, (record answer).recoded recode = record answer) :
    Recodes recode id (ask question record) (ask question record) := by
  intro initial
  show (⟨.returned (question initial).1, [record (question initial).1], (question initial).2⟩ :
      Execution state handle value) =
    ⟨.returned (question initial).1, [(record (question initial).1).recoded recode],
      (question initial).2⟩
  rw [same]

end Action

/-! ## The shell -/

/-- Zero and nothing else becomes zero, and the codes that the shell or a builtin chooses stay. -/
structure IsRecoding (builtins : BuiltinTable state) : Prop where
  zero_iff : ∀ code, recode code = 0 ↔ code = 0
  notStarted : recode CommandResult.notStartedCode = CommandResult.notStartedCode
  syntaxError : recode Shell.syntaxErrorCode = Shell.syntaxErrorCode
  builtin : ∀ {name builtin}, builtins name = some builtin →
    ∀ arguments world code, (builtin arguments world).1.ending = .returned code →
      recode code = code

namespace IsRecoding

variable {recode} {builtins : BuiltinTable state} (isRecoding : IsRecoding recode builtins)

include isRecoding

theorem isSuccessCode_eq (code : Int) : isSuccessCode (recode code) = isSuccessCode code := by
  by_cases isZero : code = 0
  · have staysZero : recode code = 0 := (isRecoding.zero_iff code).2 isZero
    rw [staysZero, isZero]
  · have notZero : recode code ≠ 0 := fun becomes => isZero ((isRecoding.zero_iff code).1 becomes)
    unfold isSuccessCode
    rw [beq_eq_false_iff_ne.2 notZero, beq_eq_false_iff_ne.2 isZero]

theorem after_recoded (result : CommandResult) :
    Progress.after (result.recoded recode) = (Progress.after result).recoded recode := by
  cases result with
  | ended code =>
      have sameStatus := isRecoding.isSuccessCode_eq code
      simp only [CommandResult.recoded, Progress.after, Progress.recoded, CommandResult.status?,
        CommandResult.code, sameStatus]
  | notStarted =>
      simp only [CommandResult.recoded, Progress.after, Progress.recoded, CommandResult.code,
        isRecoding.notStarted]

theorem start_recoded : Progress.start.recoded recode = Progress.start := by
  have zero : recode 0 = 0 := (isRecoding.zero_iff 0).2 rfl
  simp only [Progress.recoded, Progress.start, zero]

end IsRecoding

namespace Shell

variable {recode} {shell : Shell state handle} (isRecoding : IsRecoding recode shell.builtins)

theorem recodes_awaitProcess (process : handle) :
    Recodes recode (CommandResult.recoded recode) (shell.awaitProcess process)
      ((shell.recoded recode).awaitProcess process) := by
  have waited :
      Recodes recode (Option.map (ExitStatus.recoded recode))
        (ask (shell.processes.wait process) (Event.wait process))
        (ask ((shell.recoded recode).processes.wait process) (Event.wait process)) :=
    fun _ => rfl
  refine waited.bind ?_
  intro answer
  cases answer with
  | none => exact recodes_finish .interrupted
  | some status =>
      refine (recodes_replay .output status.output).bind fun _ => ?_
      refine (recodes_replay .diagnostics status.errors).bind fun _ => ?_
      exact recodes_pure (CommandResult.ended status.code)

theorem recodes_runProcess (command : Command) :
    Recodes recode (CommandResult.recoded recode) (shell.runProcess command)
      ((shell.recoded recode).runProcess command) := by
  refine (recodes_ask fun _ => rfl).bind ?_
  intro answer
  cases answer with
  | error failure =>
      refine (recodes_emit rfl).bind fun _ => ?_
      exact recodes_pure CommandResult.notStarted
  | ok process => exact recodes_awaitProcess process

include isRecoding

theorem recodes_runBuiltin {command : Command} {builtin : Builtin state}
    (named : shell.builtins command.binary = some builtin) :
    Recodes recode (CommandResult.recoded recode)
      (runBuiltin builtin command : Action state handle CommandResult)
      (runBuiltin builtin command) := by
  intro initial
  cases answered : builtin command.arguments initial with
  | mk reply after =>
      rw [runBuiltin_apply answered]
      cases ended : reply.ending with
      | returned code =>
          have kept : recode code = code := by
            refine isRecoding.builtin named command.arguments initial code ?_
            rw [answered, ended]
          simp only [BuiltinEnding.outcome, Execution.recoded, Outcome.map, CommandResult.recoded,
            kept]
          rfl
      | exited code => rfl
      | interrupted => rfl

theorem recodes_runCommand (command : Command) :
    Recodes recode (CommandResult.recoded recode) (shell.runCommand command)
      ((shell.recoded recode).runCommand command) := by
  refine (recodes_emitIf shell.tracing rfl).bind fun _ => ?_
  have sameTable : (shell.recoded recode).builtins = shell.builtins := rfl
  rw [sameTable]
  cases named : shell.builtins command.binary with
  | some builtin => exact recodes_runBuiltin isRecoding named
  | none => exact recodes_runProcess command

theorem recodes_evaluate :
    ∀ (elements : List Element) (progress : Progress),
      Recodes recode recode (shell.evaluate progress elements)
        ((shell.recoded recode).evaluate (progress.recoded recode) elements)
  | [], progress => recodes_pure progress.code
  | .command command :: rest, _ => by
      refine (recodes_runCommand isRecoding command).bind ?_
      intro result
      rw [isRecoding.after_recoded]
      exact recodes_evaluate rest (Progress.after result)
  | .operator .sequence :: _, _ => recodes_finish (.failed .misplacedSequence)
  | .operator (.connect connective) :: rest, progress => by
      -- The status on which the connective decides is not recoded, only the code is.
      cases waits : progress.status with
      | none =>
          have plain :
              shell.evaluate progress (.operator (.connect connective) :: rest) =
                finish (.failed (.missingOperand connective)) := by
            simp only [evaluate, waits]
          have changed :
              (shell.recoded recode).evaluate (progress.recoded recode)
                  (.operator (.connect connective) :: rest) =
                finish (.failed (.missingOperand connective)) := by
            simp only [evaluate, Progress.recoded, waits]
          rw [plain, changed]
          exact recodes_finish (.failed (.missingOperand connective))
      | some succeeded =>
          have stillWaits : (progress.recoded recode).status = some succeeded := waits
          cases ends : connective.endsAfter succeeded with
          | true =>
              rw [evaluate_connective_of_ends _ waits ends,
                evaluate_connective_of_ends _ stillWaits ends]
              exact recodes_pure progress.code
          | false =>
              rw [evaluate_connective_of_goesOn _ waits ends,
                evaluate_connective_of_goesOn _ stillWaits ends]
              exact recodes_evaluate rest progress.taken

theorem recodes_runChain (chain : Chain) :
    Recodes recode recode (shell.runChain chain) ((shell.recoded recode).runChain chain) := by
  have recodes := recodes_evaluate isRecoding chain.elements Progress.start
  rw [isRecoding.start_recoded] at recodes
  exact recodes

theorem recodes_runChainRecovering (chain : Chain) :
    Recodes recode recode (shell.runChainRecovering chain)
      ((shell.recoded recode).runChainRecovering chain) := by
  refine (recodes_runChain isRecoding chain).observe.bind ?_
  intro outcome
  cases outcome with
  | returned code => exact recodes_pure code
  | exited code => exact recodes_finish (.exited code)
  | interrupted => exact recodes_finish .interrupted
  | failed error =>
      cases error with
      | missingOperand connective =>
          refine (recodes_emit rfl).bind fun _ => ?_
          have recodes :
              Recodes recode recode (pure syntaxErrorCode : Action state handle Int)
                (pure (recode syntaxErrorCode)) :=
            recodes_pure syntaxErrorCode
          rw [isRecoding.syntaxError] at recodes
          exact recodes
      | _ => exact recodes_finish (.failed _)

theorem recodes_runChains :
    ∀ (chains : List Chain) (code : Int),
      Recodes recode recode (shell.runChains code chains)
        ((shell.recoded recode).runChains (recode code) chains)
  | [], code => recodes_pure code
  | chain :: rest, _ =>
      (recodes_runChainRecovering isRecoding chain).bind fun code => recodes_runChains rest code

theorem recodes_runLine (line : Text) :
    Recodes recode recode (shell.runLine line) ((shell.recoded recode).runLine line) := by
  have zero : recode 0 = 0 := (isRecoding.zero_iff 0).2 rfl
  unfold runLine
  cases parseLine line with
  | error error => exact recodes_finish (.failed error)
  | ok chains =>
      have recodes := recodes_runChains isRecoding chains 0
      rw [zero] at recodes
      exact recodes

end Shell

end Recoding

end CommandChain
