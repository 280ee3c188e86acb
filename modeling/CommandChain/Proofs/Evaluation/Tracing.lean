import CommandChain.Proofs.Evaluation.Command
import CommandChain.Proofs.Execution
import CommandChain.Shell.RunLine

/-!
# Tracing

A shell that traces does what it does without tracing, and announces its commands besides: the
announcements can be deleted from its log, and nothing else has changed (`unannounced_runLine`).
Deleting them goes through sequences of actions, so the functions of the shell need no more than one
rule each.
-/

namespace CommandChain

open CommandChain.Action

variable {state handle value next : Type}

/-- The announcement of a command that is about to run. -/
def Event.isAnnouncement : Event handle → Bool
  | .diagnostic (.running _) => true
  | _ => false

/-- A log without its announcements. -/
def withoutAnnouncements (log : List (Event handle)) : List (Event handle) :=
  log.filter fun event => !event.isAnnouncement

theorem withoutAnnouncements_append (log more : List (Event handle)) :
    withoutAnnouncements (log ++ more) = withoutAnnouncements log ++ withoutAnnouncements more :=
  List.filter_append log more

/-- An execution whose announcements are deleted. -/
def Execution.unannounced (run : Execution state handle value) : Execution state handle value :=
  { run with events := withoutAnnouncements run.events }

namespace Action

/-- From every state, the second action is the first without its announcements. -/
def Unannounced (traced plain : Action state handle value) : Prop :=
  ∀ initial, (traced initial).unannounced = plain initial

theorem unannounced_pure (result : value) :
    Unannounced (pure result : Action state handle value) (pure result) :=
  fun _ => rfl

theorem unannounced_finish (outcome : Outcome value) :
    Unannounced (finish outcome : Action state handle value) (finish outcome) :=
  fun _ => rfl

theorem unannounced_emit {event : Event handle} (other : event.isAnnouncement = false) :
    Unannounced (emit event : Action state handle Unit) (emit event) := by
  intro initial
  simp [Execution.unannounced, emit, withoutAnnouncements, other]

theorem Unannounced.observe {traced plain : Action state handle value}
    (same : Unannounced traced plain) : Unannounced traced.observe plain.observe := by
  intro initial
  have sameRun := same initial
  simp only [Action.observe, ← sameRun]
  rfl

theorem Unannounced.bind {traced plain : Action state handle value}
    {tracedLater plainLater : value → Action state handle next} (first : Unannounced traced plain)
    (later : ∀ result, Unannounced (tracedLater result) (plainLater result)) :
    Unannounced (traced >>= tracedLater) (plain >>= plainLater) := by
  intro initial
  rw [bind_apply, bind_apply, ← first initial]
  cases ran : traced initial with
  | mk outcome events final =>
      cases outcome with
      | returned result =>
          simp only [Execution.follow, Execution.unannounced, withoutAnnouncements_append,
            ← later result final]
      | failed error => rfl
      | exited code => rfl
      | interrupted => rfl

end Action

namespace Shell

variable (shell : Shell state handle)

/-- The shell that does not trace. -/
def untraced : Shell state handle :=
  { shell with tracing := false }

/-- Tracing puts the announcement in front of the run of a command. -/
theorem runCommand_eq_announced (command : Command) (initial : state) :
    shell.runCommand command initial =
      let plain := shell.untraced.runCommand command initial
      ⟨plain.outcome, shell.announcement command ++ plain.events, plain.final⟩ := by
  simp only [runCommand, emitIf_bind_apply]
  rfl

theorem withoutAnnouncements_announcement (command : Command) :
    withoutAnnouncements (shell.announcement command) = [] := by
  unfold announcement
  split <;> rfl

theorem withoutAnnouncements_replayEvents (stream : Stream) (bytes : Option (List UInt8)) :
    withoutAnnouncements (replayEvents stream bytes : List (Event handle)) =
      replayEvents stream bytes := by
  match bytes with
  | none => rfl
  | some [] => rfl
  | some (_ :: _) => rfl

theorem withoutAnnouncements_untraced (command : Command) (initial : state) :
    withoutAnnouncements (shell.untraced.runCommand command initial).events =
      (shell.untraced.runCommand command initial).events := by
  have run := shell.untraced.runCommand_spec command initial
  generalize shell.untraced.runCommand command initial = execution at run ⊢
  have silent : (shell.untraced.announcement command : List (Event handle)) = [] := rfl
  cases run with
  | builtin named answered => rfl
  | refused noBuiltin answered => rfl
  | interrupted noBuiltin answered awaited => rfl
  | @ended process _ _ status noBuiltin answered awaited =>
      have replayed :
          withoutAnnouncements
              (replayEvents .output status.output ++ replayEvents .diagnostics status.errors :
                List (Event handle)) =
            replayEvents .output status.output ++ replayEvents .diagnostics status.errors := by
        rw [withoutAnnouncements_append, withoutAnnouncements_replayEvents,
          withoutAnnouncements_replayEvents]
      rw [silent, List.nil_append]
      exact congrArg (.spawn command (.ok process) :: .wait process (some status) :: ·) replayed

theorem unannounced_runCommand (command : Command) :
    Unannounced (shell.runCommand command) (shell.untraced.runCommand command) := by
  intro initial
  rw [runCommand_eq_announced]
  simp only [Execution.unannounced, withoutAnnouncements_append,
    withoutAnnouncements_announcement, withoutAnnouncements_untraced, List.nil_append]

theorem unannounced_evaluate :
    ∀ (elements : List Element) (progress : Progress),
      Unannounced (shell.evaluate progress elements) (shell.untraced.evaluate progress elements)
  | [], progress => unannounced_pure progress.code
  | .command command :: rest, _ =>
      (shell.unannounced_runCommand command).bind fun result =>
        unannounced_evaluate rest (Progress.after result)
  | .operator .sequence :: _, _ => unannounced_finish _
  | .operator (.connect connective) :: rest, progress => by
      unfold evaluate
      split
      · exact unannounced_finish _
      · split
        · exact unannounced_pure progress.code
        · exact unannounced_evaluate rest progress.taken

theorem unannounced_runChainRecovering (chain : Chain) :
    Unannounced (shell.runChainRecovering chain) (shell.untraced.runChainRecovering chain) := by
  have sameChain : Unannounced (shell.runChain chain) (shell.untraced.runChain chain) :=
    shell.unannounced_evaluate chain.elements Progress.start
  refine sameChain.observe.bind ?_
  intro outcome
  split
  · refine (unannounced_emit rfl).bind ?_
    intro _
    exact unannounced_pure _
  · exact unannounced_finish _

theorem unannounced_runChains :
    ∀ (chains : List Chain) (code : Int),
      Unannounced (shell.runChains code chains) (shell.untraced.runChains code chains)
  | [], code => unannounced_pure code
  | chain :: rest, _ =>
      (shell.unannounced_runChainRecovering chain).bind fun code =>
        unannounced_runChains rest code

theorem unannounced_runLine (line : Text) :
    Unannounced (shell.runLine line) (shell.untraced.runLine line) := by
  unfold runLine
  split
  · exact unannounced_finish _
  · exact shell.unannounced_runChains _ 0

end Shell

end CommandChain
