import CommandChain.Process.Playbook
import CommandChain.Proofs.Session.Log
import CommandChain.Proofs.Text.Replacing

/-!
# Captured output is replayed

What was captured of a process is written as soon as the process has ended, and before anything else
is evaluated: first its output, then its errors. In the log of a session, replayed text stands
directly behind the waits that ended and nowhere else. Nothing is lost between the bytes and that
text but what was damaged before.
-/

namespace CommandChain

open CommandChain.Action

variable {state handle : Type}

/-! ## Replays in a log -/

/-- Behind each wait that ended with a status stands what was captured, output first. Nothing is
replayed at any other place. -/
inductive ReplaysInOrder : List (Event handle) → Prop
  | nil : ReplaysInOrder []
  | other {event : Event handle} {log : List (Event handle)}
      (notReplay : ∀ stream text, event ≠ .replay stream text)
      (notEnded : ∀ process status, event ≠ .wait process (some status))
      (later : ReplaysInOrder log) : ReplaysInOrder (event :: log)
  | ended (process : handle) (status : ExitStatus) {log : List (Event handle)}
      (later : ReplaysInOrder log) :
      ReplaysInOrder
        (.wait process (some status) ::
          (replayEvents .output status.output ++
            (replayEvents .diagnostics status.errors ++ log)))

namespace ReplaysInOrder

variable {log more : List (Event handle)}

theorem append (inOrder : ReplaysInOrder log) (moreInOrder : ReplaysInOrder more) :
    ReplaysInOrder (log ++ more) := by
  induction inOrder with
  | nil => exact moreInOrder
  | other notReplay notEnded _ inductionHypothesis =>
      exact .other notReplay notEnded inductionHypothesis
  | ended process status _ inductionHypothesis =>
      rw [List.cons_append, List.append_assoc, List.append_assoc]
      exact .ended process status inductionHypothesis

theorem isAdditive : IsAdditive (@ReplaysInOrder handle) where
  nil := .nil
  append := append

theorem of_isOwn {event : Event handle} (own : event.isOwn = true) : ReplaysInOrder [event] := by
  refine .other ?_ ?_ .nil
  · rintro stream text rfl
    cases own
  · rintro process status rfl
    cases own

end ReplaysInOrder

namespace Shell

variable (shell : Shell state handle)

theorem replaysInOrder_announcement (command : Command) :
    ReplaysInOrder (shell.announcement command) := by
  unfold announcement
  split
  · exact .of_isOwn rfl
  · exact .nil

theorem replaysInOrder_runCommand (command : Command) :
    Logs ReplaysInOrder (shell.runCommand command) := by
  intro initial
  have run := shell.runCommand_spec command initial
  generalize shell.runCommand command initial = execution at run ⊢
  have announced := shell.replaysInOrder_announcement command
  cases run with
  | builtin named answered =>
      apply announced.append
      exact .other (by simp) (by simp) .nil
  | refused noBuiltin answered =>
      apply announced.append
      exact .other (by simp) (by simp) (.of_isOwn rfl)
  | interrupted noBuiltin answered awaited =>
      apply announced.append
      refine .other (by simp) (by simp) ?_
      exact .other (by simp) (by simp) .nil
  | @ended process _ _ status noBuiltin answered awaited =>
      apply announced.append
      refine .other (by simp) (by simp) ?_
      have ended := ReplaysInOrder.ended process status .nil
      rw [List.append_nil] at ended
      exact ended

theorem replaysInOrder_sessionLog (steps : List Step) (initial : state) :
    ReplaysInOrder (shell.sessionLog steps initial) :=
  law_sessionLog_of_own ReplaysInOrder.isAdditive shell.replaysInOrder_runCommand
    (fun _ => ReplaysInOrder.of_isOwn) steps initial

/-! ## One command whose process ends -/

section Ended

variable {shell} {command : Command} {initial started after : state} {process : handle}
  {status : ExitStatus} (noBuiltin : shell.builtins command.binary = none)
  (answered :
    shell.processes.spawn command.binary command.arguments initial = (.ok process, started))
  (awaited : shell.processes.wait process started = (some status, after))

/-- What happens while the command is run. -/
def eventsOfEnded (shell : Shell state handle) (command : Command) (process : handle)
    (status : ExitStatus) : List (Event handle) :=
  shell.announcement command ++
    (.spawn command (.ok process) :: .wait process (some status) ::
      (replayEvents .output status.output ++ replayEvents .diagnostics status.errors))

include noBuiltin answered awaited

theorem runCommand_of_ended :
    shell.runCommand command initial =
      ⟨.returned (.ended status.code), shell.eventsOfEnded command process status, after⟩ := by
  unfold runCommand runProcess
  rw [emitIf_bind_apply, noBuiltin]
  simp only [ask_bind_apply, answered, awaitProcess_of_ended shell awaited]
  rfl

/-- All of it happens before the elements behind the command are evaluated. -/
theorem evaluate_command_of_ended (progress : Progress) (rest : List Element) :
    let onward := shell.evaluate (Progress.after (.ended status.code)) rest after
    shell.evaluate progress (.command command :: rest) initial =
      ⟨onward.outcome, shell.eventsOfEnded command process status ++ onward.events,
        onward.final⟩ := by
  intro onward
  rw [evaluate, bind_apply, runCommand_of_ended noBuiltin answered awaited]
  rfl

end Ended

/-- Captured output is replayed completely and in order, and this cannot fail. A command whose
process ends returns the code of its status, after its output and then its errors were replayed and
before the elements behind it are evaluated. In the log of a session, replayed text stands directly
behind the wait for its process and nowhere else. The text is the one decoding of the bytes: encoded
characters, at the start or behind other bytes, are decoded as these characters whatever follows, so
that bytes that encode a text are replayed as that text, and of no bytes but the empty ones is
nothing left. -/
theorem captured_output_is_replayed :
    (∀ (command : Command) (initial started after : state) (process : handle)
        (status : ExitStatus),
      shell.builtins command.binary = none →
      shell.processes.spawn command.binary command.arguments initial = (.ok process, started) →
      shell.processes.wait process started = (some status, after) →
      let events :=
        shell.announcement command ++
          (.spawn command (.ok process) :: .wait process (some status) ::
            (replayEvents .output status.output ++ replayEvents .diagnostics status.errors))
      shell.runCommand command initial = ⟨.returned (.ended status.code), events, after⟩ ∧
        ∀ (progress : Progress) (rest : List Element),
          let onward := shell.evaluate (Progress.after (.ended status.code)) rest after
          shell.evaluate progress (.command command :: rest) initial =
            ⟨onward.outcome, events ++ onward.events, onward.final⟩) ∧
      (∀ (steps : List Step) (initial : state),
        ReplaysInOrder (shell.sessionLog steps initial)) ∧
      (∀ (input : List UInt8) (text : Text),
        Text.Decodes input text ↔ text = Text.ofBytesReplacing input) ∧
      (∀ (characters : List Char) (rest : List UInt8),
        Text.ofBytesReplacing (characters.flatMap String.utf8EncodeChar ++ rest) =
          characters.map .char ++ Text.ofBytesReplacing rest) ∧
      (∀ (before : List UInt8) (characters : List Char) (rest : List UInt8), characters ≠ [] →
        Text.ofBytesReplacing (before ++ (characters.flatMap String.utf8EncodeChar ++ rest)) =
          Text.ofBytesReplacing before ++ (characters.map .char ++ Text.ofBytesReplacing rest)) ∧
      (∀ characters : List Char,
        Text.ofBytesReplacing (characters.flatMap String.utf8EncodeChar) =
          characters.map .char) ∧
      ∀ input : List UInt8, input ≠ [] → Text.ofBytesReplacing input ≠ [] := by
  refine ⟨?_, shell.replaysInOrder_sessionLog, ?_, ?_, ?_, ?_, ?_⟩
  · intro command initial started after process status noBuiltin answered awaited events
    refine ⟨runCommand_of_ended noBuiltin answered awaited, ?_⟩
    intro progress rest
    exact evaluate_command_of_ended noBuiltin answered awaited progress rest
  · intro input text
    exact Text.decodes_iff
  · exact Text.ofBytesReplacing_encodings_append
  · intro before characters rest nonempty
    exact Text.ofBytesReplacing_append_encodings_append before nonempty rest
  · intro characters
    have decoded := Text.ofBytesReplacing_encodings_append characters []
    rw [List.append_nil, Text.ofBytesReplacing_nil, List.append_nil] at decoded
    exact decoded
  · intro input nonempty
    exact Text.ofBytesReplacing_ne_nil nonempty

/-- A process that fails with damaged output and no errors. The output breaks off in one character,
holds another, and ends within a third. -/
theorem captured_output_is_replayed_of_damage :
    let before : List UInt8 := [0xE2, 0x82]
    let rest : List UInt8 := [0xC3]
    let output := before ++ (['('].flatMap String.utf8EncodeChar ++ rest)
    let status : ExitStatus := { code := 3, output := some output, errors := some [] }
    let shell : Shell PlaybookState PlaybookProcess :=
      { processes := Playbook.processLayer { otherwise := .finishing status } }
    let command : Command := ⟨Text.ofString "cat", [], by decide⟩
    let process : PlaybookProcess := ⟨0, some status⟩
    let after : PlaybookState := ⟨[(command.binary, 1)], 1⟩
    shell.runCommand command {} =
        ⟨.returned (.ended 3),
          [.spawn command (.ok process), .wait process (some status),
            .replay .output (Text.ofBytesReplacing output)],
          after⟩ ∧
      Text.ofBytesReplacing output = [Text.replacement, .char '(', Text.replacement] ∧
      Text.ofBytesReplacing before ≠ [] := by
  intro before rest output status shell command process after
  obtain ⟨ended, _, _, _, confined, _, nonempty⟩ := captured_output_is_replayed shell
  refine ⟨?_, ?_, nonempty before (by decide)⟩
  · exact (ended command {} after after process status rfl rfl rfl).1
  · exact (confined before ['('] rest (by decide)).trans (by decide +kernel)

end Shell

end CommandChain
