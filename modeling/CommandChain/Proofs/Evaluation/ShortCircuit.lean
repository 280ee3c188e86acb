import CommandChain.Proofs.Execution
import CommandChain.Shell.ShortCircuit

/-!
# Evaluation and the short-circuit reading

Evaluation goes through a chain from the left and carries a status and a code along. The
short-circuit reading goes through it from the right and carries nothing. This module proves that
the two agree, so that the carried pair cannot be seen from outside.

The reason is that the pair is used up before anything could depend on it: a command overwrites it,
and an operator that lets the chain go on takes the status away (`evaluate_taken`).
-/

namespace CommandChain

variable {state handle : Type}

namespace Shell

section ShortCircuit

variable (shell : Shell state handle)

/-- What was carried before a command is overwritten by it. -/
theorem evaluate_command_cons (progress : Progress) (command : Command) (later : List Element) :
    shell.evaluate progress (.command command :: later) =
      shell.runElements (.command command :: later) :=
  rfl

/-- Once the status is taken, whatever is left of the chain is evaluated like a new chain. The code
that is still carried is returned only if nothing is left. -/
theorem evaluate_taken (progress : Progress) {later : List Element} (nonempty : later ≠ []) :
    shell.evaluate progress.taken later = shell.runElements later := by
  cases later with
  | nil => exact absurd rfl nonempty
  | cons first rest =>
      cases first with
      | command command => exact shell.evaluate_command_cons progress.taken command rest
      | operator operator =>
          cases operator with
          | sequence => rfl
          | connect connective => rfl

/-- A connective that ends the chain after a command that succeeded or failed. -/
theorem evaluate_of_endsAfter {code : Int} {connective : Connective}
    (ends : connective.endsAfter (isSuccessCode code) = true) (later : List Element) :
    shell.evaluate (Progress.after (.ended code)) (.operator (.connect connective) :: later) =
      pure code := by
  simp [evaluate, Progress.after, CommandResult.status?, CommandResult.code, ends]

/-- A connective that lets the chain go on after a command that succeeded or failed. -/
theorem evaluate_of_not_endsAfter {code : Int} {connective : Connective}
    (goesOn : connective.endsAfter (isSuccessCode code) = false) {later : List Element}
    (nonempty : later ≠ []) :
    shell.evaluate (Progress.after (.ended code)) (.operator (.connect connective) :: later) =
      shell.runElements later := by
  rw [← shell.evaluate_taken (Progress.after (.ended code)) nonempty]
  simp [evaluate, Progress.after, CommandResult.status?, goesOn]

/-- Evaluating any elements from the start is reading them by short circuits. -/
theorem runElements_eq_shortCircuit :
    ∀ elements : List Element, shell.runElements elements = shell.shortCircuit elements
  | [] => rfl
  | .operator .sequence :: _ => rfl
  | .operator (.connect _) :: _ => rfl
  | [.command _] => rfl
  | .command command :: .command next :: rest => by
      have laterAgrees := runElements_eq_shortCircuit (.command next :: rest)
      rw [shortCircuit, ← laterAgrees]
      rfl
  | .command _ :: .operator .sequence :: _ => rfl
  | .command command :: .operator (.connect connective) :: rest => by
      have laterAgrees := runElements_eq_shortCircuit rest
      rw [shortCircuit]
      apply bind_congr
      intro result
      cases result with
      | notStarted => rfl
      | ended code =>
          cases ends : connective.endsAfter (isSuccessCode code) with
          | true =>
              rw [shell.evaluate_of_endsAfter ends]
              simp [ends]
          | false =>
              by_cases isLast : rest = []
              · subst isLast
                simp [evaluate, Progress.after, Progress.taken, CommandResult.status?,
                  CommandResult.code, ends]
              · rw [shell.evaluate_of_not_endsAfter ends isLast, laterAgrees]
                simp [ends, isLast]

/-- The events, the final state and the outcome of a chain are those of its short-circuit reading,
from every state. Moreover no operator after a short circuit is a recovery point: what follows the
connective makes no difference at all. And the status and code carried so far make no difference
either, neither at a command nor after an operator that let the chain go on. -/
theorem runChain_eq_shortCircuit :
    (∀ (chain : Chain) (initial : state),
        shell.runChain chain initial = shell.shortCircuit chain.elements initial) ∧
      (∀ (progress : Progress) (command : Command) (connective : Connective)
          (later : List Element) (initial : state) (code : Int),
        (shell.runCommand command initial).outcome = .returned (.ended code) →
        connective.endsAfter (isSuccessCode code) = true →
        shell.evaluate progress (.command command :: .operator (.connect connective) :: later)
            initial =
          shell.runElements [.command command] initial) ∧
      (∀ (progress : Progress) (command : Command) (later : List Element),
        shell.evaluate progress (.command command :: later) =
          shell.runElements (.command command :: later)) ∧
      (∀ (progress : Progress) (later : List Element), later ≠ [] →
        shell.evaluate progress.taken later = shell.runElements later) := by
  refine ⟨?_, ?_, shell.evaluate_command_cons, fun progress later => shell.evaluate_taken progress⟩
  · intro chain initial
    exact congrFun (shell.runElements_eq_shortCircuit chain.elements) initial
  · intro progress command connective later initial code ended ends
    have stops :
        shell.evaluate (Progress.after (.ended code)) (.operator (.connect connective) :: later) =
          shell.evaluate (Progress.after (.ended code)) [] :=
      shell.evaluate_of_endsAfter ends later
    show
      (shell.runCommand command initial).follow _ =
        (shell.runCommand command initial).follow _
    rw [Execution.follow_of_returned ended, Execution.follow_of_returned ended, stops]

end ShortCircuit

end Shell

end CommandChain
