import CommandChain.Chain
import CommandChain.Shell.RunCommand

/-!
# Evaluating a chain

The elements of a chain are evaluated from left to right. A connective acts on the status of the
command that ran just before it: it ends the chain, or lets it go on and uses the status up.
-/

namespace CommandChain

variable {state handle : Type}

/-- How far the evaluation of a chain has come: the status that waits for an operator, and the code
that the chain returns if nothing more is run. -/
structure Progress where
  status : Option Bool
  code : Int
  deriving DecidableEq

namespace Progress

/-- Before the first element of a chain there is no status. -/
def start : Progress :=
  ⟨none, 0⟩

/-- After a command, its status waits for an operator. -/
def after (result : CommandResult) : Progress :=
  ⟨result.status?, result.code⟩

/-- An operator uses the status up. -/
def taken (progress : Progress) : Progress :=
  { progress with status := none }

/-- The status and the code never disagree. -/
def IsConsistent (progress : Progress) : Prop :=
  ∀ succeeded, progress.status = some succeeded → (succeeded = true ↔ progress.code = 0)

theorem isConsistent_start : start.IsConsistent := by
  simp [IsConsistent, start]

theorem isConsistent_after (result : CommandResult) : (after result).IsConsistent := by
  intro succeeded waits
  cases result with
  | ended code =>
      cases waits
      simp [after, CommandResult.code, isSuccessCode]
  | notStarted => cases waits

theorem isConsistent_taken (progress : Progress) : progress.taken.IsConsistent := by
  intro succeeded waits
  cases waits

end Progress

namespace Shell

/-- Evaluates elements, given how far the chain has come. -/
def evaluate (shell : Shell state handle) : Progress → List Element → Action state handle Int
  | progress, [] => pure progress.code
  | _, .command command :: rest => do
      let result ← shell.runCommand command
      shell.evaluate (Progress.after result) rest
  | _, .operator .sequence :: _ => Action.finish (.failed .misplacedSequence)
  | progress, .operator (.connect connective) :: rest =>
      match progress.status with
      | none => Action.finish (.failed (.missingOperand connective))
      | some succeeded =>
          if connective.endsAfter succeeded then
            pure progress.code
          else
            shell.evaluate progress.taken rest

/-- Evaluates a sequence of elements from the start. It returns the code of the last command that
ran, or zero if none did. -/
def runElements (shell : Shell state handle) (elements : List Element) : Action state handle Int :=
  shell.evaluate Progress.start elements

/-- Evaluates a chain. -/
def runChain (shell : Shell state handle) (chain : Chain) : Action state handle Int :=
  shell.runElements chain.elements

end Shell

end CommandChain
