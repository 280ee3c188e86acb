import CommandChain.Shell.RunChain

/-!
# Short-circuit reading

The value of a chain, read from the right: a command followed by a connective decides alone whether
the rest of the chain is evaluated, and the rest knows nothing of what came before. This reading
carries no state from element to element, apart from the outside world.
-/

namespace CommandChain

variable {state handle : Type}

namespace Shell

/-- Evaluates elements by what a command decides about the rest. After a command that could not be
started a connective lacks its operand; after a command that ends the chain the value is the
command's; otherwise it is the value of the rest, or of the command if nothing is left. -/
def shortCircuit (shell : Shell state handle) : List Element → Action state handle Int
  | [] => pure 0
  | .operator .sequence :: _ => Action.finish (.failed .misplacedSequence)
  | .operator (.connect connective) :: _ => Action.finish (.failed (.missingOperand connective))
  | [.command command] => do
      let result ← shell.runCommand command
      pure result.code
  | .command command :: .command next :: rest => do
      let _ ← shell.runCommand command
      shell.shortCircuit (.command next :: rest)
  | .command command :: .operator .sequence :: _ => do
      let _ ← shell.runCommand command
      Action.finish (.failed .misplacedSequence)
  | .command command :: .operator (.connect connective) :: rest => do
      let result ← shell.runCommand command
      match result with
      | .notStarted => Action.finish (.failed (.missingOperand connective))
      | .ended code =>
          if connective.endsAfter (isSuccessCode code) = true ∨ rest = [] then pure code
          else shell.shortCircuit rest

end Shell

end CommandChain
