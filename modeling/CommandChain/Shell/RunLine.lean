import CommandChain.Shell.RunChain

/-!
# Running a line

The chains of a line are run in order. A chain that lacks an operand is abandoned with a diagnostic,
and the later chains still run.
-/

namespace CommandChain

variable {state handle : Type}

namespace Shell

/-- The code of a chain that was abandoned. -/
def syntaxErrorCode : Int :=
  2

/-- Runs a chain; a missing operand is reported and gives a code of its own. -/
def runChainRecovering (shell : Shell state handle) (chain : Chain) :
    Action state handle Int := do
  let outcome ← (shell.runChain chain).observe
  match outcome with
  | .failed (.missingOperand connective) => do
      Action.emit (.diagnostic (.syntaxError (.missingOperand connective)))
      pure syntaxErrorCode
  | other => Action.finish other

/-- Runs chains in order. It returns the code of the last one, or the given code if there is
none. -/
def runChains (shell : Shell state handle) : (code : Int) → List Chain → Action state handle Int
  | code, [] => pure code
  | _, chain :: rest => do
      let code ← shell.runChainRecovering chain
      shell.runChains code rest

/-- Runs a line. It returns the code of the last chain, or zero if there is none. -/
def runLine (shell : Shell state handle) (line : Text) : Action state handle Int :=
  match parseLine line with
  | .error error => Action.finish (.failed error)
  | .ok chains => shell.runChains 0 chains

end Shell

end CommandChain
