import CommandChain.Shell.ReadLoop

/-!
# Sessions

A session is a sequence of steps on one shell: single lines, single chains and whole read loops.
Each step starts from the state that the step before it left, however that step ended.
-/

namespace CommandChain

/-- One step of a session. -/
inductive Step where
  /-- run a line -/
  | line (text : Text)
  /-- run a chain, if the elements make one -/
  | chain (elements : List Element)
  /-- evaluate elements that need not make a chain -/
  | elements (elements : List Element)
  /-- read and run lines -/
  | loop (source : ReadSource)

/-- What a step returns: a code, and after a read loop the input that was not read. -/
structure StepResult where
  code : Int
  unread : Option Text := none
  deriving DecidableEq

variable {state handle value : Type}

/-- Runs actions one after another. Each starts from the state that the one before it left, however
that one ended. -/
def Action.runEach : List (Action state handle value) → state →
    List (Execution state handle value)
  | [], _ => []
  | action :: later, initial =>
      action initial :: Action.runEach later (action initial).final

namespace Shell

/-- Performs a step. -/
def perform (shell : Shell state handle) : Step → Action state handle StepResult
  | .line text => do
      let code ← shell.runLine text
      pure { code := code }
  | .chain elements =>
      match Chain.ofElements elements with
      | .error error => Action.finish (.failed error)
      | .ok chain => do
          let code ← shell.runChain chain
          pure { code := code }
  | .elements elements => do
      let code ← shell.runElements elements
      pure { code := code }
  | .loop source => do
      let ended ← shell.readLoop source
      pure { code := ended.code, unread := some ended.unread }

/-- Performs the steps of a session. -/
def runSession (shell : Shell state handle) (steps : List Step) (initial : state) :
    List (Execution state handle StepResult) :=
  Action.runEach (steps.map shell.perform) initial

end Shell

end CommandChain
