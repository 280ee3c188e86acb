import CommandChain.Event

/-!
# Executions

Running a piece of a line leaves an execution: how it ended, the events that happened, and the state
of the outside world after them. An action is an execution that depends on the state before it.
Actions in sequence concatenate their events, and the second is not run unless the first returned.
-/

namespace CommandChain

/-- How a piece of evaluation ends. -/
inductive Outcome (value : Type) where
  | returned (result : value)
  | failed (error : ShellError)
  | exited (code : Int)
  | interrupted
  deriving DecidableEq

/-- A finished piece of evaluation. -/
structure Execution (state handle value : Type) where
  outcome : Outcome value
  events : List (Event handle)
  final : state

/-- A piece of evaluation that starts from a state. -/
def Action (state handle value : Type) : Type :=
  state → Execution state handle value

variable {state handle value next : Type}

namespace Execution

/-- Goes on with an action after an execution that returned. Any other ending ends the whole. -/
def follow (first : Execution state handle value) (onward : value → Action state handle next) :
    Execution state handle next :=
  match first.outcome with
  | .returned result =>
      let second := onward result first.final
      ⟨second.outcome, first.events ++ second.events, second.final⟩
  | .failed error => ⟨.failed error, first.events, first.final⟩
  | .exited code => ⟨.exited code, first.events, first.final⟩
  | .interrupted => ⟨.interrupted, first.events, first.final⟩

theorem follow_assoc {last : Type} (first : Execution state handle value)
    (second : value → Action state handle next) (third : next → Action state handle last) :
    (first.follow second).follow third =
      first.follow fun result initial => (second result initial).follow third := by
  cases first with
  | mk outcome events final =>
      cases outcome with
      | returned result =>
          simp only [follow]
          cases (second result final).outcome <;> simp
      | failed error => rfl
      | exited code => rfl
      | interrupted => rfl

end Execution

namespace Action

instance : Monad (Action state handle) where
  pure result := fun initial => ⟨.returned result, [], initial⟩
  bind first onward := fun initial => (first initial).follow onward

theorem pure_apply (result : value) (initial : state) :
    (pure result : Action state handle value) initial = ⟨.returned result, [], initial⟩ :=
  rfl

theorem bind_apply (first : Action state handle value)
    (onward : value → Action state handle next) (initial : state) :
    (first >>= onward) initial = (first initial).follow onward :=
  rfl

instance : LawfulMonad (Action state handle) :=
  LawfulMonad.mk'
    (Action state handle)
    (by
      intro value action
      funext initial
      show (action initial).follow _ = action initial
      cases ran : action initial with
      | mk outcome events final =>
          cases outcome with
          | returned result =>
              exact congrArg (Execution.mk (.returned result) · final) (List.append_nil events)
          | failed error => rfl
          | exited code => rfl
          | interrupted => rfl)
    (by
      intro value next result onward
      funext initial
      simp [bind_apply, pure_apply, Execution.follow])
    (by
      intro value next last first second third
      funext initial
      simp only [bind_apply]
      exact Execution.follow_assoc (first initial) second third)

/-- Ends evaluation in the given way. -/
def finish (outcome : Outcome value) : Action state handle value := fun initial =>
  ⟨outcome, [], initial⟩

/-- Records an event. -/
def emit (event : Event handle) : Action state handle Unit := fun initial =>
  ⟨.returned (), [event], initial⟩

/-- Records an event if it is asked for. -/
def emitIf (wanted : Bool) (event : Event handle) : Action state handle Unit :=
  if wanted then emit event else pure ()

/-- Runs an action and returns how it ended. -/
def observe (action : Action state handle value) : Action state handle (Outcome value) :=
  fun initial =>
    let ran := action initial
    ⟨.returned ran.outcome, ran.events, ran.final⟩

/-- Asks for an answer that may change the state, and records the event that belongs to it. -/
def ask (question : state → value × state) (record : value → Event handle) :
    Action state handle value := fun initial =>
  let answered := question initial
  ⟨.returned answered.1, [record answered.1], answered.2⟩

end Action

end CommandChain
