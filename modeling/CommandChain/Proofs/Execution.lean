import CommandChain.Execution

/-!
# Rules for actions

What holds of an action in sequence with others follows from what holds of its parts. The base is
`Execution.follow_induction`: an execution is either carried on, or ended by its first part. Three
kinds of facts are followed through whole programs with it:

* `Action.FailsOnlyWith`: the errors with which an action may fail;
* `Action.Returns`: an action returns, whatever happens;
* `Action.Logs`: a law of the events of an action, where the law is closed under concatenation.
-/

namespace CommandChain

variable {state handle value next : Type}

namespace Execution

theorem follow_of_returned
    {first : Execution state handle value} {result : value}
    (returned : first.outcome = .returned result)
    (onward : value → Action state handle next) :
    first.follow onward =
      ⟨(onward result first.final).outcome,
        first.events ++ (onward result first.final).events,
        (onward result first.final).final⟩ := by
  simp only [follow, returned]

/-- An execution that did not return is the whole of what follows it. -/
theorem follow_of_not_returned
    {first : Execution state handle value} (notReturned : ∀ result, first.outcome ≠ .returned result)
    (onward : value → Action state handle value) : first.follow onward = first := by
  cases first with
  | mk outcome events final =>
      cases outcome with
      | returned result => exact absurd rfl (notReturned result)
      | failed error => rfl
      | exited code => rfl
      | interrupted => rfl

/-- It is enough that two ways to go on agree where the first part returns. -/
theorem follow_congr {first : Execution state handle value}
    {onward other : value → Action state handle next}
    (agree : ∀ result, first.outcome = .returned result →
      onward result first.final = other result first.final) :
    first.follow onward = first.follow other := by
  cases ended : first.outcome with
  | returned result =>
      rw [follow_of_returned ended, follow_of_returned ended, agree result ended]
  | failed error => simp only [follow, ended]
  | exited code => simp only [follow, ended]
  | interrupted => simp only [follow, ended]

/-- What holds of an execution that was carried on, and of one that its first part ended, holds of
any two parts in sequence. -/
theorem follow_induction
    {first : Execution state handle value} {onward : value → Action state handle next}
    {motive : Execution state handle next → Prop}
    (carriedOn : ∀ result, first.outcome = .returned result →
      motive
        ⟨(onward result first.final).outcome,
          first.events ++ (onward result first.final).events,
          (onward result first.final).final⟩)
    (failed : ∀ error, first.outcome = .failed error →
      motive ⟨.failed error, first.events, first.final⟩)
    (exited : ∀ code, first.outcome = .exited code →
      motive ⟨.exited code, first.events, first.final⟩)
    (interrupted : first.outcome = .interrupted →
      motive ⟨.interrupted, first.events, first.final⟩) :
    motive (first.follow onward) := by
  cases ended : first.outcome with
  | returned result =>
      rw [follow_of_returned ended]
      exact carriedOn result ended
  | failed error =>
      simp only [follow, ended]
      exact failed error ended
  | exited code =>
      simp only [follow, ended]
      exact exited code ended
  | interrupted =>
      simp only [follow, ended]
      exact interrupted ended

end Execution

namespace Action

/-! ## Errors of an action -/

/-- Whatever the start, the action fails with no other than the allowed errors. -/
def FailsOnlyWith (allowed : ShellError → Prop) (action : Action state handle value) : Prop :=
  ∀ initial error, (action initial).outcome = .failed error → allowed error

section Errors

variable {allowed : ShellError → Prop}

theorem failsOnlyWith_pure (result : value) :
    FailsOnlyWith allowed (pure result : Action state handle value) := by
  intro initial error failed
  cases failed

theorem failsOnlyWith_finish {outcome : Outcome value}
    (permitted : ∀ error, outcome = .failed error → allowed error) :
    FailsOnlyWith allowed (finish outcome : Action state handle value) :=
  fun _ error failed => permitted error failed

theorem failsOnlyWith_emit (event : Event handle) :
    FailsOnlyWith allowed (emit event : Action state handle Unit) := by
  intro initial error failed
  cases failed

theorem failsOnlyWith_observe (action : Action state handle value) :
    FailsOnlyWith allowed action.observe := by
  intro initial error failed
  cases failed

/-- Actions in sequence fail with the errors of the first or with those of the second. The second
is asked only about results that the first does return. -/
theorem FailsOnlyWith.bind
    {action : Action state handle value} {onward : value → Action state handle next}
    (first : FailsOnlyWith allowed action)
    (second : ∀ initial result, (action initial).outcome = .returned result →
      FailsOnlyWith allowed (onward result)) :
    FailsOnlyWith allowed (action >>= onward) := by
  intro initial error
  apply
    Execution.follow_induction (motive := fun whole =>
      whole.outcome = .failed error → allowed error)
  · intro result returned failed
    exact second initial result returned _ error failed
  · intro cause failed sameError
    cases sameError
    exact first initial error failed
  · intro code _ failed
    cases failed
  · intro _ failed
    cases failed

end Errors

/-- An action that fails with no error returns, exits or is interrupted. -/
theorem FailsOnlyWith.ending {action : Action state handle value}
    (neverFails : FailsOnlyWith (fun _ => False) action) (initial : state) :
    (∃ result, (action initial).outcome = .returned result) ∨
      (∃ code, (action initial).outcome = .exited code) ∨
      (action initial).outcome = .interrupted := by
  cases ended : (action initial).outcome with
  | returned result => exact Or.inl ⟨result, rfl⟩
  | failed error => exact absurd ended (neverFails initial error)
  | exited code => exact Or.inr (Or.inl ⟨code, rfl⟩)
  | interrupted => exact Or.inr (Or.inr rfl)

/-! ## Actions that return -/

/-- Whatever the start, the action returns. -/
def Returns (action : Action state handle value) : Prop :=
  ∀ initial, ∃ result, (action initial).outcome = .returned result

theorem returns_pure (result : value) : Returns (pure result : Action state handle value) :=
  fun _ => ⟨result, rfl⟩

theorem returns_emit (event : Event handle) : Returns (emit event : Action state handle Unit) :=
  fun _ => ⟨(), rfl⟩

theorem returns_emitIf (wanted : Bool) (event : Event handle) :
    Returns (emitIf wanted event : Action state handle Unit) := by
  cases wanted with
  | true => exact returns_emit event
  | false => exact returns_pure ()

theorem returns_observe (action : Action state handle value) : Returns action.observe :=
  fun initial => ⟨(action initial).outcome, rfl⟩

/-- Actions in sequence return if the first returns and the second does after every result that the
first does return. -/
theorem Returns.bind {action : Action state handle value}
    {onward : value → Action state handle next} (first : Returns action)
    (second : ∀ initial result, (action initial).outcome = .returned result →
      Returns (onward result)) :
    Returns (action >>= onward) := by
  intro initial
  obtain ⟨result, returned⟩ := first initial
  rw [bind_apply, Execution.follow_of_returned returned]
  exact second initial result returned (action initial).final

/-! ## Events of an action -/

/-- A law of event lists that holds of the empty list, and of two lists in a row if it holds of
both. -/
structure IsAdditive (law : List (Event handle) → Prop) : Prop where
  nil : law []
  append : ∀ {first second}, law first → law second → law (first ++ second)

/-- Whatever the start, the events of the action obey the law. -/
def Logs (law : List (Event handle) → Prop) (action : Action state handle value) : Prop :=
  ∀ initial, law (action initial).events

/-- The events of actions in sequence obey a law if those of the first obey it, and still do when
the events of the second follow. -/
theorem events_bind_induction
    {motive : List (Event handle) → Prop} {action : Action state handle value}
    {onward : value → Action state handle next} {initial : state}
    (ended : motive (action initial).events)
    (carriedOn : ∀ result, (action initial).outcome = .returned result →
      motive ((action initial).events ++ (onward result (action initial).final).events)) :
    motive ((action >>= onward) initial).events := by
  apply Execution.follow_induction (motive := fun whole => motive whole.events)
  · exact carriedOn
  · intro _ _
    exact ended
  · intro _ _
    exact ended
  · intro _
    exact ended

/-- Renaming the result of an action changes none of its events. -/
theorem events_bind_pure (action : Action state handle value) (rename : value → next)
    (initial : state) :
    ((action >>= fun result => pure (rename result)) initial).events =
      (action initial).events := by
  apply events_bind_induction (motive := (· = (action initial).events))
  · rfl
  · intro result _
    exact List.append_nil (action initial).events

/-- Of two ways to go on after an action, one may do at first what the other does. -/
theorem events_bind_isPrefix {action : Action state handle value}
    {shorter longer : value → Action state handle next} {initial : state}
    (onward : ∀ result, (action initial).outcome = .returned result →
      (shorter result (action initial).final).events <+:
        (longer result (action initial).final).events) :
    ((action >>= shorter) initial).events <+: ((action >>= longer) initial).events := by
  simp only [bind_apply, Execution.follow]
  cases ended : (action initial).outcome with
  | returned result => exact (List.prefix_append_right_inj _).2 (onward result ended)
  | failed error => exact List.prefix_rfl
  | exited code => exact List.prefix_rfl
  | interrupted => exact List.prefix_rfl

section Events

variable {law : List (Event handle) → Prop}

theorem logs_pure (additive : IsAdditive law) (result : value) :
    Logs law (pure result : Action state handle value) :=
  fun _ => additive.nil

theorem logs_finish (additive : IsAdditive law) (outcome : Outcome value) :
    Logs law (finish outcome : Action state handle value) :=
  fun _ => additive.nil

theorem logs_emit {event : Event handle} (single : law [event]) :
    Logs law (emit event : Action state handle Unit) :=
  fun _ => single

theorem logs_emitIf (additive : IsAdditive law) (wanted : Bool) {event : Event handle}
    (single : law [event]) :
    Logs law (emitIf wanted event : Action state handle Unit) := by
  cases wanted with
  | true => exact logs_emit single
  | false => exact logs_pure additive ()

theorem Logs.observe {action : Action state handle value} (logs : Logs law action) :
    Logs law action.observe :=
  logs

theorem Logs.bind (additive : IsAdditive law)
    {action : Action state handle value} {onward : value → Action state handle next}
    (first : Logs law action) (second : ∀ result, Logs law (onward result)) :
    Logs law (action >>= onward) := by
  intro initial
  apply events_bind_induction
  · exact first initial
  · intro result _
    exact additive.append (first initial) (second result _)

end Events

end Action

end CommandChain
