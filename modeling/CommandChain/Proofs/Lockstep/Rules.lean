import CommandChain.Proofs.Lockstep.Calls

/-!
# Actions in step

Two actions are in step if they make the same calls and end alike whenever they are answered alike
(`Action.InStep`). There is a rule for each way in which actions are put together. What one of the
two writes plays no part: events that are no calls may be added on either side.
-/

namespace CommandChain

variable {state handle value leftState rightState leftHandle rightHandle leftValue rightValue
  leftNext rightNext : Type}

/-- Two executions with the same calls and related outcomes. -/
structure RanAlike (sameHandle : leftHandle → rightHandle → Prop)
    (agree : leftValue → rightValue → Prop) (left : Execution leftState leftHandle leftValue)
    (right : Execution rightState rightHandle rightValue) : Prop where
  calls : SameCalls sameHandle left.events right.events
  ending : SameOutcome agree left.outcome right.outcome

theorem Execution.exists_events_follow (first : Execution state handle leftValue)
    (onward : leftValue → Action state handle leftNext) :
    ∃ later, (first.follow onward).events = first.events ++ later := by
  apply follow_induction (motive := fun whole => ∃ later, whole.events = first.events ++ later)
  · intro result _
    exact ⟨_, rfl⟩
  · intro error _
    exact ⟨[], (List.append_nil first.events).symm⟩
  · intro code _
    exact ⟨[], (List.append_nil first.events).symm⟩
  · intro _
    exact ⟨[], (List.append_nil first.events).symm⟩

namespace Action

/-- From any two states, the two actions make the same calls and end alike if they are answered
alike. -/
def InStep (sameHandle : leftHandle → rightHandle → Prop) (agree : leftValue → rightValue → Prop)
    (left : Action leftState leftHandle leftValue)
    (right : Action rightState rightHandle rightValue) : Prop :=
  ∀ leftInitial rightInitial,
    AnsweredAlike sameHandle (left leftInitial).events (right rightInitial).events →
      RanAlike sameHandle agree (left leftInitial) (right rightInitial)

variable {sameHandle : leftHandle → rightHandle → Prop} {agree : leftValue → rightValue → Prop}
  {left : Action leftState leftHandle leftValue} {right : Action rightState rightHandle rightValue}

theorem inStep_pure {leftResult : leftValue} {rightResult : rightValue}
    (same : agree leftResult rightResult) :
    InStep sameHandle agree (pure leftResult : Action leftState leftHandle leftValue)
      (pure rightResult : Action rightState rightHandle rightValue) :=
  fun _ _ _ => ⟨List.Forall₂.nil, .returned same⟩

theorem inStep_finish {leftOutcome : Outcome leftValue} {rightOutcome : Outcome rightValue}
    (same : SameOutcome agree leftOutcome rightOutcome) :
    InStep sameHandle agree (finish leftOutcome : Action leftState leftHandle leftValue)
      (finish rightOutcome : Action rightState rightHandle rightValue) :=
  fun _ _ _ => ⟨List.Forall₂.nil, same⟩

theorem InStep.observe (inStep : InStep sameHandle agree left right) :
    InStep sameHandle (SameOutcome agree) left.observe right.observe := by
  intro leftInitial rightInitial alike
  have ran := inStep leftInitial rightInitial alike
  exact ⟨ran.calls, .returned ran.ending⟩

/-- In sequence, the first parts are answered alike because the whole is; and since they make the
same calls, so are the second parts. -/
theorem InStep.bind {agreeNext : leftNext → rightNext → Prop}
    {leftOnward : leftValue → Action leftState leftHandle leftNext}
    {rightOnward : rightValue → Action rightState rightHandle rightNext}
    (first : InStep sameHandle agree left right)
    (second : ∀ leftResult rightResult, agree leftResult rightResult →
      InStep sameHandle agreeNext (leftOnward leftResult) (rightOnward rightResult)) :
    InStep sameHandle agreeNext (left >>= leftOnward) (right >>= rightOnward) := by
  intro leftInitial rightInitial alike
  rw [bind_apply, bind_apply] at alike ⊢
  obtain ⟨leftLater, leftEvents⟩ := (left leftInitial).exists_events_follow leftOnward
  obtain ⟨rightLater, rightEvents⟩ := (right rightInitial).exists_events_follow rightOnward
  have firstAlike :
      AnsweredAlike sameHandle (left leftInitial).events (right rightInitial).events := by
    rw [leftEvents, rightEvents] at alike
    exact alike.before
  obtain ⟨sameCalls, sameEnding⟩ := first leftInitial rightInitial firstAlike
  generalize left leftInitial = leftFirst, right rightInitial = rightFirst at *
  obtain ⟨leftOutcome, leftLog, leftFinal⟩ := leftFirst
  obtain ⟨rightOutcome, rightLog, rightFinal⟩ := rightFirst
  cases sameEnding with
  -- Only an action that returned is carried on; any other ending is that of the whole.
  | returned same =>
      obtain ⟨laterCalls, laterEnding⟩ :=
        second _ _ same leftFinal rightFinal (alike.behind sameCalls)
      exact ⟨sameCalls.append laterCalls, laterEnding⟩
  | failed error => exact ⟨sameCalls, .failed error⟩
  | exited code => exact ⟨sameCalls, .exited code⟩
  | interrupted => exact ⟨sameCalls, .interrupted⟩

/-! ## Calls -/

section Calls

variable (command : Command)

theorem inStep_askSpawn
    (leftStart : leftState → Except SpawnFailure leftHandle × leftState)
    (rightStart : rightState → Except SpawnFailure rightHandle × rightState) :
    InStep sameHandle (SameStart sameHandle) (ask leftStart (Event.spawn command))
      (ask rightStart (Event.spawn command)) := by
  intro leftInitial rightInitial alike
  have answers := alike.starts 0 (leftStart leftInitial).1 (rightStart rightInitial).1 rfl rfl
  exact ⟨.cons (.spawn answers) .nil, .returned answers⟩

theorem inStep_askWait {leftProcess : leftHandle} {rightProcess : rightHandle}
    (processes : sameHandle leftProcess rightProcess)
    (leftWait : leftState → Option ExitStatus × leftState)
    (rightWait : rightState → Option ExitStatus × rightState) :
    InStep sameHandle SameWait (ask leftWait (Event.wait leftProcess))
      (ask rightWait (Event.wait rightProcess)) := by
  intro leftInitial rightInitial alike
  have answers := alike.waits 0 (leftWait leftInitial).1 (rightWait rightInitial).1 rfl rfl
  exact ⟨.cons (.wait processes answers) .nil, .returned answers⟩

theorem inStep_askBuiltin (leftReply : leftState → BuiltinReply × leftState)
    (rightReply : rightState → BuiltinReply × rightState) :
    InStep sameHandle (fun left right => SameEnding left.ending right.ending)
      (ask leftReply (Event.builtin command)) (ask rightReply (Event.builtin command)) := by
  intro leftInitial rightInitial alike
  have replies :=
    alike.builtins 0 (command, (leftReply leftInitial).1) (command, (rightReply rightInitial).1)
      rfl rfl
  have endings := replies.sameEnding
  exact ⟨.cons (.builtin endings) .nil, .returned endings⟩

end Calls

/-! ## What is only written -/

/-- The action returns and makes no call. -/
def IsQuiet (action : Action state handle Unit) : Prop :=
  ∀ initial, (action initial).outcome = .returned () ∧ calls (action initial).events = []

theorem isQuiet_emit {event : Event handle} (notCall : event.isCall = false) :
    IsQuiet (emit event : Action state handle Unit) := by
  intro initial
  exact ⟨rfl, List.filter_cons_of_neg (by simp [notCall])⟩

theorem isQuiet_emitIf (wanted : Bool) {event : Event handle} (notCall : event.isCall = false) :
    IsQuiet (emitIf wanted event : Action state handle Unit) := by
  cases wanted with
  | true => exact isQuiet_emit notCall
  | false => exact fun initial => ⟨rfl, rfl⟩

theorem isQuiet_replay (stream : Stream) (bytes : Option (List UInt8)) :
    IsQuiet (Shell.replay stream bytes : Action state handle Unit) := by
  match bytes with
  | none => exact fun initial => ⟨rfl, rfl⟩
  | some [] => exact fun initial => ⟨rfl, rfl⟩
  | some (first :: rest) => exact isQuiet_emit rfl

/-- Two actions that make no call are in step, whatever they write. -/
theorem inStep_of_isQuiet {left : Action leftState leftHandle Unit}
    {right : Action rightState rightHandle Unit} (leftQuiet : IsQuiet left)
    (rightQuiet : IsQuiet right) : InStep sameHandle (fun _ _ => True) left right := by
  intro leftInitial rightInitial _
  obtain ⟨leftReturned, leftCalls⟩ := leftQuiet leftInitial
  obtain ⟨rightReturned, rightCalls⟩ := rightQuiet rightInitial
  constructor
  · rw [SameCalls, leftCalls, rightCalls]
    exact .nil
  · rw [leftReturned, rightReturned]
    exact .returned trivial

theorem InStep.after_quiet {left : Action leftState leftHandle Unit}
    {right : Action rightState rightHandle Unit} (leftQuiet : IsQuiet left)
    (rightQuiet : IsQuiet right) {leftOnward : Action leftState leftHandle leftValue}
    {rightOnward : Action rightState rightHandle rightValue}
    (onward : InStep sameHandle agree leftOnward rightOnward) :
    InStep sameHandle agree (left >>= fun _ => leftOnward) (right >>= fun _ => rightOnward) :=
  (inStep_of_isQuiet leftQuiet rightQuiet).bind fun _ _ _ => onward

end Action

end CommandChain
