import CommandChain.Proofs.Exit
import Mathlib.Data.List.Forall2

/-!
# Two logs side by side

Two runs meet in their calls. `AnsweredAlike` compares what two logs say of the outside world: the
starts with the same number both fail or both succeed, the waits and the builtins with the same
number end in the same way, and two codes are both zero or both not. It says nothing of the calls
themselves. `SameCalls` says that the same calls were made, one after another, with such answers. The
two shells may use different handles, so a relation of handles is given.
-/

namespace CommandChain

open CommandChain.Action

variable {handle leftHandle rightHandle value leftValue rightValue : Type}

/-! ## Answers that agree -/

/-- Two codes that both report a success, or both do not. -/
def SameSuccess (left right : Int) : Prop :=
  left = 0 ↔ right = 0

instance (left right : Int) : Decidable (SameSuccess left right) :=
  inferInstanceAs (Decidable (left = 0 ↔ right = 0))

theorem SameSuccess.refl (code : Int) : SameSuccess code code :=
  Iff.rfl

theorem SameSuccess.isSuccessCode_eq {left right : Int} (same : SameSuccess left right) :
    isSuccessCode left = isSuccessCode right := by
  unfold isSuccessCode
  rw [Bool.eq_iff_iff, beq_iff_eq, beq_iff_eq]
  exact same

/-- Two starts that both fail, for whatever reason, or both succeed. -/
inductive SameStart (sameHandle : leftHandle → rightHandle → Prop) :
    Except SpawnFailure leftHandle → Except SpawnFailure rightHandle → Prop
  | refused (left right : SpawnFailure) : SameStart sameHandle (.error left) (.error right)
  | started {left : leftHandle} {right : rightHandle} (same : sameHandle left right) :
      SameStart sameHandle (.ok left) (.ok right)

/-- Two waits that are both interrupted, or both return. What was captured may differ. -/
inductive SameWait : Option ExitStatus → Option ExitStatus → Prop
  | interrupted : SameWait none none
  | ended {left right : ExitStatus} (same : SameSuccess left.code right.code) :
      SameWait (some left) (some right)

/-- Two builtins that both return, are both interrupted, or both answer as `exit` does. -/
inductive SameReply : Command × BuiltinReply → Command × BuiltinReply → Prop
  | returned {left right : Command × BuiltinReply} {leftCode rightCode : Int}
      (leftReturned : left.2.ending = .returned leftCode)
      (rightReturned : right.2.ending = .returned rightCode)
      (same : SameSuccess leftCode rightCode) : SameReply left right
  | interrupted {left right : Command × BuiltinReply} (leftInterrupted : left.2.ending = .interrupted)
      (rightInterrupted : right.2.ending = .interrupted) : SameReply left right
  | exit {left right : Command × BuiltinReply} (leftExit : left.2 = exitReply left.1.arguments)
      (rightExit : right.2 = exitReply right.1.arguments) : SameReply left right

/-- Two endings of a builtin that are the same but for the code that is returned. -/
inductive SameEnding : BuiltinEnding → BuiltinEnding → Prop
  | returned {left right : Int} (same : SameSuccess left right) :
      SameEnding (.returned left) (.returned right)
  | exited (code : Int) : SameEnding (.exited code) (.exited code)
  | interrupted : SameEnding .interrupted .interrupted

theorem SameEnding.refl (ending : BuiltinEnding) : SameEnding ending ending := by
  cases ending with
  | returned code => exact .returned (SameSuccess.refl code)
  | exited code => exact .exited code
  | interrupted => exact .interrupted

theorem SameEnding.exitCode?_eq {left right : BuiltinEnding} (same : SameEnding left right) :
    left.exitCode? = right.exitCode? := by
  cases same with
  | returned same => rfl
  | exited code => rfl
  | interrupted => rfl

/-- Given the same arguments, `exit` answers the same. -/
theorem SameReply.sameEnding {command : Command} {left right : BuiltinReply}
    (same : SameReply (command, left) (command, right)) : SameEnding left.ending right.ending := by
  cases same with
  | returned leftReturned rightReturned same =>
      rw [leftReturned, rightReturned]
      exact .returned same
  | interrupted leftInterrupted rightInterrupted =>
      rw [leftInterrupted, rightInterrupted]
      exact .interrupted
  | exit leftExit rightExit =>
      have sameReply : left = right := leftExit.trans rightExit.symm
      rw [sameReply]
      exact SameEnding.refl right.ending

/-- Two outcomes of one kind, with related results, or with the same error or the same code. -/
inductive SameOutcome (agree : leftValue → rightValue → Prop) :
    Outcome leftValue → Outcome rightValue → Prop
  | returned {left : leftValue} {right : rightValue} (same : agree left right) :
      SameOutcome agree (.returned left) (.returned right)
  | failed (error : ShellError) : SameOutcome agree (.failed error) (.failed error)
  | exited (code : Int) : SameOutcome agree (.exited code) (.exited code)
  | interrupted : SameOutcome agree .interrupted .interrupted

/-! ## Entries with the same number -/

/-- The entries with the same number in two lists are related, as far as both lists have one. -/
def RelatedByNumber {left right : Type} (related : left → right → Prop) (leftEntries : List left)
    (rightEntries : List right) : Prop :=
  ∀ (number : Nat) (leftEntry : left) (rightEntry : right),
    leftEntries[number]? = some leftEntry → rightEntries[number]? = some rightEntry →
      related leftEntry rightEntry

namespace RelatedByNumber

variable {left right : Type} {related : left → right → Prop}
  {leftEntries leftMore : List left} {rightEntries rightMore : List right}

theorem of_forall₂ (all : List.Forall₂ related leftEntries rightEntries) :
    RelatedByNumber related leftEntries rightEntries := by
  intro number leftEntry rightEntry leftFound rightFound
  obtain ⟨leftBound, rfl⟩ := List.getElem?_eq_some_iff.1 leftFound
  obtain ⟨rightBound, rfl⟩ := List.getElem?_eq_some_iff.1 rightFound
  exact all.get leftBound rightBound

theorem before
    (ofAll : RelatedByNumber related (leftEntries ++ leftMore) (rightEntries ++ rightMore)) :
    RelatedByNumber related leftEntries rightEntries := by
  intro number leftEntry rightEntry leftFound rightFound
  obtain ⟨leftBound, _⟩ := List.getElem?_eq_some_iff.1 leftFound
  obtain ⟨rightBound, _⟩ := List.getElem?_eq_some_iff.1 rightFound
  apply ofAll number leftEntry rightEntry
  · rw [List.getElem?_append_left leftBound]
    exact leftFound
  · rw [List.getElem?_append_left rightBound]
    exact rightFound

/-- Behind equally many entries the numbers are shifted by the same amount. -/
theorem behind (sameLength : leftEntries.length = rightEntries.length)
    (ofAll : RelatedByNumber related (leftEntries ++ leftMore) (rightEntries ++ rightMore)) :
    RelatedByNumber related leftMore rightMore := by
  intro number leftEntry rightEntry leftFound rightFound
  apply ofAll (leftEntries.length + number) leftEntry rightEntry
  · rw [List.getElem?_append_right (Nat.le_add_right _ _), Nat.add_sub_cancel_left]
    exact leftFound
  · rw [sameLength, List.getElem?_append_right (Nat.le_add_right _ _), Nat.add_sub_cancel_left]
    exact rightFound

end RelatedByNumber

/-! ## Calls of a log -/

def Event.startAnswer? : Event handle → Option (Except SpawnFailure handle)
  | .spawn _ answer => some answer
  | _ => none

def Event.waitAnswer? : Event handle → Option (Option ExitStatus)
  | .wait _ answer => some answer
  | _ => none

/-- A builtin's command and its reply. -/
def Event.builtinReply? : Event handle → Option (Command × BuiltinReply)
  | .builtin command reply => some (command, reply)
  | _ => none

/-- The calls of a log. -/
def calls (log : List (Event handle)) : List (Event handle) :=
  log.filter Event.isCall

theorem calls_append (log more : List (Event handle)) : calls (log ++ more) = calls log ++ calls more :=
  List.filter_append log more

/-- A field that no event but a call has. -/
def IsOfCalls (field : Event handle → Option value) : Prop :=
  ∀ event, event.isCall = false → field event = none

theorem isOfCalls_startAnswer : IsOfCalls (@Event.startAnswer? handle) := by
  intro event notCall
  cases event with
  | spawn command answer => cases notCall
  | _ => rfl

theorem isOfCalls_waitAnswer : IsOfCalls (@Event.waitAnswer? handle) := by
  intro event notCall
  cases event with
  | wait process answer => cases notCall
  | _ => rfl

theorem isOfCalls_builtinReply : IsOfCalls (@Event.builtinReply? handle) := by
  intro event notCall
  cases event with
  | builtin command reply => cases notCall
  | _ => rfl

theorem isOfCalls_exitCode : IsOfCalls (@Event.exitCode? handle) := by
  intro event notCall
  cases event with
  | builtin command reply => cases notCall
  | _ => rfl

theorem IsOfCalls.filterMap_calls {field : Event handle → Option value} (ofCalls : IsOfCalls field)
    (log : List (Event handle)) : (calls log).filterMap field = log.filterMap field := by
  induction log with
  | nil => rfl
  | cons event rest inductionHypothesis =>
      cases isCall : event.isCall with
      | true =>
          rw [calls, List.filter_cons_of_pos isCall, List.filterMap_cons, List.filterMap_cons]
          rw [← calls, inductionHypothesis]
      | false =>
          rw [calls, List.filter_cons_of_neg (by simp [isCall]), List.filterMap_cons,
            ofCalls event isCall]
          exact inductionHypothesis

/-! ## The same calls -/

/-- Two calls with the same arguments whose answers agree. -/
inductive SameCall (sameHandle : leftHandle → rightHandle → Prop) :
    Event leftHandle → Event rightHandle → Prop
  | spawn {command : Command} {left : Except SpawnFailure leftHandle}
      {right : Except SpawnFailure rightHandle} (answers : SameStart sameHandle left right) :
      SameCall sameHandle (.spawn command left) (.spawn command right)
  | wait {left : leftHandle} {right : rightHandle} {leftAnswer rightAnswer : Option ExitStatus}
      (processes : sameHandle left right) (answers : SameWait leftAnswer rightAnswer) :
      SameCall sameHandle (.wait left leftAnswer) (.wait right rightAnswer)
  | builtin {command : Command} {left right : BuiltinReply}
      (endings : SameEnding left.ending right.ending) :
      SameCall sameHandle (.builtin command left) (.builtin command right)

/-- Two logs hold the same calls in the same order. -/
def SameCalls (sameHandle : leftHandle → rightHandle → Prop) (left : List (Event leftHandle))
    (right : List (Event rightHandle)) : Prop :=
  List.Forall₂ (SameCall sameHandle) (calls left) (calls right)

variable {sameHandle : leftHandle → rightHandle → Prop}

namespace SameCalls

variable {left leftMore : List (Event leftHandle)} {right rightMore : List (Event rightHandle)}

theorem append (first : SameCalls sameHandle left right)
    (second : SameCalls sameHandle leftMore rightMore) :
    SameCalls sameHandle (left ++ leftMore) (right ++ rightMore) := by
  unfold SameCalls
  rw [calls_append, calls_append]
  exact List.rel_append first second

theorem filterMap (same : SameCalls sameHandle left right)
    {leftField : Event leftHandle → Option leftValue}
    {rightField : Event rightHandle → Option rightValue} (leftOfCalls : IsOfCalls leftField)
    (rightOfCalls : IsOfCalls rightField) {related : leftValue → rightValue → Prop}
    (ofSameCall : ∀ leftEvent rightEvent, SameCall sameHandle leftEvent rightEvent →
      Option.Rel related (leftField leftEvent) (rightField rightEvent)) :
    List.Forall₂ related (left.filterMap leftField) (right.filterMap rightField) := by
  rw [← leftOfCalls.filterMap_calls, ← rightOfCalls.filterMap_calls]
  exact List.rel_filterMap (fun {leftEvent rightEvent} => ofSameCall leftEvent rightEvent) same

theorem starts (same : SameCalls sameHandle left right) :
    List.Forall₂ (SameStart sameHandle) (left.filterMap Event.startAnswer?)
      (right.filterMap Event.startAnswer?) := by
  apply same.filterMap isOfCalls_startAnswer isOfCalls_startAnswer
  intro leftEvent rightEvent sameCall
  cases sameCall with
  | spawn answers => exact .some answers
  | wait processes answers => exact .none
  | builtin endings => exact .none

theorem waits (same : SameCalls sameHandle left right) :
    List.Forall₂ SameWait (left.filterMap Event.waitAnswer?)
      (right.filterMap Event.waitAnswer?) := by
  apply same.filterMap isOfCalls_waitAnswer isOfCalls_waitAnswer
  intro leftEvent rightEvent sameCall
  cases sameCall with
  | spawn answers => exact .none
  | wait processes answers => exact .some answers
  | builtin endings => exact .none

theorem builtins (same : SameCalls sameHandle left right) :
    List.Forall₂ (fun leftReply rightReply => SameEnding leftReply.2.ending rightReply.2.ending)
      (left.filterMap Event.builtinReply?) (right.filterMap Event.builtinReply?) := by
  apply same.filterMap isOfCalls_builtinReply isOfCalls_builtinReply
  intro leftEvent rightEvent sameCall
  cases sameCall with
  | spawn answers => exact .none
  | wait processes answers => exact .none
  | builtin endings => exact .some endings

/-- The same calls exit with the same codes. -/
theorem exitCodes_eq (same : SameCalls sameHandle left right) : exitCodes left = exitCodes right := by
  rw [← List.forall₂_eq_eq_eq]
  apply same.filterMap isOfCalls_exitCode isOfCalls_exitCode
  intro leftEvent rightEvent sameCall
  cases sameCall with
  | spawn answers => exact .none
  | wait processes answers => exact .none
  | @builtin command leftReply rightReply endings =>
      show Option.Rel Eq leftReply.ending.exitCode? rightReply.ending.exitCode?
      rw [endings.exitCode?_eq]
      cases rightReply.ending.exitCode? with
      | none => exact .none
      | some code => exact .some rfl

end SameCalls

/-! ## Logs that are answered alike -/

/-- The starts, the waits and the builtins with the same number in two logs are answered alike. -/
structure AnsweredAlike (sameHandle : leftHandle → rightHandle → Prop)
    (left : List (Event leftHandle)) (right : List (Event rightHandle)) : Prop where
  starts :
    RelatedByNumber (SameStart sameHandle) (left.filterMap Event.startAnswer?)
      (right.filterMap Event.startAnswer?)
  waits :
    RelatedByNumber SameWait (left.filterMap Event.waitAnswer?) (right.filterMap Event.waitAnswer?)
  builtins :
    RelatedByNumber SameReply (left.filterMap Event.builtinReply?)
      (right.filterMap Event.builtinReply?)

namespace AnsweredAlike

variable {left leftMore : List (Event leftHandle)} {right rightMore : List (Event rightHandle)}

theorem before (alike : AnsweredAlike sameHandle (left ++ leftMore) (right ++ rightMore)) :
    AnsweredAlike sameHandle left right := by
  obtain ⟨starts, waits, builtins⟩ := alike
  simp only [List.filterMap_append] at starts waits builtins
  exact ⟨starts.before, waits.before, builtins.before⟩

/-- Behind the same calls, the numbers of the later ones are shifted by the same amount. -/
theorem behind (same : SameCalls sameHandle left right)
    (alike : AnsweredAlike sameHandle (left ++ leftMore) (right ++ rightMore)) :
    AnsweredAlike sameHandle leftMore rightMore := by
  obtain ⟨starts, waits, builtins⟩ := alike
  simp only [List.filterMap_append] at starts waits builtins
  exact
    ⟨starts.behind same.starts.length_eq, waits.behind same.waits.length_eq,
      builtins.behind same.builtins.length_eq⟩

end AnsweredAlike

end CommandChain
