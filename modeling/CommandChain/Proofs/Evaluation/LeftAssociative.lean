import CommandChain.Proofs.Evaluation.Operand
import CommandChain.Proofs.Evaluation.ShortCircuit
import CommandChain.Shell.LeftAssociative

/-!
# Evaluation and the left-associative reading

Evaluation ends a chain at the first connective that decides against the rest. The left-associative
reading only skips the one command behind that connective, and may run later ones. Up to that point
the two do the same, so that what happens in an evaluation is the beginning of what happens in the
left-associative reading (`Shell.events_runElements_isPrefix`).

If all connectives are the same, the one that skips a command also skips all others: the code that
decided against the first decides against each (`Shell.foldlM_joinLeft_of_ends`). Then both readings
are equal.
-/

namespace CommandChain

open CommandChain.Action

variable {state handle : Type}

namespace Shell

variable (shell : Shell state handle)

/-! ## One link -/

theorem foldlM_joinLeft_cons_of_goesOn {code : Int} {link : AndOrList.Link}
    (goesOn : link.connective.endsAfter (isSuccessCode code) = false)
    (later : List AndOrList.Link) :
    (link :: later).foldlM shell.joinLeft code = shell.leftAssociative ⟨link.command, later⟩ := by
  rw [List.foldlM_cons]
  simp [joinLeft, goesOn, leftAssociative]

/-- Where a connective decides against a command, the same connective decides against all that
follow. -/
theorem foldlM_joinLeft_of_ends {code : Int} {connective : Connective} {later : List AndOrList.Link}
    (ends : connective.endsAfter (isSuccessCode code) = true)
    (same : ∀ link ∈ later, link.connective = connective) :
    (later.foldlM shell.joinLeft code : Action state handle Int) = pure code := by
  induction later with
  | nil => rfl
  | cons link rest inductionHypothesis =>
      obtain ⟨rfl, restSame⟩ := List.forall_mem_cons.1 same
      have skipped : (shell.joinLeft code link : Action state handle Int) = pure code := by
        rw [joinLeft, if_pos ends]
      rw [List.foldlM_cons, skipped, pure_bind, inductionHypothesis restSame]

theorem evaluate_link_of_ends {code : Int} {link : AndOrList.Link}
    (ends : link.connective.endsAfter (isSuccessCode code) = true)
    (later : List AndOrList.Link) :
    shell.evaluate (Progress.after (.ended code)) ((link :: later).flatMap AndOrList.Link.elements) =
      pure code :=
  shell.evaluate_of_endsAfter ends _

theorem evaluate_link_of_goesOn {code : Int} {link : AndOrList.Link}
    (goesOn : link.connective.endsAfter (isSuccessCode code) = false)
    (later : List AndOrList.Link) :
    shell.evaluate (Progress.after (.ended code)) ((link :: later).flatMap AndOrList.Link.elements) =
      shell.runElements (AndOrList.mk link.command later).elements :=
  shell.evaluate_of_not_endsAfter goesOn (List.cons_ne_nil _ _)

/-! ## Both readings -/

/-- What happens in an evaluation happens first in the left-associative reading. -/
theorem events_runElements_isPrefix (first : Command) (later : List AndOrList.Link)
    (initial : state) :
    (shell.runElements (AndOrList.mk first later).elements initial).events <+:
      (shell.leftAssociative ⟨first, later⟩ initial).events := by
  induction later generalizing first initial with
  | nil => exact List.prefix_rfl
  | cons link rest inductionHypothesis =>
      apply events_bind_isPrefix
      intro result _
      cases result with
      -- Without a status evaluation fails at the connective, and nothing more happens in it.
      | notStarted => exact List.nil_prefix
      | ended code =>
          cases decided : link.connective.endsAfter (isSuccessCode code) with
          | true =>
              rw [shell.evaluate_link_of_ends decided]
              exact List.nil_prefix
          | false =>
              rw [shell.evaluate_link_of_goesOn decided, CommandResult.code,
                shell.foldlM_joinLeft_cons_of_goesOn decided]
              exact inductionHypothesis link.command _

/-- With one and the same connective throughout, and if every process could be started, evaluation is
the left-associative reading. -/
theorem runElements_eq_leftAssociative {connective : Connective} (first : Command)
    (later : List AndOrList.Link) (same : ∀ link ∈ later, link.connective = connective)
    (initial : state)
    (noneRefused : ∀ command failure, Event.spawn command (.error failure) ∉
      (shell.runElements (AndOrList.mk first later).elements initial).events) :
    shell.runElements (AndOrList.mk first later).elements initial =
      shell.leftAssociative ⟨first, later⟩ initial := by
  induction later generalizing first initial with
  | nil => rfl
  | cons link rest inductionHypothesis =>
      obtain ⟨rfl, restSame⟩ := List.forall_mem_cons.1 same
      apply Execution.follow_congr
      intro result returned
      have wholeEvents :
          (shell.runElements (AndOrList.mk first (link :: rest)).elements initial).events =
            (shell.runCommand first initial).events ++
              (shell.evaluate (Progress.after result)
                ((link :: rest).flatMap AndOrList.Link.elements)
                (shell.runCommand first initial).final).events :=
        congrArg Execution.events (Execution.follow_of_returned returned _)
      rw [wholeEvents] at noneRefused
      cases result with
      | notStarted =>
          obtain ⟨noBuiltin, failure, refused⟩ := returned_notStarted_iff.1 returned
          have member := spawn_mem_events_of_refused noBuiltin refused
          exact absurd (List.mem_append_left _ member) (noneRefused first failure)
      | ended code =>
          show shell.evaluate _ ((link :: rest).flatMap AndOrList.Link.elements) _ =
            (link :: rest).foldlM shell.joinLeft code _
          cases decided : link.connective.endsAfter (isSuccessCode code) with
          | true =>
              rw [shell.evaluate_link_of_ends decided, shell.foldlM_joinLeft_of_ends decided same]
          | false =>
              rw [shell.evaluate_link_of_goesOn decided] at noneRefused ⊢
              rw [shell.foldlM_joinLeft_cons_of_goesOn decided]
              apply inductionHypothesis link.command restSame
              exact fun command failure member =>
                noneRefused command failure (List.mem_append_right _ member)

/-- Evaluation and the left-associative reading of commands that are joined by single connectives.
Whatever the statuses are, what happens in an evaluation happens first in the left-associative
reading; in particular the commands that it executes are a beginning of those that the other executes.
If all connectives are the same and every process could be started, the two do not differ: they
execute the same commands and end in the same way, with the same code. -/
theorem leftAssociative_extends_runChain :
    (∀ (list : AndOrList) (initial : state),
        (shell.runChain list.chain initial).events <+:
            (shell.leftAssociative list initial).events ∧
          executedCommands (shell.runChain list.chain initial).events <+:
            executedCommands (shell.leftAssociative list initial).events) ∧
      (∀ (list : AndOrList) (connective : Connective) (initial : state),
        list.IsJoinedBy connective →
        (∀ command failure, Event.spawn command (.error failure) ∉
          (shell.runChain list.chain initial).events) →
        shell.runChain list.chain initial = shell.leftAssociative list initial) := by
  constructor
  · intro list initial
    have isPrefix := shell.events_runElements_isPrefix list.first list.later initial
    exact ⟨isPrefix, executedCommands_isPrefix isPrefix⟩
  · intro list connective initial joined noneRefused
    exact shell.runElements_eq_leftAssociative list.first list.later joined initial noneRefused

/-- A shell without builtins whose commands end with the given codes, in the order in which they are
executed. -/
def shellHandingOut (codes : List Int) : Shell Nat Nat where
  processes :=
    { spawn := fun _ _ executed => (.ok executed, executed + 1)
      wait := fun process executed => (some { code := codes.getD process 0 }, executed) }
  builtins := fun _ => none

/-- In `a && b && c` the failure of `b` skips `c` in both readings. -/
theorem leftAssociative_extends_runChain_of_conjunctions :
    let list : AndOrList :=
      ⟨⟨[.char 'a'], [], by decide⟩,
        [⟨.and, ⟨[.char 'b'], [], by decide⟩⟩, ⟨.and, ⟨[.char 'c'], [], by decide⟩⟩]⟩
    list.IsJoinedBy .and ∧
      (∀ command failure, Event.spawn command (.error failure) ∉
        ((shellHandingOut [0, 1]).runChain list.chain 0).events) ∧
      (shellHandingOut [0, 1]).runChain list.chain 0 =
        (shellHandingOut [0, 1]).leftAssociative list 0 := by
  intro list
  have joined : list.IsJoinedBy .and := by simp [AndOrList.IsJoinedBy, list]
  have noneRefused : ∀ command failure, Event.spawn command (.error failure) ∉
      ((shellHandingOut [0, 1]).runChain list.chain 0).events := by
    have events : ((shellHandingOut [0, 1]).runChain list.chain 0).events =
        [.spawn ⟨[.char 'a'], [], by decide⟩ (.ok 0), .wait 0 (some { code := 0 }),
          .spawn ⟨[.char 'b'], [], by decide⟩ (.ok 1), .wait 1 (some { code := 1 })] := rfl
    simp [events]
  exact
    ⟨joined, noneRefused,
      (leftAssociative_extends_runChain (shellHandingOut [0, 1])).2 list .and 0 joined noneRefused⟩

-- With different connectives the two differ: in `a && b || c` the failure of `a` ends evaluation,
-- while the left-associative reading skips `b` and runs `c`.
example :
    let first : Command := ⟨[.char 'a'], [], by decide⟩
    let last : Command := ⟨[.char 'c'], [], by decide⟩
    let list : AndOrList := ⟨first, [⟨.and, ⟨[.char 'b'], [], by decide⟩⟩, ⟨.or, last⟩]⟩
    executedCommands ((shellHandingOut [1]).runChain list.chain 0).events = [first] ∧
      executedCommands ((shellHandingOut [1]).leftAssociative list 0).events = [first, last] :=
  ⟨rfl, rfl⟩

end Shell

end CommandChain
