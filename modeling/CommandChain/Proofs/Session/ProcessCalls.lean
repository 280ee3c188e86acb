import CommandChain.Process.Playbook
import CommandChain.Proofs.Session.ChainRuns
import Mathlib.Data.List.Nodup

/-!
# Calls of the process layer

On one shell, whatever lines, chains and read loops are run and however each of them ends, processes
are started and awaited one at a time. The invariant is `IsPaired`: a started process is awaited by
the very next event. It holds of the log of every command, so of the log of every session, and a
paired log can be cut anywhere but between a start and its wait (`IsPaired.cut`).

Which commands reach the process layer is another law of the same kind (`SpawnsAmong`): those that
name no builtin, and only while a chain that holds them is run.
-/

namespace CommandChain

open CommandChain.Action

variable {state handle : Type}

/-! ## Handles in a log -/

/-- The process that an event starts. -/
def Event.startedProcess? : Event handle → Option handle
  | .spawn _ (.ok process) => some process
  | _ => none

/-- The process that an event awaits. -/
def Event.awaitedProcess? : Event handle → Option handle
  | .wait process _ => some process
  | _ => none

/-- The processes that were started, in order. -/
def startedProcesses (log : List (Event handle)) : List handle :=
  log.filterMap Event.startedProcess?

/-- The processes that were awaited, in order. A process is listed as often as it was awaited. -/
def awaitedProcesses (log : List (Event handle)) : List handle :=
  log.filterMap Event.awaitedProcess?

/-! ## Paired logs -/

/-- A log in which every process that is started is awaited by the next event, and none is awaited
at any other time. -/
inductive IsPaired : List (Event handle) → Prop
  | nil : IsPaired []
  | process (command : Command) (process : handle) (answer : Option ExitStatus)
      {log : List (Event handle)} :
      IsPaired log → IsPaired (.spawn command (.ok process) :: .wait process answer :: log)
  | other {event : Event handle} {log : List (Event handle)} :
      event.startedProcess? = none → event.awaitedProcess? = none → IsPaired log →
      IsPaired (event :: log)

/-- Between the two parts of a log, a process was started and is not yet awaited. -/
def IsPending (before after : List (Event handle)) : Prop :=
  ∃ earlier command process answer later,
    before = earlier ++ [.spawn command (.ok process)] ∧ after = .wait process answer :: later

theorem IsPending.cons {before after : List (Event handle)} (pending : IsPending before after)
    (event : Event handle) : IsPending (event :: before) after := by
  obtain ⟨earlier, command, process, answer, later, rfl, rfl⟩ := pending
  exact ⟨event :: earlier, command, process, answer, later, rfl, rfl⟩

namespace IsPaired

variable {log more before after : List (Event handle)}

theorem append (first : IsPaired log) (second : IsPaired more) : IsPaired (log ++ more) := by
  induction first with
  | nil => exact second
  | process command process answer _ inductionHypothesis =>
      exact .process command process answer inductionHypothesis
  | other notStart notWait _ inductionHypothesis =>
      exact .other notStart notWait inductionHypothesis

theorem isAdditive : IsAdditive (@IsPaired handle) :=
  ⟨nil, append⟩

theorem awaitedProcesses_eq (paired : IsPaired log) :
    awaitedProcesses log = startedProcesses log := by
  induction paired with
  | nil => rfl
  | process command process answer _ inductionHypothesis =>
      exact congrArg (process :: ·) inductionHypothesis
  | other notStart notWait _ inductionHypothesis =>
      rw [awaitedProcesses, startedProcesses, List.filterMap_cons_none notWait,
        List.filterMap_cons_none notStart]
      exact inductionHypothesis

/-- A paired log that is cut in two leaves two paired logs, unless the cut is between a start and
its wait. -/
theorem cut (paired : IsPaired (before ++ after)) :
    (IsPaired before ∧ IsPaired after) ∨ IsPending before after := by
  -- The induction is on how the whole log is paired; the place of the cut moves along with it.
  generalize whole : before ++ after = log at paired
  induction paired generalizing before with
  | nil =>
      obtain ⟨rfl, rfl⟩ := List.append_eq_nil_iff.1 whole
      exact .inl ⟨.nil, .nil⟩
  | process command process answer laterPaired inductionHypothesis =>
      cases before with
      | nil =>
          cases whole
          exact .inl ⟨.nil, .process command process answer laterPaired⟩
      | cons first tail =>
          cases tail with
          | nil =>
              -- Only here does the cut fall between a start and its wait.
              cases whole
              exact .inr ⟨[], command, process, answer, _, rfl, rfl⟩
          | cons second rest =>
              obtain ⟨rfl, tailWhole⟩ := List.cons.inj whole
              obtain ⟨rfl, restWhole⟩ := List.cons.inj tailWhole
              rcases inductionHypothesis restWhole with ⟨restPaired, afterPaired⟩ | pending
              · exact .inl ⟨.process command process answer restPaired, afterPaired⟩
              · exact .inr ((pending.cons _).cons _)
  | other notStart notWait laterPaired inductionHypothesis =>
      cases before with
      | nil =>
          cases whole
          exact .inl ⟨.nil, .other notStart notWait laterPaired⟩
      | cons first rest =>
          obtain ⟨rfl, restWhole⟩ := List.cons.inj whole
          rcases inductionHypothesis restWhole with ⟨restPaired, afterPaired⟩ | pending
          · exact .inl ⟨.other notStart notWait restPaired, afterPaired⟩
          · exact .inr (pending.cons _)

/-- A log cannot be cut behind a start, so a process that was started is awaited next. -/
theorem cut_spawn {command : Command} {process : handle}
    (paired : IsPaired (before ++ .spawn command (.ok process) :: after)) :
    ∃ answer later,
      after = .wait process answer :: later ∧ IsPaired before ∧ IsPaired later := by
  rcases paired.cut with ⟨beforePaired, afterPaired⟩ | pending
  · cases afterPaired with
    | process _ _ answer laterPaired => exact ⟨answer, _, rfl, beforePaired, laterPaired⟩
    | other notStart _ _ => cases notStart
  · obtain ⟨_, _, _, _, _, _, impossible⟩ := pending
    cases impossible

theorem cut_wait {process : handle} {answer : Option ExitStatus}
    (paired : IsPaired (before ++ .wait process answer :: after)) :
    ∃ earlier command, before = earlier ++ [.spawn command (.ok process)] := by
  rcases paired.cut with ⟨_, afterPaired⟩ | pending
  · cases afterPaired with
    | other _ notWait _ => cases notWait
  · obtain ⟨earlier, command, _, _, _, started, awaited⟩ := pending
    cases awaited
    exact ⟨earlier, command, started⟩

theorem cut_refused {command : Command} {failure : SpawnFailure}
    (paired : IsPaired (before ++ .spawn command (.error failure) :: after)) : IsPaired after := by
  rcases paired.cut with ⟨_, afterPaired⟩ | pending
  · cases afterPaired with
    | other _ _ laterPaired => exact laterPaired
  · obtain ⟨_, _, _, _, _, _, impossible⟩ := pending
    cases impossible

end IsPaired

/-! ## One process at a time -/

/-- A log in which processes are started and awaited strictly one at a time. -/
structure IsSequential (log : List (Event handle)) : Prop where
  /-- nothing happens between the start of a process and its wait, and it is awaited only there -/
  awaitedNext :
    ∀ {before after command process}, log = before ++ .spawn command (.ok process) :: after →
      ∃ answer later, after = .wait process answer :: later ∧
        process ∉ awaitedProcesses before ∧ process ∉ awaitedProcesses later
  /-- a process is awaited only directly after its own start -/
  startedBefore :
    ∀ {before after process answer}, log = before ++ .wait process answer :: after →
      ∃ earlier command, before = earlier ++ [.spawn command (.ok process)]
  /-- after a refused start, no processes are awaited but those that are started later -/
  refusedUnawaited :
    ∀ {before after command failure}, log = before ++ .spawn command (.error failure) :: after →
      awaitedProcesses after = startedProcesses after
  /-- processes are awaited in the order in which they were started -/
  inOrder : awaitedProcesses log = startedProcesses log
  /-- no process is awaited twice -/
  awaitedOnce : (awaitedProcesses log).Nodup
  /-- if no wait is interrupted, the status of a process is known before anything else happens -/
  statusKnown :
    (∀ process, .wait process none ∉ log) →
      ∀ {before after command process}, log = before ++ .spawn command (.ok process) :: after →
        ∃ status later, after = .wait process (some status) :: later

namespace IsPaired

variable {log before after : List (Event handle)}

/-- Where no process is started twice, the one that is started here is started and awaited at no
other place. -/
theorem notAwaited_of_distinct {command : Command} {process : handle} {answer : Option ExitStatus}
    (beforePaired : IsPaired before) (afterPaired : IsPaired after)
    (distinct :
      (startedProcesses
        (before ++ .spawn command (.ok process) :: .wait process answer :: after)).Nodup) :
    process ∉ awaitedProcesses before ∧ process ∉ awaitedProcesses after := by
  rw [beforePaired.awaitedProcesses_eq, afterPaired.awaitedProcesses_eq]
  have started :
      startedProcesses (before ++ .spawn command (.ok process) :: .wait process answer :: after) =
        startedProcesses before ++ process :: startedProcesses after :=
    List.filterMap_append
  rw [started, List.nodup_middle, List.nodup_cons, List.mem_append] at distinct
  exact not_or.1 distinct.1

theorem isSequential (paired : IsPaired log) (distinct : (startedProcesses log).Nodup) :
    IsSequential log where
  awaitedNext := by
    rintro before after command process rfl
    obtain ⟨answer, later, rfl, beforePaired, laterPaired⟩ := paired.cut_spawn
    exact ⟨answer, later, rfl, notAwaited_of_distinct beforePaired laterPaired distinct⟩
  startedBefore := by
    rintro before after process answer rfl
    exact paired.cut_wait
  refusedUnawaited := by
    rintro before after command failure rfl
    exact paired.cut_refused.awaitedProcesses_eq
  inOrder := paired.awaitedProcesses_eq
  awaitedOnce := by
    rw [paired.awaitedProcesses_eq]
    exact distinct
  statusKnown := by
    rintro uninterrupted before after command process rfl
    obtain ⟨answer, later, rfl, _, _⟩ := paired.cut_spawn
    cases answer with
    | none => exact absurd (by simp) (uninterrupted process)
    | some status => exact ⟨status, later, rfl⟩

end IsPaired

/-! ## Commands in a log -/

/-- The process layer was asked to start none but the given commands. -/
def SpawnsAmong (allowed : Command → Prop) (log : List (Event handle)) : Prop :=
  ∀ command answer, .spawn command answer ∈ log → allowed command

namespace SpawnsAmong

variable {allowed permitted : Command → Prop} {log : List (Event handle)}

theorem isAdditive : IsAdditive (@SpawnsAmong handle allowed) where
  nil := by
    intro command answer member
    cases member
  append := by
    intro first second firstAllowed secondAllowed command answer member
    rcases List.mem_append.1 member with earlier | later
    · exact firstAllowed command answer earlier
    · exact secondAllowed command answer later

theorem mono (among : SpawnsAmong allowed log)
    (weaker : ∀ command, allowed command → permitted command) : SpawnsAmong permitted log :=
  fun command answer member => weaker command (among command answer member)

end SpawnsAmong

theorem isPaired_of_notCall {event : Event handle} (notCall : event.isCall = false) :
    IsPaired [event] := by
  cases event with
  | spawn command answer => cases notCall
  | wait process answer => cases notCall
  | _ => exact .other rfl rfl .nil

theorem spawnsAmong_of_notCall {allowed : Command → Prop} {event : Event handle}
    (notCall : event.isCall = false) : SpawnsAmong allowed [event] := by
  intro command answer member
  rw [← List.mem_singleton.1 member] at notCall
  cases notCall

namespace Shell

variable (shell : Shell state handle)

/-! ## One command -/

theorem logs_isPaired_runCommand (command : Command) :
    Logs IsPaired (shell.runCommand command) := by
  refine logs_runCommand IsPaired.isAdditive
    (fun _ notice => isPaired_of_notCall (Event.notCall_of_isNotice notice)) ?_ ?_ ?_
  · intro reply _
    exact .other rfl rfl .nil
  · intro failure _
    exact .other rfl rfl .nil
  · intro process answer _
    exact .process command process answer .nil

/-- A command starts no other command than itself, and none at all if it names a builtin. -/
theorem logs_spawnsAmong_runCommand (command : Command) :
    Logs
      (SpawnsAmong fun spawned => spawned = command ∧ shell.builtins spawned.binary = none)
      (shell.runCommand command) := by
  refine logs_runCommand SpawnsAmong.isAdditive
    (fun _ notice => spawnsAmong_of_notCall (Event.notCall_of_isNotice notice)) ?_ ?_ ?_
  · intro reply _ spawned answer member
    cases List.mem_singleton.1 member
  · intro failure noBuiltin spawned answer member
    cases List.mem_singleton.1 member
    exact ⟨rfl, noBuiltin⟩
  · intro process status noBuiltin spawned answer member
    rcases List.mem_pair.1 member with same | isWait
    · cases same
      exact ⟨rfl, noBuiltin⟩
    · cases isWait

/-! ## One chain -/

/-- Elements start no other commands than those among them. -/
theorem logs_spawnsAmong_evaluate :
    ∀ (elements : List Element) (progress : Progress),
      Logs (SpawnsAmong fun spawned => .command spawned ∈ elements)
        (shell.evaluate progress elements)
  | [], progress => logs_pure SpawnsAmong.isAdditive progress.code
  | .command command :: rest, _ => by
      refine Logs.bind SpawnsAmong.isAdditive ?_ ?_
      · intro initial
        refine (shell.logs_spawnsAmong_runCommand command initial).mono ?_
        rintro spawned ⟨rfl, _⟩
        exact List.mem_cons_self
      · intro result initial
        refine (logs_spawnsAmong_evaluate rest (Progress.after result) initial).mono ?_
        intro spawned member
        exact List.mem_cons_of_mem _ member
  | .operator .sequence :: _, _ => logs_finish SpawnsAmong.isAdditive _
  | .operator (.connect connective) :: rest, progress => by
      unfold evaluate
      split
      · exact logs_finish SpawnsAmong.isAdditive _
      · split
        · exact logs_pure SpawnsAmong.isAdditive progress.code
        · intro initial
          refine (logs_spawnsAmong_evaluate rest progress.taken initial).mono ?_
          intro spawned member
          exact List.mem_cons_of_mem _ member

/-! ## Sessions -/

theorem isPaired_sessionLog (steps : List Step) (initial : state) :
    IsPaired (shell.sessionLog steps initial) :=
  law_sessionLog IsPaired.isAdditive shell.logs_isPaired_runCommand
    (fun _ => isPaired_of_notCall) steps initial

theorem spawnsAmong_sessionLog (steps : List Step) (initial : state) :
    SpawnsAmong (fun spawned => shell.builtins spawned.binary = none)
      (shell.sessionLog steps initial) := by
  refine law_sessionLog SpawnsAmong.isAdditive ?_ ?_ steps initial
  · intro command initial
    refine (shell.logs_spawnsAmong_runCommand command initial).mono ?_
    intro spawned allowed
    exact allowed.2
  · exact fun _ => spawnsAmong_of_notCall

/-- The protocol of the process layer. If it never returns a handle twice, then in every session
processes are started and awaited one at a time, no command that names a builtin is started, every
step calls the layer only while it runs its chains one after another, and a chain starts no other
commands than its own. -/
theorem calls_obey_protocol (steps : List Step) (initial : state)
    (distinct : (startedProcesses (shell.sessionLog steps initial)).Nodup) :
    IsSequential (shell.sessionLog steps initial) ∧
      SpawnsAmong (fun spawned => shell.builtins spawned.binary = none)
        (shell.sessionLog steps initial) ∧
      List.Forall₂ (fun step execution => RunsChains shell step.chains execution.events)
        steps (shell.runSession steps initial) ∧
      ∀ (elements : List Element) (start : state),
        SpawnsAmong (fun spawned => .command spawned ∈ elements)
          (shell.runElements elements start).events := by
  refine ⟨?_, ?_, ?_, ?_⟩
  · exact (shell.isPaired_sessionLog steps initial).isSequential distinct
  · exact shell.spawnsAmong_sessionLog steps initial
  · exact shell.forall₂_runSession shell.runsChains_perform steps initial
  · exact fun elements start => shell.logs_spawnsAmong_evaluate elements Progress.start start

/-- A shell that cannot start `a`, is interrupted while it awaits `b`, and runs anything else. -/
def troubledShell : Shell PlaybookState PlaybookProcess where
  processes := Playbook.processLayer
    { listed := [([.char 'a'], [.failing []]), ([.char 'b'], [.interrupted])] }

/-- A line with a refused start, a chain whose wait is interrupted, and elements that end with an
operator that no chain may hold. -/
def troubledSteps : List Step :=
  [.line [.char 'a', .char ';', .char 'c'],
    .chain [.command ⟨[.char 'b'], [], by decide⟩],
    .elements [.command ⟨[.char 'd'], [], by decide⟩, .operator .sequence]]

theorem calls_obey_protocol_of_troubled :
    (startedProcesses (troubledShell.sessionLog troubledSteps {})).map PlaybookProcess.number =
        [0, 1, 2] ∧
      IsSequential (troubledShell.sessionLog troubledSteps {}) := by
  have distinct : (startedProcesses (troubledShell.sessionLog troubledSteps {})).Nodup := by
    decide
  exact ⟨by decide, (calls_obey_protocol troubledShell troubledSteps {} distinct).1⟩

end Shell

end CommandChain
